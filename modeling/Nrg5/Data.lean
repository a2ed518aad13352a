import Nrg5.Handlers

/-!
# Sending and receiving application data

The calls of the application, with the same text in both libraries.  A call that
does not find the node connected, or the queue filled, waits on a condition
variable and tests the condition again when it wakes up; here it halts with that
reason, and a call that goes on is one that finds the condition.

The sum of the header size and the data size is stored in the 14-bit length field
before it is compared with the MTU.
-/

namespace Nrg5

open ByteMemory LockProg

/-- `__make_data_pkt`.  The copy takes the stored length less the header size as an
unsigned number, so a stored length below the header size copies without end. -/
def makeDataPkt (junk : Memory) (layer : NsoLayer) (buf : List UInt8) (dst : DeviceId)
    (proto : UInt16) : Option Packet :=
  let header := ((((allocPacket junk layer.mtu).setSrcDevid layer.devId).setDstDevid
    dst).setProto proto).setVer 0
  let summed := header.setLength (nsohdrSize + buf.length)
  let clamped := if layer.mtu < summed.length then summed.setLength layer.mtu else summed
  if nsohdrSize ≤ clamped.length then
    let filled := clamped.put nsohdrSize (buf.take (clamped.length - nsohdrSize))
    some (filled.incLen filled.length).swapLenVer
  else
    none

/-- What `nso_layer_send` reports. -/
def sendResult (layer : NsoLayer) (size : Nat) : Nat :=
  if size < layer.mtu - nsohdrSize then size else layer.mtu - nsohdrSize

/-- The wait for the registration at the head of both calls. -/
def waitConnected : Prog Unit := do
  acquire .state
  let state ← query .layer fun node => node.nsol.devState
  release .state
  if state = .connected then pure () else .halt .condWait

/-- `nso_layer_send` of a whole buffer; no destination means the gateway. -/
def nsoLayerSend (buf : List UInt8) (dst : Option DeviceId) (proto : UInt16) : Prog Nat := do
  waitConnected
  let layer ← query .layer fun node => node.nsol
  let junk ← query .malloc fun node => node.env.junk
  let pkt ← orHalt .outOfBounds (makeDataPkt junk layer buf (dst.getD layer.gwId) proto)
  let _ ← nsoLayerFwd pkt
  pure (sendResult layer buf.length)

/-- What `nso_layer_recv` gives the application. -/
structure Delivered where
  src : DeviceId
  dst : DeviceId
  proto : UInt16
  bytes : List UInt8

/-- The part of `nso_layer_recv` behind the queue.  A length field below the header
size makes the number of bytes to copy negative, which the copy takes as a huge
unsigned number. -/
def readData (pkt : Packet) (size : Nat) : Option Delivered :=
  let header := pkt.swapLenVer
  let dataSize : Int := header.length - nsohdrSize
  let taken := if (size : Int) < dataSize then (size : Int) else dataSize
  if 0 ≤ taken then
    some ⟨pkt.srcDevid, pkt.dstDevid, pkt.proto,
      pkt.buf.read (pkt.data + nsohdrSize) taken.toNat⟩
  else
    none

/-- `pq_put_packet`. -/
def Node.enqueue (pkt : Packet) : Node → Node :=
  Node.updateLayer fun layer => { layer with dataPq := layer.dataPq ++ [pkt] }

/-- `pq_get_packet`. -/
def Node.dequeue : Node → Node :=
  Node.updateLayer fun layer => { layer with dataPq := layer.dataPq.tail }

/-- `nso_layer_recv` with a buffer of `size` bytes. -/
def nsoLayerRecv (size : Nat) : Prog Delivered := do
  waitConnected
  acquire .data
  let queue ← query .layer fun node => node.nsol.dataPq
  match queue with
  | [] => do
      release .data
      .halt .condWait
  | pkt :: _ => do
      modify .layer Node.dequeue
      release .data
      orHalt .outOfBounds (readData pkt size)

end Nrg5
