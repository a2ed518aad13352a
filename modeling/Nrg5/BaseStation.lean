import Nrg5.Lib.ByteStream
import Nrg5.Control
import Nrg5.Data

/-!
# The base station library

A base station hands beacons and topology reports to its virtual network
functions over stream connections instead of forwarding them, and its handlers
run on two kinds of packets: frames of an air interface, which come with their
layer 2 addresses and their interface, and messages of a connection, for which
the handlers are called with NULL in their place.
-/

namespace Nrg5

namespace Bs

open ByteMemory LockProg

/-! ## Connections to the network functions -/

/-- Store what one `__fully_recv` got.  Its result is not looked at, so a failed
read goes on with the bytes it has. -/
def fill (pkt : Packet) (offset : Nat) (outcome : ByteStream.Outcome) :
    Option (Packet × ByteStream) :=
  match outcome with
  | .complete bytes rest => some (pkt.put offset bytes, rest)
  | .failed bytes => some (pkt.put offset bytes, ⟨[], .failed⟩)
  | .stuck => none

/-- `read_pkt_from_vnf`, when it returns. -/
def readPktFromVnf (junk : Memory) (size : Nat) (stream : ByteStream) :
    Option (Packet × ByteStream) := do
  let (headed, rest) ← fill (allocPacket junk size) 0 (stream.recvAll nsohdrSize)
  let len := headed.swapLenVer.length
  let restored := headed.swapLenVer.swapLenVer
  let (filled, left) ← fill restored nsohdrSize (rest.recvAll (len - nsohdrSize))
  let byteLen : Int := nsohdrSize + len
  pure ({ filled with byteLen := byteLen, tail := filled.data + byteLen }, left)

/-- The bytes that a connection takes from `send`. -/
def sendBytes (fd : Nat) (bytes : List UInt8) (node : Node) : Node :=
  let accepted := match node.env.sendAccepts with
    | some count => bytes.take count
    | none => bytes
  { node with vnfTx := node.vnfTx ++ [(fd, accepted)] }

/-- `send_pkt_to_vnf`. -/
def sendPktToVnf (fd : Nat) (pkt : Packet) : Prog Int :=
  perform .send (sendBytes fd pkt.bytes) fun node =>
    match node.env.sendAccepts with
    | some count => if count < pkt.bytes.length then -1 else pkt.byteLen
    | none => pkt.byteLen

/-- Hand a packet to the connection kept in `tsd.vtsd_fd`. -/
def deliverVtsd (pkt : Packet) : Prog Packet := do
  let layer ← query .layer fun node => node.nsol
  let _ ← sendPktToVnf layer.vtsdFd pkt
  pure pkt

/-- Hand a packet to the connection kept in `son.vson_fd`. -/
def deliverVson (pkt : Packet) : Prog Packet := do
  let layer ← query .layer fun node => node.nsol
  let _ ← sendPktToVnf layer.vsonFd pkt
  pure pkt

/-! ## Handlers -/

/-- `__fwd_beacon`. -/
def fwdBeacon (pkt : Packet) (src : Option L2addr) (iface : Option NsoIf) : Prog Packet :=
  fwdBeaconWith deliverVtsd pkt src iface

/-- `__process_bs_reg_reply`. -/
def processBsRegReply (pkt : Packet) : Prog Packet := do
  let devId ← query .layer fun node => node.nsol.devId
  if pkt.dstDevid = devId then do
    acquire .state
    let ans := pkt.byteAt (nsohdrSize + 1)
    let state ← query .layer fun node => node.nsol.devState
    if state = .unreg ∧ ans = nrg5RegSuccess then do
      modify .layer (Node.updateLayer fun layer => { layer with gwId := pkt.srcDevid })
      modify .layer (Node.updateLayer fun layer => { layer with devState := .connected })
      modify (.broadcastSignal .state) id
      release .state
      pure pkt
    else do
      release .state
      pure pkt
  else
    pure pkt

/-- `tsd_process_rx`. -/
def tsdProcessRx (pkt : Packet) (src : Option L2addr) (iface : Option NsoIf) :
    Prog (Int × Packet) :=
  if pkt.msgType = tsdMsgReg then do
    let sent ← fwdBeacon pkt src iface
    pure (0, sent)
  else if pkt.msgType = tsdMsgBsRegReply then do
    let sent ← processBsRegReply pkt
    pure (0, sent)
  else
    pure (-1, pkt)

/-- The locked section at the head of `__route_update`. -/
def admitRouteUpdate : Prog Bool := do
  acquire .state
  let state ← query .layer fun node => node.nsol.devState
  release .state
  pure (state == .reg || state == .connected)

/-- `__route_update`. -/
def routeUpdate (pkt : Packet) : Prog Packet := routeUpdateWith admitRouteUpdate pkt

/-- `__fwd_topo_report`. -/
def fwdTopoReport (pkt : Packet) : Prog Packet := fwdTopoReportWith deliverVson pkt

/-- `son_process_rx`. -/
def sonProcessRx (pkt : Packet) (src : Option L2addr) (iface : Option NsoIf) :
    Prog (Int × Packet) :=
  if pkt.msgType = sonMsgRt then do
    let sent ← routeUpdate pkt
    pure (0, sent)
  else if pkt.msgType = sonMsgNbr then do
    let sent ← neighborMaintain pkt src iface
    pure (0, sent)
  else if pkt.msgType = sonMsgTopo then do
    let sent ← fwdTopoReport pkt
    pure (0, sent)
  else
    pure (-1, pkt)

/-- `bspc_table_lookup`. -/
def bspcTableLookup (proto : UInt16) : Prog (Option BspcEntry) := do
  let slot ← orHalt .outOfBounds (BspcTable.bucketOfProto proto)
  query .table fun node => BspcTable.lookupIn slot proto node.nsol.bspcTbl

/-- `data_process_rx`: a packet for the base station goes to the network function of
its protocol, whose entry is used without a check. -/
def dataProcessRx (pkt : Packet) : Prog Packet := do
  let connected ← checkConnected
  if connected = false then
    pure pkt
  else do
    let layer ← query .layer fun node => node.nsol
    if pkt.dstDevid = layer.devId then do
      let found ← bspcTableLookup pkt.proto
      let pos ← orHalt .nullDeref found
      let _ ← sendPktToVnf pos.sockfd pkt
      pure pkt
    else
      deliverFwd pkt

/-- The switch in the body of `__rx_thread_main`. -/
def processRx (pkt : Packet) (src : Option L2addr) (iface : Option NsoIf) : Prog Packet :=
  match dispatch pkt.proto with
  | .tsd => do
      let (_, sent) ← tsdProcessRx pkt src iface
      pure sent
  | .son => do
      let (_, sent) ← sonProcessRx pkt src iface
      pure sent
  | .data => dataProcessRx pkt

/-- What `__vnf_rx_thread_main` does with one packet. -/
def processVnfRx (pkt : Packet) : Prog Packet := do
  let devId ← query .layer fun node => node.nsol.devId
  if pkt.dstDevid = devId then
    match dispatch pkt.proto with
    | .tsd => do
        let (_, sent) ← tsdProcessRx pkt none none
        pure sent
    | .son => do
        let (_, sent) ← sonProcessRx pkt none none
        pure sent
    | .data => pure pkt
  else
    deliverFwd pkt

/-! ## Sending -/

/-- `__get_bs_reg_pkt`. -/
def getBsRegPkt : Prog Packet := do
  let devId ← query .layer fun node => node.nsol.devId
  getRegPkt devId tsdMsgBsReg

/-- `tsd_bs_reg`. -/
def tsdBsReg : Prog Unit := do
  let pkt ← getBsRegPkt
  let _ ← deliverVtsd pkt

/-- `son_topo_report`. -/
def sonTopoReport : Prog Unit := do
  let pkt ← getTopoReportPkt
  let _ ← deliverVson pkt

end Bs

end Nrg5
