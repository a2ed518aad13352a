import Nrg5.Layer

/-!
# The wireless interface

An interface sends and receives Ethernet frames on a raw socket.  Sending puts
the Ethernet header in front of the data and leaves the packet with the header in
it; receiving strips it.  A frame of another protocol and a failed receive leave
the packet's bookkeeping and the two address pointers of the caller as they were.
-/

namespace Nrg5

open ByteMemory LockProg

/-- `sizeof(struct ethhdr)`. -/
def ethHlen : Nat := 14

/-- `ETH_TYPE_NSO`, in network byte order. -/
def ethTypeNso : List UInt8 := [0xf7, 0x48]

/-- The Ethernet header of a frame. -/
def ethHeader (source dest : L2addr) : List UInt8 :=
  (Memory.ofList dest).read 0 ethAlen ++ source ++ ethTypeNso

/-- The packet with the Ethernet header in front of its data. -/
def Packet.prependEth (pkt : Packet) (source dest : L2addr) : Packet :=
  { pkt with
    data := pkt.data - ethHlen
    byteLen := pkt.byteLen + ethHlen
    buf := pkt.buf.write (pkt.data - ethHlen) (ethHeader source dest) }

/-- The frame that `sendto` takes, when it takes one. -/
def Node.sendFrame (iface : NsoIf) (frame : List UInt8) (node : Node) : Node :=
  if node.env.sendtoFails then node
  else { node with air := node.air ++ [(iface.ifIndex, frame)] }

/-- `wifi_send`: the result and the packet it leaves behind. -/
def wifiSend (iface : NsoIf) (pkt : Packet) (dst : L2addr) : Prog (Int × Packet) :=
  if pkt.data < ethHlen then
    pure (-1, pkt)
  else do
    let framed := pkt.prependEth iface.ifMac dst
    let failed ← perform .sendto (Node.sendFrame iface framed.bytes) fun node =>
      node.env.sendtoFails
    pure (if failed then -1 else 0, framed)

/-- `wifi_broadcast`. -/
def wifiBroadcast (iface : NsoIf) (pkt : Packet) : Prog (Int × Packet) :=
  wifiSend iface pkt bcMac

/-- `nso_if_send`: the only interface type is the wireless one. -/
def nsoIfSend (iface : NsoIf) (pkt : Packet) (dst : L2addr) : Prog (Int × Packet) :=
  wifiSend iface pkt dst

/-- `nso_if_broadcast`. -/
def nsoIfBroadcast (iface : NsoIf) (pkt : Packet) : Prog (Int × Packet) :=
  wifiBroadcast iface pkt

/-- What `recvfrom` answers: a failure or a frame of the network. -/
inductive RecvFrom : Type where
  | error
  | frame (bytes : List UInt8)

/-- What `wifi_receive` leaves behind: its result, the packet and, where it
allocated them, the source and destination addresses. -/
structure Received where
  ret : Int
  pkt : Packet
  addrs : Option (L2addr × L2addr)

/-- `wifi_receive`.  `recvfrom` cuts a frame to the buffer it is given; an empty
frame counts as a failure. -/
def wifiReceive (pkt : Packet) (outcome : RecvFrom) : Received :=
  if pkt.data < ethHlen then
    ⟨-1, pkt, none⟩
  else
    match outcome with
    | .error => ⟨-1, pkt, none⟩
    | .frame bytes =>
        let taken := bytes.take (pkt.size + ethHlen)
        if taken.length = 0 then ⟨-1, pkt, none⟩
        else
          let eth := pkt.data - ethHlen
          let buf := pkt.buf.write eth taken
          if buf.read (eth + 12) 2 ≠ ethTypeNso then
            ⟨-1, { pkt with buf := buf.write eth (List.replicate taken.length 0) }, none⟩
          else
            let byteLen : Int := taken.length - ethHlen
            ⟨0, { pkt with buf := buf, byteLen := byteLen, tail := pkt.data + byteLen },
              some (buf.read (eth + 6) ethAlen, buf.read eth ethAlen)⟩

end Nrg5
