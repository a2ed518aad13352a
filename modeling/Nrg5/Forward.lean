import Nrg5.Wifi

/-!
# Forwarding

`nso_layer_fwd` is the same text in both libraries.  It looks for a route in the
table of the controller and then in the temporary one, resolves the next hop in
the ARP table and sends the packet.  Both failures jump to the common end of the
function: the jump for a missing ARP entry skips the release of the ARP mutex, and
both jumps skip the initialisation of the pointer that the end frees.
-/

namespace Nrg5

open LockProg

/-- The locked lookup of a destination in one forwarding table. -/
def findRoute (lock : Lock) (table : NsoLayer → FwdTable) (dst : DeviceId) :
    Prog (Option (DeviceId × NsoIf)) := do
  acquire lock
  let fwdEntry ← query .table fun node => FwdTable.lookup dst (table node.nsol)
  release lock
  pure (fwdEntry.map fun entry => (entry.nxthop, entry.iface))

/-- The two lookups at the head of `nso_layer_fwd`. -/
def nextHop (dst : DeviceId) : Prog (Option (DeviceId × NsoIf)) := do
  let route ← findRoute .sonFwdt NsoLayer.sonFwdt dst
  match route with
  | some found => pure (some found)
  | none => findRoute .localFwdt NsoLayer.localFwdt dst

/-- `out:` reached by one of the two jumps. -/
def fwdOut (pkt : Packet) : Prog (Int × Packet) := do
  let addr ← query .layer fun node => node.env.stackAddr
  freeIndet addr
  pure (-1, pkt)

/-- `nso_layer_fwd`: the result and the packet it leaves behind. -/
def nsoLayerFwd (pkt : Packet) : Prog (Int × Packet) := do
  let route ← nextHop pkt.dstDevid
  match route with
  | none => fwdOut pkt
  | some (nxt, iface) => do
      acquire .arpt
      let arpEntry ← query (.nextHopArp nxt) fun node =>
        ArpTable.lookupFromDevId nxt node.nsol.arpt
      match arpEntry with
      | none => fwdOut pkt
      | some entry => do
          release .arpt
          let (_, sent) ← nsoIfSend iface pkt entry.l2addr
          pure (0, sent)

end Nrg5
