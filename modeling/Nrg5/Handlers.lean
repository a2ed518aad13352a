import Nrg5.Forward

/-!
# Handlers shared by both libraries

The device library and the base station library have the same text for most of
their message handlers and differ in where a message goes next and in which
registration states accept a route update.  This file has the common text, with
what differs as a parameter, and the pieces the handlers are made of: learning an
ARP entry, a temporary route or a neighbour, and resolving the device behind a
layer 2 address.
-/

namespace Nrg5

open ByteMemory LockProg

/-! ## Learning -/

/-- `arp_table_add`. -/
def arpTableAdd (entry : ArpEntry) : Prog Unit := do
  acquire .arpt
  modify .table (Node.updateArpt (ArpTable.add entry))
  release .arpt

/-- `arp_table_del`. -/
def arpTableDel (entry : ArpEntry) : Prog Unit := do
  acquire .arpt
  modify .table (Node.updateArpt (ArpTable.del entry))
  release .arpt

/-- `arp_table_lookup_from_dev_id`. -/
def arpTableLookupFromDevId (devId : DeviceId) : Prog (Option ArpEntry) := do
  acquire .arpt
  let pos ← query .table fun node => ArpTable.lookupFromDevId devId node.nsol.arpt
  release .arpt
  pure pos

/-- `arp_table_lookup_from_l2addr`. -/
def arpTableLookupFromL2addr (addr : L2addr) : Prog (Option ArpEntry) := do
  acquire .arpt
  let pos ← query .table fun node => ArpTable.lookupFromL2addr addr node.nsol.arpt
  release .arpt
  pure pos

/-- `arp_table_aging`. -/
def arpTableAging : Prog Unit := do
  acquire .arpt
  modify .table (Node.updateArpt ArpTable.aging)
  release .arpt

/-- Refresh the ARP entry of a device, or add one for the source address. -/
def learnArp (devId : DeviceId) (src : Option L2addr) : Prog Unit := do
  acquire .arpt
  let arpEntry ← query .table fun node => ArpTable.lookupFromDevId devId node.nsol.arpt
  match arpEntry with
  | some entry => do
      modify .table (Node.updateArpt (ArpTable.refresh entry))
      release .arpt
  | none => do
      release .arpt
      let mac ← orHalt .nullDeref src
      let addr ← malloc
      arpTableAdd ⟨addr, devId, mac, .active⟩

/-- `alloc_fwd_entry`. -/
def allocFwdEntry (dest nxthop : DeviceId) (iface : Option NsoIf) : Prog FwdEntry := do
  let interface ← orHalt .assertion iface
  let addr ← malloc
  pure ⟨addr, dest, nxthop, interface, .active⟩

/-- Refresh the temporary route to a device, or add one through the next hop. -/
def learnRoute (dest nxthop : DeviceId) (iface : Option NsoIf) : Prog Unit := do
  acquire .localFwdt
  let fwdEntry ← query .table fun node => FwdTable.lookup dest node.nsol.localFwdt
  match fwdEntry with
  | some entry => do
      modify .table (Node.updateLocalFwdt (FwdTable.refresh entry))
      release .localFwdt
  | none => do
      release .localFwdt
      let entry ← allocFwdEntry dest nxthop iface
      modify .table (Node.updateLocalFwdt (FwdTable.add entry))

/-- Refresh the neighbour entry of a device, or add one. -/
def learnNbr (devId : DeviceId) (iface : Option NsoIf) : Prog Unit := do
  acquire .nbrt
  let nbrEntry ← query .table fun node => NbrTable.lookup devId node.nsol.nbrt
  match nbrEntry with
  | some entry => do
      modify .table (Node.updateNbrt (NbrTable.refresh entry))
      release .nbrt
  | none => do
      release .nbrt
      let addr ← malloc
      acquire .nbrt
      modify .table (Node.updateNbrt (NbrTable.add ⟨addr, devId, 1, iface, .active⟩))
      release .nbrt

/-- The device that an ARP entry names for a source address; without one the
process exits, with the ARP mutex held. -/
def downstreamDevId (src : Option L2addr) : Prog DeviceId := do
  acquire .arpt
  let mac ← orHalt .assertion src
  let arpEntry ← query .table fun node => ArpTable.lookupFromL2addr mac node.nsol.arpt
  let entry ← orHalt .exit arpEntry
  release .arpt
  pure entry.devId

/-! ## Registration -/

/-- `NSO_TSD_MSG_REG`. -/
def tsdMsgReg : UInt8 := 0

/-- `NSO_TSD_MSG_REG_REPLY`. -/
def tsdMsgRegReply : UInt8 := 1

/-- `NSO_TSD_MSG_BS_REG`. -/
def tsdMsgBsReg : UInt8 := 2

/-- `NSO_TSD_MSG_BS_REG_REPLY`. -/
def tsdMsgBsRegReply : UInt8 := 3

/-- `NRG5_REG_SUCCESS`. -/
def nrg5RegSuccess : UInt8 := 0

/-- `__fwd_beacon`, with the way the beacon goes on. -/
def fwdBeaconWith (deliver : Packet → Prog Packet) (pkt : Packet) (src : Option L2addr)
    (iface : Option NsoIf) : Prog Packet := do
  let connected ← checkConnected
  if connected = false then
    pure pkt
  else if isBroadcastDevId pkt.dstDevid = true then do
    let gwId ← query .layer fun node => node.nsol.gwId
    let pkt := pkt.setDstDevid gwId
    let srcMac ← orHalt .nullDeref src
    learnArp pkt.srcDevid (some srcMac)
    learnRoute pkt.srcDevid pkt.srcDevid iface
    deliver pkt
  else do
    let nxtId ← downstreamDevId src
    learnRoute pkt.srcDevid nxtId iface
    deliver pkt

/-! ## Topology and routes -/

/-- `NSO_SON_MSG_TOPO`. -/
def sonMsgTopo : UInt8 := 0

/-- `NSO_SON_MSG_RT`. -/
def sonMsgRt : UInt8 := 1

/-- `NSO_SON_MSG_NBR`. -/
def sonMsgNbr : UInt8 := 2

/-- `RT_ACTION_ADD`. -/
def rtActionAdd : UInt8 := 0

/-- `RT_ACTION_DEL`. -/
def rtActionDel : UInt8 := 1

/-- `rt_rule_t`. -/
structure RtRule where
  action : UInt8
  dstId : DeviceId
  nhId : DeviceId
  ifIndex : UInt8

/-- `sizeof(rt_rule_t)`. -/
def rtRuleSize : Nat := 18

/-- The rule at an offset of the data. -/
def Packet.ruleAt (pkt : Packet) (offset : Nat) : RtRule :=
  { action := pkt.byteAt offset
    dstId := deviceIdOfBytes (pkt.buf.read (pkt.data + offset + 1) 8)
    nhId := deviceIdOfBytes (pkt.buf.read (pkt.data + offset + 9) 8)
    ifIndex := pkt.byteAt (offset + 17) }

/-- `fwd_table_del` where the lookup found an entry. -/
def dropRoute (fwdEntry : Option FwdEntry) : Prog Unit :=
  match fwdEntry with
  | some entry => modify .table (Node.updateSonFwdt (FwdTable.del entry))
  | none => pure ()

/-- The body of the loop of `__route_update`.  The interface is read for every
rule, whatever its action. -/
def applyRule (rule : RtRule) : Prog Unit := do
  let iface ← ifaceAt rule.ifIndex.toNat
  let fwdEntry ← query .table fun node => FwdTable.lookup rule.dstId node.nsol.sonFwdt
  if rule.action = rtActionAdd then do
    dropRoute fwdEntry
    let entry ← allocFwdEntry rule.dstId rule.nhId iface
    modify .table (Node.updateSonFwdt (FwdTable.add entry))
  else if rule.action = rtActionDel then
    dropRoute fwdEntry
  else
    pure ()

/-- The loop of `__route_update`: it answers what is left of the size. -/
def routeLoop (pkt : Packet) (rtData : Nat) (size : Int) : Prog Int :=
  if _more : 0 < size then do
    applyRule (pkt.ruleAt rtData)
    routeLoop pkt (rtData + rtRuleSize) (size - rtRuleSize)
  else
    pure size
termination_by size.toNat
decreasing_by
  simp only [rtRuleSize]
  omega

/-- `__route_update`, with the locked check of the registration state. -/
def routeUpdateWith (accept : Prog Bool) (pkt : Packet) : Prog Packet := do
  let devId ← query .layer fun node => node.nsol.devId
  if pkt.dstDevid = devId then do
    let admitted ← accept
    if admitted = false then
      pure pkt
    else do
      let left ← routeLoop pkt (nsohdrSize + 1) (pkt.byteLen - nsohdrSize - 1)
      if left = 0 then pure pkt else .halt .assertion
  else do
    let connected ← checkConnected
    if connected = false then
      pure pkt
    else do
      let (_, sent) ← nsoLayerFwd pkt
      pure sent

/-- `__neighbor_maintain`. -/
def neighborMaintain (pkt : Packet) (src : Option L2addr) (iface : Option NsoIf) :
    Prog Packet := do
  learnArp pkt.srcDevid src
  learnNbr pkt.srcDevid iface
  pure pkt

/-- `__fwd_topo_report`, with the way the report goes on. -/
def fwdTopoReportWith (deliver : Packet → Prog Packet) (pkt : Packet) : Prog Packet := do
  let connected ← checkConnected
  if connected = false then pure pkt else deliver pkt

/-- Hand a packet to `nso_layer_fwd` and ignore its result. -/
def deliverFwd (pkt : Packet) : Prog Packet := do
  let (_, sent) ← nsoLayerFwd pkt
  pure sent

/-- The VNF thread and the receive threads of a base station, and the receive
threads of a device, choose the handler by the protocol. -/
inductive Handler : Type where
  | tsd
  | son
  | data
deriving DecidableEq

def dispatch (proto : UInt16) : Handler :=
  if proto = protoCpVtsd then .tsd
  else if proto = protoCpVson then .son
  else .data

end Nrg5
