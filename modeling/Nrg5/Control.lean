import Nrg5.Handlers

/-!
# Control packets of a node

A node builds three control packets: the registration (a beacon of a device, or
the registration of a base station), the topology report and the neighbour
advertisement.  All of them start with the same header and the message type and
end by storing the length, advancing the packet and swapping the length word.

A copy that does not fit the buffer, or that reads behind the credential array,
has no meaning in C and halts.
-/

namespace Nrg5

open ByteMemory LockProg

/-- The size of `aaa_reg_cred`. -/
def aaaRegCredSize : Nat := 1024

/-- The header and the message type of a control packet. -/
def beginControl (junk : Memory) (mtu : Nat) (src dst : DeviceId) (proto : UInt16)
    (type : UInt8) : Packet :=
  (((((allocPacket junk mtu).setSrcDevid src).setDstDevid dst).setProto proto).setVer 0).put
    nsohdrSize [type]

/-- Store the length, advance the packet and swap the length word. -/
def finishControl (pkt : Packet) (size : Nat) : Packet :=
  let sized := pkt.setLength size
  (sized.incLen sized.length).swapLenVer

/-- Write the body behind the message type, where it fits the buffer. -/
def putBody (pkt : Packet) (body : List UInt8) : Prog Packet :=
  if nsohdrSize + 1 + body.length ≤ pkt.size + tailroom then
    pure (finishControl (pkt.put (nsohdrSize + 1) body) (nsohdrSize + 1 + body.length))
  else
    .halt .outOfBounds

/-! ## Registration -/

/-- What `aaa_get_credentials` stores. -/
def NsoLayer.storeCredentials (size : Int) (bytes : List UInt8) (layer : NsoLayer) :
    NsoLayer :=
  { layer with aaaCredSize := size, aaaRegCred := layer.aaaRegCred.write 0 bytes }

/-- `aaa_get_credentials`. -/
def aaaGetCredentials : Prog Unit := do
  let env ← query .layer fun node => node.env
  if env.aaaBytes.length ≤ aaaRegCredSize then
    modify .layer (Node.updateLayer (NsoLayer.storeCredentials env.aaaSize env.aaaBytes))
  else
    .halt .outOfBounds

/-- Ask for the credentials when there are none yet. -/
def ensureCredentials : Prog Unit := do
  let layer ← query .layer fun node => node.nsol
  if layer.aaaCredSize = 0 then aaaGetCredentials else pure ()

/-- The registration packet of a node for a destination. -/
def getRegPkt (dst : DeviceId) (type : UInt8) : Prog Packet := do
  let layer ← query .layer fun node => node.nsol
  let junk ← query .malloc fun node => node.env.junk
  let pkt := beginControl junk layer.mtu layer.devId dst protoCpVtsd type
  ensureCredentials
  let ready ← query .layer fun node => node.nsol
  if 0 ≤ ready.aaaCredSize ∧ ready.aaaCredSize ≤ aaaRegCredSize then
    putBody pkt (ready.aaaRegCred.read 0 ready.aaaCredSize.toNat)
  else
    .halt .outOfBounds

/-! ## Topology report -/

/-- The record of one neighbour; a neighbour without interface is a NULL read. -/
def nbrRecord (entry : NbrEntry) : Option (List UInt8) :=
  entry.iface.map fun iface =>
    deviceIdBytes entry.devId ++ [UInt8.ofNat (entry.metric % 256).toNat,
      UInt8.ofNat iface.ifIndex]

/-- The index and the quality of each interface; the quality is always zero. -/
def ifaceRecords (ifacesNb : Nat) : List UInt8 :=
  (List.range ifacesNb).flatMap fun index => [UInt8.ofNat index, 0]

/-- The topology data behind the message type. -/
def topoData (layer : NsoLayer) : Option (List UInt8) :=
  (layer.nbrt.ll.mapM nbrRecord).map fun records =>
    [layer.battery, UInt8.ofNat layer.ifacesNb] ++ ifaceRecords layer.ifacesNb ++
      beBytes 2 (layer.nbrt.size % 65536).toNat ++ records.flatten

/-- `__get_topo_report_pkt`. -/
def getTopoReportPkt : Prog Packet := do
  let layer ← query .layer fun node => node.nsol
  let junk ← query .malloc fun node => node.env.junk
  let pkt := beginControl junk layer.mtu layer.devId layer.gwId protoCpVson sonMsgTopo
  acquire .nbrt
  let locked ← query .table fun node => node.nsol
  let body ← orHalt .nullDeref (topoData locked)
  release .nbrt
  putBody pkt body

/-! ## Neighbour advertisement -/

/-- `__get_nbr_adv_pkt`. -/
def getNbrAdvPkt : Prog Packet := do
  let layer ← query .layer fun node => node.nsol
  let junk ← query .malloc fun node => node.env.junk
  pure (finishControl
    (beginControl junk layer.mtu layer.devId bcDeviceId protoCpVson sonMsgNbr)
    (nsohdrSize + 1))

/-- The loop of `son_nbr_advertise`: the packet each send leaves behind is the one
the next send starts from. -/
def advertiseOn : List NsoIf → Packet → Prog Unit
  | [], _ => pure ()
  | iface :: rest, pkt => do
      let (_, sent) ← nsoIfBroadcast iface pkt
      advertiseOn rest sent

/-- `son_nbr_advertise`. -/
def sonNbrAdvertise : Prog Unit := do
  let pkt ← getNbrAdvPkt
  let ifaces ← query .layer fun node => node.nsol.ifaces
  advertiseOn ifaces pkt

end Nrg5
