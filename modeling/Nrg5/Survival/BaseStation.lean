import Nrg5.Survival.Basic

/-!
# Messages that a base station survives

The handlers of a base station get messages from two sides: the receive threads of
its interfaces, and the thread of the VNF connections, which has neither a layer 2
address nor an interface to pass.  As for a device, `Rx.Survives` is the exact
condition under which a handler comes back.
-/

namespace Nrg5

namespace Bs

open LockProg

/-! ## Runs of a base station -/

/-- Where a message comes from. -/
inductive Origin : Type where
  | air (src : L2addr) (iface : NsoIf)
  | vnf

def Origin.src : Origin → Option L2addr
  | .air src _ => some src
  | .vnf => none

def Origin.iface : Origin → Option NsoIf
  | .air _ iface => some iface
  | .vnf => none

/-- A message handed to a handler. -/
structure Rx where
  handler : Handler
  pkt : Packet
  origin : Origin

def Rx.body (rx : Rx) : Prog Packet :=
  match rx.handler with
  | .tsd => do
      let (_, sent) ← tsdProcessRx rx.pkt rx.origin.src rx.origin.iface
      pure sent
  | .son => do
      let (_, sent) ← sonProcessRx rx.pkt rx.origin.src rx.origin.iface
      pure sent
  | .data => dataProcessRx rx.pkt

/-- What happens to a base station. -/
inductive Event : Type where
  | environment (env : Env)
  | receive (rx : Rx)
  | vnfMessage (pkt : Packet)
  | register
  | topoReport
  | advertise
  | send (buf : List UInt8) (dst : Option DeviceId) (proto : UInt16)
  | recv (size : Nat)

def Event.body : Event → Prog Unit
  | .environment env => modify .layer fun node => { node with env := env }
  | .receive rx => do let _ ← rx.body
  | .vnfMessage pkt => do let _ ← processVnfRx pkt
  | .register => tsdBsReg
  | .topoReport => sonTopoReport
  | .advertise => sonNbrAdvertise
  | .send buf dst proto => do let _ ← nsoLayerSend buf dst proto
  | .recv size => do let _ ← nsoLayerRecv size

/-- The layer that the initialisation leaves, with the configured network functions.
The descriptors of vTSD and vSON are looked up once, in `tsd_init` and `son_init`. -/
def initialLayer (layer : NsoLayer) (vnfs : List BspcEntry) (vtsdFd vsonFd : Nat) : NsoLayer :=
  { layer with
    bspcTbl := vnfs.foldl (fun table entry => BspcTable.add entry table) .empty
    vtsdFd := vtsdFd
    vsonFd := vsonFd }

def IsStart (node : Node) : Prop :=
  ∃ devId gwId mtu ifaces fit vnfs vtsdFd vsonFd env,
    node = Node.start
      (initialLayer (NsoLayer.initial devId gwId mtu ifaces fit) vnfs vtsdFd vsonFd) env

/-- The mutexes and the nodes of the runs of a base station. -/
def Reachable : (Lock → Bool) → Node → Prop := Sequence Event.body IsStart

theorem keepsTables_rx (rx : Rx) : KeepsTables rx.body := by
  rcases rx with ⟨handler, pkt, origin⟩
  cases handler with
  | tsd => exact keepsTables_bind (keepsTables_bsTsd _ _ _) fun _ => keepsTables_pure _
  | son => exact keepsTables_bind (keepsTables_bsSon _ _ _) fun _ => keepsTables_pure _
  | data => exact parts_keepsTables.ofBsData pkt

theorem keepsTables_event (event : Event) : KeepsTables event.body := by
  have parts := parts_keepsTables
  cases event with
  | environment env => exact keepsTables_modify _ _
  | receive rx => exact keepsTables_bind (keepsTables_rx rx) fun _ => keepsTables_pure _
  | vnfMessage pkt =>
      have messages := parts.ofProcessVnfRx (fun pkt => keepsTables_bsTsd pkt none none)
        fun pkt => keepsTables_bsSon pkt none none
      exact keepsTables_bind (messages pkt) fun _ => keepsTables_pure _
  | register => exact parts.ofTsdBsReg
  | topoReport => exact parts.ofBsTopoReport
  | advertise => exact parts.ofSonNbrAdvertise
  | send buf dst proto =>
      have sends := parts.ofNsoLayerSend keepsTables_waitConnected buf dst proto
      exact keepsTables_bind sends fun _ => keepsTables_pure _
  | recv size => exact keepsTables_bind (keepsTables_nsoLayerRecv _) fun _ => keepsTables_pure _

/-- In every run only the state mutex and the ARP mutex can stay behind. -/
theorem tablesFree_reachable {held : Lock → Bool} {node : Node}
    (reachable : Reachable held node) : TablesFree held := by
  apply Sequence.invariant _ _ reachable
  · exact fun _ _ => ⟨rfl, rfl, rfl, rfl⟩
  · exact fun event held node free => (keepsTables_event event).keeps held node free

/-! ## The messages that come back -/

/-- A beacon at a connected base station: it came over the air, and a relayed one needs
the ARP entry of the device behind its source address. -/
def SurvivesBeacon (held : Lock → Bool) (node : Node) (pkt : Packet) (origin : Origin) :
    Prop :=
  held .state = false ∧
    (node.nsol.devState = .connected →
      match origin with
      | .air src _ =>
          held .arpt = false ∧
            (isBroadcastDevId pkt.dstDevid = false →
              (ArpTable.lookupFromL2addr src node.nsol.arpt).isSome = true)
      | .vnf => False)

/-- An advertisement: one from a VNF connection needs an ARP entry of its sender. -/
def SurvivesAdvertisement (held : Lock → Bool) (node : Node) (pkt : Packet)
    (origin : Origin) : Prop :=
  held .arpt = false ∧
    match origin with
    | .air _ _ => True
    | .vnf => node.nsol.Knows pkt.srcDevid

/-- There is a network function for a protocol, in a bucket inside the table. -/
def VnfConfigured (node : Node) (proto : UInt16) : Prop :=
  ∃ slot, BspcTable.bucketOfProto proto = some slot ∧
    (BspcTable.lookupIn slot proto node.nsol.bspcTbl).isSome = true

/-- A data packet at a connected base station: one for the base station needs the
network function of its protocol, another one is forwarded. -/
def SurvivesData (held : Lock → Bool) (node : Node) (pkt : Packet) : Prop :=
  held .state = false ∧
    (node.nsol.devState = .connected →
      (pkt.dstDevid = node.nsol.devId → VnfConfigured node pkt.proto) ∧
      (pkt.dstDevid ≠ node.nsol.devId →
        FwdReturns held node (node.nsol.nextHop pkt.dstDevid) node.nsol.Knows))

/-- The messages that come back; a message of another type always does. -/
def Rx.Survives (rx : Rx) (held : Lock → Bool) (node : Node) : Prop :=
  match rx.handler with
  | .tsd =>
      (rx.pkt.msgType = tsdMsgReg → SurvivesBeacon held node rx.pkt rx.origin) ∧
        (rx.pkt.msgType = tsdMsgBsRegReply → rx.pkt.dstDevid = node.nsol.devId →
          held .state = false)
  | .son =>
      (rx.pkt.msgType = sonMsgRt → SurvivesRoutes held node rx.pkt) ∧
        (rx.pkt.msgType = sonMsgNbr → SurvivesAdvertisement held node rx.pkt rx.origin) ∧
        (rx.pkt.msgType = sonMsgTopo → held .state = false)
  | .data => SurvivesData held node rx.pkt

section Handlers

variable {held : Lock → Bool} {node : Node} {pkt : Packet} {origin : Origin}

theorem fwdBeacon_returns (free : TablesFree held) :
    (fwdBeacon pkt origin.src origin.iface).wp ifacesInRange
        { post := fun _ _ _ => True } held node ↔ SurvivesBeacon held node pkt origin := by
  cases origin with
  | air src iface =>
      simp only [Origin.src, Origin.iface]
      rw [fwdBeacon, wp_fwdBeaconWith_air tolerant_ifacesInRange free]
      simp only [SurvivesBeacon, wp_deliverVtsd tolerant_ifacesInRange]
      cases held .state with
      | true => simp
      | false =>
        by_cases connected : node.nsol.devState = .connected
        · cases held .arpt with
          | true => simp [connected]
          | false =>
            cases isBroadcastDevId pkt.dstDevid with
            | true => simp [connected]
            | false =>
                cases ArpTable.lookupFromL2addr src node.nsol.arpt <;> simp [connected]
        · simp [connected]
  | vnf =>
      simp only [Origin.src, Origin.iface]
      rw [fwdBeacon, wp_fwdBeaconWith_vnf tolerant_ifacesInRange]
      simp only [SurvivesBeacon]
      cases held .state with
      | true => simp
      | false => by_cases connected : node.nsol.devState = .connected <;> simp [connected]

theorem processBsRegReply_returns :
    (processBsRegReply pkt).wp ifacesInRange { post := fun _ _ _ => True } held node ↔
      (pkt.dstDevid = node.nsol.devId → held .state = false) := by
  rw [wp_processBsRegReply tolerant_ifacesInRange]
  by_cases forMe : pkt.dstDevid = node.nsol.devId
  · rw [if_pos forMe]
    cases held .state <;> simp [forMe]
  · rw [if_neg forMe]
    simp [forMe]

theorem neighborMaintain_returns (free : TablesFree held) :
    (neighborMaintain pkt origin.src origin.iface).wp ifacesInRange
        { post := fun _ _ _ => True } held node ↔
      SurvivesAdvertisement held node pkt origin := by
  cases origin with
  | air src iface =>
      simp only [Origin.src, Origin.iface]
      rw [wp_neighborMaintain_air tolerant_ifacesInRange free]
      cases isHeld : held .arpt <;> simp [SurvivesAdvertisement, isHeld]
  | vnf =>
      simp only [Origin.src, Origin.iface]
      rw [wp_neighborMaintain_vnf tolerant_ifacesInRange free]
      simp only [SurvivesAdvertisement, NsoLayer.Knows]
      cases held .arpt with
      | true => simp
      | false => cases ArpTable.lookupFromDevId pkt.srcDevid node.nsol.arpt <;> simp

theorem routeUpdate_returns (free : TablesFree held) :
    (routeUpdate pkt).wp ifacesInRange { post := fun _ _ _ => True } held node ↔
      SurvivesRoutes held node pkt :=
  @routeUpdateWith_returns _ _ _ free _ id rfl
    fun ending => wp_admitRouteUpdateBs tolerant_ifacesInRange ending

theorem dataProcessRx_returns (free : TablesFree held) :
    (dataProcessRx pkt).wp ifacesInRange { post := fun _ _ _ => True } held node ↔
      SurvivesData held node pkt := by
  rw [wp_dataProcessRxBs tolerant_ifacesInRange]
  simp only [SurvivesData, VnfConfigured, deliverFwd_returns free]
  cases held .state with
  | true => simp
  | false =>
    by_cases connected : node.nsol.devState = .connected
    · by_cases forMe : pkt.dstDevid = node.nsol.devId
      · simp only [connected, forMe, ne_eq, not_true_eq_false, if_false, if_true,
          Bool.false_eq_true, true_and, forall_const, false_implies, and_true]
        cases BspcTable.bucketOfProto pkt.proto with
        | none => simp
        | some slot =>
            simp only [Option.some.injEq, exists_eq_left']
            cases BspcTable.lookupIn slot pkt.proto node.nsol.bspcTbl <;> simp
      · simp [connected, forMe]
    · simp [connected]

theorem tsdProcessRx_returns (free : TablesFree held) :
    (tsdProcessRx pkt origin.src origin.iface).wp ifacesInRange
        { post := fun _ _ _ => True } held node ↔
      (pkt.msgType = tsdMsgReg → SurvivesBeacon held node pkt origin) ∧
        (pkt.msgType = tsdMsgBsRegReply → pkt.dstDevid = node.nsol.devId →
          held .state = false) := by
  simp only [tsdProcessRx, wp_ite, wp_bind, wp_pure, fwdBeacon_returns free,
    processBsRegReply_returns]
  by_cases isReg : pkt.msgType = tsdMsgReg
  · simp [isReg, tsdMsgReg, tsdMsgBsRegReply]
  · by_cases isReply : pkt.msgType = tsdMsgBsRegReply
    · simp [isReply, tsdMsgReg, tsdMsgBsRegReply]
    · simp [isReg, isReply]

theorem fwdTopoReport_returns :
    (fwdTopoReport pkt).wp ifacesInRange { post := fun _ _ _ => True } held node ↔
      held .state = false := by
  rw [fwdTopoReport, wp_fwdTopoReportWith tolerant_ifacesInRange]
  simp only [wp_deliverVson tolerant_ifacesInRange, ite_self]
  cases held .state <;> simp

theorem sonProcessRx_returns (free : TablesFree held) :
    (sonProcessRx pkt origin.src origin.iface).wp ifacesInRange
        { post := fun _ _ _ => True } held node ↔
      (pkt.msgType = sonMsgRt → SurvivesRoutes held node pkt) ∧
        (pkt.msgType = sonMsgNbr → SurvivesAdvertisement held node pkt origin) ∧
        (pkt.msgType = sonMsgTopo → held .state = false) := by
  simp only [sonProcessRx, wp_ite, wp_bind, wp_pure, routeUpdate_returns free,
    neighborMaintain_returns free, fwdTopoReport_returns]
  by_cases isRt : pkt.msgType = sonMsgRt
  · simp [isRt, sonMsgRt, sonMsgNbr, sonMsgTopo]
  · by_cases isNbr : pkt.msgType = sonMsgNbr
    · simp [isNbr, sonMsgRt, sonMsgNbr, sonMsgTopo]
    · by_cases isTopo : pkt.msgType = sonMsgTopo
      · simp [isTopo, sonMsgRt, sonMsgNbr, sonMsgTopo]
      · simp [isRt, isNbr, isTopo]

theorem rx_returns_iff (free : TablesFree held) (rx : Rx) :
    Returns rx.body held node ↔ rx.Survives held node := by
  rw [returns_iff_wp]
  rcases rx with ⟨handler, pkt, origin⟩
  cases handler with
  | tsd =>
      simp only [Rx.body, Rx.Survives, wp_bind, wp_pure]
      exact tsdProcessRx_returns free
  | son =>
      simp only [Rx.body, Rx.Survives, wp_bind, wp_pure]
      exact sonProcessRx_returns free
  | data => exact dataProcessRx_returns free

end Handlers

/-! ## Runs -/

/-- The message of an event, where it is one. -/
def Event.message : Event → Option Rx
  | .receive rx => some rx
  | _ => none

theorem Event.body_of_message (event : Event) (rx : Rx) (isMessage : event.message = some rx) :
    event.body = (do let _ ← rx.body) := by
  cases event with
  | receive received =>
      rcases Option.some.inj isMessage with rfl
      rfl
  | _ => simp [Event.message] at isMessage

/-- An event of a run in which every message meets its condition and nothing else ends
the process. -/
def Event.Survives : Event → (Lock → Bool) → Node → Prop :=
  EventSurvives Event.body Event.message Rx.Survives

/-- The handler of a received message comes back. -/
def Event.ComesBack : Event → (Lock → Bool) → Node → Prop :=
  EventComesBack Event.message Rx.body

def freshStation : Node :=
  Node.start (initialLayer (NsoLayer.initial 1 0 1500 [wlan0] wlan0_fits) [] 3 4) .nominal

/-- A neighbour advertisement for the base station, from device 0. -/
def advertisementFrom (origin : Origin) : Rx :=
  { handler := .son
    pkt := (((allocPacket (fun _ => 0) 1500).setDstDevid 1).put nsohdrSize
      [sonMsgNbr, 0]).incLen 22
    origin := origin }

theorem freshStation_isStart : IsStart freshStation :=
  ⟨1, 0, 1500, [wlan0], by decide, [], 3, 4, _, rfl⟩

theorem freshStation_reachable : Reachable (fun _ => false) freshStation :=
  .start freshStation_isStart

end Bs

end Nrg5
