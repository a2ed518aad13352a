import Nrg5.Survival.Basic

/-!
# Messages that a device survives

The receive threads of a device hand every message to one of three handlers.  A
handler comes back exactly when the message meets `Rx.Survives`; the messages that
do not are the ones that end the process, hang the thread or read an interface that
does not exist.
-/

namespace Nrg5

namespace Device

open LockProg

/-! ## Runs of a device -/

/-- A message that a receive thread hands to a handler. -/
structure Rx where
  handler : Handler
  pkt : Packet
  src : L2addr
  iface : NsoIf

def Rx.body (rx : Rx) : Prog Packet :=
  match rx.handler with
  | .tsd => do
      let (_, sent) ← tsdProcessRx rx.pkt (some rx.src) (some rx.iface)
      pure sent
  | .son => do
      let (_, sent) ← sonProcessRx rx.pkt (some rx.src) (some rx.iface)
      pure sent
  | .data => dataProcessRx rx.pkt

/-- What happens to a device: the surroundings change, a message arrives, the
transmission thread sends, or the application calls. -/
inductive Event : Type where
  | environment (env : Env)
  | receive (rx : Rx)
  | beacon
  | topoReport
  | advertise
  | send (buf : List UInt8) (dst : Option DeviceId) (proto : UInt16)
  | recv (size : Nat)

def Event.body : Event → Prog Unit
  | .environment env => modify .layer fun node => { node with env := env }
  | .receive rx => do let _ ← rx.body
  | .beacon => tsdBroadcastBeacons
  | .topoReport => sonTopoReport
  | .advertise => sonNbrAdvertise
  | .send buf dst proto => do let _ ← nsoLayerSend buf dst proto
  | .recv size => do let _ ← nsoLayerRecv size

/-- The node that the initialisation leaves. -/
def IsStart (node : Node) : Prop :=
  ∃ devId gwId mtu ifaces fit env,
    node = Node.start (NsoLayer.initial devId gwId mtu ifaces fit) env

/-- The mutexes and the nodes of the runs of a device. -/
def Reachable : (Lock → Bool) → Node → Prop := Sequence Event.body IsStart

theorem keepsTables_rx (rx : Rx) : KeepsTables rx.body := by
  rcases rx with ⟨handler, pkt, src, iface⟩
  cases handler with
  | tsd => exact keepsTables_bind (keepsTables_deviceTsd _ _ _) fun _ => keepsTables_pure _
  | son => exact keepsTables_bind (keepsTables_deviceSon _ _ _) fun _ => keepsTables_pure _
  | data => exact keepsTables_dataProcessRx pkt

theorem keepsTables_event (event : Event) : KeepsTables event.body := by
  have parts := parts_keepsTables
  cases event with
  | environment env => exact keepsTables_modify _ _
  | receive rx => exact keepsTables_bind (keepsTables_rx rx) fun _ => keepsTables_pure _
  | beacon => exact parts.ofTsdBroadcastBeacons
  | topoReport => exact parts.ofDeviceTopoReport
  | advertise => exact parts.ofSonNbrAdvertise
  | send buf dst proto =>
      have sends := parts.ofNsoLayerSend keepsTables_waitConnected buf dst proto
      exact keepsTables_bind sends fun _ => keepsTables_pure _
  | recv size => exact keepsTables_bind (keepsTables_nsoLayerRecv _) fun _ => keepsTables_pure _

/-- In every run only the state mutex and the ARP mutex can stay behind. -/
theorem tablesFree_reachable {held : Lock → Bool} {node : Node}
    (reachable : Reachable held node) : TablesFree held := by
  apply Sequence.invariant _ _ reachable
  · exact fun _ _ => ⟨rfl, rfl, rfl, rfl⟩
  · exact fun event held node free => (keepsTables_event event).keeps held node free

/-! ## The messages that come back -/

/-- A beacon at a connected device: its next hop is known, where a relayed beacon also
needs the ARP entry of the device behind its source address. -/
def SurvivesBeacon (held : Lock → Bool) (node : Node) (pkt : Packet) (src : L2addr) : Prop :=
  held .state = false ∧
    (node.nsol.devState = .connected →
      held .arpt = false ∧
      (isBroadcastDevId pkt.dstDevid = true →
        FwdReturns held node
          (node.nsol.nextHopAfter pkt.srcDevid pkt.srcDevid node.nsol.gwId)
          fun nxt => node.nsol.Knows nxt ∨ nxt = pkt.srcDevid) ∧
      (isBroadcastDevId pkt.dstDevid = false →
        ∃ entry, ArpTable.lookupFromL2addr src node.nsol.arpt = some entry ∧
          FwdReturns held node
            (node.nsol.nextHopAfter pkt.srcDevid entry.devId pkt.dstDevid)
            node.nsol.Knows))

/-- A reply: the one that registers the device needs the ARP entry of its sender. -/
def SurvivesReply (held : Lock → Bool) (node : Node) (pkt : Packet) (src : L2addr) : Prop :=
  (pkt.dstDevid = node.nsol.devId →
    held .state = false ∧
      (node.nsol.devState = .unreg → pkt.byteAt (nsohdrSize + 1) = nrg5RegSuccess →
        held .arpt = false ∧ (ArpTable.lookupFromL2addr src node.nsol.arpt).isSome = true)) ∧
  (pkt.dstDevid ≠ node.nsol.devId → SurvivesFwd held node pkt)

/-- A data packet: one for another device is forwarded. -/
def SurvivesData (held : Lock → Bool) (node : Node) (pkt : Packet) : Prop :=
  held .state = false ∧
    (node.nsol.devState = .connected → pkt.dstDevid ≠ node.nsol.devId →
      FwdReturns held node (node.nsol.nextHop pkt.dstDevid) node.nsol.Knows)

/-- The messages that come back; a message of another type always does. -/
def Rx.Survives (rx : Rx) (held : Lock → Bool) (node : Node) : Prop :=
  match rx.handler with
  | .tsd =>
      (rx.pkt.msgType = tsdMsgReg → SurvivesBeacon held node rx.pkt rx.src) ∧
        (rx.pkt.msgType = tsdMsgRegReply → SurvivesReply held node rx.pkt rx.src)
  | .son =>
      (rx.pkt.msgType = sonMsgRt → SurvivesRoutes held node rx.pkt) ∧
        (rx.pkt.msgType = sonMsgNbr → held .arpt = false) ∧
        (rx.pkt.msgType = sonMsgTopo → SurvivesFwd held node rx.pkt)
  | .data => SurvivesData held node rx.pkt

section Handlers

variable {held : Lock → Bool} {node : Node} {pkt : Packet} {src : L2addr} {iface : NsoIf}

theorem fwdBeacon_returns (free : TablesFree held) :
    (fwdBeacon pkt (some src) (some iface)).wp ifacesInRange
        { post := fun _ _ _ => True } held node ↔ SurvivesBeacon held node pkt src := by
  rw [fwdBeacon, wp_fwdBeaconWith_air tolerant_ifacesInRange free]
  simp only [SurvivesBeacon]
  cases held .state with
  | true => simp
  | false =>
    by_cases connected : node.nsol.devState = .connected
    · cases isHeld : held .arpt with
      | true => simp [connected]
      | false =>
        cases isBroadcastDevId pkt.dstDevid with
        | true =>
            simp only [connected, ne_eq, not_true_eq_false, if_false, Bool.false_eq_true,
              if_true, deliverFwd_returns free, Packet.dstDevid_setDstDevid,
              nextHop_learnedRoute, nextHopAfter_learnedArp, true_and, forall_const,
              FwdReturns, env_learnedRoute, env_learnedArp, knows_learnedRoute,
              knows_learnedArp, Bool.true_eq_false, false_implies, and_true]
        | false =>
            simp only [connected, ne_eq, not_true_eq_false, if_false, Bool.false_eq_true,
              true_and, forall_const, false_implies]
            cases ArpTable.lookupFromL2addr src node.nsol.arpt with
            | none => simp
            | some entry =>
                simp [deliverFwd_returns free, nextHop_learnedRoute, FwdReturns,
                  knows_learnedRoute]
    · simp [connected]

theorem processRegReply_returns (free : TablesFree held) :
    (processRegReply pkt (some src) (some iface)).wp ifacesInRange
        { post := fun _ _ _ => True } held node ↔ SurvivesReply held node pkt src := by
  rw [wp_processRegReply tolerant_ifacesInRange]
  simp only [SurvivesReply]
  by_cases forMe : pkt.dstDevid = node.nsol.devId
  · rw [if_pos forMe]
    simp only [forMe, forall_const, ne_eq, not_true_eq_false, false_implies, and_true]
    cases held .state with
    | true => simp
    | false =>
      by_cases joins : node.nsol.devState = .unreg ∧
          pkt.byteAt (nsohdrSize + 1) = nrg5RegSuccess
      · simp only [joins]
        cases held .arpt with
        | true => simp
        | false => cases ArpTable.lookupFromL2addr src node.nsol.arpt <;> simp
      · rw [if_neg (by simp), if_neg joins]
        simp only [true_and, true_iff]
        exact fun isUnreg success => absurd ⟨isUnreg, success⟩ joins
  · rw [if_neg forMe, whenConnected_returns free]
    simp [forMe]

theorem routeUpdate_returns (free : TablesFree held) :
    (routeUpdate pkt).wp ifacesInRange { post := fun _ _ _ => True } held node ↔
      SurvivesRoutes held node pkt :=
  routeUpdateWith_returns free rfl
    fun ending => wp_admitRouteUpdate tolerant_ifacesInRange ending

theorem dataProcessRx_returns (free : TablesFree held) :
    (dataProcessRx pkt).wp ifacesInRange { post := fun _ _ _ => True } held node ↔
      SurvivesData held node pkt := by
  rw [wp_dataProcessRx tolerant_ifacesInRange free]
  simp only [SurvivesData, deliverFwd_returns free]
  cases held .state with
  | true => simp
  | false =>
    by_cases connected : node.nsol.devState = .connected
    · by_cases forMe : pkt.dstDevid = node.nsol.devId
      · simp [connected, forMe]
      · simp [connected, forMe]
    · simp [connected]

theorem tsdProcessRx_returns (free : TablesFree held) :
    (tsdProcessRx pkt (some src) (some iface)).wp ifacesInRange
        { post := fun _ _ _ => True } held node ↔
      (pkt.msgType = tsdMsgReg → SurvivesBeacon held node pkt src) ∧
        (pkt.msgType = tsdMsgRegReply → SurvivesReply held node pkt src) := by
  simp only [tsdProcessRx, wp_ite, wp_bind, wp_pure, fwdBeacon_returns free,
    processRegReply_returns free]
  by_cases isReg : pkt.msgType = tsdMsgReg
  · simp [isReg, tsdMsgReg, tsdMsgRegReply]
  · by_cases isReply : pkt.msgType = tsdMsgRegReply
    · simp [isReply, tsdMsgReg, tsdMsgRegReply]
    · simp [isReg, isReply]

theorem sonProcessRx_returns (free : TablesFree held) :
    (sonProcessRx pkt (some src) (some iface)).wp ifacesInRange
        { post := fun _ _ _ => True } held node ↔
      (pkt.msgType = sonMsgRt → SurvivesRoutes held node pkt) ∧
        (pkt.msgType = sonMsgNbr → held .arpt = false) ∧
        (pkt.msgType = sonMsgTopo → SurvivesFwd held node pkt) := by
  simp only [sonProcessRx, wp_ite, wp_bind, wp_pure, routeUpdate_returns free,
    wp_neighborMaintain_air tolerant_ifacesInRange free, fwdTopoReport,
    wp_fwdTopoReportWith tolerant_ifacesInRange, whenConnected_returns free]
  by_cases isRt : pkt.msgType = sonMsgRt
  · simp [isRt, sonMsgRt, sonMsgNbr, sonMsgTopo]
  · by_cases isNbr : pkt.msgType = sonMsgNbr
    · simp [isNbr, sonMsgRt, sonMsgNbr, sonMsgTopo]
    · by_cases isTopo : pkt.msgType = sonMsgTopo
      · simp [isTopo, sonMsgRt, sonMsgNbr, sonMsgTopo]
      · simp [isRt, isNbr, isTopo]

theorem rx_returns_iff (free : TablesFree held) (rx : Rx) :
    Returns rx.body held node ↔ rx.Survives held node := by
  rw [returns_iff_wp]
  rcases rx with ⟨handler, pkt, src, iface⟩
  cases handler with
  | tsd =>
      simp only [Rx.body, Rx.Survives, wp_bind, wp_pure]
      exact tsdProcessRx_returns free
  | son =>
      simp only [Rx.body, Rx.Survives, wp_bind, wp_pure]
      exact sonProcessRx_returns free
  | data => exact dataProcessRx_returns free

end Handlers

/-! ## Runs -/

/-- The message of an event, where it is one. -/
def Event.message : Event → Option Rx
  | .receive rx => some rx
  | _ => none

theorem Event.body_of_message (event : Event) (rx : Rx) (isMessage : event.message = some rx) :
    event.body = (do let _ ← rx.body) := by
  cases event with
  | receive received =>
      rcases Option.some.inj isMessage with rfl
      rfl
  | _ => simp [Event.message] at isMessage

/-- An event of a run in which every message meets its condition and nothing else ends
the process. -/
def Event.Survives : Event → (Lock → Bool) → Node → Prop :=
  EventSurvives Event.body Event.message Rx.Survives

/-- The handler of a received message comes back. -/
def Event.ComesBack : Event → (Lock → Bool) → Node → Prop :=
  EventComesBack Event.message Rx.body

/-- A message comes back to the receive loop exactly when it meets its condition, in
every state of every run; and a run whose messages all meet it brings them all back. -/
theorem rx_survives_device_iff (held : Lock → Bool) (node : Node) :
    (Reachable held node → ∀ rx : Rx, Returns rx.body held node ↔ rx.Survives held node) ∧
    (IsStart node → ∀ events,
      EachCall Event.body Event.Survives events (fun _ => false) node →
        EachCall Event.body Event.ComesBack events (fun _ => false) node) := by
  have single : ∀ held node, Reachable held node → ∀ rx : Rx,
      (Returns rx.body held node ↔ rx.Survives held node) :=
    fun held node reachable rx => rx_returns_iff (tablesFree_reachable reachable) rx
  exact ⟨single held node, fun isStart _ meets =>
    eachCall_comesBack Event.body_of_message single isStart meets⟩

/-! ### A device before its first advertisement -/

def freshDevice : Node := Node.start (NsoLayer.initial 1 0 1500 [wlan0] wlan0_fits) .nominal

/-- A message of a control protocol for device 1. -/
def controlRx (handler : Handler) (type answer : UInt8) : Rx :=
  { handler := handler
    pkt := (((allocPacket (fun _ => 0) 1500).setDstDevid 1).put nsohdrSize
      [type, answer]).incLen 22
    src := [2, 0, 0, 0, 0, 9]
    iface := wlan0 }

theorem freshDevice_isStart : IsStart freshDevice := ⟨1, 0, 1500, [wlan0], by decide, _, rfl⟩

theorem freshDevice_reachable : Reachable (fun _ => false) freshDevice :=
  .start freshDevice_isStart

/-- The process ends at a successful reply from an address without an ARP entry. -/
theorem reply_before_advertisement :
    Reachable (fun _ => false) freshDevice ∧
      (controlRx .tsd tsdMsgRegReply nrg5RegSuccess).pkt.byteLen = 22 ∧
      ¬ Returns (controlRx .tsd tsdMsgRegReply nrg5RegSuccess).body (fun _ => false)
        freshDevice := by
  refine ⟨freshDevice_reachable, rfl, ?_⟩
  intro returns
  have survives := (rx_returns_iff (tablesFree_reachable freshDevice_reachable) _).mp returns
  have registers := survives.2 (by decide)
  have known := (registers.1 (by decide)).2 rfl (by decide)
  exact absurd known.2 (by decide)

theorem advertisement_survives :
    Returns (controlRx .son sonMsgNbr 0).body (fun _ => false) freshDevice ∧
      EachCall Event.body Event.ComesBack [.receive (controlRx .son sonMsgNbr 0)]
        (fun _ => false) freshDevice := by
  have survives : (controlRx .son sonMsgNbr 0).Survives (fun _ => false) freshDevice := by
    refine ⟨?_, fun _ => rfl, ?_⟩
    · exact fun isRt => absurd isRt (by decide)
    · exact fun isTopo => absurd isTopo (by decide)
  exact ⟨((rx_survives_device_iff _ _).1 freshDevice_reachable _).mpr survives,
    (rx_survives_device_iff (fun _ => false) _).2 freshDevice_isStart _ ⟨survives, trivial⟩⟩

end Device

end Nrg5
