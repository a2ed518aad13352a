import Nrg5.BaseStation
import Nrg5.Device
import Nrg5.Lib.Keeps

/-!
# The parts of the calls

The calls of a node put the same parts together: they check the registration state, learn an
address or a route, forward a packet, hand a frame to an interface or a message to a network
function.  A property that passes from the parts of a call to the call is a `Parts`, and each
handler of both libraries, and each call that sends, is shown once to have such a property.

A few parts are left to the caller, because they differ between the properties of interest: what
learns of a neighbour, what waits for the registration, and what reads and writes it under its
mutex, for which `StateSection` has the single steps.  `Aside` is the case of a view that shows
neither the addresses and routes of a node nor what it has sent.
-/

namespace Nrg5

open LockProg

/-- A property of calls that the common parts have and that passes from the parts to a call. -/
structure Parts (P : {α : Type} → Prog α → Prop) : Prop where
  ofPure : ∀ {α : Type} (value : α), P (pure value)
  /-- A part that waits for a condition is left to the caller. -/
  ofHalt : ∀ {α : Type} {reason : Halt}, reason ≠ .condWait → P (.halt reason : Prog α)
  ofQuery : ∀ {α : Type} (event : Op) (answer : Node → α), event.wakes = none →
    P (query event answer)
  ofBind : ∀ {α β : Type} {first : Prog α} {next : α → Prog β}, P first →
    (∀ value, P (next value)) → P (first >>= next)
  ofCheckConnected : P checkConnected
  ofMalloc : P malloc
  ofWifiSend : ∀ iface pkt dst, P (wifiSend iface pkt dst)
  ofNsoLayerFwd : ∀ pkt, P (nsoLayerFwd pkt)
  ofSendPktToVnf : ∀ fd pkt, P (Bs.sendPktToVnf fd pkt)
  ofLearnArp : ∀ devId src, P (learnArp devId src)
  ofLearnRoute : ∀ dest nxthop iface, P (learnRoute dest nxthop iface)
  ofDownstreamDevId : ∀ src, P (downstreamDevId src)
  updatesSonFwdt : ∀ update, P (modify .table (Node.updateSonFwdt update))
  storesCredentials : ∀ size bytes,
    P (modify .layer (Node.updateLayer (NsoLayer.storeCredentials size bytes)))
  turnsIface : ∀ next : NsoLayer → Nat,
    P (modify .layer (Node.updateLayer fun layer => { layer with tsdIfIndex := next layer }))
  ofTopoReportPkt : P getTopoReportPkt

/-- The property of the single steps that the registration takes under its mutex. -/
structure StateSection (P : {α : Type} → Prog α → Prop) : Prop where
  acquires : P (acquire .state)
  releases : P (release .state)
  addsRoute : ∀ update, P (modify .table (Node.updateLocalFwdt update))
  setsGateway : ∀ gwId,
    P (modify .layer (Node.updateLayer fun layer => { layer with gwId := gwId }))
  connects : P (modify .layer (Node.updateLayer fun layer => { layer with devState := .connected }))
  promotes : P (modify .layer (Node.updateLayer fun layer =>
    { layer with devState := if layer.devState = .reg then .connected else layer.devState }))
  wakes : P (modify (.broadcastSignal .state) id)

namespace Parts

variable {P : {α : Type} → Prog α → Prop} {α : Type}

theorem ofIte (condition : Prop) [Decidable condition] {left right : Prog α} (ofLeft : P left)
    (ofRight : P right) : P (if condition then left else right) := by
  split
  · exact ofLeft
  · exact ofRight

/-- A NULL pointer ends the process. -/
theorem ofOrHalt (parts : Parts @P) {reason : Halt} (ends : reason ≠ .condWait)
    (pointer : Option α) : P (orHalt reason pointer) := by
  cases pointer with
  | none => exact parts.ofHalt ends
  | some target => exact parts.ofPure target

theorem ofIfaceAt (parts : Parts @P) (index : Nat) : P (ifaceAt index) := by
  apply parts.ofBind (parts.ofQuery _ _ rfl)
  exact fun _ => ofIte _ (parts.ofPure _) (parts.ofHalt Halt.noConfusion)

/-- The guard of a handler, whatever it drops and whatever it goes on with. -/
theorem ofWhenConnected (parts : Parts @P) (dropped : α) {body : Prog α} (ofBody : P body) :
    P (checkConnected >>= fun connected => if connected = false then pure dropped else body) :=
  parts.ofBind parts.ofCheckConnected fun _ => ofIte _ (parts.ofPure _) ofBody

/-! ## Forwarding and delivering -/

theorem ofDeliverFwd (parts : Parts @P) (pkt : Packet) : P (deliverFwd pkt) :=
  parts.ofBind (parts.ofNsoLayerFwd pkt) fun _ => parts.ofPure _

theorem ofDeliverVtsd (parts : Parts @P) (pkt : Packet) : P (Bs.deliverVtsd pkt) := by
  apply parts.ofBind (parts.ofQuery _ _ rfl)
  intro layer
  exact parts.ofBind (parts.ofSendPktToVnf _ _) fun _ => parts.ofPure _

theorem ofDeliverVson (parts : Parts @P) (pkt : Packet) : P (Bs.deliverVson pkt) := by
  apply parts.ofBind (parts.ofQuery _ _ rfl)
  intro layer
  exact parts.ofBind (parts.ofSendPktToVnf _ _) fun _ => parts.ofPure _

/-! ## The handlers -/

/-- A branch of `tsd_process_rx` or `son_process_rx`. -/
theorem ofHandled (parts : Parts @P) {condition : Prop} [Decidable condition] {result : Int}
    {handler : Prog Packet} {other : Prog (Int × Packet)} (ofHandler : P handler)
    (ofOther : P other) :
    P (if condition then do
        let sent ← handler
        pure (result, sent)
      else other) :=
  ofIte _ (parts.ofBind ofHandler fun _ => parts.ofPure _) ofOther

/-- A beacon is learned from and handed on, by either library in its own way. -/
theorem ofFwdBeaconWith (parts : Parts @P) {deliver : Packet → Prog Packet}
    (delivers : ∀ pkt, P (deliver pkt)) (pkt : Packet) (src : Option L2addr)
    (iface : Option NsoIf) : P (fwdBeaconWith deliver pkt src iface) := by
  apply parts.ofWhenConnected
  apply ofIte
  · apply parts.ofBind (parts.ofQuery _ _ rfl)
    intro gwId
    apply parts.ofBind (parts.ofOrHalt Halt.noConfusion _)
    intro srcMac
    apply parts.ofBind (parts.ofLearnArp _ _)
    intro _
    exact parts.ofBind (parts.ofLearnRoute _ _ _) fun _ => delivers _
  · apply parts.ofBind (parts.ofDownstreamDevId _)
    intro nxtId
    exact parts.ofBind (parts.ofLearnRoute _ _ _) fun _ => delivers _

theorem ofAllocFwdEntry (parts : Parts @P) (dest nxthop : DeviceId) (iface : Option NsoIf) :
    P (allocFwdEntry dest nxthop iface) := by
  apply parts.ofBind (parts.ofOrHalt Halt.noConfusion _)
  intro interface
  exact parts.ofBind parts.ofMalloc fun _ => parts.ofPure _

/-- The one handler with a section of two mutexes. -/
theorem ofProcessRegReply (parts : Parts @P) (inState : StateSection @P) (pkt : Packet)
    (src : Option L2addr) (iface : Option NsoIf) : P (Device.processRegReply pkt src iface) := by
  apply parts.ofBind (parts.ofQuery _ _ rfl)
  intro devId
  apply ofIte
  · apply parts.ofBind inState.acquires
    intro _
    apply parts.ofBind (parts.ofQuery _ _ rfl)
    intro state
    apply ofIte
    · apply parts.ofBind (parts.ofDownstreamDevId _)
      intro nxtId
      apply parts.ofBind (parts.ofAllocFwdEntry _ _ _)
      intro entry
      apply parts.ofBind (inState.addsRoute _)
      intro _
      apply parts.ofBind (inState.setsGateway _)
      intro _
      apply parts.ofBind inState.connects
      intro _
      apply parts.ofBind inState.wakes
      intro _
      exact parts.ofBind inState.releases fun _ => parts.ofPure _
    · exact parts.ofBind inState.releases fun _ => parts.ofPure _
  · exact parts.ofWhenConnected _ (parts.ofDeliverFwd pkt)

theorem ofProcessBsRegReply (parts : Parts @P) (inState : StateSection @P) (pkt : Packet) :
    P (Bs.processBsRegReply pkt) := by
  apply parts.ofBind (parts.ofQuery _ _ rfl)
  intro devId
  apply ofIte
  · apply parts.ofBind inState.acquires
    intro _
    apply parts.ofBind (parts.ofQuery _ _ rfl)
    intro state
    apply ofIte
    · apply parts.ofBind (inState.setsGateway _)
      intro _
      apply parts.ofBind inState.connects
      intro _
      apply parts.ofBind inState.wakes
      intro _
      exact parts.ofBind inState.releases fun _ => parts.ofPure _
    · exact parts.ofBind inState.releases fun _ => parts.ofPure _
  · exact parts.ofPure _

theorem ofDeviceTsd (parts : Parts @P)
    (replies : ∀ pkt src iface, P (Device.processRegReply pkt src iface)) (pkt : Packet)
    (src : Option L2addr) (iface : Option NsoIf) : P (Device.tsdProcessRx pkt src iface) := by
  apply parts.ofHandled (parts.ofFwdBeaconWith parts.ofDeliverFwd _ _ _)
  exact parts.ofHandled (replies _ _ _) (parts.ofPure _)

theorem ofBsTsd (parts : Parts @P) (replies : ∀ pkt, P (Bs.processBsRegReply pkt)) (pkt : Packet)
    (src : Option L2addr) (iface : Option NsoIf) : P (Bs.tsdProcessRx pkt src iface) := by
  apply parts.ofHandled (parts.ofFwdBeaconWith parts.ofDeliverVtsd _ _ _)
  exact parts.ofHandled (replies _) (parts.ofPure _)

theorem ofDropRoute (parts : Parts @P) (fwdEntry : Option FwdEntry) : P (dropRoute fwdEntry) := by
  cases fwdEntry with
  | none => exact parts.ofPure ()
  | some entry => exact parts.updatesSonFwdt _

/-- A rule replaces or deletes one route of the controller. -/
theorem ofApplyRule (parts : Parts @P) (rule : RtRule) : P (applyRule rule) := by
  apply parts.ofBind (parts.ofIfaceAt _)
  intro iface
  apply parts.ofBind (parts.ofQuery _ _ rfl)
  intro fwdEntry
  apply ofIte
  · apply parts.ofBind (parts.ofDropRoute _)
    intro _
    apply parts.ofBind (parts.ofAllocFwdEntry _ _ _)
    exact fun _ => parts.updatesSonFwdt _
  · exact ofIte _ (parts.ofDropRoute _) (parts.ofPure _)

/-- The rules are applied one after the other, by induction on what is left of the size. -/
theorem ofRouteLoop (parts : Parts @P) (pkt : Packet) (rtData : Nat) (size : Int) :
    P (routeLoop pkt rtData size) := by
  induction rtData, size using routeLoop.induct with
  | case1 rtData size more ih =>
      rw [routeLoop, dif_pos more]
      exact parts.ofBind (parts.ofApplyRule _) fun _ => ih
  | case2 rtData size done =>
      rw [routeLoop, dif_neg done]
      exact parts.ofPure _

/-- A route update for another node is forwarded. -/
theorem ofRouteUpdateWith (parts : Parts @P) {accept : Prog Bool} (accepts : P accept)
    (pkt : Packet) : P (routeUpdateWith accept pkt) := by
  apply parts.ofBind (parts.ofQuery _ _ rfl)
  intro devId
  apply ofIte
  · apply parts.ofBind accepts
    intro admitted
    apply ofIte
    · exact parts.ofPure _
    · apply parts.ofBind (parts.ofRouteLoop _ _ _)
      exact fun _ => ofIte _ (parts.ofPure _) (parts.ofHalt Halt.noConfusion)
  · exact parts.ofWhenConnected _ (parts.ofDeliverFwd pkt)

theorem ofDeviceAdmits (parts : Parts @P) (inState : StateSection @P) :
    P Device.admitRouteUpdate := by
  apply parts.ofBind inState.acquires
  intro _
  apply parts.ofBind inState.promotes
  intro _
  apply parts.ofBind (parts.ofQuery _ _ rfl)
  intro state
  exact parts.ofBind inState.releases fun _ => parts.ofPure _

theorem ofBsAdmits (parts : Parts @P) (inState : StateSection @P) : P Bs.admitRouteUpdate := by
  apply parts.ofBind inState.acquires
  intro _
  apply parts.ofBind (parts.ofQuery _ _ rfl)
  intro state
  exact parts.ofBind inState.releases fun _ => parts.ofPure _

/-- The address of a neighbour is learned before the neighbour. -/
theorem ofNeighborMaintain (parts : Parts @P) (learns : ∀ devId iface, P (learnNbr devId iface))
    (pkt : Packet) (src : Option L2addr) (iface : Option NsoIf) :
    P (neighborMaintain pkt src iface) := by
  apply parts.ofBind (parts.ofLearnArp _ _)
  intro _
  exact parts.ofBind (learns _ _) fun _ => parts.ofPure _

theorem ofFwdTopoReportWith (parts : Parts @P) {deliver : Packet → Prog Packet}
    (delivers : ∀ pkt, P (deliver pkt)) (pkt : Packet) : P (fwdTopoReportWith deliver pkt) :=
  parts.ofWhenConnected _ (delivers pkt)

theorem ofDeviceSon (parts : Parts @P) (admits : P Device.admitRouteUpdate)
    (learns : ∀ devId iface, P (learnNbr devId iface)) (pkt : Packet) (src : Option L2addr)
    (iface : Option NsoIf) : P (Device.sonProcessRx pkt src iface) := by
  apply parts.ofHandled (parts.ofRouteUpdateWith admits _)
  apply parts.ofHandled (parts.ofNeighborMaintain learns _ _ _)
  exact parts.ofHandled (parts.ofFwdTopoReportWith parts.ofDeliverFwd _) (parts.ofPure _)

theorem ofBsSon (parts : Parts @P) (admits : P Bs.admitRouteUpdate)
    (learns : ∀ devId iface, P (learnNbr devId iface)) (pkt : Packet) (src : Option L2addr)
    (iface : Option NsoIf) : P (Bs.sonProcessRx pkt src iface) := by
  apply parts.ofHandled (parts.ofRouteUpdateWith admits _)
  apply parts.ofHandled (parts.ofNeighborMaintain learns _ _ _)
  exact parts.ofHandled (parts.ofFwdTopoReportWith parts.ofDeliverVson _) (parts.ofPure _)

/-- A base station looks up the network function of a data packet. -/
theorem ofBsData (parts : Parts @P) (pkt : Packet) : P (Bs.dataProcessRx pkt) := by
  apply parts.ofWhenConnected
  apply parts.ofBind (parts.ofQuery _ _ rfl)
  intro layer
  apply ofIte
  · apply parts.ofBind
    · exact parts.ofBind (parts.ofOrHalt Halt.noConfusion _) fun slot => parts.ofQuery _ _ rfl
    · intro found
      apply parts.ofBind (parts.ofOrHalt Halt.noConfusion _)
      intro pos
      exact parts.ofBind (parts.ofSendPktToVnf _ _) fun _ => parts.ofPure _
  · exact parts.ofDeliverFwd pkt

/-- The thread of the VNF connections hands a message on without an address. -/
theorem ofProcessVnfRx (parts : Parts @P) (ofTsd : ∀ pkt, P (Bs.tsdProcessRx pkt none none))
    (ofSon : ∀ pkt, P (Bs.sonProcessRx pkt none none)) (pkt : Packet) :
    P (Bs.processVnfRx pkt) := by
  apply parts.ofBind (parts.ofQuery _ _ rfl)
  intro devId
  apply ofIte
  · cases dispatch pkt.proto with
    | tsd => exact parts.ofBind (ofTsd pkt) fun _ => parts.ofPure _
    | son => exact parts.ofBind (ofSon pkt) fun _ => parts.ofPure _
    | data => exact parts.ofPure _
  · exact parts.ofDeliverFwd pkt

/-! ## What a node sends -/

theorem ofPutBody (parts : Parts @P) (pkt : Packet) (body : List UInt8) : P (putBody pkt body) :=
  ofIte _ (parts.ofPure _) (parts.ofHalt Halt.noConfusion)

/-- The credentials are stored once. -/
theorem ofEnsureCredentials (parts : Parts @P) : P ensureCredentials := by
  apply parts.ofBind (parts.ofQuery _ _ rfl)
  intro layer
  apply ofIte
  · apply parts.ofBind (parts.ofQuery _ _ rfl)
    exact fun _ => ofIte _ (parts.storesCredentials _ _) (parts.ofHalt Halt.noConfusion)
  · exact parts.ofPure _

theorem ofGetRegPkt (parts : Parts @P) (dst : DeviceId) (type : UInt8) :
    P (getRegPkt dst type) := by
  apply parts.ofBind (parts.ofQuery _ _ rfl)
  intro layer
  apply parts.ofBind (parts.ofQuery _ _ rfl)
  intro junk
  apply parts.ofBind parts.ofEnsureCredentials
  intro _
  apply parts.ofBind (parts.ofQuery _ _ rfl)
  exact fun _ => ofIte _ (parts.ofPutBody _ _) (parts.ofHalt Halt.noConfusion)

theorem ofTsdBroadcastBeacons (parts : Parts @P) : P Device.tsdBroadcastBeacons := by
  apply parts.ofBind (parts.ofGetRegPkt _ _)
  intro pkt
  apply parts.ofBind (parts.ofQuery _ _ rfl)
  intro layer
  apply parts.ofBind (parts.ofIfaceAt _)
  intro slot
  apply parts.ofBind (parts.ofOrHalt Halt.noConfusion _)
  intro iface
  exact parts.ofBind (parts.ofWifiSend _ _ _) fun _ => parts.turnsIface _

theorem ofTsdBsReg (parts : Parts @P) : P Bs.tsdBsReg := by
  apply parts.ofBind
  · exact parts.ofBind (parts.ofQuery _ _ rfl) fun devId => parts.ofGetRegPkt _ _
  · exact fun pkt => parts.ofBind (parts.ofDeliverVtsd pkt) fun _ => parts.ofPure _

theorem ofDeviceTopoReport (parts : Parts @P) : P Device.sonTopoReport :=
  parts.ofBind parts.ofTopoReportPkt fun pkt =>
    parts.ofBind (parts.ofNsoLayerFwd pkt) fun _ => parts.ofPure _

theorem ofBsTopoReport (parts : Parts @P) : P Bs.sonTopoReport :=
  parts.ofBind parts.ofTopoReportPkt fun pkt =>
    parts.ofBind (parts.ofDeliverVson pkt) fun _ => parts.ofPure _

/-- The same packet is sent on one interface after the other. -/
theorem ofAdvertiseOn (parts : Parts @P) (ifaces : List NsoIf) (pkt : Packet) :
    P (advertiseOn ifaces pkt) := by
  induction ifaces generalizing pkt with
  | nil => exact parts.ofPure ()
  | cons iface rest ih => exact parts.ofBind (parts.ofWifiSend _ _ _) fun _ => ih _

theorem ofSonNbrAdvertise (parts : Parts @P) : P sonNbrAdvertise := by
  apply parts.ofBind
  · apply parts.ofBind (parts.ofQuery _ _ rfl)
    intro layer
    exact parts.ofBind (parts.ofQuery _ _ rfl) fun _ => parts.ofPure _
  · intro pkt
    exact parts.ofBind (parts.ofQuery _ _ rfl) fun ifaces => parts.ofAdvertiseOn ifaces pkt

/-- The application forwards a packet once the node is connected. -/
theorem ofNsoLayerSend (parts : Parts @P) (waits : P waitConnected) (buf : List UInt8)
    (dst : Option DeviceId) (proto : UInt16) : P (nsoLayerSend buf dst proto) := by
  apply parts.ofBind waits
  intro _
  apply parts.ofBind (parts.ofQuery _ _ rfl)
  intro layer
  apply parts.ofBind (parts.ofQuery _ _ rfl)
  intro junk
  apply parts.ofBind (parts.ofOrHalt Halt.noConfusion _)
  intro pkt
  exact parts.ofBind (parts.ofNsoLayerFwd pkt) fun _ => parts.ofPure _

end Parts

/-! ## Views that a packet passes by -/

variable {γ : Type} {allowed : Op → Prop} {permitted : Halt → Prop} {view : Node → γ}

/-- A view that shows neither what the node has learned nor what it has sent, next to operations
of which only the ones that wake somebody may be missing, and to reasons to halt of which only the
wait for a condition may be missing. -/
structure Aside (allowed : Op → Prop) (permitted : Halt → Prop) (view : Node → γ) : Prop where
  silent : ∀ event, event.wakes = none → allowed event
  ends : ∀ reason, reason ≠ .condWait → permitted reason
  heap : ∀ node addr, view { node with heap := addr } = view node
  air : ∀ node frames, view { node with air := frames } = view node
  vnfTx : ∀ node sent, view { node with vnfTx := sent } = view node
  arpt : ∀ node update, view (Node.updateArpt update node) = view node
  sonFwdt : ∀ node update, view (Node.updateSonFwdt update node) = view node
  localFwdt : ∀ node update, view (Node.updateLocalFwdt update node) = view node
  credentials : ∀ node size bytes,
    view (Node.updateLayer (NsoLayer.storeCredentials size bytes) node) = view node
  tsdIfIndex : ∀ node (next : NsoLayer → Nat),
    view (Node.updateLayer (fun layer => { layer with tsdIfIndex := next layer }) node) = view node

/-- Calls seen through a view, the operations that they may perform and the reasons for which they
may halt. -/
abbrev KeepsView (allowed : Op → Prop) (permitted : Halt → Prop) (view : Node → γ) {α : Type}
    (prog : Prog α) : Prop :=
  Keeps allowed permitted view prog

theorem keepsView_orHalt {α : Type} {reason : Halt} (isPermitted : permitted reason)
    (pointer : Option α) : KeepsView allowed permitted view (orHalt reason pointer) := by
  cases pointer with
  | none => exact keeps_halt isPermitted
  | some target => exact keeps_pure target

theorem keepsView_waitConnected (layer : allowed .layer) (waits : permitted .condWait) :
    KeepsView allowed permitted view waitConnected := by
  apply keeps_bind (keeps_acquire _)
  intro _
  apply keeps_bind (keeps_query _ layer)
  intro state
  apply keeps_bind (keeps_release _)
  exact fun _ => keeps_ite _ (keeps_pure _) (keeps_halt waits)

namespace Aside

variable (aside : Aside allowed permitted view)
include aside

theorem keeps_query {α : Type} (event : Op) (answer : Node → α) (wakes : event.wakes = none) :
    KeepsView allowed permitted view (query event answer) :=
  LockProg.keeps_query answer (aside.silent event wakes)

theorem keeps_modify (event : Op) (wakes : event.wakes = none) {update : Node → Node}
    (same : ∀ node, view (update node) = view node) :
    KeepsView allowed permitted view (modify event update) :=
  LockProg.keeps_modify (aside.silent event wakes) same

theorem keeps_checkConnected : KeepsView allowed permitted view checkConnected := by
  apply keeps_bind (keeps_acquire _)
  intro _
  apply keeps_bind (aside.keeps_query _ _ rfl)
  intro state
  exact keeps_bind (keeps_release _) fun _ => keeps_pure _

theorem keeps_malloc : KeepsView allowed permitted view malloc :=
  keeps_perform (aside.silent .malloc rfl) fun node => aside.heap node _

theorem keeps_wifiSend (iface : NsoIf) (pkt : Packet) (dst : L2addr) :
    KeepsView allowed permitted view (wifiSend iface pkt dst) := by
  apply keeps_ite
  · exact keeps_pure _
  · refine keeps_bind (keeps_perform (aside.silent .sendto rfl) fun node => ?_) fun _ =>
      keeps_pure _
    simp only [Node.sendFrame]
    split
    · rfl
    · exact aside.air node _

theorem keeps_findRoute (lock : Lock) (table : NsoLayer → FwdTable) (dst : DeviceId) :
    KeepsView allowed permitted view (findRoute lock table dst) := by
  apply keeps_bind (keeps_acquire _)
  intro _
  apply keeps_bind (aside.keeps_query _ _ rfl)
  intro fwdEntry
  exact keeps_bind (keeps_release _) fun _ => keeps_pure _

theorem keeps_fwdOut (pkt : Packet) : KeepsView allowed permitted view (fwdOut pkt) := by
  apply keeps_bind (aside.keeps_query _ _ rfl)
  intro addr
  apply keeps_bind
  · cases addr with
    | null => exact keeps_pure ()
    | wild => exact keeps_halt (aside.ends _ Halt.noConfusion)
  · exact fun _ => keeps_pure _

/-- Forwarding reads three tables and writes to the air. -/
theorem keeps_nsoLayerFwd (pkt : Packet) : KeepsView allowed permitted view (nsoLayerFwd pkt) := by
  apply keeps_bind
  · apply keeps_bind (aside.keeps_findRoute _ _ _)
    intro route
    cases route with
    | some found => exact keeps_pure _
    | none => exact aside.keeps_findRoute _ _ _
  · intro route
    cases route with
    | none => exact aside.keeps_fwdOut pkt
    | some found =>
        apply keeps_bind (keeps_acquire _)
        intro _
        apply keeps_bind (aside.keeps_query _ _ rfl)
        intro arpEntry
        cases arpEntry with
        | none => exact aside.keeps_fwdOut pkt
        | some entry =>
            apply keeps_bind (keeps_release _)
            intro _
            exact keeps_bind (aside.keeps_wifiSend _ _ _) fun _ => keeps_pure _

/-- Learning an address writes to the ARP table only. -/
theorem keeps_learnArp (devId : DeviceId) (src : Option L2addr) :
    KeepsView allowed permitted view (learnArp devId src) := by
  have adds : ∀ entry, KeepsView allowed permitted view (arpTableAdd entry) := fun entry =>
    keeps_bind (keeps_acquire _) fun _ =>
      keeps_bind (aside.keeps_modify _ rfl fun node => aside.arpt node _) fun _ => keeps_release _
  apply keeps_bind (keeps_acquire _)
  intro _
  apply keeps_bind (aside.keeps_query _ _ rfl)
  intro arpEntry
  cases arpEntry with
  | some entry =>
      exact keeps_bind (aside.keeps_modify _ rfl fun node => aside.arpt node _) fun _ =>
        keeps_release _
  | none =>
      apply keeps_bind (keeps_release _)
      intro _
      apply keeps_bind (keepsView_orHalt (aside.ends _ Halt.noConfusion) _)
      intro mac
      exact keeps_bind aside.keeps_malloc fun addr => adds _

/-- Learning a route writes to the temporary routes only. -/
theorem keeps_learnRoute (dest nxthop : DeviceId) (iface : Option NsoIf) :
    KeepsView allowed permitted view (learnRoute dest nxthop iface) := by
  apply keeps_bind (keeps_acquire _)
  intro _
  apply keeps_bind (aside.keeps_query _ _ rfl)
  intro fwdEntry
  cases fwdEntry with
  | some entry =>
      exact keeps_bind (aside.keeps_modify _ rfl fun node => aside.localFwdt node _)
        fun _ => keeps_release _
  | none =>
      apply keeps_bind (keeps_release _)
      intro _
      apply keeps_bind
      · apply keeps_bind (keepsView_orHalt (aside.ends _ Halt.noConfusion) _)
        intro interface
        exact keeps_bind aside.keeps_malloc fun _ => keeps_pure _
      · exact fun entry => aside.keeps_modify _ rfl fun node => aside.localFwdt node _

theorem keeps_downstreamDevId (src : Option L2addr) :
    KeepsView allowed permitted view (downstreamDevId src) := by
  apply keeps_bind (keeps_acquire _)
  intro _
  apply keeps_bind (keepsView_orHalt (aside.ends _ Halt.noConfusion) _)
  intro mac
  apply keeps_bind (aside.keeps_query _ _ rfl)
  intro arpEntry
  apply keeps_bind (keepsView_orHalt (aside.ends _ Halt.noConfusion) _)
  intro entry
  exact keeps_bind (keeps_release _) fun _ => keeps_pure _

theorem keeps_getTopoReportPkt : KeepsView allowed permitted view getTopoReportPkt := by
  apply keeps_bind (aside.keeps_query _ _ rfl)
  intro layer
  apply keeps_bind (aside.keeps_query _ _ rfl)
  intro junk
  apply keeps_bind (keeps_acquire _)
  intro _
  apply keeps_bind (aside.keeps_query _ _ rfl)
  intro locked
  apply keeps_bind (keepsView_orHalt (aside.ends _ Halt.noConfusion) _)
  intro body
  apply keeps_bind (keeps_release _)
  exact fun _ => keeps_ite _ (keeps_pure _) (keeps_halt (aside.ends _ Halt.noConfusion))

/-- The calls that pass a view by keep it. -/
theorem parts : Parts (@KeepsView γ allowed permitted view) where
  ofPure := keeps_pure
  ofHalt := fun ends => keeps_halt (aside.ends _ ends)
  ofQuery := aside.keeps_query
  ofBind := keeps_bind
  ofCheckConnected := aside.keeps_checkConnected
  ofMalloc := aside.keeps_malloc
  ofWifiSend := aside.keeps_wifiSend
  ofNsoLayerFwd := aside.keeps_nsoLayerFwd
  ofSendPktToVnf := fun _ _ =>
    keeps_perform (aside.silent .send rfl) fun node => aside.vnfTx node _
  ofLearnArp := aside.keeps_learnArp
  ofLearnRoute := aside.keeps_learnRoute
  ofDownstreamDevId := aside.keeps_downstreamDevId
  updatesSonFwdt := fun _ => aside.keeps_modify _ rfl fun node => aside.sonFwdt node _
  storesCredentials := fun _ _ => aside.keeps_modify _ rfl fun node => aside.credentials node _ _
  turnsIface := fun _ => aside.keeps_modify _ rfl fun node => aside.tsdIfIndex node _
  ofTopoReportPkt := aside.keeps_getTopoReportPkt

end Aside

end Nrg5
