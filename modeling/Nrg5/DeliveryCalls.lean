import Nrg5.Delivery
import Nrg5.Survival.Device

/-!
# The calls behind the sections

A section of `Delivery` is the part of the code that matters to a wait.  Here every call of a
device is taken apart into sections: the call of a receive thread for any message, what the
transmission thread sends, and the two calls of the application.  The sections leave what the call
leaves, they wake the waiters of a condition exactly when the call broadcasts its signal, and they
end at a wait whose condition does not hold exactly when the call waits.

Most calls are one section that no wait notices, which is seen from their parts.  The others are a
reply that makes the device connected, a route update for it, a data packet for it and
`nso_layer_recv`.
-/

namespace Nrg5

namespace Delivery

open LockProg

variable {α β : Type} {prog : Prog α} {held : Lock → Bool} {node : Node} {delivery : Delivery}
  {pkt : Packet} {src : L2addr} {iface : NsoIf}

/-! ## Calls that no wait notices -/

/-- What the waits look at. -/
def watched (node : Node) : DevState × List Packet := (node.nsol.devState, node.nsol.dataPq)

/-- A call that changes neither the registration nor the queue, that wakes nobody, and that does
not wait. -/
abbrev Unnoticed {α : Type} (prog : Prog α) : Prop :=
  KeepsView (fun event => event.wakes = none) (fun reason => reason ≠ .condWait) watched prog

theorem watched_aside :
    Aside (fun event => event.wakes = none) (fun reason => reason ≠ .condWait) watched where
  silent := fun _ wakes => wakes
  ends := fun _ other => other
  heap := fun _ _ => rfl
  air := fun _ _ => rfl
  vnfTx := fun _ _ => rfl
  arpt := fun _ _ => rfl
  sonFwdt := fun _ _ => rfl
  localFwdt := fun _ _ => rfl
  credentials := fun _ _ _ => rfl
  tsdIfIndex := fun _ _ => rfl

theorem parts_unnoticed : Parts @Unnoticed := watched_aside.parts

theorem unnoticed_learnNbr (devId : DeviceId) (iface : Option NsoIf) :
    Unnoticed (learnNbr devId iface) := by
  apply keeps_bind (keeps_acquire _)
  intro _
  apply keeps_bind (watched_aside.keeps_query _ _ rfl)
  intro nbrEntry
  cases nbrEntry with
  | some entry =>
      exact keeps_bind (watched_aside.keeps_modify _ rfl fun _ => rfl) fun _ => keeps_release _
  | none =>
      apply keeps_bind (keeps_release _)
      intro _
      apply keeps_bind parts_unnoticed.ofMalloc
      intro addr
      apply keeps_bind (keeps_acquire _)
      intro _
      exact keeps_bind (watched_aside.keeps_modify _ rfl fun _ => rfl) fun _ => keeps_release _

theorem not_broadcasts (wakes : ∀ entry ∈ (prog.exec held node).events, entry.1.wakes = none)
    (signal : Signal) : ¬ Broadcasts signal prog held node := by
  rintro ⟨state, isEvent⟩
  have silent := wakes _ isEvent
  simp [Op.wakes] at silent

/-- A run that wakes nobody and does not wait, with what the waits find at its end. -/
def Quiet (prog : Prog α) (held : Lock → Bool) (node : Node) (seen : DevState × List Packet) :
    Prop :=
  prog.wp (fun event _ => event.wakes = none)
    (.haltsBy (fun reason => reason ≠ .condWait) fun after => watched after = seen) held node

theorem Quiet.silent {seen : DevState × List Packet} (quiet : Quiet prog held node seen) :
    ∀ signal, ¬ Broadcasts signal prog held node :=
  not_broadcasts ((wp_iff_exec _ _).mp quiet).1

/-! ## Sections of one thread -/

/-- The sections that a thread performs on its own, with the conditions whose waiters it wakes. -/
inductive Alone (first : DeliveryAt) (before : Delivery) :
    DeliveryAt → Delivery → (Signal → Prop) → Prop where
  | nothing : Alone first before first before fun _ => False
  | further {position next : DeliveryAt} {delivery after : Delivery} {woken : Signal → Prop}
      {wakes : Signal → Bool} (earlier : Alone first before position delivery woken)
      (ready : ∀ condition, waitsFor position = some condition → Holds condition delivery)
      (performs : Section position delivery next after wakes) :
      Alone first before next after fun signal => woken signal ∨ wakes signal = true

/-- The position is a wait whose condition does not hold. -/
def Waits (position : DeliveryAt) (delivery : Delivery) : Prop :=
  ∃ signal, waitsFor position = some signal ∧ ¬ Holds signal delivery

/-- How a call ends that has come to a position: it waits there, or it does not wait and the
position is no wait. -/
def endsAt (position : DeliveryAt) (after : Delivery) : Ending Node Lock Halt α :=
  { post := fun _ _ last => last = after.node ∧ position = .idle
    halt := fun reason _ last => last = after.node ∧
      if reason = .condWait then Waits position after else position = .idle
    block := fun _ _ last => last = after.node ∧ position = .idle }

/-- A call is made of sections: they leave what it leaves, wake whom it wakes, and end at a wait
where it waits. -/
def InSections (prog : Prog α) (held : Lock → Bool) (delivery : Delivery) : Prop :=
  ∃ position after woken, Alone .idle delivery position after woken ∧
    prog.wp (fun _ _ => True) (endsAt position after) held delivery.node ∧
    ∀ signal, Broadcasts signal prog held delivery.node ↔ woken signal

/-- Behind its sections a call may do what no wait notices. -/
theorem inSections_of_ends {mid : Delivery} {woken : Signal → Prop}
    (sections : Alone .idle delivery .idle mid woken)
    (ends : prog.wp (fun _ _ => True)
      (.haltsBy (fun reason => reason ≠ .condWait) fun after => watched after = watched mid.node)
      held delivery.node)
    (signals : ∀ signal, Broadcasts signal prog held delivery.node ↔ woken signal) :
    InSections prog held delivery := by
  rcases (wp_haltsBy_iff _ _).mp ends with ⟨halts, seen⟩
  have leaves : prog.wp (fun _ _ => True) (.haltsBy (fun reason => reason ≠ .condWait)
      fun after => after = (prog.exec held delivery.node).state) held delivery.node :=
    (wp_haltsBy_iff _ _).mpr ⟨halts, rfl⟩
  rw [watched, watched, Prod.mk.injEq] at seen
  refine ⟨.idle, _, _, .further sections ?_ (.elsewhere _ seen.1 seen.2), ?_, ?_⟩
  · intro condition waits
    simp [waitsFor] at waits
  · apply wp_mono _ _ _ leaves
    · exact fun _ _ _ same => ⟨same, rfl⟩
    · exact fun _ _ _ halted => ⟨halted.2, (if_neg halted.1).mpr rfl⟩
    · exact fun _ _ _ same => ⟨same, rfl⟩
  · intro signal
    simp [signals, noSignal]

theorem inSections_of_quiet (quiet : Quiet prog held delivery.node (watched delivery.node)) :
    InSections prog held delivery :=
  inSections_of_ends .nothing (wp_allow quiet) fun signal => iff_of_false (quiet.silent signal) id

theorem inSections_of_unnoticed (unnoticed : Unnoticed prog) : InSections prog held delivery :=
  inSections_of_quiet (unnoticed.kept held delivery.node)

/-- What a call answers does not matter. -/
theorem InSections.answer {next : α → Prog β}
    (answers : ∀ value, ∃ result, next value = pure result)
    (inSections : InSections prog held delivery) : InSections (prog >>= next) held delivery := by
  rcases inSections with ⟨position, after, woken, sections, ends, signals⟩
  refine ⟨position, after, woken, sections, (wp_bind_pure answers).mpr ends, fun signal => ?_⟩
  rw [← signals, broadcasts_iff, broadcasts_iff]
  exact not_congr (wp_bind_pure answers)

theorem inSections_handled {condition : Prop} [Decidable condition] {result : Int}
    {handler : Prog Packet} {other : Prog (Int × Packet)}
    (ofHandler : condition → InSections handler held delivery)
    (ofOther : ¬ condition → InSections other held delivery) :
    InSections (if condition then do
        let sent ← handler
        pure (result, sent)
      else other) held delivery := by
  split
  · rename_i holds
    exact (ofHandler holds).answer fun sent => ⟨(result, sent), rfl⟩
  · rename_i fails
    exact ofOther fails

/-! ## The handlers of a device -/

/-- What a reply meets where it makes the device connected. -/
structure Joining (pkt : Packet) (src : L2addr) (held : Lock → Bool) (node : Node) : Prop where
  forMe : pkt.dstDevid = node.nsol.devId
  stateFree : held .state = false
  unreg : node.nsol.devState = .unreg
  success : pkt.byteAt (nsohdrSize + 1) = nrg5RegSuccess
  arptFree : held .arpt = false
  upstream : (ArpTable.lookupFromL2addr src node.nsol.arpt).isSome = true

theorem processRegReply_quiet (notJoining : ¬ Joining pkt src held node) :
    Quiet (Device.processRegReply pkt (some src) (some iface)) held node (watched node) := by
  rw [Quiet, Device.processRegReply, wp_bind, wp_query]
  refine ⟨rfl, ?_⟩
  dsimp only
  rw [wp_ite, ite_prop_iff_and]
  refine ⟨fun forMe => ?_, fun _ => ?_⟩
  · rw [wp_bind, wp_acquire]
    cases stateFree : held .state with
    | true => rfl
    | false =>
        simp only [Bool.false_eq_true, if_false, wp_bind, wp_query, wp_ite]
        refine ⟨rfl, ?_⟩
        split
        · rename_i joins
          -- The sections behind this point belong to a reply that joins.
          cases arptFree : held .arpt with
          | true => simp [downstreamDevId, arptFree, Ending.haltsBy]
          | false =>
              cases upstream : ArpTable.lookupFromL2addr src node.nsol.arpt with
              | none =>
                  simp [downstreamDevId, arptFree, orHalt, upstream, Op.wakes, Ending.haltsBy]
              | some entry =>
                  exact absurd ⟨forMe, stateFree, joins.1, joins.2, arptFree, by rw [upstream]; rfl⟩
                    notJoining
        · rfl
  · exact (parts_unnoticed.ofWhenConnected _ (parts_unnoticed.ofDeliverFwd pkt)).kept held node

theorem processRegReply_inSections (isTsd : dispatch pkt.proto = .tsd)
    (isReply : pkt.msgType = tsdMsgRegReply) :
    InSections (Device.processRegReply pkt (some src) (some iface)) held delivery := by
  by_cases joining : Joining pkt src held delivery.node
  · rcases joining with ⟨forMe, stateFree, unreg, success, arptFree, known⟩
    rcases Option.isSome_iff_exists.mp known with ⟨entry, upstream⟩
    have signals := (@processRegReply_joins held delivery.node pkt src iface entry stateFree
      arptFree forMe unreg success upstream).2
    refine ⟨.idle, _, _, .further .nothing (by simp [waitsFor])
      (.join iface isTsd isReply forMe unreg success upstream), ?_, fun signal => by simp [signals]⟩
    rw [wp_processRegReply tolerant_true, if_pos forMe, stateFree, if_neg Bool.false_ne_true,
      if_pos ⟨unreg, success⟩, arptFree, if_neg Bool.false_ne_true, upstream]
    exact ⟨rfl, rfl⟩
  · exact inSections_of_quiet (processRegReply_quiet joining)

theorem tsdProcessRx_inSections (isTsd : dispatch pkt.proto = .tsd) :
    InSections (Device.tsdProcessRx pkt (some src) (some iface)) held delivery := by
  apply inSections_handled
  · intro _
    exact inSections_of_unnoticed
      (parts_unnoticed.ofFwdBeaconWith parts_unnoticed.ofDeliverFwd _ _ _)
  · intro _
    apply inSections_handled
    · exact fun isReply => processRegReply_inSections isTsd isReply
    · exact fun _ => inSections_of_unnoticed (parts_unnoticed.ofPure _)

/-- A route update for the device leaves the intermediate state first. -/
theorem routeUpdate_quiet (forMe : pkt.dstDevid = node.nsol.devId)
    (stateFree : held .state = false) :
    Quiet (Device.routeUpdate pkt) held node (watched node.promoted) := by
  have parts := parts_unnoticed
  have behind : Unnoticed (do
      let left ← routeLoop pkt (nsohdrSize + 1) (pkt.byteLen - nsohdrSize - 1)
      if left = 0 then pure pkt else .halt .assertion : Prog Packet) :=
    parts.ofBind (parts.ofRouteLoop _ _ _) fun _ =>
      Parts.ofIte _ (parts.ofPure _) (parts.ofHalt Halt.noConfusion)
  rw [Quiet, Device.routeUpdate, routeUpdateWith, wp_bind, wp_query]
  refine ⟨rfl, ?_⟩
  dsimp only
  rw [wp_ite, if_pos forMe, wp_bind]
  simp only [Device.admitRouteUpdate, wp_bind, wp_acquire, stateFree, Bool.false_eq_true, if_false,
    wp_modify, wp_query, wp_release, wp_pure, update_release _ stateFree]
  refine ⟨rfl, rfl, ?_⟩
  rw [wp_ite]
  split
  · rfl
  · exact behind.kept held node.promoted

theorem routeUpdate_inSections : InSections (Device.routeUpdate pkt) held delivery := by
  by_cases forMe : pkt.dstDevid = delivery.node.nsol.devId
  · cases stateFree : held .state with
    | true =>
        apply inSections_of_quiet
        rw [Quiet, Device.routeUpdate, routeUpdateWith, wp_bind, wp_query]
        refine ⟨rfl, ?_⟩
        dsimp only
        rw [wp_ite, if_pos forMe, wp_bind, Device.admitRouteUpdate, wp_bind, wp_acquire,
          if_pos stateFree]
        rfl
    | false =>
        have quiet := routeUpdate_quiet forMe stateFree
        refine inSections_of_ends (.further .nothing (by simp [waitsFor]) (.admitRoutes delivery))
          (wp_allow quiet) fun signal => ?_
        simp [quiet.silent, noSignal]
  · apply inSections_of_quiet
    rw [Quiet, Device.routeUpdate, routeUpdateWith, wp_bind, wp_query]
    refine ⟨rfl, ?_⟩
    dsimp only
    rw [wp_ite, if_neg forMe]
    exact (parts_unnoticed.ofWhenConnected _ (parts_unnoticed.ofDeliverFwd pkt)).kept held _

theorem sonProcessRx_inSections (src : Option L2addr) (iface : Option NsoIf) :
    InSections (Device.sonProcessRx pkt src iface) held delivery := by
  have parts := parts_unnoticed
  apply inSections_handled
  · exact fun _ => routeUpdate_inSections
  · intro _
    apply inSections_handled
    · intro _
      exact inSections_of_unnoticed (parts.ofNeighborMaintain unnoticed_learnNbr _ _ _)
    · intro _
      exact inSections_of_unnoticed (parts.ofHandled
        (parts.ofFwdTopoReportWith parts.ofDeliverFwd pkt) (parts.ofPure _))

/-- A data packet for the device, when it is connected, is received and enqueued. -/
theorem dataProcessRx_inSections (free : TablesFree held) (isData : dispatch pkt.proto = .data) :
    InSections (Device.dataProcessRx pkt) held delivery := by
  cases stateFree : held .state with
  | true =>
      apply inSections_of_quiet
      rw [Quiet, Device.dataProcessRx, wp_bind, checkConnected, wp_bind, wp_acquire,
        if_pos stateFree]
      rfl
  | false =>
      by_cases received : delivery.node.nsol.devState = .connected ∧
          pkt.dstDevid = delivery.node.nsol.devId
      · rcases received with ⟨connected, forMe⟩
        have signals := (dataProcessRx_enqueues free stateFree connected forMe).2
        have receives : Alone .idle delivery (.delivering pkt) delivery _ :=
          .further .nothing (by simp [waitsFor]) (.receive isData connected forMe)
        refine ⟨.idle, _, _, .further receives (by simp [waitsFor]) (.enqueue pkt delivery), ?_,
          fun signal => by simp [signals, noSignal]⟩
        rw [wp_dataProcessRx tolerant_true free, stateFree, if_neg Bool.false_ne_true,
          if_neg (not_not.mpr connected), if_pos forMe]
        exact ⟨rfl, rfl⟩
      · apply inSections_of_quiet
        rw [Quiet, Device.dataProcessRx, wp_bind]
        simp only [checkConnected, wp_bind, wp_acquire, stateFree, Bool.false_eq_true, if_false,
          wp_query, wp_release, wp_pure, update_release _ stateFree, wp_ite]
        refine ⟨rfl, ?_⟩
        split
        · rfl
        · rename_i isConnected
          refine ⟨rfl, ?_⟩
          have connected : delivery.node.nsol.devState = .connected := by simpa using isConnected
          rw [if_neg fun forMe => received ⟨connected, forMe⟩]
          exact (parts_unnoticed.ofDeliverFwd pkt).kept held delivery.node

theorem rx_inSections (free : TablesFree held) (rx : Device.Rx)
    (dispatched : rx.handler = dispatch rx.pkt.proto) : InSections rx.body held delivery := by
  rcases rx with ⟨handler, pkt, src, iface⟩
  cases handler with
  | tsd =>
      apply InSections.answer _ (tsdProcessRx_inSections dispatched.symm)
      exact fun handled => ⟨handled.2, rfl⟩
  | son =>
      apply InSections.answer _ (sonProcessRx_inSections _ _)
      exact fun handled => ⟨handled.2, rfl⟩
  | data => exact dataProcessRx_inSections free dispatched.symm

/-! ## The calls of the application -/

/-- A call that wakes nobody, whatever it changes and whether it waits. -/
abbrev Silent {α : Type} (prog : Prog α) : Prop :=
  KeepsView (fun event => event.wakes = none) (fun _ => True) (fun _ => ()) prog

theorem silent_aside :
    Aside (fun event => event.wakes = none) (fun _ => True) fun _ : Node => () where
  silent := fun _ wakes => wakes
  ends := fun _ _ => trivial
  heap := fun _ _ => rfl
  air := fun _ _ => rfl
  vnfTx := fun _ _ => rfl
  arpt := fun _ _ => rfl
  sonFwdt := fun _ _ => rfl
  localFwdt := fun _ _ => rfl
  credentials := fun _ _ _ => rfl
  tsdIfIndex := fun _ _ => rfl

theorem silent_waitConnected : Silent waitConnected := keepsView_waitConnected rfl trivial

/-- A call that finds the device not connected stands at its wait for the registration. -/
theorem waits_state {position : DeliveryAt} (waits : waitsFor position = some .state)
    (unconnected : delivery.node.nsol.devState ≠ .connected) : Waits position delivery :=
  ⟨.state, waits, unconnected⟩

theorem nsoLayerSend_inSections (buf : List UInt8) (dst : Option DeviceId) (proto : UInt16) :
    InSections (nsoLayerSend buf dst proto) held delivery := by
  have sends : Silent (nsoLayerSend buf dst proto) :=
    silent_aside.parts.ofNsoLayerSend silent_waitConnected buf dst proto
  have silent := @not_broadcasts _ _ held delivery.node fun _ isEvent => sends.events isEvent
  have called : Alone .idle delivery (.sendState buf dst proto) delivery _ :=
    .further .nothing (by simp [waitsFor]) (.callSend buf dst proto delivery)
  by_cases stateHeld : held .state = true
  · refine ⟨_, _, _, .nothing, ?_, fun signal => iff_of_false (silent signal) id⟩
    rw [wp_nsoLayerSend tolerant_true, if_pos stateHeld]
    exact ⟨rfl, rfl⟩
  · by_cases connected : delivery.node.nsol.devState = .connected
    · have sent := Alone.further called (by simp [waitsFor, Holds, connected])
        (.send buf dst proto delivery)
      refine inSections_of_ends sent ?_ fun signal => by simp [silent, noSignal]
      rw [wp_nsoLayerSend tolerant_true, if_neg stateHeld, if_pos connected]
      split
      · exact ⟨Halt.noConfusion, rfl⟩
      · rename_i pkt _
        exact wp_allow ((watched_aside.keeps_nsoLayerFwd pkt).kept held delivery.node)
    · refine ⟨_, _, _, called, ?_, fun signal => by simp [silent, noSignal]⟩
      rw [wp_nsoLayerSend tolerant_true, if_neg stateHeld, if_neg connected]
      exact ⟨rfl, (if_pos rfl).mpr (waits_state rfl connected)⟩

/-- `nso_layer_recv` takes packets away but wakes nobody. -/
theorem silent_nsoLayerRecv (size : Nat) : Silent (nsoLayerRecv size) := by
  apply keeps_bind silent_waitConnected
  intro _
  apply keeps_bind (keeps_acquire _)
  intro _
  apply keeps_bind (silent_aside.keeps_query _ _ rfl)
  intro queue
  cases queue with
  | nil => exact keeps_bind (keeps_release _) fun _ => keeps_halt trivial
  | cons pkt rest =>
      apply keeps_bind (silent_aside.keeps_modify _ rfl fun _ => rfl)
      intro _
      exact keeps_bind (keeps_release _) fun _ => keepsView_orHalt trivial _

theorem nsoLayerRecv_inSections (free : TablesFree held) (size : Nat) :
    InSections (nsoLayerRecv size) held delivery := by
  have silent := @not_broadcasts _ _ held delivery.node
    fun _ isEvent => (silent_nsoLayerRecv size).events isEvent
  have called : Alone .idle delivery (.recvState size) delivery _ :=
    .further .nothing (by simp [waitsFor]) (.callRecv size delivery)
  cases stateFree : held .state with
  | true =>
      refine ⟨_, _, _, .nothing, ?_, fun signal => iff_of_false (silent signal) id⟩
      rw [Nrg5.wp_nsoLayerRecv tolerant_true free.data, if_pos stateFree]
      exact ⟨rfl, rfl⟩
  | false =>
      by_cases connected : delivery.node.nsol.devState = .connected
      · have registered := Alone.further called (by simp [waitsFor, Holds, connected])
          (.registered size delivery)
        cases queue : delivery.node.nsol.dataPq with
        | nil =>
            refine ⟨_, _, _, registered, ?_, fun signal => by simp [silent, noSignal]⟩
            rw [wp_nsoLayerRecv size free stateFree, if_pos connected, queue]
            have waits : Waits (.recvData size) delivery := ⟨.data, rfl, not_not.mpr queue⟩
            exact ⟨rfl, (if_pos rfl).mpr waits⟩
        | cons pkt rest =>
            refine ⟨_, _, _, .further registered (by simp [waitsFor, Holds, queue])
              (.dequeue size queue), ?_, fun signal => by simp [silent, noSignal]⟩
            rw [wp_nsoLayerRecv size free stateFree, if_pos connected, queue]
            dsimp only
            cases readData pkt size with
            | none => exact ⟨rfl, (if_neg Halt.noConfusion).mpr rfl⟩
            | some delivered => exact ⟨rfl, rfl⟩
      · refine ⟨_, _, _, called, ?_, fun signal => by simp [silent, noSignal]⟩
        rw [wp_nsoLayerRecv size free stateFree, if_neg connected]
        exact ⟨rfl, (if_pos rfl).mpr (waits_state rfl connected)⟩

/-- Every call of a device is made of sections.  Its receive threads choose the handler of a
message by the protocol. -/
theorem event_inSections (free : TablesFree held) (event : Device.Event)
    (dispatched : ∀ rx, event = .receive rx → rx.handler = dispatch rx.pkt.proto) :
    InSections event.body held delivery := by
  have parts := parts_unnoticed
  cases event with
  | environment env => exact inSections_of_unnoticed (watched_aside.keeps_modify _ rfl fun _ => rfl)
  | receive rx => exact (rx_inSections free rx (dispatched rx rfl)).answer fun _ => ⟨(), rfl⟩
  | beacon => exact inSections_of_unnoticed parts.ofTsdBroadcastBeacons
  | topoReport => exact inSections_of_unnoticed parts.ofDeviceTopoReport
  | advertise => exact inSections_of_unnoticed parts.ofSonNbrAdvertise
  | send buf dst proto =>
      exact (nsoLayerSend_inSections buf dst proto).answer fun _ => ⟨(), rfl⟩
  | recv size => exact (nsoLayerRecv_inSections free size).answer fun _ => ⟨(), rfl⟩

/-! ### A reply -/

/-- Device 1 with the neighbour through which the reply comes. -/
def besideGateway : Delivery :=
  { freshStart.state with
    node := freshStart.state.node.updateArpt (ArpTable.add gatewayEntry) }

/-- The receive thread gets the successful reply. -/
def getsReply : Device.Event := .receive ⟨.tsd, replyToOne, [2, 0, 0, 0, 0, 9], wlan0⟩

theorem getsReply_dispatched (rx : Device.Rx) (isReceive : getsReply = .receive rx) :
    rx.handler = dispatch rx.pkt.proto := by
  rcases Device.Event.receive.inj isReceive with rfl
  decide

/-- The call that joins the device is made of sections. -/
theorem getsReply_inSections :
    InSections getsReply.body (fun _ => false) besideGateway ∧
      (getsReply.body.exec (fun _ => false) besideGateway.node).state.nsol.devState =
        .connected :=
  ⟨event_inSections ⟨rfl, rfl, rfl, rfl⟩ getsReply getsReply_dispatched, by decide +kernel⟩

end Delivery

end Nrg5
