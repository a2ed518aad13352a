import Nrg5.CallParts
import Nrg5.Lib.LockOrder
import Nrg5.LockBalance
import Nrg5.Survival.BaseStation
import Nrg5.Survival.Device

/-!
# No deadlock between the threads of a node

The receive threads, the transmission thread and the threads of the application share six
mutexes.  The only call that takes one of them inside another is the registration reply of a
device, which resolves the upstream device with the state mutex held.  So the state mutex
comes before the others, and while every next hop has its ARP entry no thread keeps another
one from going on.

`Ordered` says of a piece of code which mutexes it holds before and after, so that it can be
put behind another one.  Most calls hold none at either end and are followed from their
parts.
-/

namespace Nrg5

open LockProg

/-- The order in which a thread takes its mutexes. -/
def Lock.rank : Lock → Nat
  | .state => 0
  | _ => 1

/-- A call that waits gives up its thread until a condition is signalled. -/
def Halt.Waits (reason : Halt) : Prop := reason = .condWait

variable {α β : Type} {before between after held : Lock → Bool}

/-- A piece of code that takes its mutexes in order, with what it holds before and after. -/
structure Ordered (before after : Lock → Bool) (prog : Prog α) : Prop where
  follow : ∀ post : α → (Lock → Bool) → Prop, (∀ value, post value after) →
    prog.ranked Lock.rank Halt.Waits NextHopsKnown post before

/-- The code holds at most the state mutex. -/
def Outer (held : Lock → Bool) : Prop := ∀ lock, held lock = true → lock = .state

/-- A call that holds no mutex before and after it. -/
abbrev OrderedAlone {α : Type} (prog : Prog α) : Prop :=
  Ordered (fun _ => false) (fun _ => false) prog

theorem outer_none : Outer fun _ => false := by
  intro lock isHeld
  cases isHeld

theorem outer_state : Outer (Function.update (fun _ => false) .state true) := by
  intro lock isHeld
  by_contra isOther
  rw [Function.update_of_ne isOther] at isHeld
  cases isHeld

/-- Inside the section of the state mutex the other five can be free. -/
theorem Outer.free (outer : Outer held) {lock : Lock} (inner : lock ≠ .state) :
    held lock = false :=
  Bool.eq_false_iff.mpr fun isHeld => inner (outer lock isHeld)

/-! ## Pieces of code -/

/-- What the first piece holds at its end is what the second one starts from. -/
theorem ordered_bind {first : Prog α} {next : α → Prog β} (ordered : Ordered before between first)
    (orderedNext : ∀ value, Ordered between after (next value)) :
    Ordered before after (first >>= next) := by
  refine ⟨fun post atEnd => ?_⟩
  rw [ranked_bind]
  exact ordered.follow _ fun value => (orderedNext value).follow post atEnd

theorem ordered_pure (value : α) : Ordered held held (pure value : Prog α) :=
  ⟨fun _ atEnd => atEnd value⟩

/-- A call that ends the process may hold anything. -/
theorem ordered_halt {reason : Halt} (ends : reason ≠ .condWait) :
    Ordered before after (.halt reason : Prog α) :=
  ⟨fun _ _ isWait => absurd isWait ends⟩

theorem ordered_ite (condition : Prop) [Decidable condition] {left right : Prog α}
    (orderedLeft : Ordered before after left) (orderedRight : Ordered before after right) :
    Ordered before after (if condition then left else right) := by
  split
  · exact orderedLeft
  · exact orderedRight

theorem ordered_perform (event : Op) (update : Node → Node) (answer : Node → α) :
    Ordered held held (perform event update answer : Prog α) :=
  ⟨fun _ atEnd _ _ => atEnd _⟩

theorem ordered_query (event : Op) (answer : Node → α) :
    Ordered held held (query event answer : Prog α) :=
  ordered_perform event id answer

theorem ordered_modify (event : Op) (update : Node → Node) :
    Ordered held held (modify event update : Prog Unit) :=
  ordered_perform event update fun _ => ()

theorem ordered_orHalt {reason : Halt} (ends : reason ≠ .condWait) (pointer : Option α) :
    Ordered held held (orHalt reason pointer) := by
  cases pointer with
  | none => exact ordered_halt ends
  | some target => exact ordered_pure target

/-- A mutex other than the one of the state may be taken inside it. -/
theorem ordered_acquire (outer : Outer held) {lock : Lock} (inner : lock ≠ .state) :
    Ordered held (Function.update held lock true) (acquire lock : Prog Unit) := by
  refine ⟨fun post atEnd => ⟨?_, atEnd ()⟩⟩
  intro other isHeld
  rw [outer other isHeld]
  cases lock with
  | state => exact absurd rfl inner
  | arpt => exact Nat.zero_lt_one
  | sonFwdt => exact Nat.zero_lt_one
  | localFwdt => exact Nat.zero_lt_one
  | nbrt => exact Nat.zero_lt_one
  | data => exact Nat.zero_lt_one

/-- The mutex of the state is taken before all the others. -/
theorem ordered_acquireState :
    Ordered (fun _ => false) (Function.update (fun _ => false) .state true)
      (acquire .state : Prog Unit) := by
  refine ⟨fun post atEnd => ⟨?_, atEnd ()⟩⟩
  intro other isHeld
  cases isHeld

theorem ordered_release {lock : Lock} (free : held lock = false) :
    Ordered (Function.update held lock true) held (release lock : Prog Unit) := by
  refine ⟨fun post atEnd => ⟨Function.update_self _ _ _, ?_⟩⟩
  rw [Function.update_idem, ← free, Function.update_eq_self]
  exact atEnd ()

/-! ## The parts of the calls -/

theorem ordered_checkConnected : OrderedAlone checkConnected := by
  apply ordered_bind ordered_acquireState
  intro _
  apply ordered_bind (ordered_query _ _)
  intro state
  apply ordered_bind (ordered_release rfl)
  exact fun _ => ordered_pure _

/-- A call of the application waits with no mutex held. -/
theorem ordered_waitConnected : OrderedAlone waitConnected := by
  apply ordered_bind ordered_acquireState
  intro _
  apply ordered_bind (ordered_query _ _)
  intro state
  apply ordered_bind (ordered_release rfl)
  intro _
  apply ordered_ite
  · exact ordered_pure ()
  · exact ⟨fun _ _ _ _ => rfl⟩

theorem ordered_wifiSend (iface : NsoIf) (pkt : Packet) (dst : L2addr) :
    Ordered held held (wifiSend iface pkt dst) := by
  apply ordered_ite
  · exact ordered_pure _
  · exact ordered_bind (ordered_perform _ _ _) fun _ => ordered_pure _

theorem ordered_findRoute (outer : Outer held) {lock : Lock} (inner : lock ≠ .state)
    (table : NsoLayer → FwdTable) (dst : DeviceId) :
    Ordered held held (findRoute lock table dst) := by
  apply ordered_bind (ordered_acquire outer inner)
  intro _
  apply ordered_bind (ordered_query _ _)
  intro fwdEntry
  apply ordered_bind (ordered_release (outer.free inner))
  exact fun _ => ordered_pure _

theorem ordered_fwdOut (pkt : Packet) : Ordered held held (fwdOut pkt) := by
  apply ordered_bind (ordered_query _ _)
  intro addr
  apply ordered_bind
  · cases addr with
    | null => exact ordered_pure ()
    | wild => exact ordered_halt Halt.noConfusion
  · exact fun _ => ordered_pure _

/-- The mutex that the jump for a missing ARP entry leaves behind is not taken where every next
hop has its entry. -/
theorem ordered_nsoLayerFwd (outer : Outer held) (pkt : Packet) :
    Ordered held held (nsoLayerFwd pkt) := by
  apply ordered_bind
  · apply ordered_bind (ordered_findRoute outer Lock.noConfusion _ _)
    intro route
    cases route with
    | some found => exact ordered_pure _
    | none => exact ordered_findRoute outer Lock.noConfusion _ _
  · intro route
    cases route with
    | none => exact ordered_fwdOut pkt
    | some found =>
        rcases found with ⟨nxt, iface⟩
        apply ordered_bind (ordered_acquire outer Lock.noConfusion)
        intro _
        refine ⟨fun post atEnd => ?_⟩
        rw [ranked_bind, ranked_query]
        intro node known
        cases found : ArpTable.lookupFromDevId nxt node.nsol.arpt with
        | none =>
            rw [NextHopsKnown, found] at known
            cases known
        | some entry =>
            have sends : Ordered (Function.update held .arpt true) held (do
                release .arpt
                let answer ← nsoIfSend iface pkt entry.l2addr
                pure ((0, answer.2) : Int × Packet)) := by
              apply ordered_bind (ordered_release (outer.free Lock.noConfusion))
              intro _
              exact ordered_bind (ordered_wifiSend _ _ _) fun _ => ordered_pure _
            exact sends.follow post atEnd

theorem ordered_malloc : Ordered held held malloc := ordered_perform _ _ _

/-- A new entry is added in a section of its own, behind the one of the lookup. -/
theorem ordered_learnArp (devId : DeviceId) (src : Option L2addr) :
    OrderedAlone (learnArp devId src) := by
  apply ordered_bind (ordered_acquire outer_none Lock.noConfusion)
  intro _
  apply ordered_bind (ordered_query _ _)
  intro arpEntry
  cases arpEntry with
  | some entry => exact ordered_bind (ordered_modify _ _) fun _ => ordered_release rfl
  | none =>
      apply ordered_bind (ordered_release rfl)
      intro _
      apply ordered_bind (ordered_orHalt Halt.noConfusion _)
      intro mac
      apply ordered_bind ordered_malloc
      intro addr
      apply ordered_bind (ordered_acquire outer_none Lock.noConfusion)
      intro _
      exact ordered_bind (ordered_modify _ _) fun _ => ordered_release rfl

theorem ordered_allocFwdEntry (dest nxthop : DeviceId) (iface : Option NsoIf) :
    Ordered held held (allocFwdEntry dest nxthop iface) := by
  apply ordered_bind (ordered_orHalt Halt.noConfusion _)
  intro interface
  exact ordered_bind ordered_malloc fun _ => ordered_pure _

theorem ordered_learnRoute (dest nxthop : DeviceId) (iface : Option NsoIf) :
    OrderedAlone (learnRoute dest nxthop iface) := by
  apply ordered_bind (ordered_acquire outer_none Lock.noConfusion)
  intro _
  apply ordered_bind (ordered_query _ _)
  intro fwdEntry
  cases fwdEntry with
  | some entry => exact ordered_bind (ordered_modify _ _) fun _ => ordered_release rfl
  | none =>
      apply ordered_bind (ordered_release rfl)
      intro _
      exact ordered_bind (ordered_allocFwdEntry _ _ _) fun _ => ordered_modify _ _

theorem ordered_learnNbr (devId : DeviceId) (iface : Option NsoIf) :
    OrderedAlone (learnNbr devId iface) := by
  apply ordered_bind (ordered_acquire outer_none Lock.noConfusion)
  intro _
  apply ordered_bind (ordered_query _ _)
  intro nbrEntry
  cases nbrEntry with
  | some entry => exact ordered_bind (ordered_modify _ _) fun _ => ordered_release rfl
  | none =>
      apply ordered_bind (ordered_release rfl)
      intro _
      apply ordered_bind ordered_malloc
      intro addr
      apply ordered_bind (ordered_acquire outer_none Lock.noConfusion)
      intro _
      exact ordered_bind (ordered_modify _ _) fun _ => ordered_release rfl

/-- The one call that runs with the state mutex held. -/
theorem ordered_downstreamDevId (outer : Outer held) (src : Option L2addr) :
    Ordered held held (downstreamDevId src) := by
  apply ordered_bind (ordered_acquire outer Lock.noConfusion)
  intro _
  apply ordered_bind (ordered_orHalt Halt.noConfusion _)
  intro mac
  apply ordered_bind (ordered_query _ _)
  intro arpEntry
  apply ordered_bind (ordered_orHalt Halt.noConfusion _)
  intro entry
  exact ordered_bind (ordered_release (outer.free Lock.noConfusion)) fun _ => ordered_pure _

/-- The records of the neighbours are collected under their mutex. -/
theorem ordered_getTopoReportPkt : OrderedAlone getTopoReportPkt := by
  apply ordered_bind (ordered_query _ _)
  intro layer
  apply ordered_bind (ordered_query _ _)
  intro junk
  apply ordered_bind (ordered_acquire outer_none Lock.noConfusion)
  intro _
  apply ordered_bind (ordered_query _ _)
  intro locked
  apply ordered_bind (ordered_orHalt Halt.noConfusion _)
  intro body
  apply ordered_bind (ordered_release rfl)
  exact fun _ => ordered_ite _ (ordered_pure _) (ordered_halt Halt.noConfusion)

theorem parts_ordered : Parts @OrderedAlone where
  ofPure := ordered_pure
  ofHalt := ordered_halt
  ofQuery := fun event answer _ => ordered_query event answer
  ofBind := ordered_bind
  ofCheckConnected := ordered_checkConnected
  ofMalloc := ordered_malloc
  ofWifiSend := ordered_wifiSend
  ofNsoLayerFwd := ordered_nsoLayerFwd outer_none
  ofSendPktToVnf := fun _ _ => ordered_perform _ _ _
  ofLearnArp := ordered_learnArp
  ofLearnRoute := ordered_learnRoute
  ofDownstreamDevId := ordered_downstreamDevId outer_none
  updatesSonFwdt := fun _ => ordered_modify _ _
  storesCredentials := fun _ _ => ordered_modify _ _
  turnsIface := fun _ => ordered_modify _ _
  ofTopoReportPkt := ordered_getTopoReportPkt

/-! ## The sections of the state mutex -/

/-- The upstream device is resolved, and the route to the gateway added, with the mutex held. -/
theorem ordered_processRegReply (pkt : Packet) (src : Option L2addr) (iface : Option NsoIf) :
    OrderedAlone (Device.processRegReply pkt src iface) := by
  apply ordered_bind (ordered_query _ _)
  intro devId
  apply ordered_ite
  · apply ordered_bind ordered_acquireState
    intro _
    apply ordered_bind (ordered_query _ _)
    intro state
    apply ordered_ite
    · apply ordered_bind (ordered_downstreamDevId outer_state _)
      intro nxtId
      apply ordered_bind (ordered_allocFwdEntry _ _ _)
      intro entry
      apply ordered_bind (ordered_modify _ _)
      intro _
      apply ordered_bind (ordered_modify _ _)
      intro _
      apply ordered_bind (ordered_modify _ _)
      intro _
      apply ordered_bind (ordered_modify _ _)
      intro _
      exact ordered_bind (ordered_release rfl) fun _ => ordered_pure _
    · exact ordered_bind (ordered_release rfl) fun _ => ordered_pure _
  · exact parts_ordered.ofWhenConnected _ (parts_ordered.ofDeliverFwd pkt)

theorem ordered_processBsRegReply (pkt : Packet) : OrderedAlone (Bs.processBsRegReply pkt) := by
  apply ordered_bind (ordered_query _ _)
  intro devId
  apply ordered_ite
  · apply ordered_bind ordered_acquireState
    intro _
    apply ordered_bind (ordered_query _ _)
    intro state
    apply ordered_ite
    · apply ordered_bind (ordered_modify _ _)
      intro _
      apply ordered_bind (ordered_modify _ _)
      intro _
      apply ordered_bind (ordered_modify _ _)
      intro _
      exact ordered_bind (ordered_release rfl) fun _ => ordered_pure _
    · exact ordered_bind (ordered_release rfl) fun _ => ordered_pure _
  · exact ordered_pure _

theorem ordered_deviceAdmits : OrderedAlone Device.admitRouteUpdate := by
  apply ordered_bind ordered_acquireState
  intro _
  apply ordered_bind (ordered_modify _ _)
  intro _
  apply ordered_bind (ordered_query _ _)
  intro state
  exact ordered_bind (ordered_release rfl) fun _ => ordered_pure _

theorem ordered_bsAdmits : OrderedAlone Bs.admitRouteUpdate := by
  apply ordered_bind ordered_acquireState
  intro _
  apply ordered_bind (ordered_query _ _)
  intro state
  exact ordered_bind (ordered_release rfl) fun _ => ordered_pure _

/-! ## The queue -/

/-- The signal of the queue is broadcast with its mutex held. -/
theorem ordered_deviceData (pkt : Packet) : OrderedAlone (Device.dataProcessRx pkt) := by
  apply parts_ordered.ofWhenConnected
  apply ordered_bind (ordered_query _ _)
  intro layer
  apply ordered_ite
  · apply ordered_bind (ordered_acquire outer_none Lock.noConfusion)
    intro _
    apply ordered_bind (ordered_query _ _)
    intro junk
    apply ordered_bind (ordered_query _ _)
    intro queue
    apply ordered_bind (ordered_modify _ _)
    intro _
    apply ordered_ite
    · apply ordered_bind (ordered_modify _ _)
      intro _
      exact ordered_bind (ordered_release rfl) fun _ => ordered_pure _
    · exact ordered_bind (ordered_release rfl) fun _ => ordered_pure _
  · exact parts_ordered.ofDeliverFwd pkt

/-- An empty queue is waited for with its mutex released. -/
theorem ordered_nsoLayerRecv (size : Nat) : OrderedAlone (nsoLayerRecv size) := by
  apply ordered_bind ordered_waitConnected
  intro _
  apply ordered_bind (ordered_acquire outer_none Lock.noConfusion)
  intro _
  apply ordered_bind (ordered_query _ _)
  intro queue
  cases queue with
  | nil =>
      apply ordered_bind (ordered_release rfl)
      exact fun _ => ⟨fun _ _ _ _ => rfl⟩
  | cons pkt rest =>
      apply ordered_bind (ordered_modify _ _)
      intro _
      apply ordered_bind (ordered_release rfl)
      exact fun _ => ordered_orHalt Halt.noConfusion _

/-! ## The threads -/

theorem inOrder_of_ordered {prog : Prog Unit} (ordered : OrderedAlone prog) :
    prog.InOrder Lock.rank Halt.Waits NextHopsKnown :=
  ordered.follow _ fun _ _ => rfl

/-- Every call of a device takes its mutexes in order. -/
theorem deviceEvent_inOrder (event : Device.Event) :
    event.body.InOrder Lock.rank Halt.Waits NextHopsKnown := by
  have parts := parts_ordered
  apply inOrder_of_ordered
  cases event with
  | environment env => exact ordered_modify _ _
  | receive rx =>
      rcases rx with ⟨handler, pkt, src, iface⟩
      apply ordered_bind
      · cases handler with
        | tsd =>
            have handles := parts.ofDeviceTsd ordered_processRegReply pkt (some src) (some iface)
            exact ordered_bind handles fun _ => ordered_pure _
        | son =>
            have handles := parts.ofDeviceSon ordered_deviceAdmits ordered_learnNbr pkt (some src)
              (some iface)
            exact ordered_bind handles fun _ => ordered_pure _
        | data => exact ordered_deviceData pkt
      · exact fun _ => ordered_pure _
  | beacon => exact parts.ofTsdBroadcastBeacons
  | topoReport => exact parts.ofDeviceTopoReport
  | advertise => exact parts.ofSonNbrAdvertise
  | send buf dst proto =>
      have sends := parts.ofNsoLayerSend ordered_waitConnected buf dst proto
      exact ordered_bind sends fun _ => ordered_pure _
  | recv size => exact ordered_bind (ordered_nsoLayerRecv size) fun _ => ordered_pure _

/-- Every call of a base station takes its mutexes in order. -/
theorem bsEvent_inOrder (event : Bs.Event) :
    event.body.InOrder Lock.rank Halt.Waits NextHopsKnown := by
  have parts := parts_ordered
  have handlesTsd := parts.ofBsTsd ordered_processBsRegReply
  have handlesSon := parts.ofBsSon ordered_bsAdmits ordered_learnNbr
  apply inOrder_of_ordered
  cases event with
  | environment env => exact ordered_modify _ _
  | receive rx =>
      rcases rx with ⟨handler, pkt, origin⟩
      apply ordered_bind
      · cases handler with
        | tsd => exact ordered_bind (handlesTsd _ _ _) fun _ => ordered_pure _
        | son => exact ordered_bind (handlesSon _ _ _) fun _ => ordered_pure _
        | data => exact parts.ofBsData pkt
      · exact fun _ => ordered_pure _
  | vnfMessage pkt =>
      have messages := parts.ofProcessVnfRx (fun pkt => handlesTsd pkt none none)
        fun pkt => handlesSon pkt none none
      exact ordered_bind (messages pkt) fun _ => ordered_pure _
  | register => exact parts.ofTsdBsReg
  | topoReport => exact parts.ofBsTopoReport
  | advertise => exact parts.ofSonNbrAdvertise
  | send buf dst proto =>
      have sends := parts.ofNsoLayerSend ordered_waitConnected buf dst proto
      exact ordered_bind sends fun _ => ordered_pure _
  | recv size => exact ordered_bind (ordered_nsoLayerRecv size) fun _ => ordered_pure _

/-- Behind a waiting thread stands one that can go on inside its critical section, or one that
has ended the process there. -/
def GoesOn {τ : Type} (config : Threads.Config τ Node Lock Op Halt) : Prop :=
  ∀ waiter lock, config.Waits waiter lock →
    ∃ t other, config.InSection t other ∧ lock.rank ≤ other.rank ∧
      (config.Moves t ∨ ∃ reason, reason ≠ .condWait ∧ config.HaltsAt t reason)

/-- Any number of threads of a device, and any number of threads of a base station, whose next
hops have their ARP entries. -/
theorem threads_deadlock_free (τ : Type) [DecidableEq τ] :
    (∀ config : Threads.Config τ Node Lock Op Halt,
      Threads.Reachable Device.Event.body NextHopsKnown EnvChanges config → GoesOn config) ∧
    ∀ config : Threads.Config τ Node Lock Op Halt,
      Threads.Reachable Bs.Event.body NextHopsKnown EnvChanges config → GoesOn config := by
  have bounded : ∀ lock : Lock, lock.rank ≤ 1 := by
    intro lock
    cases lock <;> decide
  constructor
  · intro config reachable waiter lock isWaiting
    exact Threads.deadlock_free deviceEvent_inOrder bounded reachable isWaiting
  · intro config reachable waiter lock isWaiting
    exact Threads.deadlock_free bsEvent_inOrder bounded reachable isWaiting

/-- Two threads that receive: one has the mutex of the state, the other waits for it. -/
theorem twoReceivers_reachable : ∃ config : Threads.Config Bool Node Lock Op Halt,
    Threads.Reachable Device.Event.body NextHopsKnown EnvChanges config ∧
      config.Waits true .state := by
  let start : Threads.Config Bool Node Lock Op Halt :=
    { state := resolvedNode, owner := fun _ => none, thread := fun _ => .idle }
  let called := start.setThread false (.running (Device.Event.recv 0).body fun _ => false)
  have calls : Threads.Step Device.Event.body NextHopsKnown EnvChanges start called :=
    .call false (Device.Event.recv 0) rfl
  have locks : ∃ locked, Threads.Step Device.Event.body NextHopsKnown EnvChanges called locked ∧
      locked.thread true = .idle ∧ locked.owner .state = some false :=
    ⟨_, .lock false .state _ _ rfl rfl, rfl, rfl⟩
  rcases locks with ⟨locked, locks, isIdle, isOwned⟩
  let waiting := locked.setThread true
    (.running (Device.Event.recv 0).body fun _ => false)
  have waits : Threads.Step Device.Event.body NextHopsKnown EnvChanges locked waiting :=
    .call true (Device.Event.recv 0) isIdle
  have atLock : ∃ next entered, waiting.thread true = .running (.lock .state next) entered :=
    ⟨_, _, rfl⟩
  exact ⟨waiting, ⟨start, ⟨fun _ => rfl, fun _ => rfl⟩,
    ((Relation.ReflTransGen.single calls).tail locks).tail waits⟩, atLock,
    Option.isSome_of_eq_some isOwned⟩

/-- The thread that has the mutex can go on, and the other one waits for it. -/
theorem twoReceivers_goOn : ∃ config : Threads.Config Bool Node Lock Op Halt,
    config.Waits true .state ∧ GoesOn config := by
  rcases twoReceivers_reachable with ⟨config, reachable, waits⟩
  exact ⟨config, waits, (threads_deadlock_free Bool).1 config reachable⟩

end Nrg5
