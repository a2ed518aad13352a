import Nrg5.Learning
import Nrg5.Network.DeviceEffects

/-!
# Keys of the learned tables

The receive threads of a device at the grain of their critical sections: can a key
come to stand in a table twice?

Two threads that are between the failed lookup and the addition for the same key
end with two entries.  The reply of the registration adds its route without a
lookup; it is safe, because no beacon is relayed before the device is connected.
-/

namespace Nrg5

open LockProg

/-! ## Receive threads -/

/-- Where a receive thread stands between two critical sections. -/
inductive Phase : Type where
  /-- At the next lookup; with nothing to learn the thread waits for a frame. -/
  | learning (todo : List Learning)
  /-- Between a lookup that found nothing and the addition. -/
  | missed (item : Learning) (todo : List Learning)
  /-- Before the lookup of the downstream device of a relayed beacon. -/
  | relaying (pkt : Packet) (src : L2addr)
  /-- Inside the state mutex, before the lookup of the next hop. -/
  | replying (pkt : Packet) (src : L2addr)
  /-- Inside the state mutex, before the route of the gateway is added. -/
  | joining (pkt : Packet) (nxthop : DeviceId)
  /-- Inside the state mutex, before the registration state is set. -/
  | joined (pkt : Packet)

/-- A device and its receive threads; a handler that runs over several sections with
the state mutex held owns `stateLock`. -/
structure RxConfig (τ : Type) where
  node : Node
  stateLock : Option τ
  thread : τ → Phase

namespace RxConfig

variable {τ : Type}

/-- The device that `__nso_layer_init` leaves, with every thread waiting for a frame. -/
structure Initial (config : RxConfig τ) : Prop where
  layer : ∃ devId gwId mtu ifaces fit,
    config.node.nsol = NsoLayer.initial devId gwId mtu ifaces fit
  unlocked : config.stateLock = none
  waiting : ∀ t, config.thread t = .learning []

/-- No two threads are about to add an entry for the same key of the same table. -/
def Unraced (config : RxConfig τ) : Prop :=
  ∀ t u item other todo rest, t ≠ u → config.thread t = .missed item todo →
    config.thread u = .missed other rest → item.table = other.table → item.devId ≠ other.devId

section Steps

variable [DecidableEq τ]

def setThread (t : τ) (phase : Phase) (config : RxConfig τ) : RxConfig τ :=
  { config with thread := Function.update config.thread t phase }

/-- One critical section of one thread.  A packet that its handler drops, forwards or
enqueues touches none of the learned tables: this is `elsewhere`, which also covers
the route updates of the controller and the other threads of the device. -/
inductive Step (ifaceOf : τ → NsoIf) : RxConfig τ → RxConfig τ → Prop where
  | elsewhere {config : RxConfig τ} (node : Node) (same : config.node.SameLearned node) :
      Step ifaceOf config { config with node := node }
  /-- The head of `__route_update`. -/
  | admitRoutes {config : RxConfig τ} (unlocked : config.stateLock = none) :
      Step ifaceOf config { config with node := config.node.promoted }
  /-- `__neighbor_maintain`. -/
  | advertisement {config : RxConfig τ} (t : τ) (pkt : Packet) (src : L2addr)
      (waiting : config.thread t = .learning [])
      (isSon : dispatch pkt.proto = .son) (isNbr : pkt.msgType = sonMsgNbr) :
      Step ifaceOf config (config.setThread t
        (.learning [.arp pkt.srcDevid src, .nbr pkt.srcDevid (ifaceOf t)]))
  /-- `__fwd_beacon` of a connected device, for a beacon without destination. -/
  | beacon {config : RxConfig τ} (t : τ) (pkt : Packet) (src : L2addr)
      (waiting : config.thread t = .learning [])
      (isTsd : dispatch pkt.proto = .tsd) (isReg : pkt.msgType = tsdMsgReg)
      (unlocked : config.stateLock = none) (connected : config.node.nsol.devState = .connected)
      (isBroadcast : isBroadcastDevId pkt.dstDevid = true) :
      Step ifaceOf config (config.setThread t
        (.learning [.arp pkt.srcDevid src, .route pkt.srcDevid pkt.srcDevid (ifaceOf t)]))
  /-- `__fwd_beacon` of a connected device, for a beacon that another device relays. -/
  | relay {config : RxConfig τ} (t : τ) (pkt : Packet) (src : L2addr)
      (waiting : config.thread t = .learning [])
      (isTsd : dispatch pkt.proto = .tsd) (isReg : pkt.msgType = tsdMsgReg)
      (unlocked : config.stateLock = none) (connected : config.node.nsol.devState = .connected)
      (notBroadcast : isBroadcastDevId pkt.dstDevid = false) :
      Step ifaceOf config (config.setThread t (.relaying pkt src))
  | downstream {config : RxConfig τ} (t : τ) (pkt : Packet) (src : L2addr) (entry : ArpEntry)
      (here : config.thread t = .relaying pkt src)
      (found : ArpTable.lookupFromL2addr src config.node.nsol.arpt = some entry) :
      Step ifaceOf config (config.setThread t
        (.learning [.route pkt.srcDevid entry.devId (ifaceOf t)]))
  | known {config : RxConfig τ} (t : τ) (item : Learning) (todo : List Learning)
      (here : config.thread t = .learning (item :: todo))
      (isKnown : item.known config.node = true) :
      Step ifaceOf config
        { config.setThread t (.learning todo) with node := item.refreshed config.node }
  | unknown {config : RxConfig τ} (t : τ) (item : Learning) (todo : List Learning)
      (here : config.thread t = .learning (item :: todo))
      (isUnknown : item.known config.node = false) :
      Step ifaceOf config (config.setThread t (.missed item todo))
  | add {config : RxConfig τ} (t : τ) (item : Learning) (todo : List Learning)
      (here : config.thread t = .missed item todo) :
      Step ifaceOf config
        { config.setThread t (.learning todo) with node := item.added config.node }
  /-- `__process_reg_reply` with the reply that makes the device connected. -/
  | reply {config : RxConfig τ} (t : τ) (pkt : Packet) (src : L2addr)
      (waiting : config.thread t = .learning [])
      (isTsd : dispatch pkt.proto = .tsd) (isReply : pkt.msgType = tsdMsgRegReply)
      (forMe : pkt.dstDevid = config.node.nsol.devId)
      (unlocked : config.stateLock = none) (unreg : config.node.nsol.devState = .unreg)
      (success : pkt.byteAt (nsohdrSize + 1) = nrg5RegSuccess) :
      Step ifaceOf config
        { config.setThread t (.replying pkt src) with stateLock := some t }
  | nexthop {config : RxConfig τ} (t : τ) (pkt : Packet) (src : L2addr) (entry : ArpEntry)
      (here : config.thread t = .replying pkt src)
      (found : ArpTable.lookupFromL2addr src config.node.nsol.arpt = some entry) :
      Step ifaceOf config (config.setThread t (.joining pkt entry.devId))
  /-- The route of the gateway is added without a lookup. -/
  | addRoute {config : RxConfig τ} (t : τ) (pkt : Packet) (nxthop : DeviceId)
      (here : config.thread t = .joining pkt nxthop) :
      Step ifaceOf config
        { config.setThread t (.joined pkt) with
          node := (Learning.route pkt.srcDevid nxthop (ifaceOf t)).added config.node }
  | connect {config : RxConfig τ} (t : τ) (pkt : Packet)
      (here : config.thread t = .joined pkt) :
      Step ifaceOf config
        { config.setThread t (.learning []) with
          stateLock := none
          node := config.node.connectedTo pkt.srcDevid }

end Steps

/-! ## What every run keeps -/

/-- The list still has a route to learn. -/
def LearnsRoute (todo : List Learning) : Prop := ∃ item ∈ todo, item.table = .localFwdt

/-- What holds of a thread at a phase: a failed lookup still speaks the truth, routes are
learned by a connected device only, and the registration owns the state mutex. -/
def Stands (config : RxConfig τ) (t : τ) : Phase → Prop
  | .learning todo => LearnsRoute todo → config.node.nsol.devState = .connected
  | .missed item todo =>
      item.devId ∉ config.node.keysOf item.table ∧
        (LearnsRoute (item :: todo) → config.node.nsol.devState = .connected)
  | .relaying _ _ => config.node.nsol.devState = .connected
  | .replying _ _ => config.stateLock = some t ∧ config.node.nsol.devState = .unreg
  | .joining _ _ => config.stateLock = some t ∧ config.node.nsol.devState = .unreg
  | .joined _ => config.stateLock = some t ∧ config.node.nsol.devState = .unreg

/-- The invariant of the runs without a race. -/
structure Consistent (config : RxConfig τ) : Prop where
  covered : config.node.Covered
  unique : config.node.UniqueKeys
  notReg : config.node.nsol.devState ≠ .reg
  unrouted : config.node.nsol.devState = .unreg → (∀ t pkt, config.thread t ≠ .joined pkt) →
    config.node.keysOf .localFwdt = []
  stands : ∀ t, config.Stands t (config.thread t)

variable {config after : RxConfig τ}

theorem consistent_initial (initial : config.Initial) : config.Consistent := by
  rcases initial.layer with ⟨devId, gwId, mtu, ifaces, fit, isInitial⟩
  refine ⟨?_, ?_, ?_, ?_, ?_⟩
  · refine ⟨?_, ?_, ?_⟩ <;> rw [isInitial] <;> exact HashedTable.covers_empty
  · intro table
    cases table <;> simp [Node.keysOf, isInitial, NsoLayer.initial, HashedTable.empty]
  · rw [isInitial]
    exact DevState.noConfusion
  · intro _ _
    simp [Node.keysOf, isInitial, NsoLayer.initial, HashedTable.empty]
  · intro t
    rw [initial.waiting t]
    rintro ⟨item, inList, _⟩
    exact absurd inList (List.not_mem_nil)

/-- A thread that does not move stands as before when the registration only goes
forward, no other thread takes its mutex and no key it missed is added. -/
theorem Stands.of_change {t : τ} {phase : Phase} (stands : config.Stands t phase)
    (connected : config.node.nsol.devState = .connected → after.node.nsol.devState = .connected)
    (owner : config.stateLock = some t → after.stateLock = some t ∧
      after.node.nsol.devState = config.node.nsol.devState)
    (absent : ∀ item todo, phase = .missed item todo →
      item.devId ∉ config.node.keysOf item.table → item.devId ∉ after.node.keysOf item.table) :
    after.Stands t phase := by
  cases phase with
  | learning todo => exact fun learns => connected (stands learns)
  | missed item todo =>
      exact ⟨absent item todo rfl stands.1, fun learns => connected (stands.2 learns)⟩
  | relaying pkt src => exact connected stands
  | replying pkt src =>
      rcases owner stands.1 with ⟨owns, sameState⟩
      exact ⟨owns, sameState.trans stands.2⟩
  | joining pkt nxthop =>
      rcases owner stands.1 with ⟨owns, sameState⟩
      exact ⟨owns, sameState.trans stands.2⟩
  | joined pkt =>
      rcases owner stands.1 with ⟨owns, sameState⟩
      exact ⟨owns, sameState.trans stands.2⟩

theorem Consistent.of_sameKeys (consistent : config.Consistent)
    (sameThreads : after.thread = config.thread) (sameLock : after.stateLock = config.stateLock)
    (covered : after.node.Covered)
    (sameKeys : ∀ table, after.node.keysOf table = config.node.keysOf table)
    (sameState : after.node.nsol.devState = config.node.nsol.devState) : after.Consistent := by
  refine ⟨covered, ?_, ?_, ?_, ?_⟩
  · intro table
    rw [sameKeys]
    exact consistent.unique table
  · rw [sameState]
    exact consistent.notReg
  · rw [sameState, sameThreads, sameKeys]
    exact consistent.unrouted
  · intro t
    rw [sameThreads]
    apply (consistent.stands t).of_change
    · rw [sameState]
      exact id
    · rw [sameLock]
      exact fun owns => ⟨owns, sameState⟩
    · intro item todo _ absent
      rw [sameKeys]
      exact absent

theorem Consistent.of_sameLearned (consistent : config.Consistent)
    (sameThreads : after.thread = config.thread) (sameLock : after.stateLock = config.stateLock)
    (same : config.node.SameLearned after.node) : after.Consistent :=
  consistent.of_sameKeys sameThreads sameLock (same.covered consistent.covered) same.keysOf
    same.devState

section Runs

variable [DecidableEq τ]

theorem Consistent.setThread (consistent : config.Consistent) {t : τ} {phase : Phase}
    (stands : config.Stands t phase)
    (notJoined : ∀ pkt, config.thread t ≠ .joined pkt) :
    (config.setThread t phase).Consistent := by
  refine ⟨consistent.covered, consistent.unique, consistent.notReg, ?_, ?_⟩
  · intro unreg noneJoined
    apply consistent.unrouted unreg
    intro u pkt
    rcases eq_or_ne u t with rfl | different
    · exact notJoined pkt
    · have unjoined := noneJoined u pkt
      simpa only [RxConfig.setThread, Function.update_of_ne different] using unjoined
  · intro u
    rcases eq_or_ne u t with rfl | different
    · simp only [RxConfig.setThread, Function.update_self]
      exact stands.of_change id (fun owns => ⟨owns, rfl⟩) fun _ _ _ absent => absent
    · simp only [RxConfig.setThread, Function.update_of_ne different]
      exact (consistent.stands u).of_change id (fun owns => ⟨owns, rfl⟩)
        fun _ _ _ absent => absent

/-- An addition keeps the invariant when its key is absent, no other thread missed the
same key and a route is only added by a connected device or by the registration. -/
theorem Consistent.added (consistent : config.Consistent) {t : τ} {item : Learning} {phase : Phase}
    (absent : item.devId ∉ config.node.keysOf item.table)
    (notRaced : ∀ u other todo, u ≠ t → config.thread u = .missed other todo →
      item.table = other.table → item.devId ≠ other.devId)
    (routes : item.table = .localFwdt → config.node.nsol.devState = .connected ∨
      ∃ pkt, phase = .joined pkt)
    (notJoined : ∀ pkt, config.thread t ≠ .joined pkt)
    (stands : config.Stands t phase) (notMissed : ∀ item todo, phase ≠ .missed item todo) :
    RxConfig.Consistent
      { config.setThread t phase with node := item.added config.node } := by
  refine ⟨Learning.covered_added consistent.covered,
    Learning.uniqueKeys_added consistent.unique absent, ?_, ?_, ?_⟩
  · simp only [Learning.devState_added]
    exact consistent.notReg
  · simp only [Learning.devState_added]
    intro unreg noneJoined
    have different : LearnedTable.localFwdt ≠ item.table := by
      intro same
      rcases routes same.symm with connected | ⟨pkt, isJoined⟩
      · rw [unreg] at connected
        exact DevState.noConfusion connected
      · apply noneJoined t pkt
        simp [RxConfig.setThread, isJoined]
    rw [Learning.keysOf_added_other different]
    apply consistent.unrouted unreg
    intro u pkt
    rcases eq_or_ne u t with rfl | other
    · exact notJoined pkt
    · have unjoined := noneJoined u pkt
      simpa only [RxConfig.setThread, Function.update_of_ne other] using unjoined
  · intro u
    rcases eq_or_ne u t with rfl | different
    · simp only [RxConfig.setThread, Function.update_self]
      apply stands.of_change
      · simp only [Learning.devState_added, imp_self]
      · simp only [Learning.devState_added]
        exact fun owns => ⟨owns, trivial⟩
      · intro other todo isMissed
        exact absurd isMissed (notMissed other todo)
    · simp only [RxConfig.setThread, Function.update_of_ne different]
      apply (consistent.stands u).of_change
      · simp only [Learning.devState_added, imp_self]
      · simp only [Learning.devState_added]
        exact fun owns => ⟨owns, trivial⟩
      · intro other todo isMissed otherAbsent
        simp only [Learning.mem_keysOf_added, not_or, not_and]
        refine ⟨fun same sameId => ?_, otherAbsent⟩
        exact notRaced u other todo different isMissed same.symm sameId.symm

/-! ### The registration by a reply -/

/-- A thread takes the state mutex, which nobody owns, for the reply that registers. -/
theorem Consistent.replied (consistent : config.Consistent) (t : τ) (pkt : Packet) (src : L2addr)
    (unlocked : config.stateLock = none) (unreg : config.node.nsol.devState = .unreg) :
    RxConfig.Consistent
      { config.setThread t (.replying pkt src) with stateLock := some t } := by
  have free : ∀ u, config.stateLock ≠ some u := by simp [unlocked]
  refine ⟨consistent.covered, consistent.unique, consistent.notReg, ?_, ?_⟩
  · intro _ _
    apply consistent.unrouted unreg
    intro u other isJoined
    have stands := consistent.stands u
    rw [isJoined] at stands
    exact free u stands.1
  · intro u
    rcases eq_or_ne u t with rfl | different
    · simp only [RxConfig.setThread, Function.update_self]
      exact ⟨rfl, unreg⟩
    · simp only [RxConfig.setThread, Function.update_of_ne different]
      exact (consistent.stands u).of_change id (fun owns => absurd owns (free u))
        fun _ _ _ absent => absent

/-- The route to the gateway is the first one: nobody else can be registering. -/
theorem Consistent.routeAdded {ifaceOf : τ → NsoIf} (consistent : config.Consistent) {t : τ}
    {pkt : Packet} {nxthop : DeviceId} (here : config.thread t = .joining pkt nxthop) :
    RxConfig.Consistent
      { config.setThread t (.joined pkt) with
        node := (Learning.route pkt.srcDevid nxthop (ifaceOf t)).added config.node } := by
  have stands := consistent.stands t
  rw [here] at stands
  have noneJoined : ∀ u other, config.thread u ≠ .joined other := by
    intro u other isJoined
    have owns := consistent.stands u
    rw [isJoined] at owns
    have same : t = u := Option.some.inj (stands.1.symm.trans owns.1)
    rw [← same, here] at isJoined
    exact Phase.noConfusion isJoined
  apply consistent.added
  · simp only [Learning.table, consistent.unrouted stands.2 noneJoined]
    exact List.not_mem_nil
  · intro u other todo different isMissed isRoute
    have missed := consistent.stands u
    rw [isMissed] at missed
    have connected := missed.2 ⟨other, List.mem_cons_self, isRoute.symm⟩
    rw [stands.2] at connected
    exact DevState.noConfusion connected
  · exact fun _ => .inr ⟨pkt, rfl⟩
  · exact noneJoined t
  · exact stands
  · simp

/-- The thread that registers the device gives the state mutex back. -/
theorem Consistent.connectedBy (consistent : config.Consistent) {t : τ} {pkt : Packet}
    (here : config.thread t = .joined pkt) :
    RxConfig.Consistent
      { config.setThread t (.learning []) with
        stateLock := none
        node := config.node.connectedTo pkt.srcDevid } := by
  have stands := consistent.stands t
  rw [here] at stands
  refine ⟨?_, ?_, ?_, ?_, ?_⟩
  · exact covered_connectedTo consistent.covered _
  · intro table
    simp only [keysOf_connectedTo]
    exact consistent.unique table
  · simp [Node.connectedTo, Node.updateLayer]
  · simp [Node.connectedTo, Node.updateLayer]
  · intro u
    rcases eq_or_ne u t with rfl | different
    · simp only [RxConfig.setThread, Function.update_self]
      exact fun _ => rfl
    · simp only [RxConfig.setThread, Function.update_of_ne different]
      apply (consistent.stands u).of_change
      · exact fun _ => rfl
      · intro owns
        exact absurd (Option.some.inj (owns.symm.trans stands.1)) different
      · intro item todo _ absent
        simp only [keysOf_connectedTo]
        exact absent

/-! ### Every step -/

theorem consistent_step {ifaceOf : τ → NsoIf} (consistent : config.Consistent)
    (unraced : config.Unraced) (step : Step ifaceOf config after) : after.Consistent := by
  cases step with
  | elsewhere node same =>
      exact Consistent.of_sameLearned consistent rfl rfl same
  | admitRoutes unlocked =>
      rw [promoted_of_not_reg consistent.notReg]
      exact consistent
  | advertisement t pkt src waiting isSon isNbr =>
      apply consistent.setThread
      · rintro ⟨item, inList, isRoute⟩
        rcases List.mem_pair.mp inList with rfl | rfl <;> simp [Learning.table] at isRoute
      · simp [waiting]
  | beacon t pkt src waiting isTsd isReg unlocked connected isBroadcast =>
      apply consistent.setThread
      · exact fun _ => connected
      · simp [waiting]
  | relay t pkt src waiting isTsd isReg unlocked connected notBroadcast =>
      apply consistent.setThread
      · exact connected
      · simp [waiting]
  | downstream t pkt src entry here found =>
      have stands := consistent.stands t
      rw [here] at stands
      apply consistent.setThread
      · exact fun _ => stands
      · simp [here]
  | known t item todo here isKnown =>
      have stands := consistent.stands t
      rw [here] at stands
      have moved : (config.setThread t (.learning todo)).Consistent := by
        apply consistent.setThread
        · rintro ⟨other, inList, isRoute⟩
          exact stands ⟨other, List.mem_cons_of_mem _ inList, isRoute⟩
        · simp [here]
      apply Consistent.of_sameKeys moved
      · rfl
      · rfl
      · exact Learning.covered_refreshed consistent.covered
      · exact fun table => Learning.keysOf_refreshed
      · exact Learning.devState_refreshed
  | unknown t item todo here isUnknown =>
      have stands := consistent.stands t
      rw [here] at stands
      apply consistent.setThread
      · refine ⟨?_, stands⟩
        rw [← Learning.known_iff consistent.covered, isUnknown]
        simp
      · simp [here]
  | add t item todo here =>
      have stands := consistent.stands t
      rw [here] at stands
      apply consistent.added stands.1
      · intro u other rest different isMissed
        exact unraced t u item other todo rest different.symm here isMissed
      · exact fun isRoute => .inl (stands.2 ⟨item, List.mem_cons_self, isRoute⟩)
      · simp [here]
      · rintro ⟨other, inList, isRoute⟩
        exact stands.2 ⟨other, List.mem_cons_of_mem _ inList, isRoute⟩
      · simp
  | reply t pkt src waiting isTsd isReply forMe unlocked unreg success =>
      exact consistent.replied t pkt src unlocked unreg
  | nexthop t pkt src entry here found =>
      have stands := consistent.stands t
      rw [here] at stands
      apply consistent.setThread
      · exact stands
      · simp [here]
  | addRoute t pkt nxthop here => exact consistent.routeAdded here
  | connect t pkt here => exact consistent.connectedBy here

/-- The condition on the runs: no configuration has a race. -/
def UnracedRun (ifaceOf : τ → NsoIf) : RxConfig τ → RxConfig τ → Prop :=
  Relation.ReflTransGen fun before after => Step ifaceOf before after ∧ after.Unraced

theorem consistent_run {ifaceOf : τ → NsoIf} (initial : config.Initial)
    (run : UnracedRun ifaceOf config after) : after.Consistent ∧ after.Unraced := by
  induction run with
  | refl =>
      refine ⟨consistent_initial initial, ?_⟩
      intro t u item other todo rest _ isMissed
      rw [initial.waiting t] at isMissed
      exact Phase.noConfusion isMissed
  | tail _ last ih => exact ⟨consistent_step ih.1 ih.2 last.1, last.2⟩

/-- Two threads that missed the same key end with two entries. -/
theorem duplicates_of_race (ifaceOf : τ → NsoIf) (raced : ¬ config.Unraced) :
    ∃ after, Relation.ReflTransGen (Step ifaceOf) config after ∧ ¬ after.node.UniqueKeys := by
  simp only [Unraced, not_forall, not_not] at raced
  rcases raced with ⟨t, u, item, other, todo, rest, different, atItem, atOther, sameTable, sameId⟩
  have first : Step ifaceOf config _ := .add t item todo atItem
  let added : RxConfig τ :=
    { config.setThread t (.learning todo) with node := item.added config.node }
  have atOtherStill : added.thread u = .missed other rest := by
    simpa [added, RxConfig.setThread, different.symm] using atOther
  have second : Step ifaceOf added _ := .add u other rest atOtherStill
  refine ⟨_, (Relation.ReflTransGen.single first).tail second, ?_⟩
  intro unique
  have keys := unique other.table
  rw [Learning.keysOf_added.nodup_iff, List.nodup_cons, Learning.mem_keysOf_added] at keys
  exact keys.1 (.inl ⟨sameTable.symm, sameId.symm⟩)

/-! ## Route updates -/

theorem sameLearned_blind : BlindToRoutes Node.SameLearned :=
  ⟨.refl, .trans, fun _ _ _ => ⟨rfl, rfl, rfl, rfl⟩⟩

/-! ## The handlers as runs -/

/-- The steps of one thread alone bring the device to a node, and the thread waits for
the next frame. -/
def CanHandle (ifaceOf : τ → NsoIf) (config : RxConfig τ) (t : τ) (node : Node) : Prop :=
  ∃ after, Relation.ReflTransGen (Step ifaceOf) config after ∧ after.node = node ∧
    after.stateLock = none ∧ after.thread t = .learning [] ∧
      ∀ u ≠ t, after.thread u = config.thread u

variable {ifaceOf : τ → NsoIf} {t : τ} {node : Node} {pkt : Packet} {src : L2addr}
  {held : Lock → Bool}

theorem canHandle_dropped (unlocked : config.stateLock = none)
    (waiting : config.thread t = .learning []) : CanHandle ifaceOf config t config.node :=
  ⟨config, .refl, rfl, unlocked, waiting, fun _ _ => rfl⟩

theorem CanHandle.head (step : Step ifaceOf config after) (rest : CanHandle ifaceOf after t node)
    (others : ∀ u ≠ t, after.thread u = config.thread u) : CanHandle ifaceOf config t node := by
  rcases rest with ⟨final, run, atNode, unlocked, waiting, same⟩
  refine ⟨final, .head step run, atNode, unlocked, waiting, ?_⟩
  intro u different
  rw [same u different, others u different]

/-- What a handler does behind its learning stays elsewhere. -/
theorem CanHandle.elsewhere {final : Node} (handled : CanHandle ifaceOf config t node)
    (same : node.SameLearned final) : CanHandle ifaceOf config t final := by
  rcases handled with ⟨after, run, rfl, unlocked, waiting, others⟩
  exact ⟨_, run.tail (.elsewhere final same), rfl, unlocked, waiting, others⟩

theorem CanHandle.forwards (handled : CanHandle ifaceOf config t node) {final : Node}
    (forwards : Forwards pkt node final) : CanHandle ifaceOf config t final :=
  handled.elsewhere (.of_nsol (nsol_forwards forwards))

/-- The sections of a list, one after the other, are the learning of the handlers. -/
theorem canHandle_learning {todo : List Learning} (unlocked : config.stateLock = none)
    (here : config.thread t = .learning todo) :
    CanHandle ifaceOf config t (todo.foldl Learning.learned config.node) := by
  induction todo generalizing config with
  | nil => exact canHandle_dropped unlocked here
  | cons item todo ih =>
      rw [List.foldl_cons, Learning.learned_eq]
      cases isKnown : item.known config.node with
      | true =>
          simp only [if_true]
          apply CanHandle.head (.known t item todo here isKnown)
          · apply ih
            · exact unlocked
            · simp [RxConfig.setThread]
          · intro u different
            simp [RxConfig.setThread, different]
      | false =>
          simp only [Bool.false_eq_true, if_false]
          apply CanHandle.head (.unknown t item todo here isKnown)
          · apply CanHandle.head (.add t item todo (by simp [RxConfig.setThread]))
            · apply ih
              · exact unlocked
              · simp [RxConfig.setThread]
            · intro u different
              simp [RxConfig.setThread, different]
          · intro u different
            simp [RxConfig.setThread, different]

/-- A handler whose first section gives it a list of what to learn. -/
theorem canHandle_learnsFrom {todo : List Learning} (unlocked : config.stateLock = none)
    (step : Step ifaceOf config (config.setThread t (.learning todo))) :
    CanHandle ifaceOf config t (todo.foldl Learning.learned config.node) := by
  apply CanHandle.head step
  · apply @canHandle_learning _ (config.setThread t (.learning todo)) _ _ _ _ unlocked
    simp [RxConfig.setThread]
  · intro u different
    simp [RxConfig.setThread, different]

theorem fwdBeacon_sections (free : TablesFree held) (unlocked : config.stateLock = none)
    (waiting : config.thread t = .learning []) (isTsd : dispatch pkt.proto = .tsd)
    (isReg : pkt.msgType = tsdMsgReg) :
    (Device.fwdBeacon pkt (some src) (some (ifaceOf t))).wp (fun _ _ => True)
      (.always (CanHandle ifaceOf config t)) held config.node := by
  have dropped := @canHandle_dropped _ _ _ ifaceOf _ unlocked waiting
  rw [Device.fwdBeacon, wp_fwdBeaconWith_air tolerant_true free]
  refine ite_connected dropped fun connected => ?_
  cases held .arpt with
  | true => exact dropped
  | false =>
    simp only [Bool.false_eq_true, if_false]
    cases toAll : isBroadcastDevId pkt.dstDevid with
    | true =>
        have step : Step ifaceOf config _ :=
          .beacon t pkt src waiting isTsd isReg unlocked connected toAll
        have learned := canHandle_learnsFrom unlocked step
        exact wp_always_mono (fun _ forwards => learned.forwards forwards)
          (deliverFwd_forwards free)
    | false =>
        cases found : ArpTable.lookupFromL2addr src config.node.nsol.arpt with
        | none => exact dropped
        | some entry =>
            have learned : CanHandle ifaceOf config t
                (config.node.learnedRoute pkt.srcDevid entry.devId (ifaceOf t)) := by
              apply CanHandle.head (.relay t pkt src waiting isTsd isReg unlocked connected toAll)
              · have step : Step ifaceOf (config.setThread t (.relaying pkt src)) _ :=
                  .downstream t pkt src entry (by simp [RxConfig.setThread]) found
                exact @canHandle_learnsFrom _ (config.setThread t (.relaying pkt src)) _ _ _ _
                  unlocked step
              · intro u different
                simp [RxConfig.setThread, different]
            exact wp_always_mono (fun _ forwards => learned.forwards forwards)
              (deliverFwd_forwards free)

theorem processRegReply_sections (free : TablesFree held) (unlocked : config.stateLock = none)
    (waiting : config.thread t = .learning []) (isTsd : dispatch pkt.proto = .tsd)
    (isReply : pkt.msgType = tsdMsgRegReply) :
    (Device.processRegReply pkt (some src) (some (ifaceOf t))).wp (fun _ _ => True)
      (.always (CanHandle ifaceOf config t)) held config.node := by
  have dropped := @canHandle_dropped _ _ _ ifaceOf _ unlocked waiting
  rw [wp_processRegReply tolerant_true, ite_prop_iff_and]
  refine ⟨fun forMe => ?_, fun notForMe => ?_⟩
  · cases held .state with
    | true => exact dropped
    | false =>
        simp only [Bool.false_eq_true, if_false]
        by_cases joins : config.node.nsol.devState = .unreg ∧
            pkt.byteAt (nsohdrSize + 1) = nrg5RegSuccess
        · rw [if_pos joins]
          cases held .arpt with
          | true => exact dropped
          | false =>
              simp only [Bool.false_eq_true, if_false]
              cases upstream : ArpTable.lookupFromL2addr src config.node.nsol.arpt with
              | none => exact dropped
              | some entry =>
                  have moves : ∀ (config : RxConfig τ) (phase : Phase), ∀ u ≠ t,
                      (config.setThread t phase).thread u = config.thread u := by
                    intro config phase u different
                    simp [RxConfig.setThread, different]
                  apply CanHandle.head
                  · exact .reply t pkt src waiting isTsd isReply forMe unlocked joins.1 joins.2
                  · apply CanHandle.head
                    · exact .nexthop t pkt src entry (by simp [RxConfig.setThread]) upstream
                    · apply CanHandle.head
                      · exact .addRoute t pkt entry.devId (by simp [RxConfig.setThread])
                      · apply CanHandle.head
                        · exact .connect t pkt (by simp [RxConfig.setThread])
                        · exact canHandle_dropped rfl (by simp [RxConfig.setThread])
                        · exact moves _ _
                      · exact moves _ _
                    · exact moves _ _
                  · exact moves _ _
        · rw [if_neg joins]
          exact dropped
  · refine ite_connected dropped fun connected => ?_
    exact wp_always_mono (fun _ forwards => dropped.forwards forwards)
      (deliverFwd_forwards free)

theorem routeUpdate_sections (free : TablesFree held) (unlocked : config.stateLock = none)
    (waiting : config.thread t = .learning []) :
    (Device.routeUpdate pkt).wp (fun _ _ => True)
      (.always (CanHandle ifaceOf config t)) held config.node := by
  have dropped := @canHandle_dropped _ _ _ ifaceOf _ unlocked waiting
  have promoted : CanHandle ifaceOf config t config.node.promoted :=
    .head (.admitRoutes unlocked)
      (canHandle_dropped unlocked waiting)
      fun _ _ => rfl
  rw [Device.routeUpdate, wp_routeUpdateWith tolerant_true
    (fun ending => wp_admitRouteUpdate tolerant_true ending)]
  rw [ite_prop_iff_and]
  refine ⟨fun forMe => ?_, fun notForMe => ?_⟩
  · cases held .state with
    | true => exact dropped
    | false =>
        simp only [Bool.false_eq_true, if_false]
        rcases eq_or_ne config.node.nsol.devState .unreg with unreg | notUnreg
        · rw [if_pos unreg]
          exact promoted
        · rw [if_neg notUnreg]
          exact wp_always_mono (fun _ same => promoted.elsewhere same)
            sameLearned_blind.updateRoutes
  · refine ite_connected dropped fun connected => ?_
    exact wp_always_mono (fun _ forwards => dropped.forwards forwards)
      (deliverFwd_forwards free)

theorem neighborMaintain_sections (free : TablesFree held) (unlocked : config.stateLock = none)
    (waiting : config.thread t = .learning []) (isSon : dispatch pkt.proto = .son)
    (isNbr : pkt.msgType = sonMsgNbr) :
    (neighborMaintain pkt (some src) (some (ifaceOf t))).wp (fun _ _ => True)
      (.always (CanHandle ifaceOf config t)) held config.node := by
  rw [wp_neighborMaintain_air tolerant_true free]
  cases held .arpt with
  | true => exact canHandle_dropped unlocked waiting
  | false => exact canHandle_learnsFrom unlocked (.advertisement t pkt src waiting isSon isNbr)

/-- Every frame that a thread handles alone is a run of sections. -/
theorem processRx_sections (free : TablesFree held) (unlocked : config.stateLock = none)
    (waiting : config.thread t = .learning []) (pkt : Packet) (src : L2addr) :
    CanHandle ifaceOf config t
      ((Device.processRx pkt (some src) (some (ifaceOf t))).exec held config.node).state := by
  have dropped := @canHandle_dropped _ _ _ ifaceOf _ unlocked waiting
  have passed : (deliverFwd pkt).wp (fun _ _ => True) (.always (CanHandle ifaceOf config t)) held
      config.node :=
    wp_always_mono (fun _ forwards => dropped.forwards forwards) (deliverFwd_forwards free)
  rw [← wp_always_iff (CanHandle ifaceOf config t)]
  unfold Device.processRx
  cases isHandler : dispatch pkt.proto with
  | tsd =>
      dsimp only
      rw [wp_bind]
      unfold Device.tsdProcessRx
      rw [wp_ite]
      split
      · rename_i isReg
        rw [wp_bind]
        exact fwdBeacon_sections free unlocked waiting isHandler isReg
      · rw [wp_ite]
        split
        · rename_i isReply
          rw [wp_bind]
          exact processRegReply_sections free unlocked waiting isHandler isReply
        · exact dropped
  | son =>
      dsimp only
      rw [wp_bind]
      unfold Device.sonProcessRx
      rw [wp_ite]
      split
      · rw [wp_bind]
        exact routeUpdate_sections free unlocked waiting
      · rw [wp_ite]
        split
        · rename_i isNbr
          rw [wp_bind]
          exact neighborMaintain_sections free unlocked waiting isHandler isNbr
        · rw [wp_ite]
          split
          · rw [wp_bind, Device.fwdTopoReport, wp_fwdTopoReportWith tolerant_true]
            exact ite_connected dropped fun _ => passed
          · exact dropped
  | data =>
      dsimp only
      rw [wp_dataProcessRx tolerant_true free]
      refine ite_connected dropped fun _ => ?_
      rw [ite_prop_iff_and]
      exact ⟨fun _ => dropped.elsewhere ⟨rfl, rfl, rfl, rfl⟩, fun _ => passed⟩

end Runs

end RxConfig

open RxConfig

/-- On every run without a race no table ever holds two entries for one key, and a race is
all it takes for two entries. -/
theorem tables_unique_unless_raced (τ : Type) [DecidableEq τ] (ifaceOf : τ → NsoIf) :
    (∀ start config : RxConfig τ,
      start.Initial → UnracedRun ifaceOf start config → config.node.UniqueKeys) ∧
    (∀ config : RxConfig τ,
      ¬ config.Unraced → ∃ after, Relation.ReflTransGen (Step ifaceOf) config after ∧
        ¬ after.node.UniqueKeys) := by
  constructor
  · intro start config initial run
    exact (consistent_run initial run).1.unique
  · intro config raced
    exact duplicates_of_race ifaceOf raced

/-! ### Two interfaces -/

/-- The advertisement of a device. -/
def advertisementOf (devId : DeviceId) : Packet :=
  finishControl (beginControl (fun _ => 0) 1500 devId bcDeviceId protoCpVson sonMsgNbr)
    (nsohdrSize + 1)

theorem advertisementOf_shows (devId : DeviceId) :
    (advertisementOf devId).Shows ⟨devId, bcDeviceId, protoCpVson, some sonMsgNbr⟩ := by
  have showing := @shows_control (fun _ => 0) 1500 devId bcDeviceId protoCpVson sonMsgNbr []
    (nsohdrSize + 1) (by decide) (by decide)
  rwa [put_nil] at showing

/-- The two interfaces of a device. -/
def wlanOf (second : Bool) : NsoIf :=
  if second then { ifIndex := 1, ifMac := [2, 0, 0, 0, 0, 4], macSize := rfl } else wlan0

/-- Device 1 at start, with two interfaces. -/
def twoIfaces : RxConfig Bool :=
  { node := Node.start (NsoLayer.initial 1 2 1500 [wlanOf false, wlanOf true] (by decide)) .nominal
    stateLock := none
    thread := fun _ => .learning [] }

theorem twoIfaces_initial : twoIfaces.Initial :=
  ⟨⟨1, 2, 1500, [wlanOf false, wlanOf true], by decide, rfl⟩, rfl, fun _ => rfl⟩

/-- What device 5 makes a thread learn. -/
def fromDevice5 (second : Bool) : List Learning :=
  [.arp 5 [2, 0, 0, 0, 0, 5], .nbr 5 (wlanOf second)]

/-- Some threads have missed device 5, and the others wait for a frame. -/
def missing (threads : Bool → Bool) : RxConfig Bool :=
  { twoIfaces with
    thread := fun t =>
      if threads t then .missed (.arp 5 [2, 0, 0, 0, 0, 5]) [.nbr 5 (wlanOf t)] else .learning [] }

/-- A thread that waits receives the advertisement of device 5 and misses it. -/
theorem missing_steps {threads : Bool → Bool} {t : Bool} (waiting : threads t = false) :
    ∃ heard, Step wlanOf (missing threads) heard ∧
      heard = (missing threads).setThread t (.learning (fromDevice5 t)) ∧
      Step wlanOf heard (missing (Function.update threads t true)) := by
  have showing := advertisementOf_shows 5
  have isSrc : (advertisementOf 5).srcDevid = 5 := showing.src
  have isSon : dispatch (advertisementOf 5).proto = .son := by
    rw [showing.proto]
    decide
  have isNbr : (advertisementOf 5).msgType = sonMsgNbr :=
    (Option.some.inj (showing.type rfl)).symm
  have hears : Step wlanOf (missing threads) _ :=
    .advertisement t (advertisementOf 5) [2, 0, 0, 0, 0, 5] (by simp [missing, waiting]) isSon isNbr
  have misses : Step wlanOf ((missing threads).setThread t (.learning (fromDevice5 t))) _ :=
    .unknown t (.arp 5 [2, 0, 0, 0, 0, 5]) [.nbr 5 (wlanOf t)]
      (by simp [RxConfig.setThread, fromDevice5]) rfl
  have lands : missing (Function.update threads t true) =
      ((missing threads).setThread t (.learning (fromDevice5 t))).setThread t
        (.missed (.arp 5 [2, 0, 0, 0, 0, 5]) [.nbr 5 (wlanOf t)]) := by
    simp only [missing, RxConfig.setThread, RxConfig.mk.injEq, true_and, Function.update_idem]
    funext u
    rcases eq_or_ne u t with rfl | different
    · simp
    · simp [Function.update_of_ne different]
  rw [isSrc] at hears
  rw [← lands] at misses
  exact ⟨_, hears, rfl, misses⟩

theorem missing_none : missing (fun _ => false) = twoIfaces := rfl

/-- Both threads receive the advertisement of a new device on their interface, and the
ARP table holds the device twice. -/
theorem simultaneous_advertisements_duplicate :
    ∃ after, twoIfaces.Initial ∧ Relation.ReflTransGen (Step wlanOf) twoIfaces after ∧
      after.node.keysOf .arpt = [5, 5] := by
  rcases @missing_steps (fun _ => false) false rfl with
    ⟨firstHeard, hears, _, misses⟩
  rcases @missing_steps (Function.update (fun _ => false) false true) true rfl with
    ⟨bothHeard, alsoHears, _, alsoMisses⟩
  rw [missing_none] at hears
  have bothMissed : Relation.ReflTransGen (Step wlanOf) twoIfaces _ :=
    (((Relation.ReflTransGen.single hears).tail misses).tail alsoHears).tail alsoMisses
  have firstAdds := bothMissed.tail (.add false (.arp 5 [2, 0, 0, 0, 0, 5]) _ rfl)
  have secondAdds := firstAdds.tail (.add true (.arp 5 [2, 0, 0, 0, 0, 5]) _ rfl)
  exact ⟨_, twoIfaces_initial, secondAdds, rfl⟩

/-- Only one thread has missed a lookup. -/
theorem unraced_of_one {τ : Type} {config : RxConfig τ} (t : τ)
    (others : ∀ u ≠ t, ∀ item todo, config.thread u ≠ .missed item todo) : config.Unraced := by
  intro first second item other todo rest different atFirst atSecond
  rcases eq_or_ne first t with rfl | notFirst
  · exact absurd atSecond (others second different.symm other rest)
  · exact absurd atFirst (others first notFirst item todo)

/-- One thread learns device 5 while the other one waits; with both between lookup and
addition the next steps duplicate the entry. -/
theorem one_advertisement_unique :
    (∃ config, UnracedRun wlanOf twoIfaces config ∧ config.node.keysOf .arpt = [5] ∧
      config.node.UniqueKeys) ∧
    ∃ after, Relation.ReflTransGen (Step wlanOf) (missing fun _ => true) after ∧
      ¬ after.node.UniqueKeys := by
  constructor
  · rcases @missing_steps (fun _ => false) false rfl with
      ⟨heard, hears, isHeard, misses⟩
    rw [missing_none] at hears
    have adds : Step wlanOf (missing (Function.update (fun _ => false) false true)) _ :=
      .add false (.arp 5 [2, 0, 0, 0, 0, 5]) _ rfl
    have alone : ∀ u ≠ false, ∀ item todo,
        (missing (Function.update (fun _ => false) false true)).thread u ≠ .missed item todo := by
      intro u different item todo
      simp [missing, Function.update_of_ne different]
    have run : UnracedRun wlanOf twoIfaces _ :=
      ((Relation.ReflTransGen.single ⟨hears, by
        apply unraced_of_one false
        intro u different item todo
        simp [isHeard, RxConfig.setThread, missing, Function.update_of_ne different]⟩).tail
        ⟨misses, unraced_of_one false alone⟩).tail ⟨adds, by
          apply unraced_of_one false
          intro u different item todo
          simp [RxConfig.setThread, missing, Function.update_of_ne different]⟩
    exact ⟨_, run, rfl, (tables_unique_unless_raced Bool wlanOf).1 twoIfaces _ twoIfaces_initial
      run⟩
  · apply (tables_unique_unless_raced Bool wlanOf).2
    intro unraced
    exact unraced false true _ _ _ _ (by simp) rfl rfl rfl rfl

end Nrg5
