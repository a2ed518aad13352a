import Nrg5.Fwding.Compiled

/-!
# Locks of the forwarding tables

Threads that run `nso_layer_fwd`, `__fwd_beacon` and `__route_update` against each
other, and when the entry that a lookup finds inside a critical section is still
there when it is read.

The functions that change a table do not take its mutex, so a section excludes
nothing: the tables are safe exactly when no thread that changes one runs beside
another thread that locks one.
-/

namespace Nrg5

namespace Fwding

open LockProg

abbrev Config (τ : Type) := Threads.Config τ Memory FwdtId FwdOp Halt

/-- The next thing a thread does is an operation. -/
def AboutTo {τ : Type} (config : Config τ) (t : τ) (op : FwdOp) : Prop :=
  ∃ update next entered, config.thread t = .running (.act op update next) entered

/-- While a thread is between lock and unlock no other thread changes the table, and the
entries that are used are there. -/
structure Guarded {τ : Type} (config : Config τ) : Prop where
  exclusive : ∀ t u fwdt op, t ≠ u → config.InSection t fwdt → AboutTo config u op →
    ¬ op.Changes fwdt
  live : ∀ t fwdt addr op, AboutTo config t op → op.Uses fwdt addr →
    config.state.HasEntry fwdt addr

/-- The runs in which every thread starts only the calls it runs. -/
abbrev Run {τ : Type} [DecidableEq τ] (runs : τ → FwdCall → Prop) : Config τ → Config τ → Prop :=
  Threads.RunWithin runs FwdCall.body (fun _ _ => True) fun _ _ => False

variable {memory : Memory} {fwdt : FwdtId} {entry : FwdEntry} {dest : DeviceId}

/-! ## What the calls never do -/

/-- An operation that neither changes a table nor writes anything. -/
def Reads (op : FwdOp) (update : Memory → Memory) : Prop :=
  (∀ fwdt, ¬ op.Changes fwdt) ∧ ∀ memory, update memory = memory

theorem reads_query {op : FwdOp} (unchanged : ∀ fwdt, ¬ op.Changes fwdt) : Reads op id :=
  ⟨unchanged, fun _ => rfl⟩

/-- What `findHop` does with the entry that it looked up. -/
def readFound (fwdt : FwdtId) : Option FwdEntry → FwdProg (Option (DeviceId × NsoIf))
  | some entry => do
      let hop ← query (.readHop fwdt entry.addr) fun _ => (entry.nxthop, entry.iface)
      fwdTableUnlock fwdt
      pure (some hop)
  | none => do
      fwdTableUnlock fwdt
      pure none

theorem findHop_eq (fwdt : FwdtId) (dst : DeviceId) :
    findHop fwdt dst = (do
      fwdTableLock fwdt
      let fwdEntry ← fwdTableLookupUnsafe fwdt dst
      readFound fwdt fwdEntry) := rfl

theorem findHop_reads (dst : DeviceId) : (findHop fwdt dst).Every (fun _ => True) Reads := by
  rw [findHop_eq]
  refine ⟨trivial, ?_⟩
  refine ⟨reads_query (by simp [FwdOp.Changes]), fun memory => ?_⟩
  change (readFound fwdt (FwdTable.lookup dst (memory.table fwdt))).Every _ _
  cases FwdTable.lookup dst (memory.table fwdt) with
  | some entry => exact ⟨reads_query (by simp [FwdOp.Changes]), fun _ => trivial⟩
  | none => trivial

theorem nsoLayerFwd_reads (dst : DeviceId) : (nsoLayerFwd dst).Every (fun _ => True) Reads := by
  apply every_bind (findHop_reads dst)
  intro hop
  cases hop with
  | some found => trivial
  | none => exact findHop_reads dst

theorem routeUpdate_reads {rules : List RtRule} (unchanged : changesRoutes rules = false) :
    (routeUpdate rules).Every (fun _ => True) Reads := by
  induction rules with
  | nil => trivial
  | cons rule rules ih =>
      simp only [changesRoutes, Bool.and_eq_false_iff, decide_eq_false_iff_not,
        Bool.or_eq_false_iff, beq_eq_false_iff_ne] at unchanged
      simp only [routeUpdate, applyRule, ruleIface]
      rcases unchanged with outside | ⟨⟨notAdd, notDel⟩, rest⟩
      · simp only [if_neg outside]
        exact ⟨reads_query (by simp [FwdOp.Changes]), fun _ => trivial⟩
      · apply every_bind _ fun _ => ih rest
        apply every_bind
        · apply every_bind (every_query (reads_query (by simp [FwdOp.Changes])))
          exact fun _ => every_ite _ (fun _ => trivial) fun _ => trivial
        · intro iface
          apply every_bind
          · exact ⟨reads_query (by simp [FwdOp.Changes]), fun _ => trivial⟩
          · intro fwdEntry
            rw [if_neg notAdd, if_neg notDel]
            trivial

theorem call_reads {call : FwdCall} (unchanged : call.changes = false) :
    call.body.Every (fun _ => True) Reads := by
  cases call with
  | nsoLayerFwd dst => exact every_bind (nsoLayerFwd_reads dst) fun _ => trivial
  | fwdBeacon src nxthop iface dst => simp [FwdCall.changes] at unchanged
  | routeUpdate rules => exact routeUpdate_reads unchanged
  | aging fwdt => simp [FwdCall.changes] at unchanged

/-- An operation that uses no entry. -/
def Unused (op : FwdOp) (_update : Memory → Memory) : Prop := ∀ fwdt addr, ¬ op.Uses fwdt addr

theorem unused_lookup : Unused (.lookup fwdt) id := by
  rintro _ _ (same | same) <;> exact FwdOp.noConfusion same

theorem unused_ifaceAt : Unused .ifaceAt id := by
  rintro _ _ (same | same) <;> exact FwdOp.noConfusion same

theorem dropRoute_unlocked (fwdEntry : Option FwdEntry) :
    (dropRoute fwdEntry).Every (fun _ => False) Unused := by
  cases fwdEntry with
  | none => trivial
  | some entry =>
      refine ⟨?_, fun _ => ⟨?_, fun _ => trivial⟩⟩
      · rintro _ _ (same | same) <;> exact FwdOp.noConfusion same
      · rintro _ _ (same | same) <;> exact FwdOp.noConfusion same

theorem allocFwdEntry_unlocked (dest nxthop : DeviceId) (iface : Option NsoIf) :
    (allocFwdEntry dest nxthop iface).Every (fun _ => False) Unused := by
  cases iface with
  | none => trivial
  | some interface =>
      apply every_perform
      rintro _ _ (same | same) <;> exact FwdOp.noConfusion same

theorem fwdTableAdd_unlocked : (fwdTableAdd fwdt entry).Every (fun _ => False) Unused := by
  refine ⟨?_, fun _ => trivial⟩
  rintro _ _ (same | same) <;> exact FwdOp.noConfusion same

/-- The rules of a route update take no mutex: the lookup does not, and neither do the
functions behind the macro. -/
theorem applyRule_unlocked (rule : RtRule) : (applyRule rule).Every (fun _ => False) Unused := by
  apply every_bind
  · apply every_bind (every_query unused_ifaceAt)
    exact fun _ => every_ite _ (fun _ => trivial) fun _ => trivial
  · intro iface
    apply every_bind
    · exact ⟨unused_lookup, fun _ => trivial⟩
    · intro fwdEntry
      apply every_ite
      · intro _
        apply every_bind (dropRoute_unlocked fwdEntry)
        intro _
        exact every_bind (allocFwdEntry_unlocked _ _ iface) fun _ => fwdTableAdd_unlocked
      · exact fun _ => every_ite _ (fun _ => dropRoute_unlocked fwdEntry) fun _ => trivial

theorem routeUpdate_unlocked (rules : List RtRule) :
    (routeUpdate rules).Every (fun _ => False) Unused := by
  induction rules with
  | nil => trivial
  | cons rule rules ih => exact every_bind (applyRule_unlocked rule) fun _ => ih

theorem call_unlocked {call : FwdCall} (unlocked : call.locks = false) :
    call.body.Every (fun _ => False) Unused := by
  cases call with
  | nsoLayerFwd dst => simp [FwdCall.locks] at unlocked
  | fwdBeacon src nxthop iface dst => simp [FwdCall.locks] at unlocked
  | routeUpdate rules => exact routeUpdate_unlocked rules
  | aging fwdt =>
      refine ⟨?_, fun _ => trivial⟩
      rintro _ _ (same | same) <;> exact FwdOp.noConfusion same

/-! ## Threads that keep apart -/

section Apart

variable {τ : Type} [DecidableEq τ] {runs : τ → FwdCall → Prop} {start config : Config τ}

/-- No thread runs a call that changes a table beside another thread that runs a call that
locks one. -/
def Apart (runs : τ → FwdCall → Prop) : Prop :=
  ∀ t u, t ≠ u → ∀ call other, runs t call → runs u other → call.locks = true →
    other.changes = false

omit [DecidableEq τ] in
theorem Apart.others_read (apart : Apart runs) {t : τ} {call : FwdCall} (runsCall : runs t call)
    (locks : call.locks = true) :
    ∀ u ≠ t, ∀ other, runs u other → other.body.Every (fun _ => True) Reads :=
  fun u different other runsOther =>
    call_reads (apart t u different.symm call other runsCall runsOther locks)

omit [DecidableEq τ] in
theorem calls_unlocked {t : τ} (noLocker : ¬ ∃ call, runs t call ∧ call.locks = true) :
    ∀ call, runs t call → call.body.Every (fun _ => False) Unused := by
  intro call runsCall
  apply call_unlocked
  rw [← Bool.not_eq_true]
  exact fun locks => noLocker ⟨call, runsCall, locks⟩

theorem exclusive_of_apart (apart : Apart runs) (initial : start.Initial)
    (run : Run runs start config) {t u : τ} {op : FwdOp} (different : t ≠ u)
    (inSection : config.InSection t fwdt) (about : AboutTo config u op) : ¬ op.Changes fwdt := by
  by_cases locker : ∃ call, runs t call ∧ call.locks = true
  · rcases locker with ⟨call, runsCall, locks⟩
    rcases about with ⟨update, next, entered, here⟩
    have keeps := Threads.keepsTo_run (t := u)
      (apart.others_read runsCall locks u different.symm) initial run
    exact (keeps.running here).1.1.1 fwdt
  · rcases inSection with ⟨rest, entered, here, isIn⟩
    have keeps := (Threads.keepsTo_run (calls_unlocked locker) initial run).running here
    rw [keeps.2 fwdt not_false] at isIn
    exact absurd isIn Bool.false_ne_true

theorem live_of_apart (apart : Apart runs) (initial : start.Initial) (live : start.state.Live)
    (run : Run runs start config) {t : τ} {op : FwdOp} {addr : Nat} (about : AboutTo config t op)
    (uses : op.Uses fwdt addr) : config.state.HasEntry fwdt addr := by
  rcases about with ⟨update, next, entered, here⟩
  by_cases locker : ∃ call, runs t call ∧ call.locks = true
  · rcases locker with ⟨call, runsCall, locks⟩
    have alone : Threads.Alone usesLive Memory.Live config t := by
      apply Threads.alone_run _ _ initial live run
      · exact fun own _ memory live => call_live own live
      · intro u different other runsOther
        apply (apart.others_read runsCall locks u different other runsOther).mono
        · exact fun _ _ => trivial
        · exact fun _ _ reads => reads.2
    simp only [Threads.Alone, here, LockProg.wp] at alone
    exact alone.1 fwdt addr uses
  · have keeps := (Threads.keepsTo_run (calls_unlocked locker) initial run).running here
    exact absurd uses (keeps.1.1 fwdt addr)

/-! ## Threads that do not -/

/-- A thread takes up a call while others own some mutexes, and performs a stretch of it. -/
theorem run_leading {t : τ} {call : FwdCall} {rest : FwdProg Unit} {blocked entered : FwdtId → Bool}
    {after : Memory} (runsCall : runs t call) (isIdle : config.thread t = .idle)
    (owned : ∀ fwdt, config.owner fwdt = none ↔ blocked fwdt = false)
    (leads : Leads blocked call.body (fun _ => false) config.state rest entered after) :
    ∃ reached, Run runs config reached ∧ reached.thread t = .running rest entered ∧
      reached.state = after ∧
      (∀ fwdt, reached.owner fwdt = none ↔ blocked fwdt = false ∧ entered fwdt = false) ∧
      ∀ other ≠ t, reached.thread other = config.thread other := by
  let called := config.setThread t (.running call.body fun _ => false)
  have starts : Run runs config called := .single (.inl ⟨t, call, runsCall, isIdle, rfl⟩)
  have isRunning : called.thread t = .running call.body fun _ => false := by
    simp [called, Threads.Config.setThread]
  have ownedCalled : ∀ fwdt, called.owner fwdt = none ↔ blocked fwdt = false ∧ false = false := by
    simp [called, Threads.Config.setThread, owned]
  rcases @Threads.run_of_leads _ _ _ _ _ _ _ _ runs FwdCall.body (fun _ _ => False) called
    _ _ _ t _ _ _ leads isRunning ownedCalled with
    ⟨reached, run, ⟨here, isState, ownedAfter⟩, others⟩
  refine ⟨reached, starts.trans run, here, isState, ownedAfter, ?_⟩
  intro other different
  rw [others other different]
  simp [called, Threads.Config.setThread, different]

end Apart

variable {blocked entered : FwdtId → Bool}

theorem leads_findHop_none (unblocked : blocked fwdt = false) (free : entered fwdt = false)
    (missing : FwdTable.lookup dest (memory.table fwdt) = none) :
    Leads blocked (findHop fwdt dest) entered memory (pure none) entered memory := by
  have released : Function.update (Function.update entered fwdt true) fwdt false = entered :=
    update_release fwdt free
  refine .lock unblocked free (.act ?_)
  dsimp only [LockProg.bind, id]
  rw [missing]
  refine .unlock unblocked ?_
  rw [released]
  exact .refl _ _ _

theorem leads_learnRoute_add (unblocked : blocked .localFwdt = false)
    (free : entered .localFwdt = false) (nxthop : DeviceId) (iface : NsoIf)
    (missing : FwdTable.lookup dest (memory.table .localFwdt) = none) :
    Leads blocked (learnRoute dest nxthop iface) entered memory
      (fwdTableAdd .localFwdt ⟨memory.heap, dest, nxthop, iface, .active⟩) entered
      { memory with heap := memory.heap + 1 } := by
  have released : Function.update (Function.update entered FwdtId.localFwdt true)
      FwdtId.localFwdt false = entered := update_release FwdtId.localFwdt free
  refine .lock unblocked free (.act ?_)
  dsimp only [LockProg.bind, id]
  rw [missing]
  refine .unlock unblocked (.act ?_)
  rw [released]
  exact .refl _ _ _

theorem leads_applyRule_skip {rule : RtRule} (inside : rule.ifIndex.toNat < nsoMaxSupportedIfaces)
    (notAdd : rule.action ≠ rtActionAdd) (notDel : rule.action ≠ rtActionDel) :
    Leads blocked (applyRule rule) entered memory (pure ()) entered memory := by
  simp only [applyRule, ruleIface, if_pos inside, if_neg notAdd, if_neg notDel]
  exact .act (.act (.refl _ _ _))

theorem leads_applyRule_del {rule : RtRule} (inside : rule.ifIndex.toNat < nsoMaxSupportedIfaces)
    (effective : rule.action = rtActionAdd ∨ rule.action = rtActionDel)
    (found : FwdTable.lookup rule.dstId (memory.table .sonFwdt) = some entry) :
    ∃ update next, Leads blocked (applyRule rule) entered memory
      (.act (.del .sonFwdt) update next) entered memory := by
  have leads : Leads blocked (applyRule rule) entered memory
      (if rule.action = rtActionAdd then (do
          dropRoute (FwdTable.lookup rule.dstId (memory.table .sonFwdt))
          let entry ← allocFwdEntry rule.dstId rule.nhId memory.ifaces[rule.ifIndex.toNat]?
          fwdTableAdd .sonFwdt entry)
        else if rule.action = rtActionDel then
          dropRoute (FwdTable.lookup rule.dstId (memory.table .sonFwdt))
        else pure ()) entered memory := by
    simp only [applyRule, ruleIface, if_pos inside]
    exact .act (.act (.refl _ _ _))
  rw [found] at leads
  rcases effective with isAdd | isDel
  · rw [if_pos isAdd] at leads
    exact ⟨_, _, leads⟩
  · have notAdd : rule.action ≠ rtActionAdd := by
      rw [isDel]
      decide
    rw [if_neg notAdd, if_pos isDel] at leads
    exact ⟨_, _, leads⟩

/-- A route update that changes the table leads to a deletion, where the table has the
route that its first effective rule names. -/
theorem leads_routeUpdate_del {rules : List RtRule} (changes : changesRoutes rules = true) :
    ∃ dest, ∀ memory entry, FwdTable.lookup dest (memory.table .sonFwdt) = some entry →
      ∃ update next, Leads blocked (routeUpdate rules) entered memory
        (.act (.del .sonFwdt) update next) entered memory := by
  induction rules with
  | nil => simp [changesRoutes] at changes
  | cons rule rules ih =>
      simp only [changesRoutes, Bool.and_eq_true, decide_eq_true_eq, Bool.or_eq_true,
        beq_iff_eq] at changes
      rcases changes with ⟨inside, effective⟩
      by_cases now : rule.action = rtActionAdd ∨ rule.action = rtActionDel
      · refine ⟨rule.dstId, fun memory entry found => ?_⟩
        rcases leads_applyRule_del inside now found with
          ⟨update, next, leads⟩
        exact ⟨update, _, leads.bind fun _ => routeUpdate rules⟩
      · rcases ih (effective.resolve_left now) with ⟨dest, further⟩
        refine ⟨dest, fun memory entry found => ?_⟩
        rcases further memory entry found with ⟨update, next, leads⟩
        have skips : Leads blocked (applyRule rule) entered memory (pure ()) entered memory :=
          leads_applyRule_skip inside (fun isAdd => now (.inl isAdd)) fun isDel => now (.inr isDel)
        exact ⟨update, next, (skips.bind fun _ => routeUpdate rules).trans leads⟩

/-- A layer with no temporary routes. -/
def memoryOf (sonFwdt : FwdTable) : Memory :=
  { table := fun
      | .sonFwdt => sonFwdt
      | .localFwdt => .empty
    ifaces := []
    heap := 1
    freed := [] }

/-- The first entry of a layer, a route of the controller to a device. -/
def firstRoute (dest : DeviceId) : FwdEntry := ⟨0, dest, dest, wlan0, .active⟩

theorem live_memoryOf_empty : (memoryOf .empty).Live := by
  have noEntry : ∀ side, ((memoryOf .empty).table side).ll = [] := by
    intro side
    cases side <;> rfl
  refine ⟨?_, ?_, ?_, ?_, ?_⟩
  · intro side
    cases side <;> exact HashedTable.covers_empty
  · simp [noEntry]
  · simp [noEntry]
  · simp [noEntry]
  · simp [memoryOf]

theorem live_memoryOf_route (dest : DeviceId) :
    (memoryOf (FwdTable.add (firstRoute dest) .empty)).Live := by
  refine ⟨?_, ?_, ?_, ?_, ?_⟩
  · intro side
    cases side
    · exact HashedTable.covers_empty.addTail
    · exact HashedTable.covers_empty
  · intro side entry _
    exact List.not_mem_nil
  · intro first second different entry isMem other otherMem
    cases first with
    | localFwdt => exact absurd isMem List.not_mem_nil
    | sonFwdt =>
        cases second with
        | localFwdt => exact absurd otherMem List.not_mem_nil
        | sonFwdt => exact absurd rfl different
  · intro side entry isMem
    cases side with
    | localFwdt => exact absurd isMem List.not_mem_nil
    | sonFwdt =>
        have isFirst : entry = firstRoute dest := by
          simpa [memoryOf, FwdTable.add, HashedTable.addTail, HashedTable.empty] using isMem
        rw [isFirst]
        exact Nat.one_pos
  · intro addr isFreed
    exact absurd isFreed List.not_mem_nil

/-- A call that changes a table comes, from some layer, to an operation that does, with no
mutex taken. -/
theorem change_reached {call : FwdCall} (changes : call.changes = true) :
    ∃ sonFwdt fwdt op, (memoryOf sonFwdt).Live ∧ op.Changes fwdt ∧
      (fwdt = .localFwdt → sonFwdt = .empty) ∧
      ∃ update next entered after, Leads (fun _ => false) call.body (fun _ => false)
          (memoryOf sonFwdt) (.act op update next) entered after ∧
        (∀ fwdt, entered fwdt = false) ∧ after.table = (memoryOf sonFwdt).table := by
  cases call with
  | nsoLayerFwd dst => simp [FwdCall.changes] at changes
  | fwdBeacon src nxthop iface dst =>
      have adds : Leads (fun _ => false) (learnRoute src nxthop iface) (fun _ => false)
          (memoryOf .empty) _ _ _ := leads_learnRoute_add rfl rfl nxthop iface rfl
      exact ⟨.empty, .localFwdt, .add .localFwdt, live_memoryOf_empty, .inl rfl, fun _ => rfl,
        _, _, _, _, adds.bind _, fun _ => rfl, rfl⟩
  | routeUpdate rules =>
      rcases leads_routeUpdate_del
        changes with ⟨dest, leads⟩
      have found : FwdTable.lookup dest
          ((memoryOf (FwdTable.add (firstRoute dest) .empty)).table .sonFwdt) =
            some (firstRoute dest) := by
        change FwdTable.lookup dest (FwdTable.add (firstRoute dest) .empty) = _
        exact FwdTable.lookup_add.trans (if_pos rfl)
      rcases leads _ _ found with ⟨update, next, leads⟩
      refine ⟨_, .sonFwdt, .del .sonFwdt, live_memoryOf_route dest, .inr (.inl rfl), ?_, update,
        next, _, _, leads, fun _ => rfl, rfl⟩
      exact fun isLocal => FwdtId.noConfusion isLocal
  | aging fwdt =>
      exact ⟨.empty, fwdt, .aging fwdt, live_memoryOf_empty, .inr (.inr rfl), fun _ => rfl, _, _, _,
        _, .refl _ _ _, fun _ => rfl, rfl⟩

/-- A call that locks enters a section of either table, when the tables before it hold no
route. -/
theorem section_entered {call : FwdCall} (locks : call.locks = true) (fwdt : FwdtId)
    (localEmpty : memory.table .localFwdt = .empty)
    (sonEmpty : fwdt = .localFwdt → memory.table .sonFwdt = .empty) :
    ∃ rest entered after, Leads (fun _ => false) call.body (fun _ => false) memory rest entered
        after ∧ entered fwdt = true := by
  cases call with
  | routeUpdate rules => simp [FwdCall.locks] at locks
  | aging fwdt => simp [FwdCall.locks] at locks
  | nsoLayerFwd dst =>
      cases fwdt with
      | sonFwdt => exact ⟨_, _, _, .lock rfl rfl (.refl _ _ _), rfl⟩
      | localFwdt =>
          have missing : FwdTable.lookup dst (memory.table .sonFwdt) = none := by
            rw [sonEmpty rfl]
            rfl
          have missed : Leads (fun _ => false) (findHop .sonFwdt dst) (fun _ => false) memory
              (pure none) _ _ := leads_findHop_none rfl rfl missing
          exact ⟨_, _, _, ((missed.bind _).bind _).trans (.lock rfl rfl (.refl _ _ _)), rfl⟩
  | fwdBeacon src nxthop iface dst =>
      cases fwdt with
      | localFwdt => exact ⟨_, _, _, .lock rfl rfl (.refl _ _ _), rfl⟩
      | sonFwdt =>
          have missing : FwdTable.lookup src (memory.table .localFwdt) = none := by
            rw [localEmpty]
            rfl
          have learns : Leads (fun _ => false) (learnRoute src nxthop iface) (fun _ => false) memory
              (pure ()) _ _ :=
            (leads_learnRoute_add rfl rfl nxthop iface missing).trans (.act (.refl _ _ _))
          have further := learns.bind fun _ => do let _ ← nsoLayerFwd dst
          exact ⟨_, _, _, further.trans (.lock rfl rfl (.refl _ _ _)), rfl⟩

section Violation

variable {τ : Type} [DecidableEq τ] {runs : τ → FwdCall → Prop}

/-- Two threads that do not keep apart: one stands before a change of a table while the
other one is in a section of it. -/
theorem unguarded_of_not_apart {t u : τ} {call other : FwdCall} (different : t ≠ u)
    (runsCall : runs t call) (runsOther : runs u other) (locks : call.locks = true)
    (changes : other.changes = true) :
    ∃ start config : Config τ, start.Initial ∧ start.state.Live ∧ Run runs start config ∧
      ¬ Guarded config := by
  rcases change_reached changes with ⟨sonFwdt, fwdt, op, live, isChange, sonEmpty, update, next,
    entered, after, leads, noneEntered, sameTables⟩
  let start : Config τ :=
    { state := memoryOf sonFwdt, owner := fun _ => none, thread := fun _ => .idle }
  have isIdle : start.thread u = .idle := rfl
  have nobody : ∀ fwdt, start.owner fwdt = none ↔ false = false := by simp [start]
  rcases run_leading runsOther isIdle nobody leads with
    ⟨before, firstRun, atChange, isState, owned, othersFirst⟩
  have noOwner : ∀ fwdt, before.owner fwdt = none ↔ false = false := by
    intro fwdt
    simp [owned, noneEntered]
  have isIdle : before.thread t = .idle := othersFirst t different
  have localEmpty : before.state.table .localFwdt = .empty := by
    rw [isState, sameTables]
    rfl
  have sonIsEmpty : fwdt = .localFwdt → before.state.table .sonFwdt = .empty := by
    intro isLocal
    rw [isState, sameTables]
    exact sonEmpty isLocal
  rcases section_entered locks fwdt localEmpty sonIsEmpty with ⟨rest, inside, final, enters, isIn⟩
  rcases run_leading runsCall isIdle noOwner enters with
    ⟨config, secondRun, inSection, _, _, othersSecond⟩
  refine ⟨start, config, ⟨fun _ => rfl, fun _ => rfl⟩, live, firstRun.trans secondRun, ?_⟩
  intro guarded
  have about : AboutTo config u op := by
    refine ⟨update, next, entered, ?_⟩
    rw [othersSecond u different.symm]
    exact atChange
  exact guarded.exclusive t u fwdt op different ⟨rest, inside, inSection, isIn⟩ about isChange

end Violation

/-- One thread forwards packets to device 5, the other one deletes its route. -/
def forwardAndDelete (t : Bool) (call : FwdCall) : Prop :=
  call = if t then .routeUpdate [⟨rtActionDel, 5, 7, 0⟩] else .nsoLayerFwd 5

theorem leads_findHop_some (unblocked : blocked fwdt = false) (free : entered fwdt = false)
    (found : FwdTable.lookup dest (memory.table fwdt) = some entry) :
    ∃ update next, Leads blocked (findHop fwdt dest) entered memory
      (.act (.readHop fwdt entry.addr) update next) (Function.update entered fwdt true) memory := by
  have leads : Leads blocked (findHop fwdt dest) entered memory
      (readFound fwdt (FwdTable.lookup dest (memory.table fwdt)))
      (Function.update entered fwdt true) memory :=
    .lock unblocked free (.act (.refl _ _ _))
  rw [found] at leads
  exact ⟨_, _, leads⟩

theorem leads_deletion {rule : RtRule} (inside : rule.ifIndex.toNat < nsoMaxSupportedIfaces)
    (isDel : rule.action = rtActionDel)
    (found : FwdTable.lookup rule.dstId (memory.table .sonFwdt) = some entry) :
    Leads blocked (routeUpdate [rule]) entered memory (pure ()) entered (memory.dropped entry) := by
  have notAdd : rule.action ≠ rtActionAdd := by
    rw [isDel]
    decide
  have drops : Leads blocked (dropRoute (FwdTable.lookup rule.dstId (memory.table .sonFwdt)))
      entered memory (pure ()) entered (memory.dropped entry) := by
    rw [found]
    exact .act (.act (.refl _ _ _))
  have leads : Leads blocked (applyRule rule) entered memory (pure ()) entered
      (memory.dropped entry) := by
    simp only [applyRule, ruleIface, if_pos inside, if_neg notAdd, if_pos isDel]
    exact .act (.act drops)
  exact leads.bind fun _ => routeUpdate []

end Fwding

end Nrg5
