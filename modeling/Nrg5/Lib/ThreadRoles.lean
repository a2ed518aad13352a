import Nrg5.Lib.Threads

/-!
# Threads that run only some of the calls

Which calls a thread runs is a relation between threads and call names, and a run
within the relation starts only these calls.  What every path of all calls of a
thread keeps to, the rest of its present call keeps to at any moment; and a thread
whose neighbours never write runs as if it were alone.

`Leads` is the other direction: a stretch of sequential code that a thread can
perform while other threads own some mutexes.
-/

namespace LockProg

variable {σ ℓ ω φ α β : Type}

/-- Every path of a call takes only mutexes that `locks` admits and performs only actions
that `acts` admits. -/
def Every (locks : ℓ → Prop) (acts : ω → (σ → σ) → Prop) : LockProg σ ℓ ω φ α → Prop
  | .ret _ => True
  | .halt _ => True
  | .lock mutex next => locks mutex ∧ next.Every locks acts
  | .unlock _ next => next.Every locks acts
  | .act event update next => acts event update ∧ ∀ state, (next state).Every locks acts

variable {locks : ℓ → Prop} {acts : ω → (σ → σ) → Prop}

theorem Every.mono {prog : LockProg σ ℓ ω φ α} (every : prog.Every locks acts)
    {moreLocks : ℓ → Prop} {moreActs : ω → (σ → σ) → Prop}
    (locksMono : ∀ mutex, locks mutex → moreLocks mutex)
    (actsMono : ∀ event update, acts event update → moreActs event update) :
    prog.Every moreLocks moreActs := by
  induction prog with
  | ret value => trivial
  | halt reason => trivial
  | lock mutex rest ih => exact ⟨locksMono _ every.1, ih every.2⟩
  | unlock mutex rest ih => exact ih every
  | act event update rest ih => exact ⟨actsMono _ _ every.1, fun state => ih state (every.2 state)⟩

theorem every_bind {first : LockProg σ ℓ ω φ α} {next : α → LockProg σ ℓ ω φ β}
    (firstEvery : first.Every locks acts) (nextEvery : ∀ value, (next value).Every locks acts) :
    (first >>= next).Every locks acts := by
  change (first.bind next).Every locks acts
  induction first with
  | ret value => exact nextEvery value
  | halt reason => trivial
  | lock mutex rest ih => exact ⟨firstEvery.1, ih firstEvery.2⟩
  | unlock mutex rest ih => exact ih firstEvery
  | act event update rest ih => exact ⟨firstEvery.1, fun state => ih state (firstEvery.2 state)⟩

theorem every_ite (condition : Prop) [Decidable condition] {left right : LockProg σ ℓ ω φ α}
    (leftEvery : condition → left.Every locks acts)
    (rightEvery : ¬ condition → right.Every locks acts) :
    (if condition then left else right).Every locks acts := by
  split
  · rename_i holds
    exact leftEvery holds
  · rename_i fails
    exact rightEvery fails

theorem every_perform {event : ω} {update : σ → σ} {answer : σ → α}
    (admitted : acts event update) :
    (perform event update answer : LockProg σ ℓ ω φ α).Every locks acts :=
  ⟨admitted, fun _ => trivial⟩

theorem every_query {event : ω} {answer : σ → α} (admitted : acts event id) :
    (query event answer : LockProg σ ℓ ω φ α).Every locks acts :=
  every_perform admitted

variable [DecidableEq ℓ]

/-- Sequential code leads from one remaining call to another, with the mutexes it has
entered, while others own the mutexes in `blocked`. -/
inductive Leads (blocked : ℓ → Bool) : LockProg σ ℓ ω φ α → (ℓ → Bool) → σ →
    LockProg σ ℓ ω φ α → (ℓ → Bool) → σ → Prop where
  | refl (prog : LockProg σ ℓ ω φ α) (entered : ℓ → Bool) (state : σ) :
      Leads blocked prog entered state prog entered state
  | lock {mutex : ℓ} {next prog : LockProg σ ℓ ω φ α} {entered entered' : ℓ → Bool}
      {state state' : σ} (unblocked : blocked mutex = false) (free : entered mutex = false)
      (rest : Leads blocked next (Function.update entered mutex true) state prog entered' state') :
      Leads blocked (.lock mutex next) entered state prog entered' state'
  | unlock {mutex : ℓ} {next prog : LockProg σ ℓ ω φ α} {entered entered' : ℓ → Bool}
      {state state' : σ} (unblocked : blocked mutex = false)
      (rest : Leads blocked next (Function.update entered mutex false) state prog entered'
        state') :
      Leads blocked (.unlock mutex next) entered state prog entered' state'
  | act {event : ω} {update : σ → σ} {next : σ → LockProg σ ℓ ω φ α} {prog : LockProg σ ℓ ω φ α}
      {entered entered' : ℓ → Bool} {state state' : σ}
      (rest : Leads blocked (next state) entered (update state) prog entered' state') :
      Leads blocked (.act event update next) entered state prog entered' state'

variable {blocked : ℓ → Bool} {entered entered' : ℓ → Bool} {state state' : σ}

theorem Leads.bind {first prog : LockProg σ ℓ ω φ α} (next : α → LockProg σ ℓ ω φ β)
    (leads : Leads blocked first entered state prog entered' state') :
    Leads blocked (first >>= next) entered state (prog >>= next) entered' state' := by
  induction leads with
  | refl prog entered state => exact .refl _ _ _
  | lock unblocked free rest ih => exact .lock unblocked free ih
  | unlock unblocked rest ih => exact .unlock unblocked ih
  | act rest ih => exact .act ih

theorem Leads.trans {first second third : LockProg σ ℓ ω φ α} {entered'' : ℓ → Bool} {state'' : σ}
    (leads : Leads blocked first entered state second entered' state')
    (further : Leads blocked second entered' state' third entered'' state'') :
    Leads blocked first entered state third entered'' state'' := by
  induction leads with
  | refl prog entered state => exact further
  | lock unblocked free rest ih => exact .lock unblocked free (ih further)
  | unlock unblocked rest ih => exact .unlock unblocked (ih further)
  | act rest ih => exact .act (ih further)

end LockProg

namespace Threads

variable {τ σ ℓ ω φ κ : Type} [DecidableEq ℓ] [DecidableEq τ]
  {runs : τ → κ → Prop} {body : κ → LockProg σ ℓ ω φ Unit} {allowed : ω → σ → Prop}
  {drift : σ → σ → Prop} {config config' : Config τ σ ℓ ω φ}

/-- A step that starts a call starts one that the thread runs. -/
def StepWithin (runs : τ → κ → Prop) (body : κ → LockProg σ ℓ ω φ Unit)
    (allowed : ω → σ → Prop) (drift : σ → σ → Prop) (config config' : Config τ σ ℓ ω φ) : Prop :=
  (∃ t name, runs t name ∧ config.thread t = .idle ∧
    config' = config.setThread t (.running (body name) fun _ => false)) ∨
  (Step body allowed drift config config' ∧
    ∀ t, config.thread t = .idle → config'.thread t = .idle)

/-- The configurations of the runs from one start. -/
def RunWithin (runs : τ → κ → Prop) (body : κ → LockProg σ ℓ ω φ Unit)
    (allowed : ω → σ → Prop) (drift : σ → σ → Prop) :
    Config τ σ ℓ ω φ → Config τ σ ℓ ω φ → Prop :=
  Relation.ReflTransGen (StepWithin runs body allowed drift)

/-! ## What every path keeps to -/

section Every

variable {locks : ℓ → Prop} {acts : ω → (σ → σ) → Prop} {t : τ}

/-- The rest of a call keeps to what all paths keep to, and the call has entered no other
mutex. -/
def KeepsTo (locks : ℓ → Prop) (acts : ω → (σ → σ) → Prop) (thread : Thread σ ℓ ω φ) : Prop :=
  match thread with
  | .idle => True
  | .running rest entered =>
      rest.Every locks acts ∧ ∀ mutex, ¬ locks mutex → entered mutex = false

omit [DecidableEq ℓ] [DecidableEq τ] in
theorem KeepsTo.running {rest : LockProg σ ℓ ω φ Unit} {entered : ℓ → Bool}
    (keeps : KeepsTo locks acts (config.thread t))
    (here : config.thread t = .running rest entered) :
    rest.Every locks acts ∧ ∀ mutex, ¬ locks mutex → entered mutex = false := by
  rw [here] at keeps
  exact keeps

theorem keepsTo_step (every : ∀ name, runs t name → (body name).Every locks acts)
    (keeps : KeepsTo locks acts (config.thread t))
    (step : StepWithin runs body allowed drift config config') :
    KeepsTo locks acts (config'.thread t) := by
  have elsewhere : ∀ (mover : τ) (thread : Thread σ ℓ ω φ), t ≠ mover →
      KeepsTo locks acts ((config.setThread mover thread).thread t) := by
    intro mover thread different
    simpa only [Config.setThread, Function.update_of_ne different] using keeps
  rcases step with ⟨mover, name, runsName, _, rfl⟩ | ⟨step, staysIdle⟩
  · rcases eq_or_ne t mover with rfl | different
    · simp only [Config.setThread, Function.update_self]
      exact ⟨every name runsName, fun _ _ => rfl⟩
    · exact elsewhere mover _ different
  · cases step with
    | environment state changes => exact keeps
    | call mover name isIdle =>
        rcases eq_or_ne t mover with rfl | different
        · rw [staysIdle t isIdle]
          trivial
        · exact elsewhere mover _ different
    | finish mover entered atReturn =>
        rcases eq_or_ne t mover with rfl | different
        · simp only [Config.setThread, Function.update_self]
          trivial
        · exact elsewhere mover _ different
    | lock mover mutex next entered atLock free =>
        rcases eq_or_ne t mover with rfl | different
        · have here := keeps.running atLock
          simp only [Config.setThread, Function.update_self]
          refine ⟨here.1.2, ?_⟩
          intro other notTaken
          have isOther : other ≠ mutex := fun same => notTaken (same ▸ here.1.1)
          rw [Function.update_of_ne isOther]
          exact here.2 other notTaken
        · exact elsewhere mover _ different
    | unlock mover mutex next entered atUnlock =>
        rcases eq_or_ne t mover with rfl | different
        · have here := keeps.running atUnlock
          simp only [Config.setThread, Function.update_self]
          refine ⟨here.1, ?_⟩
          intro other notTaken
          rcases eq_or_ne other mutex with rfl | isOther
          · exact Function.update_self other false entered
          · rw [Function.update_of_ne isOther]
            exact here.2 other notTaken
        · exact elsewhere mover _ different
    | act mover event update next entered atAct isAllowed =>
        rcases eq_or_ne t mover with rfl | different
        · have here := keeps.running atAct
          simp only [Config.setThread, Function.update_self]
          exact ⟨here.1.2 _, here.2⟩
        · exact elsewhere mover _ different

theorem keepsTo_run (every : ∀ name, runs t name → (body name).Every locks acts)
    (initial : config.Initial) (run : RunWithin runs body allowed drift config config') :
    KeepsTo locks acts (config'.thread t) := by
  induction run with
  | refl =>
      rw [initial.2 t]
      trivial
  | tail _ step ih => exact keepsTo_step every ih step

end Every

/-! ## Threads that are not disturbed -/

section Undisturbed

variable {ending : LockProg.Ending σ ℓ φ Unit} {inv : σ → Prop} {t : τ}

/-- The ending of a call that never meets a mutex of its own and returns in a state that
`inv` admits. -/
def returning (inv : σ → Prop) : LockProg.Ending σ ℓ φ Unit :=
  { post := fun _ _ state => inv state
    halt := fun _ _ _ => True }

/-- A thread between two calls finds the invariant, and the rest of a call runs from the
present state as it would alone. -/
def Alone (allowed : ω → σ → Prop) (inv : σ → Prop) (config : Config τ σ ℓ ω φ) (t : τ) : Prop :=
  match config.thread t with
  | .idle => inv config.state
  | .running rest entered => rest.wp allowed (returning inv) entered config.state

omit [DecidableEq τ] in
theorem Alone.of_same (alone : Alone allowed inv config t)
    (sameThread : config'.thread t = config.thread t) (sameState : config'.state = config.state) :
    Alone allowed inv config' t := by
  simp only [Alone, sameThread, sameState]
  exact alone

/-- An action of a thread that never writes. -/
def NeverWrites (_event : ω) (update : σ → σ) : Prop := ∀ state, update state = state

theorem alone_step (own : ∀ name, runs t name → ∀ state, inv state →
      (body name).wp allowed (returning inv) (fun _ => false) state)
    (others : ∀ u ≠ t, KeepsTo (fun _ => True) NeverWrites (config.thread u))
    (alone : Alone allowed inv config t)
    (step : StepWithin runs body (fun _ _ => True) (fun _ _ => False) config config') :
    Alone allowed inv config' t := by
  rcases step with ⟨mover, name, runsName, isIdle, rfl⟩ | ⟨step, staysIdle⟩
  · rcases eq_or_ne t mover with rfl | different
    · simp only [Alone, isIdle] at alone
      simp only [Alone, Config.setThread, Function.update_self]
      exact own name runsName config.state alone
    · exact alone.of_same (by simp [Config.setThread, different]) rfl
  · cases step with
    | environment state changes => exact changes.elim
    | call mover name isIdle =>
        rcases eq_or_ne t mover with rfl | different
        · have isIdle' := staysIdle t isIdle
          simp [Config.setThread] at isIdle'
        · exact alone.of_same (by simp [Config.setThread, different]) rfl
    | finish mover entered atReturn =>
        rcases eq_or_ne t mover with rfl | different
        · simp only [Alone, atReturn] at alone
          simp only [Alone, Config.setThread, Function.update_self]
          exact alone
        · exact alone.of_same (by simp [Config.setThread, different]) rfl
    | lock mover mutex next entered atLock free =>
        rcases eq_or_ne t mover with rfl | different
        · simp only [Alone, atLock, LockProg.wp] at alone
          simp only [Alone, Config.setThread, Function.update_self]
          split at alone
          · exact alone.elim
          · exact alone
        · exact alone.of_same (by simp [Config.setThread, different]) rfl
    | unlock mover mutex next entered atUnlock =>
        rcases eq_or_ne t mover with rfl | different
        · simp only [Alone, atUnlock, LockProg.wp] at alone
          simp only [Alone, Config.setThread, Function.update_self]
          exact alone
        · exact alone.of_same (by simp [Config.setThread, different]) rfl
    | act mover event update next entered atAct isAllowed =>
        rcases eq_or_ne t mover with rfl | different
        · simp only [Alone, atAct, LockProg.wp] at alone
          simp only [Alone, Config.setThread, Function.update_self]
          exact alone.2
        · have silent := ((others mover different.symm).running atAct).1.1 config.state
          exact alone.of_same (by simp [Config.setThread, different]) silent

/-- A thread whose neighbours never write runs its calls as if it were alone. -/
theorem alone_run (own : ∀ name, runs t name → ∀ state, inv state →
      (body name).wp allowed (returning inv) (fun _ => false) state)
    (others : ∀ u ≠ t, ∀ name, runs u name → (body name).Every (fun _ => True) NeverWrites)
    (initial : config.Initial) (holds : inv config.state)
    (run : RunWithin runs body (fun _ _ => True) (fun _ _ => False) config config') :
    Alone allowed inv config' t := by
  induction run with
  | refl =>
      simp only [Alone, initial.2 t]
      exact holds
  | tail before step ih =>
      apply alone_step own _ ih step
      exact fun u different => keepsTo_run (others u different) initial before

end Undisturbed

/-! ## Stretches of sequential code -/

theorem stepWithin_of_running {t : τ} {rest : LockProg σ ℓ ω φ Unit} {entered : ℓ → Bool}
    (step : Step body allowed drift config config') (here : config.thread t = .running rest entered)
    (others : ∀ other ≠ t, config'.thread other = config.thread other) :
    StepWithin runs body allowed drift config config' := by
  refine .inr ⟨step, ?_⟩
  intro other isIdle
  rcases eq_or_ne other t with rfl | different
  · simp [here] at isIdle
  · rw [others other different]
    exact isIdle

/-- A step of a thread inside a call, and a run behind it that leaves the other threads alone. -/
theorem run_of_step {t : τ} {rest : LockProg σ ℓ ω φ Unit} {entered : ℓ → Bool}
    {mid : Config τ σ ℓ ω φ} {atEnd : Config τ σ ℓ ω φ → Prop}
    (here : config.thread t = .running rest entered)
    (step : Step body allowed drift config mid)
    (others : ∀ other ≠ t, mid.thread other = config.thread other)
    (behind : ∃ config', RunWithin runs body allowed drift mid config' ∧ atEnd config' ∧
      ∀ other ≠ t, config'.thread other = mid.thread other) :
    ∃ config', RunWithin runs body allowed drift config config' ∧ atEnd config' ∧
      ∀ other ≠ t, config'.thread other = config.thread other := by
  rcases behind with ⟨config', run, isEnd, same⟩
  refine ⟨config', .head (stepWithin_of_running step here others) run, isEnd, ?_⟩
  intro other different
  rw [same other different, others other different]

open LockProg in
/-- A thread performs a stretch of its code whose mutexes no other thread owns. -/
theorem run_of_leads {blocked entered entered' : ℓ → Bool} {t : τ}
    {prog rest : LockProg σ ℓ ω φ Unit} {state' : σ}
    (leads : Leads blocked prog entered config.state rest entered' state')
    (here : config.thread t = .running prog entered)
    (owned : ∀ mutex, config.owner mutex = none ↔ blocked mutex = false ∧ entered mutex = false) :
    ∃ config' : Config τ σ ℓ ω φ,
      RunWithin runs body (fun _ _ => True) drift config config' ∧
        (config'.thread t = .running rest entered' ∧ config'.state = state' ∧
          ∀ mutex, config'.owner mutex = none ↔
            blocked mutex = false ∧ entered' mutex = false) ∧
        ∀ other ≠ t, config'.thread other = config.thread other := by
  generalize isState : config.state = state at leads
  induction leads generalizing config with
  | refl prog entered state => exact ⟨config, .refl, ⟨here, isState, owned⟩, fun _ _ => rfl⟩
  | lock unblocked free further ih =>
      rename_i mutex next last entered entered' state state'
      let locked : Config τ σ ℓ ω φ :=
        { (config.setThread t (.running next
            (Function.update entered mutex true))) with
            owner := Function.update config.owner mutex (some t) }
      have step : Step body (fun _ _ => True) drift config locked :=
        .lock t mutex next entered here ((owned mutex).mpr ⟨unblocked, free⟩)
      apply run_of_step here step
      · intro other different
        simp [locked, Config.setThread, different]
      · apply @ih locked
        · simp [locked, Config.setThread]
        · intro other
          rcases eq_or_ne other mutex with rfl | different
          · simp [locked]
          · simp [locked, Function.update_of_ne different, owned]
        · exact isState
  | unlock unblocked further ih =>
      rename_i mutex next last entered entered' state state'
      let unlocked : Config τ σ ℓ ω φ :=
        { (config.setThread t (.running next
            (Function.update entered mutex false))) with
            owner := Function.update config.owner mutex none }
      have step : Step body (fun _ _ => True) drift config unlocked :=
        .unlock t mutex next entered here
      apply run_of_step here step
      · intro other different
        simp [unlocked, Config.setThread, different]
      · apply @ih unlocked
        · simp [unlocked, Config.setThread]
        · intro other
          rcases eq_or_ne other mutex with rfl | different
          · simp [unlocked, unblocked]
          · simp [unlocked, Function.update_of_ne different, owned]
        · exact isState
  | act further ih =>
      rename_i event update next last entered entered' state state'
      rw [← isState] at ih
      let acted : Config τ σ ℓ ω φ :=
        { (config.setThread t (.running (next config.state) entered)) with
          state := update config.state }
      have step : Step body (fun _ _ => True) drift config acted :=
        .act t event update next entered here trivial
      apply run_of_step here step
      · intro other different
        simp [acted, Config.setThread, different]
      · apply @ih acted
        · simp [acted, Config.setThread]
        · exact owned
        · rfl

end Threads
