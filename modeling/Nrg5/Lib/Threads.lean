import Mathlib.Logic.Relation
import Nrg5.Lib.LockProg

/-!
# Threads that interleave lock programs

Any number of threads share a state and a set of mutexes.  A thread is idle or
inside one call; a step starts a call, ends it, or performs the first mutex
operation or action of the call's remaining code.  A call that halts or meets a
mutex owned by somebody takes no step.

Every thread remembers the mutexes it has taken in its present call and not yet
released.  The memory is cleared when the call returns, so it tells a thread that
is inside a critical section from one that merely left a mutex behind.

The main result, `waiting_inSection`, is the lock discipline: when every call
gives a mutex back on all of its allowed paths, a thread only ever waits for the
mutex while some thread is inside a critical section of it.
-/

namespace Threads

/-- Where a thread is: between two calls, or in one, with the code that is left
and the mutexes this call has taken. -/
inductive Thread (σ ℓ ω φ : Type) : Type where
  | idle
  | running (rest : LockProg σ ℓ ω φ Unit) (entered : ℓ → Bool)

/-- The shared state, the owner of each mutex and the threads. -/
structure Config (τ σ ℓ ω φ : Type) where
  state : σ
  owner : ℓ → Option τ
  thread : τ → Thread σ ℓ ω φ

variable {τ σ ℓ ω φ κ : Type} [DecidableEq ℓ]

namespace Config

/-- Put a thread somewhere else. -/
def setThread [DecidableEq τ] (config : Config τ σ ℓ ω φ) (t : τ) (thread : Thread σ ℓ ω φ) :
    Config τ σ ℓ ω φ :=
  { config with thread := Function.update config.thread t thread }

/-- Thread `t` stands before taking a mutex that somebody owns. -/
def Waits (config : Config τ σ ℓ ω φ) (t : τ) (mutex : ℓ) : Prop :=
  (∃ next entered, config.thread t = .running (.lock mutex next) entered) ∧
    (config.owner mutex).isSome

/-- Thread `t` took the mutex in its present call and has not released it. -/
def InSection (config : Config τ σ ℓ ω φ) (t : τ) (mutex : ℓ) : Prop :=
  ∃ rest entered, config.thread t = .running rest entered ∧ entered mutex = true

/-- No call has started and every mutex is free. -/
def Initial (config : Config τ σ ℓ ω φ) : Prop :=
  (∀ mutex, config.owner mutex = none) ∧ ∀ t, config.thread t = .idle

end Config

/-- What the lock discipline says about one thread: it owns the mutex exactly
while it is inside a section, and the code that is left gives it back. -/
def Disciplined (mutex : ℓ) (allowed : ω → σ → Prop) (config : Config τ σ ℓ ω φ) (t : τ) :
    Prop :=
  match config.thread t with
  | .idle => config.owner mutex ≠ some t
  | .running rest entered =>
      (config.owner mutex = some t ↔ entered mutex = true) ∧
        rest.Releases mutex allowed (entered mutex)

variable {allowed : ω → σ → Prop} {mutex : ℓ} {config config' : Config τ σ ℓ ω φ}

theorem disciplined_initial (initial : config.Initial) (t : τ) :
    Disciplined mutex allowed config t := by
  simp [Disciplined, initial.2 t, initial.1 mutex]

theorem disciplined_running {t : τ} {rest : LockProg σ ℓ ω φ Unit} {entered : ℓ → Bool}
    (disciplined : Disciplined mutex allowed config t)
    (here : config.thread t = .running rest entered) :
    (config.owner mutex = some t ↔ entered mutex = true) ∧
      rest.Releases mutex allowed (entered mutex) := by
  simpa only [Disciplined, here] using disciplined

/-- A thread that does not move keeps the discipline when the mutex neither comes
to it nor goes away from it. -/
theorem disciplined_other {t : τ} (disciplined : Disciplined mutex allowed config t)
    (sameThread : config'.thread t = config.thread t)
    (sameOwner : config'.owner mutex = some t ↔ config.owner mutex = some t) :
    Disciplined mutex allowed config' t := by
  simp only [Disciplined, sameThread] at disciplined ⊢
  cases here : config.thread t with
  | idle =>
      simp only [here] at disciplined ⊢
      exact fun owns => disciplined (sameOwner.mp owns)
  | running rest entered =>
      simp only [here] at disciplined ⊢
      exact ⟨sameOwner.trans disciplined.1, disciplined.2⟩

section Steps

variable [DecidableEq τ] {body : κ → LockProg σ ℓ ω φ Unit} {drift : σ → σ → Prop}

/-- One step of one thread, or of the environment.  `body` is the code of each call,
`allowed` are the operations that the runs under study perform and `drift` is what
the environment may change. -/
inductive Step (body : κ → LockProg σ ℓ ω φ Unit) (allowed : ω → σ → Prop)
    (drift : σ → σ → Prop) : Config τ σ ℓ ω φ → Config τ σ ℓ ω φ → Prop where
  | environment {config : Config τ σ ℓ ω φ} (state : σ) (changes : drift config.state state) :
      Step body allowed drift config { config with state := state }
  | call {config : Config τ σ ℓ ω φ} (t : τ) (name : κ) (isIdle : config.thread t = .idle) :
      Step body allowed drift config (config.setThread t (.running (body name) fun _ => false))
  | finish {config : Config τ σ ℓ ω φ} (t : τ) (entered : ℓ → Bool)
      (atReturn : config.thread t = .running (.ret ()) entered) :
      Step body allowed drift config (config.setThread t .idle)
  | lock {config : Config τ σ ℓ ω φ} (t : τ) (mutex : ℓ) (next : LockProg σ ℓ ω φ Unit)
      (entered : ℓ → Bool)
      (atLock : config.thread t = .running (.lock mutex next) entered)
      (free : config.owner mutex = none) :
      Step body allowed drift config
        { (config.setThread t (.running next (Function.update entered mutex true))) with
          owner := Function.update config.owner mutex (some t) }
  | unlock {config : Config τ σ ℓ ω φ} (t : τ) (mutex : ℓ) (next : LockProg σ ℓ ω φ Unit)
      (entered : ℓ → Bool)
      (atUnlock : config.thread t = .running (.unlock mutex next) entered) :
      Step body allowed drift config
        { (config.setThread t (.running next (Function.update entered mutex false))) with
          owner := Function.update config.owner mutex none }
  | act {config : Config τ σ ℓ ω φ} (t : τ) (event : ω) (update : σ → σ)
      (next : σ → LockProg σ ℓ ω φ Unit) (entered : ℓ → Bool)
      (atAct : config.thread t = .running (.act event update next) entered)
      (isAllowed : allowed event config.state) :
      Step body allowed drift config
        { (config.setThread t (.running (next config.state) entered)) with
          state := update config.state }

/-- The configurations of the runs from initial ones. -/
def Reachable (body : κ → LockProg σ ℓ ω φ Unit) (allowed : ω → σ → Prop)
    (drift : σ → σ → Prop) (config : Config τ σ ℓ ω φ) : Prop :=
  ∃ start : Config τ σ ℓ ω φ, start.Initial ∧
    Relation.ReflTransGen (Step body allowed drift) start config

theorem disciplined_step (balanced : ∀ name, (body name).Releases mutex allowed false)
    (disciplined : ∀ t, Disciplined mutex allowed config t)
    (step : Step body allowed drift config config') (t : τ) :
    Disciplined mutex allowed config' t := by
  cases step with
  | environment state changes => exact disciplined_other (disciplined t) rfl Iff.rfl
  | call mover name isIdle =>
      rcases eq_or_ne t mover with rfl | other
      · have notOwner := disciplined t
        simp only [Disciplined, isIdle] at notOwner
        simp [Disciplined, Config.setThread, notOwner, balanced name]
      · exact disciplined_other (disciplined t) (by simp [Config.setThread, other]) Iff.rfl
  | finish mover entered atReturn =>
      rcases eq_or_ne t mover with rfl | other
      · obtain ⟨owns, releases⟩ := disciplined_running (disciplined t) atReturn
        have left : entered mutex = false := releases
        simp [Disciplined, Config.setThread, owns, left]
      · exact disciplined_other (disciplined t) (by simp [Config.setThread, other]) Iff.rfl
  | lock mover taken next entered atLock free =>
      rcases eq_or_ne t mover with rfl | other
      · obtain ⟨owns, releases⟩ := disciplined_running (disciplined t) atLock
        simp only [LockProg.Releases, LockProg.track] at releases
        rcases eq_or_ne taken mutex with rfl | different
        · simp only [if_true] at releases
          simp [Disciplined, Config.setThread, LockProg.Releases, releases.2]
        · rw [if_neg different] at releases
          simp [Disciplined, Config.setThread, Function.update_of_ne different.symm, owns,
            LockProg.Releases, releases]
      · apply disciplined_other (disciplined t) (by simp [Config.setThread, other])
        rcases eq_or_ne taken mutex with rfl | different
        · simp [free, other.symm]
        · simp [Function.update_of_ne different.symm]
  | unlock mover given next entered atUnlock =>
      obtain ⟨owns, releases⟩ := disciplined_running (disciplined mover) atUnlock
      simp only [LockProg.Releases, LockProg.track] at releases
      rcases eq_or_ne given mutex with rfl | different
      · simp only [if_true] at releases
        rcases eq_or_ne t mover with rfl | other
        · simp [Disciplined, Config.setThread, LockProg.Releases, releases.2]
        · apply disciplined_other (disciplined t) (by simp [Config.setThread, other])
          simp [owns.mpr releases.1, other.symm]
      · rw [if_neg different] at releases
        rcases eq_or_ne t mover with rfl | other
        · simp [Disciplined, Config.setThread, Function.update_of_ne different.symm, owns,
            LockProg.Releases, releases]
        · exact disciplined_other (disciplined t) (by simp [Config.setThread, other])
            (by simp [Function.update_of_ne different.symm])
  | act mover event update next entered atAct isAllowed =>
      rcases eq_or_ne t mover with rfl | other
      · obtain ⟨owns, releases⟩ := disciplined_running (disciplined t) atAct
        have releasesNext := releases config.state isAllowed
        simp [Disciplined, Config.setThread, owns, LockProg.Releases, releasesNext]
      · exact disciplined_other (disciplined t) (by simp [Config.setThread, other]) Iff.rfl

theorem disciplined_reachable (balanced : ∀ name, (body name).Releases mutex allowed false)
    (reachable : Reachable body allowed drift config) (t : τ) :
    Disciplined mutex allowed config t := by
  obtain ⟨start, initial, run⟩ := reachable
  induction run generalizing t with
  | refl => exact disciplined_initial initial t
  | tail _ step ih => exact disciplined_step balanced ih step t

/-- Lock discipline: a thread waits for the mutex only while the thread that owns
it is inside a critical section. -/
theorem waiting_inSection (balanced : ∀ name, (body name).Releases mutex allowed false)
    (reachable : Reachable body allowed drift config) {waiter : τ}
    (waits : config.Waits waiter mutex) : ∃ t, config.InSection t mutex := by
  obtain ⟨owner, owned⟩ := Option.isSome_iff_exists.mp waits.2
  have disciplined := disciplined_reachable balanced reachable owner
  cases here : config.thread owner with
  | idle =>
      simp only [Disciplined, here] at disciplined
      exact absurd owned disciplined
  | running rest entered =>
      obtain ⟨owns, _⟩ := disciplined_running disciplined here
      exact ⟨owner, rest, entered, here, owns.mp owned⟩

/-- A call that runs to its end alone also does so as a thread that is not
interrupted: the mutexes that are owned are the ones the sequential run holds. -/
theorem steps_of_exec {t : τ} {prog : LockProg σ ℓ ω φ Unit} {held : ℓ → Bool}
    (isAllowed : ∀ entry ∈ (prog.exec held config.state).events, allowed entry.1 entry.2)
    (returns : (prog.exec held config.state).result = .done ())
    (entered : ℓ → Bool) (here : config.thread t = .running prog entered)
    (owned : ∀ mutex, (config.owner mutex).isSome = held mutex) :
    ∃ config' : Config τ σ ℓ ω φ,
      Relation.ReflTransGen (Step body allowed drift) config config' ∧
        (∃ entered', config'.thread t = .running (.ret ()) entered') ∧
        config'.state = (prog.exec held config.state).state ∧
        (∀ mutex, (config'.owner mutex).isSome = (prog.exec held config.state).held mutex) ∧
        ∀ other ≠ t, config'.thread other = config.thread other := by
  induction prog generalizing config held entered with
  | ret value => exact ⟨config, .refl, ⟨entered, here⟩, rfl, owned, fun _ _ => rfl⟩
  | halt reason => simp [LockProg.exec] at returns
  | lock mutex next ih =>
      cases isFree : held mutex with
      | true => simp [LockProg.exec, isFree] at returns
      | false =>
          simp only [LockProg.exec, isFree, Bool.false_eq_true, if_false] at isAllowed returns ⊢
          have free : config.owner mutex = none := by
            have notOwned := owned mutex
            rw [isFree] at notOwned
            simpa using notOwned
          have step : Step body allowed drift config _ :=
            .lock t mutex next entered here free
          let locked : Config τ σ ℓ ω φ :=
            { (config.setThread t (.running next (Function.update entered mutex true))) with
              owner := Function.update config.owner mutex (some t) }
          rcases @ih locked (Function.update held mutex true) isAllowed returns
            (Function.update entered mutex true) (by simp [locked, Config.setThread])
            (by
              intro other
              rcases eq_or_ne other mutex with rfl | different
              · simp [locked]
              · simp [locked, Function.update_of_ne different, owned]) with
            ⟨config', run, atEnd, stateEq, ownedEnd, others⟩
          refine ⟨config', .head step run, atEnd, stateEq, ownedEnd, ?_⟩
          intro other different
          rw [others other different]
          simp [locked, Config.setThread, different]
  | unlock mutex next ih =>
      have step : Step body allowed drift config _ := .unlock t mutex next entered here
      let unlocked : Config τ σ ℓ ω φ :=
        { (config.setThread t (.running next (Function.update entered mutex false))) with
          owner := Function.update config.owner mutex none }
      rcases @ih unlocked (Function.update held mutex false) isAllowed returns
        (Function.update entered mutex false) (by simp [unlocked, Config.setThread])
        (by
          intro other
          rcases eq_or_ne other mutex with rfl | different
          · simp [unlocked]
          · simp [unlocked, Function.update_of_ne different, owned]) with
        ⟨config', run, atEnd, stateEq, ownedEnd, others⟩
      refine ⟨config', .head step run, atEnd, stateEq, ownedEnd, ?_⟩
      intro other different
      rw [others other different]
      simp [unlocked, Config.setThread, different]
  | act event update next ih =>
      simp only [LockProg.exec, List.forall_mem_cons] at isAllowed returns ⊢
      have step : Step body allowed drift config _ :=
        .act t event update next entered here isAllowed.1
      let acted : Config τ σ ℓ ω φ :=
        { (config.setThread t (.running (next config.state) entered)) with
          state := update config.state }
      rcases @ih config.state acted held isAllowed.2 returns entered
          (by simp [acted, Config.setThread]) owned with
        ⟨config', run, atEnd, stateEq, ownedEnd, others⟩
      refine ⟨config', .head step run, atEnd, stateEq, ownedEnd, ?_⟩
      intro other different
      rw [others other different]
      simp [acted, Config.setThread, different]

/-- A call that leaves a mutex behind when it runs alone makes the next caller of
that mutex wait while no thread is inside a section. -/
theorem waits_of_leak {state : σ} {mutex : ℓ} {first second : κ}
    {next : LockProg σ ℓ ω φ Unit}
    (returns : ((body first).exec (fun _ => false) state).result = .done ())
    (isAllowed : ∀ entry ∈ ((body first).exec (fun _ => false) state).events,
      allowed entry.1 entry.2)
    (leaks : ((body first).exec (fun _ => false) state).held mutex = true)
    (takes : body second = .lock mutex next) :
    ∃ config : Config Bool σ ℓ ω φ,
      Reachable body allowed drift config ∧ config.Waits true mutex ∧
        ∀ t, ¬ config.InSection t mutex := by
  let start : Config Bool σ ℓ ω φ :=
    { state := state, owner := fun _ => none, thread := fun _ => .idle }
  let called := start.setThread false (.running (body first) fun _ => false)
  have callStep : Step body allowed drift start called := .call false first rfl
  have isRunning : called.thread false = .running (body first) fun _ => false := by
    simp [called, Config.setThread]
  have unlocked : ∀ mutex, (called.owner mutex).isSome = false := by
    simp [called, start, Config.setThread]
  rcases @steps_of_exec _ _ _ _ _ _ _ allowed called _ body drift false (body first)
    (fun _ => false) isAllowed returns (fun _ => false) isRunning unlocked with
    ⟨returned, run, ⟨entered, atEnd⟩, _, owned, others⟩
  let idle := returned.setThread false .idle
  have finishStep : Step body allowed drift returned idle := .finish false entered atEnd
  have secondIdle : idle.thread true = .idle := by
    simp [idle, Config.setThread, others true (by simp), called, start]
  let waiting := idle.setThread true (.running (body second) fun _ => false)
  have waitStep : Step body allowed drift idle waiting := .call true second secondIdle
  refine ⟨waiting, ⟨start, ⟨fun _ => rfl, fun _ => rfl⟩, ?_⟩, ⟨⟨next, fun _ => false, ?_⟩, ?_⟩, ?_⟩
  · exact (((Relation.ReflTransGen.single callStep).trans run).tail finishStep).tail waitStep
  · simp only [waiting, Config.setThread, Function.update_self, takes]
  · exact (owned mutex).trans leaks
  · intro t inSection
    rcases inSection with ⟨rest, sections, here, isIn⟩
    cases t with
    | false => simp [waiting, idle, Config.setThread] at here
    | true =>
        simp only [waiting, Config.setThread, Function.update_self,
          Thread.running.injEq] at here
        simp [← here.2] at isIn

end Steps

end Threads
