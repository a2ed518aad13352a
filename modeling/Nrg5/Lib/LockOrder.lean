import Nrg5.Lib.Threads

/-!
# Mutexes in a fixed order

Every mutex has a rank.  A call is orderly when it takes a mutex only while all the mutexes it
holds have lower ranks, releases only what it holds, and holds nothing when it returns and when
it waits for a condition.

Threads that only make orderly calls never block each other for good: behind every thread that
waits for a mutex there is one inside a critical section that can go on, or one that has ended
the process.
-/

variable {σ ℓ ω φ α β : Type} [DecidableEq ℓ]

namespace LockProg

section Ranks

variable (rank : ℓ → Nat) (waits : φ → Prop) (allowed : ω → σ → Prop)

/-- Follow all mutexes through a call, over the paths whose operations are allowed.  The set
holds the mutexes that the call has taken. -/
def ranked (post : α → (ℓ → Bool) → Prop) : LockProg σ ℓ ω φ α → (ℓ → Bool) → Prop
  | .ret value, held => post value held
  | .halt reason, held => waits reason → ∀ mutex, held mutex = false
  | .lock mutex next, held => (∀ other, held other = true → rank other < rank mutex) ∧
      next.ranked post (Function.update held mutex true)
  | .unlock mutex next, held => held mutex = true ∧
      next.ranked post (Function.update held mutex false)
  | .act event _ next, held => ∀ state, allowed event state → (next state).ranked post held

/-- A call that takes its mutexes in order and gives all of them back. -/
def InOrder (prog : LockProg σ ℓ ω φ α) : Prop :=
  prog.ranked rank waits allowed (fun _ held => ∀ mutex, held mutex = false) fun _ => false

variable {rank waits allowed} {held : ℓ → Bool}

@[simp]
theorem ranked_bind (post : β → (ℓ → Bool) → Prop) (first : LockProg σ ℓ ω φ α)
    (next : α → LockProg σ ℓ ω φ β) :
    (first >>= next).ranked rank waits allowed post held =
      first.ranked rank waits allowed
        (fun value atNext => (next value).ranked rank waits allowed post atNext) held := by
  change (first.bind next).ranked rank waits allowed post held = _
  induction first generalizing held with
  | ret value => rfl
  | halt reason => rfl
  | lock mutex rest ih => simp only [bind, ranked, ih]
  | unlock mutex rest ih => simp only [bind, ranked, ih]
  | act event update rest ih => simp only [bind, ranked, ih]

@[simp]
theorem ranked_query (post : α → (ℓ → Bool) → Prop) (event : ω) (answer : σ → α) :
    (query event answer : LockProg σ ℓ ω φ α).ranked rank waits allowed post held =
      ∀ state, allowed event state → post (answer state) held := rfl

end Ranks

end LockProg

namespace Threads

variable {τ κ : Type}

namespace Config

/-- The next operation of the code can be performed. -/
def Ready (config : Config τ σ ℓ ω φ) : LockProg σ ℓ ω φ Unit → Prop
  | .halt _ => False
  | .lock mutex _ => config.owner mutex = none
  | _ => True

/-- Thread `t` is inside a call and can go on with it. -/
def Moves (config : Config τ σ ℓ ω φ) (t : τ) : Prop :=
  ∃ rest entered, config.thread t = .running rest entered ∧ config.Ready rest

/-- Thread `t` has come to a halt. -/
def HaltsAt (config : Config τ σ ℓ ω φ) (t : τ) (reason : φ) : Prop :=
  ∃ entered, config.thread t = .running (.halt reason) entered

end Config

section Ranks

variable (rank : ℓ → Nat) (waits : φ → Prop) (allowed : ω → σ → Prop)

/-- A thread owns what it has taken, and goes on in order. -/
def Orderly (config : Config τ σ ℓ ω φ) (t : τ) : Prop :=
  match config.thread t with
  | .idle => ∀ mutex, config.owner mutex ≠ some t
  | .running rest entered => (∀ mutex, config.owner mutex = some t ↔ entered mutex = true) ∧
      rest.ranked rank waits allowed (fun _ held => ∀ mutex, held mutex = false) entered

variable {rank waits allowed} {config config' : Config τ σ ℓ ω φ} {t : τ}

theorem orderly_initial (initial : config.Initial) (t : τ) :
    Orderly rank waits allowed config t := by
  simp [Orderly, initial.2 t, initial.1]

theorem Orderly.running {rest : LockProg σ ℓ ω φ Unit} {entered : ℓ → Bool}
    (orderly : Orderly rank waits allowed config t)
    (here : config.thread t = .running rest entered) :
    (∀ mutex, config.owner mutex = some t ↔ entered mutex = true) ∧
      rest.ranked rank waits allowed (fun _ held => ∀ mutex, held mutex = false) entered := by
  simpa only [Orderly, here] using orderly

/-- A thread that does not move stays orderly when no mutex comes to it or goes away from it. -/
theorem Orderly.other (orderly : Orderly rank waits allowed config t)
    (sameThread : config'.thread t = config.thread t)
    (sameOwner : ∀ mutex, config'.owner mutex = some t ↔ config.owner mutex = some t) :
    Orderly rank waits allowed config' t := by
  simp only [Orderly, sameThread] at orderly ⊢
  cases here : config.thread t with
  | idle =>
      simp only [here] at orderly ⊢
      exact fun mutex owns => orderly mutex ((sameOwner mutex).mp owns)
  | running rest entered =>
      simp only [here] at orderly ⊢
      exact ⟨fun mutex => (sameOwner mutex).trans (orderly.1 mutex), orderly.2⟩

variable [DecidableEq τ] {body : κ → LockProg σ ℓ ω φ Unit} {drift : σ → σ → Prop}

theorem orderly_step (inOrder : ∀ name, (body name).InOrder rank waits allowed)
    (orderly : ∀ t, Orderly rank waits allowed config t)
    (step : Step body allowed drift config config') (t : τ) :
    Orderly rank waits allowed config' t := by
  cases step with
  | environment state changes => exact (orderly t).other rfl fun _ => Iff.rfl
  | call mover name isIdle =>
      rcases eq_or_ne t mover with rfl | other
      · have notOwner := orderly t
        simp only [Orderly, isIdle] at notOwner
        have ordered : (body name).ranked rank waits allowed
            (fun _ held => ∀ mutex, held mutex = false) fun _ => false := inOrder name
        simp [Orderly, Config.setThread, notOwner, ordered]
      · exact (orderly t).other (by simp [Config.setThread, other]) fun _ => Iff.rfl
  | finish mover entered atReturn =>
      rcases eq_or_ne t mover with rfl | other
      · rcases (orderly t).running atReturn with ⟨owns, left⟩
        have free : ∀ mutex, entered mutex = false := left
        simp [Orderly, Config.setThread, owns, free]
      · exact (orderly t).other (by simp [Config.setThread, other]) fun _ => Iff.rfl
  | lock mover taken next entered atLock free =>
      rcases eq_or_ne t mover with rfl | other
      · rcases (orderly t).running atLock with ⟨owns, goesOn⟩
        have ordered := goesOn.2
        simp only [Orderly, Config.setThread, Function.update_self]
        refine ⟨?_, ordered⟩
        intro mutex
        rcases eq_or_ne mutex taken with rfl | different
        · simp
        · rw [Function.update_of_ne different, Function.update_of_ne different]
          exact owns mutex
      · apply (orderly t).other (by simp [Config.setThread, other])
        intro mutex
        rcases eq_or_ne mutex taken with rfl | different
        · simp [free, other.symm]
        · simp [Function.update_of_ne different]
  | unlock mover given next entered atUnlock =>
      rcases (orderly mover).running atUnlock with ⟨owns, goesOn⟩
      rcases eq_or_ne t mover with rfl | other
      · simp only [Orderly, Config.setThread, Function.update_self]
        refine ⟨?_, goesOn.2⟩
        intro mutex
        rcases eq_or_ne mutex given with rfl | different
        · simp
        · rw [Function.update_of_ne different, Function.update_of_ne different]
          exact owns mutex
      · apply (orderly t).other (by simp [Config.setThread, other])
        intro mutex
        rcases eq_or_ne mutex given with rfl | different
        · have owned := (owns mutex).mpr goesOn.1
          simp [owned, other.symm]
        · simp [Function.update_of_ne different]
  | act mover event update next entered atAct isAllowed =>
      rcases eq_or_ne t mover with rfl | other
      · rcases (orderly t).running atAct with ⟨owns, goesOn⟩
        have ordered := goesOn config.state isAllowed
        simp only [Orderly, Config.setThread, Function.update_self]
        exact ⟨owns, ordered⟩
      · exact (orderly t).other (by simp [Config.setThread, other]) fun _ => Iff.rfl

theorem orderly_reachable (inOrder : ∀ name, (body name).InOrder rank waits allowed)
    (reachable : Reachable body allowed drift config) (t : τ) :
    Orderly rank waits allowed config t := by
  rcases reachable with ⟨start, initial, run⟩
  induction run generalizing t with
  | refl => exact orderly_initial initial t
  | tail _ step ih => exact orderly_step inOrder ih step t

omit [DecidableEq τ] in
/-- Behind a waiting thread stands the owner of its mutex, which waits for a mutex of a higher
rank, has halted without waiting for a condition, or can go on. -/
theorem moves_of_waits {top : Nat} (orderly : ∀ t, Orderly rank waits allowed config t)
    (bounded : ∀ mutex, rank mutex ≤ top) {waiter : τ} {mutex : ℓ}
    (isWaiting : config.Waits waiter mutex) :
    ∃ t other, config.InSection t other ∧ rank mutex ≤ rank other ∧
      (config.Moves t ∨ ∃ reason, ¬ waits reason ∧ config.HaltsAt t reason) := by
  induction isGap : top - rank mutex using Nat.strong_induction_on generalizing waiter mutex with
  | _ gap ih =>
      rcases Option.isSome_iff_exists.mp isWaiting.2 with ⟨owner, owned⟩
      cases here : config.thread owner with
      | idle =>
          have notOwner := orderly owner
          simp only [Orderly, here] at notOwner
          exact absurd owned (notOwner mutex)
      | running rest entered =>
          rcases (orderly owner).running here with ⟨owns, goesOn⟩
          have isIn : entered mutex = true := (owns mutex).mp owned
          have inSection : config.InSection owner mutex := ⟨rest, entered, here, isIn⟩
          cases rest with
          | ret value =>
              have free : ∀ mutex, entered mutex = false := goesOn
              rw [free] at isIn
              cases isIn
          | halt reason =>
              refine ⟨owner, mutex, inSection, le_refl _, .inr ⟨reason, ?_, entered, here⟩⟩
              intro isWait
              rw [goesOn isWait] at isIn
              cases isIn
          | lock next code =>
              have higher : rank mutex < rank next := goesOn.1 mutex isIn
              cases isOwned : config.owner next with
              | none =>
                  exact ⟨owner, mutex, inSection, le_refl _, .inl ⟨_, entered, here, isOwned⟩⟩
              | some second =>
                  have alsoWaits : config.Waits owner next :=
                    ⟨⟨code, entered, here⟩, by rw [isOwned, Option.isSome_some]⟩
                  have nearer : top - rank next < gap := by
                    have atMost := bounded next
                    omega
                  rcases ih _ nearer alsoWaits rfl with ⟨t, other, isInside, above, goes⟩
                  exact ⟨t, other, isInside, higher.le.trans above, goes⟩
          | unlock next code =>
              exact ⟨owner, mutex, inSection, le_refl _, .inl ⟨_, entered, here, trivial⟩⟩
          | act event update code =>
              exact ⟨owner, mutex, inSection, le_refl _, .inl ⟨_, entered, here, trivial⟩⟩

/-- Threads that make orderly calls do not deadlock. -/
theorem deadlock_free {top : Nat} (inOrder : ∀ name, (body name).InOrder rank waits allowed)
    (bounded : ∀ mutex, rank mutex ≤ top) (reachable : Reachable body allowed drift config)
    {waiter : τ} {mutex : ℓ} (isWaiting : config.Waits waiter mutex) :
    ∃ t other, config.InSection t other ∧ rank mutex ≤ rank other ∧
      (config.Moves t ∨ ∃ reason, ¬ waits reason ∧ config.HaltsAt t reason) :=
  moves_of_waits (orderly_reachable inOrder reachable) bounded isWaiting

end Ranks

end Threads
