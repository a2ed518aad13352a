import Mathlib.Tactic
import Mathlib.Logic.Function.Basic

/-!
# Programs over mutexes

A `LockProg` is the code of one call: a tree of mutex operations and atomic
actions on a shared state that ends by returning a value or by halting.  An
action carries the name of the operation it performs, so that a statement can
speak about the operations of a run and not only about its last state.

The same code has two meanings.  This file gives the sequential one: `exec` runs
a call alone from a given set of held mutexes, and `wp` is the corresponding
predicate transformer, related to `exec` by `wp_iff_exec`.  The interleaved
meaning, in which several threads run such calls against each other, is in
`Nrg5.Lib.Threads`.

A mutex that is already held blocks the call.  Nothing in a sequential run can
release it, so a call that finds a mutex left behind by an earlier call never
comes back.
-/

/-- The code of one call over states `σ`, mutexes `ℓ`, operation names `ω`,
halting reasons `φ` and results `α`. -/
inductive LockProg (σ ℓ ω φ α : Type) : Type where
  | ret (value : α)
  | halt (reason : φ)
  | lock (mutex : ℓ) (next : LockProg σ ℓ ω φ α)
  | unlock (mutex : ℓ) (next : LockProg σ ℓ ω φ α)
  | act (event : ω) (update : σ → σ) (next : σ → LockProg σ ℓ ω φ α)

namespace LockProg

variable {σ ℓ ω φ α β : Type}

/-- Sequential composition: continue with `next` where `first` returns. -/
def bind (first : LockProg σ ℓ ω φ α) (next : α → LockProg σ ℓ ω φ β) :
    LockProg σ ℓ ω φ β :=
  match first with
  | .ret value => next value
  | .halt reason => .halt reason
  | .lock mutex rest => .lock mutex (rest.bind next)
  | .unlock mutex rest => .unlock mutex (rest.bind next)
  | .act event update rest => .act event update fun state => (rest state).bind next

instance : Monad (LockProg σ ℓ ω φ) where
  pure := .ret
  bind := bind

/-- Take a mutex. -/
def acquire (mutex : ℓ) : LockProg σ ℓ ω φ Unit := .lock mutex (.ret ())

/-- Release a mutex. -/
def release (mutex : ℓ) : LockProg σ ℓ ω φ Unit := .unlock mutex (.ret ())

/-- An operation that changes the state and answers from the state before it. -/
def perform (event : ω) (update : σ → σ) (answer : σ → α) : LockProg σ ℓ ω φ α :=
  .act event update fun state => .ret (answer state)

/-- An operation that only reads. -/
def query (event : ω) (answer : σ → α) : LockProg σ ℓ ω φ α :=
  perform event id answer

/-- An operation that only writes. -/
def modify (event : ω) (update : σ → σ) : LockProg σ ℓ ω φ Unit :=
  perform event update fun _ => ()

/-- Why a sequential run ends. -/
inductive Result (ℓ φ α : Type) : Type where
  | done (value : α)
  | halted (reason : φ)
  | blocked (mutex : ℓ)
deriving DecidableEq

def Result.isHalted : Result ℓ φ α → Bool
  | .halted _ => true
  | _ => false

/-- How a sequential run ends, with the operations it performed and the state
each of them met. -/
structure Outcome (σ ℓ ω φ α : Type) where
  result : Result ℓ φ α
  held : ℓ → Bool
  state : σ
  events : List (ω × σ)

section Sequential

variable [DecidableEq ℓ]

/-- Run a call alone from a set of held mutexes and a state. -/
def exec : LockProg σ ℓ ω φ α → (ℓ → Bool) → σ → Outcome σ ℓ ω φ α
  | .ret value, held, state => ⟨.done value, held, state, []⟩
  | .halt reason, held, state => ⟨.halted reason, held, state, []⟩
  | .lock mutex next, held, state =>
      if held mutex then ⟨.blocked mutex, held, state, []⟩
      else next.exec (Function.update held mutex true) state
  | .unlock mutex next, held, state => next.exec (Function.update held mutex false) state
  | .act event update next, held, state =>
      let rest := (next state).exec held (update state)
      { rest with events := (event, state) :: rest.events }

/-- What must hold where a run ends: `post` where it returns, `halt` where it
halts and `block` where it meets a held mutex. -/
structure Ending (σ ℓ φ α : Type) where
  post : α → (ℓ → Bool) → σ → Prop
  halt : φ → (ℓ → Bool) → σ → Prop := fun _ _ _ => False
  block : ℓ → (ℓ → Bool) → σ → Prop := fun _ _ _ => False

/-- The weakest precondition of a call for an ending, with the obligation that
every operation is allowed in the state it meets. -/
def wp (allowed : ω → σ → Prop) (ending : Ending σ ℓ φ α) :
    LockProg σ ℓ ω φ α → (ℓ → Bool) → σ → Prop
  | .ret value, held, state => ending.post value held state
  | .halt reason, held, state => ending.halt reason held state
  | .lock mutex next, held, state =>
      if held mutex then ending.block mutex held state
      else next.wp allowed ending (Function.update held mutex true) state
  | .unlock mutex next, held, state =>
      next.wp allowed ending (Function.update held mutex false) state
  | .act event update next, held, state =>
      allowed event state ∧ (next state).wp allowed ending held (update state)

/-- The ending as a predicate on outcomes. -/
def Ending.Holds (ending : Ending σ ℓ φ α) (outcome : Outcome σ ℓ ω φ α) : Prop :=
  match outcome.result with
  | .done value => ending.post value outcome.held outcome.state
  | .halted reason => ending.halt reason outcome.held outcome.state
  | .blocked mutex => ending.block mutex outcome.held outcome.state

variable {allowed : ω → σ → Prop} {held : ℓ → Bool} {state : σ}

/-- The predicate transformer says exactly what the run does. -/
theorem wp_iff_exec (ending : Ending σ ℓ φ α) (prog : LockProg σ ℓ ω φ α) :
    prog.wp allowed ending held state ↔
      (∀ entry ∈ (prog.exec held state).events, allowed entry.1 entry.2) ∧
        ending.Holds (prog.exec held state) := by
  induction prog generalizing held state with
  | ret value => simp [wp, exec, Ending.Holds]
  | halt reason => simp [wp, exec, Ending.Holds]
  | lock mutex next ih =>
      simp only [wp, exec]
      split
      · simp [Ending.Holds]
      · exact ih
  | unlock mutex next ih => exact ih
  | act event update next ih =>
      simp only [wp, exec, List.forall_mem_cons, and_assoc]
      exact and_congr_right fun _ => ih state

/-- The predicate transformer of an ending that only admits a return. -/
theorem wp_done_iff_exec (post : α → (ℓ → Bool) → σ → Prop) (prog : LockProg σ ℓ ω φ α) :
    prog.wp allowed { post := post } held state ↔
      (∀ entry ∈ (prog.exec held state).events, allowed entry.1 entry.2) ∧
        ∃ value, (prog.exec held state).result = .done value ∧
          post value (prog.exec held state).held (prog.exec held state).state := by
  rw [wp_iff_exec]
  apply and_congr_right
  intro _
  simp only [Ending.Holds]
  cases (prog.exec held state).result with
  | done value => simp
  | halted reason => simp
  | blocked mutex => simp

/-- A call whose every path returns does not halt. -/
theorem not_halted_of_wp (post : α → (ℓ → Bool) → σ → Prop) {prog : LockProg σ ℓ ω φ α}
    (returns : prog.wp allowed { post := post } held state) (reason : φ) :
    (prog.exec held state).result ≠ .halted reason := by
  rcases (wp_done_iff_exec post prog).mp returns with ⟨_, value, isDone, _⟩
  rw [isDone]
  simp

@[simp]
theorem wp_pure (ending : Ending σ ℓ φ α) (value : α) :
    (pure value : LockProg σ ℓ ω φ α).wp allowed ending held state =
      ending.post value held state := rfl

@[simp]
theorem wp_halt (ending : Ending σ ℓ φ α) (reason : φ) :
    (LockProg.halt reason : LockProg σ ℓ ω φ α).wp allowed ending held state =
      ending.halt reason held state := rfl

@[simp]
theorem wp_bind (ending : Ending σ ℓ φ β) (first : LockProg σ ℓ ω φ α)
    (next : α → LockProg σ ℓ ω φ β) :
    (first >>= next).wp allowed ending held state =
      first.wp allowed
        ⟨fun value held state => (next value).wp allowed ending held state,
          ending.halt, ending.block⟩ held state := by
  change (first.bind next).wp allowed ending held state = _
  induction first generalizing held state with
  | ret value => rfl
  | halt reason => rfl
  | lock mutex rest ih => simp only [bind, wp, ih]
  | unlock mutex rest ih => simp only [bind, wp, ih]
  | act event update rest ih => simp only [bind, wp, ih]

@[simp]
theorem wp_acquire (ending : Ending σ ℓ φ Unit) (mutex : ℓ) :
    (acquire mutex : LockProg σ ℓ ω φ Unit).wp allowed ending held state =
      if held mutex then ending.block mutex held state
      else ending.post () (Function.update held mutex true) state := rfl

@[simp]
theorem wp_release (ending : Ending σ ℓ φ Unit) (mutex : ℓ) :
    (release mutex : LockProg σ ℓ ω φ Unit).wp allowed ending held state =
      ending.post () (Function.update held mutex false) state := rfl

@[simp]
theorem wp_perform (ending : Ending σ ℓ φ α) (event : ω) (update : σ → σ)
    (answer : σ → α) :
    (perform event update answer : LockProg σ ℓ ω φ α).wp allowed ending held state =
      (allowed event state ∧ ending.post (answer state) held (update state)) := rfl

@[simp]
theorem wp_query (ending : Ending σ ℓ φ α) (event : ω) (answer : σ → α) :
    (query event answer : LockProg σ ℓ ω φ α).wp allowed ending held state =
      (allowed event state ∧ ending.post (answer state) held state) := rfl

@[simp]
theorem wp_modify (ending : Ending σ ℓ φ Unit) (event : ω) (update : σ → σ) :
    (modify event update : LockProg σ ℓ ω φ Unit).wp allowed ending held state =
      (allowed event state ∧ ending.post () held (update state)) := rfl

@[simp]
theorem wp_ite (ending : Ending σ ℓ φ α) (condition : Prop) [Decidable condition]
    (left right : LockProg σ ℓ ω φ α) :
    (if condition then left else right).wp allowed ending held state =
      if condition then left.wp allowed ending held state
      else right.wp allowed ending held state := by
  split <;> rfl

theorem wp_mono {strong weak : Ending σ ℓ φ α} {prog : LockProg σ ℓ ω φ α}
    (postMono : ∀ value held state, strong.post value held state → weak.post value held state)
    (haltMono : ∀ reason held state, strong.halt reason held state →
      weak.halt reason held state)
    (blockMono : ∀ mutex held state, strong.block mutex held state →
      weak.block mutex held state)
    (holds : prog.wp allowed strong held state) : prog.wp allowed weak held state := by
  induction prog generalizing held state with
  | ret value => exact postMono _ _ _ holds
  | halt reason => exact haltMono _ _ _ holds
  | lock mutex next ih =>
      simp only [wp] at holds ⊢
      split
      · rename_i isHeld
        rw [if_pos isHeld] at holds
        exact blockMono _ _ _ holds
      · rename_i isFree
        rw [if_neg isFree] at holds
        exact ih holds
  | unlock mutex next ih => exact ih holds
  | act event update next ih => exact ⟨holds.1, ih state holds.2⟩

theorem wp_allow {ending : Ending σ ℓ φ α} {prog : LockProg σ ℓ ω φ α}
    (holds : prog.wp allowed ending held state) : prog.wp (fun _ _ => True) ending held state :=
  (wp_iff_exec ending prog).mpr ⟨fun _ _ => trivial, ((wp_iff_exec ending prog).mp holds).2⟩

theorem wp_of_forall {ending : Ending σ ℓ φ α} (allAllowed : ∀ event state, allowed event state)
    (post : ∀ value held state, ending.post value held state)
    (halt : ∀ reason held state, ending.halt reason held state)
    (block : ∀ mutex held state, ending.block mutex held state)
    (prog : LockProg σ ℓ ω φ α) : prog.wp allowed ending held state := by
  induction prog generalizing held state with
  | ret value => exact post value held state
  | halt reason => exact halt reason held state
  | lock mutex next ih =>
      simp only [wp]
      split
      · exact block mutex held state
      · exact ih
  | unlock mutex next ih => exact ih
  | act event update next ih => exact ⟨allAllowed event state, ih state⟩

/-- The same demand on the state wherever a run ends. -/
def Ending.always (inv : σ → Prop) : Ending σ ℓ φ α :=
  { post := fun _ _ state => inv state
    halt := fun _ _ state => inv state
    block := fun _ _ state => inv state }

theorem wp_always_iff (inv : σ → Prop) {prog : LockProg σ ℓ ω φ α} :
    prog.wp (fun _ _ => True) (.always inv) held state ↔ inv (prog.exec held state).state := by
  rw [wp_iff_exec]
  simp only [implies_true, true_and, Ending.Holds, Ending.always]
  cases (prog.exec held state).result <;> rfl

theorem wp_always_mono {strong weak : σ → Prop} {prog : LockProg σ ℓ ω φ α}
    (implies : ∀ state, strong state → weak state)
    (holds : prog.wp (fun _ _ => True) (.always strong) held state) :
    prog.wp (fun _ _ => True) (.always weak) held state :=
  (wp_always_iff weak).mpr (implies _ ((wp_always_iff strong).mp holds))

/-- Releasing a mutex that was free before it was taken restores the set of held
mutexes. -/
@[simp]
theorem update_release (mutex : ℓ) (free : held mutex = false) :
    Function.update (Function.update held mutex true) mutex false = held := by
  rw [Function.update_idem, ← free, Function.update_eq_self]

theorem update_free (mutex : ℓ) (free : held mutex = false) :
    Function.update held mutex false = held := by
  rw [← free, Function.update_eq_self]

end Sequential

/-! ## Holding a mutex across a call -/

section Tracking

variable [DecidableEq ℓ]

/-- Follow one mutex through a call: on every path whose operations are allowed,
the call never takes the mutex twice, never releases it without holding it, and
returns in a state that `post` admits.  The boolean says whether the call holds
the mutex. -/
def track (mutex : ℓ) (allowed : ω → σ → Prop) (post : α → Bool → Prop) :
    LockProg σ ℓ ω φ α → Bool → Prop
  | .ret value, holding => post value holding
  | .halt _, _ => True
  | .lock other next, holding =>
      if other = mutex then holding = false ∧ next.track mutex allowed post true
      else next.track mutex allowed post holding
  | .unlock other next, holding =>
      if other = mutex then holding = true ∧ next.track mutex allowed post false
      else next.track mutex allowed post holding
  | .act event _ next, holding =>
      ∀ state, allowed event state → (next state).track mutex allowed post holding

/-- A call that gives the mutex back on every allowed path. -/
def Releases (mutex : ℓ) (allowed : ω → σ → Prop) (prog : LockProg σ ℓ ω φ α)
    (holding : Bool) : Prop :=
  prog.track mutex allowed (fun _ atReturn => atReturn = false) holding

variable {mutex : ℓ} {allowed : ω → σ → Prop} {holding : Bool}

@[simp]
theorem track_pure (post : α → Bool → Prop) (value : α) :
    (pure value : LockProg σ ℓ ω φ α).track mutex allowed post holding =
      post value holding := rfl

@[simp]
theorem track_halt (post : α → Bool → Prop) (reason : φ) :
    (LockProg.halt reason : LockProg σ ℓ ω φ α).track mutex allowed post holding = True := rfl

@[simp]
theorem track_bind (post : β → Bool → Prop) (first : LockProg σ ℓ ω φ α)
    (next : α → LockProg σ ℓ ω φ β) :
    (first >>= next).track mutex allowed post holding =
      first.track mutex allowed
        (fun value atNext => (next value).track mutex allowed post atNext) holding := by
  change (first.bind next).track mutex allowed post holding = _
  induction first generalizing holding with
  | ret value => rfl
  | halt reason => rfl
  | lock other rest ih => simp only [bind, track, ih]
  | unlock other rest ih => simp only [bind, track, ih]
  | act event update rest ih => simp only [bind, track, ih]

@[simp]
theorem track_acquire (post : Unit → Bool → Prop) (other : ℓ) :
    (acquire other : LockProg σ ℓ ω φ Unit).track mutex allowed post holding =
      if other = mutex then holding = false ∧ post () true else post () holding := rfl

@[simp]
theorem track_release (post : Unit → Bool → Prop) (other : ℓ) :
    (release other : LockProg σ ℓ ω φ Unit).track mutex allowed post holding =
      if other = mutex then holding = true ∧ post () false else post () holding := rfl

@[simp]
theorem track_perform (post : α → Bool → Prop) (event : ω) (update : σ → σ)
    (answer : σ → α) :
    (perform event update answer : LockProg σ ℓ ω φ α).track mutex allowed post holding =
      ∀ state, allowed event state → post (answer state) holding := rfl

@[simp]
theorem track_query (post : α → Bool → Prop) (event : ω) (answer : σ → α) :
    (query event answer : LockProg σ ℓ ω φ α).track mutex allowed post holding =
      ∀ state, allowed event state → post (answer state) holding := rfl

@[simp]
theorem track_modify (post : Unit → Bool → Prop) (event : ω) (update : σ → σ) :
    (modify event update : LockProg σ ℓ ω φ Unit).track mutex allowed post holding =
      ∀ state, allowed event state → post () holding := rfl

@[simp]
theorem track_ite (post : α → Bool → Prop) (condition : Prop) [Decidable condition]
    (left right : LockProg σ ℓ ω φ α) :
    (if condition then left else right).track mutex allowed post holding =
      if condition then left.track mutex allowed post holding
      else right.track mutex allowed post holding := by
  split <;> rfl

end Tracking

end LockProg
