import Nrg5.Lib.LockProg

/-!
# Calls one after the other

One thread makes calls in some order, each from the mutexes and the state that the
call before it left.  A call that meets a held mutex waits for ever and leaves what
it has done so far; another thread goes on from there.  A call that halts ends the
process, so nothing follows it.
-/

namespace LockProg

variable {σ ℓ ω φ κ α : Type} [DecidableEq ℓ]

/-- The mutexes and the states that sequences of calls reach. -/
inductive Sequence (body : κ → LockProg σ ℓ ω φ α) (initial : σ → Prop) :
    (ℓ → Bool) → σ → Prop where
  | start {state : σ} (isInitial : initial state) :
      Sequence body initial (fun _ => false) state
  | call {held : ℓ → Bool} {state : σ} (before : Sequence body initial held state) (name : κ)
      (going : ∀ reason, ((body name).exec held state).result ≠ .halted reason) :
      Sequence body initial ((body name).exec held state).held
        ((body name).exec held state).state

variable {body : κ → LockProg σ ℓ ω φ α} {initial : σ → Prop} {held : ℓ → Bool} {state : σ}

/-- An invariant of sequences: it holds at the start, and every call that does not
halt keeps it. -/
theorem Sequence.invariant {inv : (ℓ → Bool) → σ → Prop}
    (atStart : ∀ state, initial state → inv (fun _ => false) state)
    (ofCall : ∀ name held state, inv held state →
      (body name).wp (fun _ _ => True)
        { post := fun _ held state => inv held state
          halt := fun _ _ _ => True
          block := fun _ held state => inv held state } held state)
    (reached : Sequence body initial held state) : inv held state := by
  induction reached with
  | start isInitial => exact atStart _ isInitial
  | call before name going ih =>
      have ends := ((wp_iff_exec _ _).mp (ofCall name _ _ ih)).2
      simp only [Ending.Holds] at ends
      split at ends
      · exact ends
      · rename_i reason isHalted
        exact absurd isHalted (going reason)
      · exact ends

/-- What holds at each call of a list, where every call starts from what the one
before it left. -/
def EachCall (body : κ → LockProg σ ℓ ω φ α) (property : κ → (ℓ → Bool) → σ → Prop) :
    List κ → (ℓ → Bool) → σ → Prop
  | [], _, _ => True
  | name :: rest, held, state =>
      property name held state ∧
        EachCall body property rest ((body name).exec held state).held
          ((body name).exec held state).state

/-- A property of single calls in reachable states carries over to whole runs. -/
theorem EachCall.mono {weak strong : κ → (ℓ → Bool) → σ → Prop}
    (going : ∀ name held state, Sequence body initial held state → strong name held state →
      ∀ reason, ((body name).exec held state).result ≠ .halted reason)
    (implies : ∀ name held state, Sequence body initial held state →
      strong name held state → weak name held state)
    {calls : List κ} (reached : Sequence body initial held state)
    (meets : EachCall body strong calls held state) :
    EachCall body weak calls held state := by
  induction calls generalizing held state with
  | nil => trivial
  | cons name rest ih =>
      refine ⟨implies name held state reached meets.1, ?_⟩
      exact ih (.call reached name (going name held state reached meets.1)) meets.2

/-- The mutexes and the state that some calls leave, each made behind the one before it. -/
def callAll (body : κ → LockProg σ ℓ ω φ α) : List κ → (ℓ → Bool) → σ → (ℓ → Bool) × σ
  | [], held, state => (held, state)
  | name :: rest, held, state =>
      callAll body rest ((body name).exec held state).held ((body name).exec held state).state

/-- None of some calls halts. -/
def AllGo (body : κ → LockProg σ ℓ ω φ α) : List κ → (ℓ → Bool) → σ → Prop :=
  EachCall body fun name held state => ((body name).exec held state).result.isHalted = false

instance decidableAllGo (body : κ → LockProg σ ℓ ω φ α) :
    (calls : List κ) → (held : ℓ → Bool) → (state : σ) → Decidable (AllGo body calls held state)
  | [], _, _ => inferInstanceAs (Decidable True)
  | name :: rest, held, state =>
      have := decidableAllGo body rest ((body name).exec held state).held
        ((body name).exec held state).state
      inferInstanceAs (Decidable (_ ∧ AllGo body rest _ _))

theorem Sequence.callAll {calls : List κ} (reached : Sequence body initial held state)
    (going : AllGo body calls held state) :
    Sequence body initial (LockProg.callAll body calls held state).1
      (LockProg.callAll body calls held state).2 := by
  induction calls generalizing held state with
  | nil => exact reached
  | cons name rest ih =>
      refine ih (.call reached name ?_) going.2
      intro reason isHalted
      have goes : ((body name).exec held state).result.isHalted = false := going.1
      rw [isHalted] at goes
      cases goes

end LockProg
