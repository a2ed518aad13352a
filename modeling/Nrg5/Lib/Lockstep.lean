import Nrg5.Lib.LockProg

/-!
# Two runs of one call

Two calls run in lockstep when they take the same mutexes, perform the same operations with the
same effects and end in the same way, up to a relation between the values that they return.  A
call that is given two arguments runs in lockstep with itself as long as it reads nothing that
distinguishes them, and then both runs leave the same state behind.
-/

namespace LockProg

variable {σ ℓ ω φ α β γ δ : Type}

/-- Two calls whose steps are the same and whose values are related. -/
inductive Lockstep (related : α → β → Prop) :
    LockProg σ ℓ ω φ α → LockProg σ ℓ ω φ β → Prop where
  | ret {left : α} {right : β} (values : related left right) :
      Lockstep related (.ret left) (.ret right)
  | halt (reason : φ) : Lockstep related (.halt reason) (.halt reason)
  | lock (mutex : ℓ) {left : LockProg σ ℓ ω φ α} {right : LockProg σ ℓ ω φ β}
      (next : Lockstep related left right) : Lockstep related (.lock mutex left) (.lock mutex right)
  | unlock (mutex : ℓ) {left : LockProg σ ℓ ω φ α} {right : LockProg σ ℓ ω φ β}
      (next : Lockstep related left right) :
      Lockstep related (.unlock mutex left) (.unlock mutex right)
  | act (event : ω) (update : σ → σ) {left : σ → LockProg σ ℓ ω φ α}
      {right : σ → LockProg σ ℓ ω φ β}
      (next : ∀ state, Lockstep related (left state) (right state)) :
      Lockstep related (.act event update left) (.act event update right)

variable {related : α → β → Prop} {left : LockProg σ ℓ ω φ α} {right : LockProg σ ℓ ω φ β}

theorem lockstep_pure {first : α} {second : β} (values : related first second) :
    Lockstep related (pure first : LockProg σ ℓ ω φ α) (pure second) := .ret values

theorem lockstep_refl {same : α → α → Prop} (reflexive : ∀ value, same value value)
    (prog : LockProg σ ℓ ω φ α) : Lockstep same prog prog := by
  induction prog with
  | ret value => exact .ret (reflexive value)
  | halt reason => exact .halt reason
  | lock mutex next ih => exact .lock mutex ih
  | unlock mutex next ih => exact .unlock mutex ih
  | act event update next ih => exact .act event update ih

theorem Lockstep.bind {after : γ → δ → Prop} {first : α → LockProg σ ℓ ω φ γ}
    {second : β → LockProg σ ℓ ω φ δ} (steps : Lockstep related left right)
    (next : ∀ value other, related value other → Lockstep after (first value) (second other)) :
    Lockstep after (left >>= first) (right >>= second) := by
  change Lockstep after (left.bind first) (right.bind second)
  induction steps with
  | ret values => exact next _ _ values
  | halt reason => exact .halt reason
  | lock mutex _ ih => exact .lock mutex ih
  | unlock mutex _ ih => exact .unlock mutex ih
  | act event update _ ih => exact .act event update ih

theorem lockstep_bind {after : γ → δ → Prop} (prog : LockProg σ ℓ ω φ α)
    {first : α → LockProg σ ℓ ω φ γ} {second : α → LockProg σ ℓ ω φ δ}
    (next : ∀ value, Lockstep after (first value) (second value)) :
    Lockstep after (prog >>= first) (prog >>= second) :=
  (lockstep_refl (fun _ => rfl) prog : Lockstep Eq prog prog).bind
    fun value _ same => same ▸ next value

theorem lockstep_ite {condition : Prop} [Decidable condition]
    {leftElse : LockProg σ ℓ ω φ α} {rightElse : LockProg σ ℓ ω φ β}
    (positive : condition → Lockstep related left right)
    (negative : ¬ condition → Lockstep related leftElse rightElse) :
    Lockstep related (if condition then left else leftElse)
      (if condition then right else rightElse) := by
  split
  · rename_i holds
    exact positive holds
  · rename_i fails
    exact negative fails

/-- How a run ends, without the value. -/
def Result.forget : Result ℓ φ α → Result ℓ φ Unit
  | .done _ => .done ()
  | .halted reason => .halted reason
  | .blocked mutex => .blocked mutex

variable [DecidableEq ℓ] {held : ℓ → Bool} {state : σ}

/-- Two calls in lockstep end in the same way and in the same state. -/
theorem Lockstep.exec (steps : Lockstep related left right) :
    (left.exec held state).result.forget = (right.exec held state).result.forget ∧
      (left.exec held state).held = (right.exec held state).held ∧
      (left.exec held state).state = (right.exec held state).state := by
  induction steps generalizing held state with
  | ret values => exact ⟨rfl, rfl, rfl⟩
  | halt reason => exact ⟨rfl, rfl, rfl⟩
  | lock mutex _ ih =>
      simp only [LockProg.exec]
      split
      · exact ⟨rfl, rfl, rfl⟩
      · exact ih
  | unlock mutex _ ih => exact ih
  | act event update _ ih => exact ih state

end LockProg
