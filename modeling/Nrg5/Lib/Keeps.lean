import Nrg5.Lib.LockProg

/-!
# What a call leaves alone

A view of the state is kept by a call when each of its actions keeps it, whatever mutexes are held
and however the call ends.  The same calls are followed for the operations that they perform and for
the reasons for which they halt, so that a call can be said neither to change what others look at,
nor to notify them, nor to wait for them.  All three pass from the parts of a call to the call.
-/

namespace LockProg

variable {σ ℓ ω φ α β γ : Type} [DecidableEq ℓ] {allowed : ω → Prop} {permitted : φ → Prop}
  {view : σ → γ}

/-- The same demand on the state wherever a run ends, which may halt for some reasons only. -/
def Ending.haltsBy (permitted : φ → Prop) (inv : σ → Prop) : Ending σ ℓ φ α :=
  { post := fun _ _ state => inv state
    halt := fun reason _ state => permitted reason ∧ inv state
    block := fun _ _ state => inv state }

theorem wp_haltsBy_iff (permitted : φ → Prop) (inv : σ → Prop) {held : ℓ → Bool} {state : σ}
    {prog : LockProg σ ℓ ω φ α} :
    prog.wp (fun _ _ => True) (.haltsBy permitted inv) held state ↔
      (∀ reason, (prog.exec held state).result = .halted reason → permitted reason) ∧
        inv (prog.exec held state).state := by
  rw [wp_iff_exec]
  simp only [implies_true, true_and, Ending.Holds, Ending.haltsBy]
  cases (prog.exec held state).result with
  | done value => simp
  | halted reason => simp
  | blocked mutex => simp

/-- A call performs allowed operations only, halts for permitted reasons only, and leaves a view of
the state as it is, also where it halts or blocks. -/
structure Keeps (allowed : ω → Prop) (permitted : φ → Prop) (view : σ → γ)
    (prog : LockProg σ ℓ ω φ α) : Prop where
  kept : ∀ held state, prog.wp (fun event _ => allowed event)
    (.haltsBy permitted fun after => view after = view state) held state

/-- Wherever a run ends, the view is as it was. -/
theorem Keeps.always {prog : LockProg σ ℓ ω φ α} (keeps : Keeps allowed permitted view prog)
    (held : ℓ → Bool) (state : σ) :
    prog.wp (fun event _ => allowed event) (.always fun after => view after = view state) held
      state := by
  apply wp_mono _ _ _ (keeps.kept held state)
  · exact fun _ _ _ same => same
  · exact fun _ _ _ halts => halts.2
  · exact fun _ _ _ same => same

/-- A run leaves the view as it was. -/
theorem Keeps.exec {prog : LockProg σ ℓ ω φ α} (keeps : Keeps allowed permitted view prog)
    (held : ℓ → Bool) (state : σ) : view (prog.exec held state).state = view state :=
  (wp_always_iff fun after => view after = view state).mp (wp_allow (keeps.always held state))

/-- Every operation of a run is allowed. -/
theorem Keeps.events {prog : LockProg σ ℓ ω φ α} (keeps : Keeps allowed permitted view prog)
    {held : ℓ → Bool} {state : σ} {entry : ω × σ}
    (isEvent : entry ∈ (prog.exec held state).events) : allowed entry.1 :=
  ((wp_iff_exec _ _).mp (keeps.kept held state)).1 entry isEvent

theorem keeps_pure (value : α) :
    Keeps allowed permitted view (pure value : LockProg σ ℓ ω φ α) :=
  ⟨fun _ _ => rfl⟩

theorem keeps_halt {reason : φ} (isPermitted : permitted reason) :
    Keeps allowed permitted view (.halt reason : LockProg σ ℓ ω φ α) :=
  ⟨fun _ _ => ⟨isPermitted, rfl⟩⟩

theorem keeps_perform {event : ω} {update : σ → σ} {answer : σ → α} (isAllowed : allowed event)
    (same : ∀ state, view (update state) = view state) :
    Keeps allowed permitted view (perform event update answer : LockProg σ ℓ ω φ α) :=
  ⟨fun _ state => ⟨isAllowed, same state⟩⟩

theorem keeps_query {event : ω} (answer : σ → α) (isAllowed : allowed event) :
    Keeps allowed permitted view (query event answer : LockProg σ ℓ ω φ α) :=
  ⟨fun _ _ => ⟨isAllowed, rfl⟩⟩

theorem keeps_modify {event : ω} {update : σ → σ} (isAllowed : allowed event)
    (same : ∀ state, view (update state) = view state) :
    Keeps allowed permitted view (modify event update : LockProg σ ℓ ω φ Unit) :=
  keeps_perform isAllowed same

theorem keeps_acquire (mutex : ℓ) :
    Keeps allowed permitted view (acquire mutex : LockProg σ ℓ ω φ Unit) := by
  refine ⟨fun held state => ?_⟩
  rw [wp_acquire]
  split
  · rfl
  · rfl

theorem keeps_release (mutex : ℓ) :
    Keeps allowed permitted view (release mutex : LockProg σ ℓ ω φ Unit) :=
  ⟨fun _ _ => rfl⟩

/-- What two calls keep, one behind the other, both keep. -/
theorem keeps_bind {first : LockProg σ ℓ ω φ α} {next : α → LockProg σ ℓ ω φ β}
    (keeps : Keeps allowed permitted view first)
    (keepsNext : ∀ value, Keeps allowed permitted view (next value)) :
    Keeps allowed permitted view (first >>= next) := by
  refine ⟨fun held state => ?_⟩
  rw [wp_bind]
  apply wp_mono _ _ _ (keeps.kept held state)
  · intro value atEnd mid same
    have behind := (keepsNext value).kept atEnd mid
    rw [same] at behind
    exact behind
  · exact fun _ _ _ halts => halts
  · exact fun _ _ _ same => same

theorem keeps_ite (condition : Prop) [Decidable condition] {left right : LockProg σ ℓ ω φ α}
    (keepsLeft : Keeps allowed permitted view left)
    (keepsRight : Keeps allowed permitted view right) :
    Keeps allowed permitted view (if condition then left else right) := by
  split
  · exact keepsLeft
  · exact keepsRight

/-- What a call answers does not matter to an ending that does not look at it. -/
theorem wp_bind_pure {permits : ω → σ → Prop} {post : (ℓ → Bool) → σ → Prop}
    {halt : φ → (ℓ → Bool) → σ → Prop} {block : ℓ → (ℓ → Bool) → σ → Prop} {held : ℓ → Bool}
    {state : σ} {prog : LockProg σ ℓ ω φ α} {next : α → LockProg σ ℓ ω φ β}
    (answers : ∀ value, ∃ result, next value = pure result) :
    (prog >>= next).wp permits ⟨fun _ => post, halt, block⟩ held state ↔
      prog.wp permits ⟨fun _ => post, halt, block⟩ held state := by
  rw [wp_bind]
  constructor
  · apply wp_mono
    · intro value atEnd last holds
      rcases answers value with ⟨result, isNext⟩
      dsimp only at holds
      rw [isNext] at holds
      exact holds
    · exact fun _ _ _ holds => holds
    · exact fun _ _ _ holds => holds
  · apply wp_mono
    · intro value atEnd last holds
      rcases answers value with ⟨result, isNext⟩
      dsimp only
      rw [isNext]
      exact holds
    · exact fun _ _ _ holds => holds
    · exact fun _ _ _ holds => holds

end LockProg
