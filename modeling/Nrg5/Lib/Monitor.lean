import Mathlib.Logic.Function.Basic
import Mathlib.Logic.Relation

/-!
# Waiting for a condition

Threads perform critical sections on a shared state.  At some positions of their
code they first wait in a loop around a condition variable: a thread that finds the
condition false blocks, and a thread that is woken tests the condition again.  A
section says which waiters it wakes, and it wakes all the waiters of a condition or
none of them.  A thread may also be woken by nobody.

No wake-up is lost when every section that makes a condition true wakes its waiters.
-/

/-- The critical sections of some threads over states `σ`, positions `π` of their code and
conditions `κ`. -/
structure Monitor (σ π κ : Type) where
  /-- The condition that the loop at a position waits for. -/
  waitsFor : π → Option κ
  holds : κ → σ → Prop
  /-- A section from one position to the next, with the conditions whose waiters it wakes. -/
  performs : π → σ → π → σ → (κ → Bool) → Prop

namespace Monitor

variable {τ σ π κ : Type}

/-- Where a thread is: about to go on at a position, blocked in the loop of a position, or
woken there and not yet through the loop. -/
inductive Stand (π : Type) : Type where
  | running (position : π)
  | blocked (position : π)
  | woken (position : π)

/-- A thread at a position that takes the mutex next. -/
def Stand.At (position : π) (stand : Stand π) : Prop :=
  stand = .running position ∨ stand = .woken position

structure Config (τ σ π : Type) where
  state : σ
  thread : τ → Stand π

/-- The thread after a broadcast. -/
def wake (monitor : Monitor σ π κ) (wakes : κ → Bool) (stand : Stand π) : Stand π :=
  match stand with
  | .blocked position =>
      if (monitor.waitsFor position).any wakes = true then .woken position else .blocked position
  | other => other

variable {monitor : Monitor σ π κ} {config config' : Config τ σ π}

theorem wake_blocked {wakes : κ → Bool} {stand : Stand π} {position : π}
    (stays : monitor.wake wakes stand = .blocked position) :
    stand = .blocked position ∧ (monitor.waitsFor position).any wakes = false := by
  cases stand with
  | running other => exact absurd stays (by simp [wake])
  | woken other => exact absurd stays (by simp [wake])
  | blocked other =>
      simp only [wake] at stays
      split at stays
      · exact absurd stays (by simp)
      · rename_i asleep
        rw [Stand.blocked.injEq] at stays
        rw [← stays]
        exact ⟨rfl, by simpa using asleep⟩

section Steps

variable [DecidableEq τ]

/-- One step of one thread. -/
inductive Step (monitor : Monitor σ π κ) : Config τ σ π → Config τ σ π → Prop where
  | pass {config : Config τ σ π} (t : τ) (position next : π) (state : σ) (wakes : κ → Bool)
      (here : (config.thread t).At position)
      (ready : ∀ condition, monitor.waitsFor position = some condition →
        monitor.holds condition config.state)
      (performs : monitor.performs position config.state next state wakes) :
      Step monitor config
        { state := state
          thread := Function.update (fun u => monitor.wake wakes (config.thread u)) t
            (.running next) }
  | block {config : Config τ σ π} (t : τ) (position : π) (condition : κ)
      (here : (config.thread t).At position)
      (waits : monitor.waitsFor position = some condition)
      (notYet : ¬ monitor.holds condition config.state) :
      Step monitor config
        { config with thread := Function.update config.thread t (.blocked position) }
  | spurious {config : Config τ σ π} (t : τ) (position : π)
      (here : config.thread t = .blocked position) :
      Step monitor config
        { config with thread := Function.update config.thread t (.woken position) }

/-- The runs from one configuration. -/
abbrev Run (monitor : Monitor σ π κ) : Config τ σ π → Config τ σ π → Prop :=
  Relation.ReflTransGen (Step monitor)

/-- No thread is blocked on a condition that holds. -/
def NoneMissed (monitor : Monitor σ π κ) (config : Config τ σ π) : Prop :=
  ∀ t position condition, config.thread t = .blocked position →
    monitor.waitsFor position = some condition → ¬ monitor.holds condition config.state

theorem noneMissed_step {inv : σ → Prop}
    (signals : ∀ position state next state' wakes, inv state →
      monitor.performs position state next state' wakes → ∀ condition,
        ¬ monitor.holds condition state → monitor.holds condition state' → wakes condition = true)
    (holds : inv config.state) (noneMissed : NoneMissed monitor config)
    (step : Step monitor config config') : NoneMissed monitor config' := by
  intro u place condition isBlocked waits
  cases step with
  | pass t position next state wakes here ready performs =>
      rcases eq_or_ne u t with rfl | different
      · simp at isBlocked
      · simp only [Function.update_of_ne different] at isBlocked
        rcases wake_blocked isBlocked with ⟨wasBlocked, asleep⟩
        have before := noneMissed u place condition wasBlocked waits
        intro after
        have woken := signals position config.state next state wakes holds performs condition
          before after
        simp [waits, woken] at asleep
  | block t position other here otherWaits notYet =>
      rcases eq_or_ne u t with rfl | different
      · simp only [Function.update_self, Stand.blocked.injEq] at isBlocked
        rw [← isBlocked, otherWaits, Option.some.injEq] at waits
        rw [← waits]
        exact notYet
      · simp only [Function.update_of_ne different] at isBlocked
        exact noneMissed u place condition isBlocked waits
  | spurious t position here =>
      rcases eq_or_ne u t with rfl | different
      · simp at isBlocked
      · simp only [Function.update_of_ne different] at isBlocked
        exact noneMissed u place condition isBlocked waits

/-- An invariant of the sections is an invariant of the runs. -/
theorem inv_run {inv : σ → Prop}
    (keeps : ∀ position state next state' wakes, inv state →
      monitor.performs position state next state' wakes → inv state')
    (holds : inv config.state) (run : Run monitor config config') : inv config'.state := by
  induction run with
  | refl => exact holds
  | tail _ step ih =>
      cases step with
      | pass t position next state wakes here ready performs => exact keeps _ _ _ _ _ ih performs
      | block t position condition here waits notYet => exact ih
      | spurious t position here => exact ih

/-- No wake-up is lost. -/
theorem noneMissed_run {inv : σ → Prop}
    (keeps : ∀ position state next state' wakes, inv state →
      monitor.performs position state next state' wakes → inv state')
    (signals : ∀ position state next state' wakes, inv state →
      monitor.performs position state next state' wakes → ∀ condition,
        ¬ monitor.holds condition state → monitor.holds condition state' → wakes condition = true)
    (holds : inv config.state) (noneBlocked : ∀ t position, config.thread t ≠ .blocked position)
    (run : Run monitor config config') : NoneMissed monitor config' := by
  induction run with
  | refl => exact fun t position _ isBlocked => absurd isBlocked (noneBlocked t position)
  | tail before step ih => exact noneMissed_step signals (inv_run keeps holds before) ih step

end Steps

end Monitor
