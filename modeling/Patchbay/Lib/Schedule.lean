import Mathlib.Data.List.Basic

/-!
# Schedules

A machine whose steps may be impossible, run along a schedule.  The run exists only when
each of its steps does.
-/

universe u v w

namespace Schedule

variable {σ : Type u} {τ : Type w} {ε : Type v} {step : σ → ε → Option σ} {state after : σ}

theorem run_cons {event : ε} {events : List ε} :
    (event :: events).foldlM step state = some after ↔
      ∃ middle, step state event = some middle ∧
        events.foldlM step middle = some after := by
  rw [List.foldlM_cons]
  exact Option.bind_eq_some_iff

theorem run_append {before later : List ε} :
    (before ++ later).foldlM step state = some after ↔
      ∃ middle, before.foldlM step state = some middle ∧
        later.foldlM step middle = some after := by
  rw [List.foldlM_append]
  exact Option.bind_eq_some_iff

/-- What each step keeps holds at the end of a run. -/
theorem invariant (holds : σ → Prop)
    (kept : ∀ {state event after}, holds state → step state event = some after → holds after)
    (initially : holds state) (events : List ε)
    (ran : events.foldlM step state = some after) : holds after := by
  induction events generalizing state with
  | nil =>
      cases ran
      exact initially
  | cons event events ih =>
      rcases run_cons.mp ran with ⟨middle, stepped, rest⟩
      exact ih (kept initially stepped) rest

/-- When another machine can follow each step, it can follow a run. -/
theorem simulation {otherStep : τ → ε → Option τ} {follows : τ → σ → Prop}
    {events : List ε}
    (followed : ∀ event ∈ events, ∀ {other state after}, follows other state →
      step state event = some after →
        ∃ next, otherStep other event = some next ∧ follows next after)
    {other : τ} (initially : follows other state)
    (ran : events.foldlM step state = some after) :
    ∃ ending, events.foldlM otherStep other = some ending ∧ follows ending after := by
  induction events generalizing state other with
  | nil =>
      cases ran
      exact ⟨other, rfl, initially⟩
  | cons event events ih =>
      rcases run_cons.mp ran with ⟨middle, stepped, rest⟩
      rcases followed event List.mem_cons_self initially stepped with ⟨next, turn, follow⟩
      have later := fun event membership => @followed event (List.mem_cons_of_mem _ membership)
      rcases ih later follow rest with ⟨ending, ran, final⟩
      exact ⟨ending, run_cons.mpr ⟨next, turn, ran⟩, final⟩

end Schedule
