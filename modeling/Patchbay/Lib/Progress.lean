import Mathlib.Order.Nat

/-!
# Progress

A machine whose every change lowers a rank, and that changes sooner or later as long as it
is not done, is done sooner or later.
-/

universe u

namespace Progress

variable {σ : Type u} {trace : Nat → σ} (rank : σ → Nat) (done : σ → Prop)

/-- A later state is the same or of lower rank. -/
theorem same_or_lower
    (changes : ∀ time, trace (time + 1) = trace time ∨
      rank (trace (time + 1)) < rank (trace time))
    {time later : Nat} (ordered : time ≤ later) :
    trace later = trace time ∨ rank (trace later) < rank (trace time) := by
  induction ordered with
  | refl => exact .inl rfl
  | @step later _ ih =>
      rcases changes later with same | lower
      · rw [Nat.succ_eq_add_one, same]
        exact ih
      · right
        rcases ih with unchanged | lowered
        · rw [← unchanged]
          exact lower
        · exact lower.trans lowered

/-- **Progress.** -/
theorem eventually
    (changes : ∀ time, trace (time + 1) = trace time ∨
      rank (trace (time + 1)) < rank (trace time))
    (attended : ∀ time, ¬ done (trace time) → ∃ later, time ≤ later ∧
      (trace later = trace time → rank (trace (later + 1)) < rank (trace later)))
    (time : Nat) : ∃ later, time ≤ later ∧ done (trace later) := by
  induction ranked : rank (trace time) using Nat.strongRecOn generalizing time with
  | ind bound ih =>
      by_cases finished : done (trace time)
      · exact ⟨time, le_rfl, finished⟩
      · rcases attended time finished with ⟨later, ordered, moves⟩
        rcases same_or_lower rank changes ordered with same | lower
        · have lowered := moves same
          rw [same, ranked] at lowered
          rcases ih _ lowered (later + 1) rfl with ⟨last, after, isDone⟩
          exact ⟨last, by omega, isDone⟩
        · rw [ranked] at lower
          rcases ih _ lower later rfl with ⟨last, after, isDone⟩
          exact ⟨last, ordered.trans after, isDone⟩

end Progress
