import Mathlib.Data.List.Basic
import Mathlib.Order.Defs.Unbundled

/-!
# Unwinding

Two runs of one machine that show an observer the same visible events leave it in
states the observer cannot tell apart, provided that each event keeps to two local
conditions.
-/

universe u v

variable {σ : Type u} {ε : Type v}

/-- Invisible events change nothing the observer sees, and a visible event takes
states that look alike to states that look alike. -/
structure Unwinding (step : σ → ε → σ) (visible : ε → Bool) (looksLike : σ → σ → Prop) :
    Prop where
  equivalence : Equivalence looksLike
  invisible : ∀ state event, visible event = false → looksLike (step state event) state
  consistent : ∀ left right event, visible event = true → looksLike left right →
    looksLike (step left event) (step right event)

namespace Unwinding

variable {step : σ → ε → σ} {visible : ε → Bool} {looksLike : σ → σ → Prop}

/-- A run looks like the run of its visible events. -/
theorem purge (unwinding : Unwinding step visible looksLike) {left right : σ}
    (alike : looksLike left right) (events : List ε) :
    looksLike (events.foldl step left) ((events.filter visible).foldl step right) := by
  induction events generalizing left right with
  | nil => exact alike
  | cons event events ih =>
      rw [List.foldl_cons]
      cases shown : visible event with
      | true =>
          rw [List.filter_cons_of_pos shown, List.foldl_cons]
          exact ih (unwinding.consistent left right event shown alike)
      | false =>
          rw [List.filter_cons_of_neg (by simp [shown])]
          apply ih
          exact unwinding.equivalence.trans (unwinding.invisible left event shown) alike

/-- Runs with the same visible events look alike. -/
theorem runs (unwinding : Unwinding step visible looksLike) {left right : σ}
    (alike : looksLike left right) {leftEvents rightEvents : List ε}
    (sameVisible : leftEvents.filter visible = rightEvents.filter visible) :
    looksLike (leftEvents.foldl step left) (rightEvents.foldl step right) := by
  have leftPurged := unwinding.purge alike leftEvents
  have rightPurged := unwinding.purge (unwinding.equivalence.refl right) rightEvents
  rw [sameVisible] at leftPurged
  exact unwinding.equivalence.trans leftPurged (unwinding.equivalence.symm rightPurged)

end Unwinding
