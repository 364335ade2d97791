import Mathlib.Data.List.Basic

/-!
# Parts of a machine

A machine that answers each of its events, seen through one of its parts.  When some
events run a smaller machine on that part, and the others leave it alone, a run answers
those events as the smaller machine by itself does.
-/

universe u v w x

variable {σ : Type u} {τ : Type v} {ε : Type w} {ω : Type x}

/-- The events of a run, each with its answer. -/
def answers (step : σ → ε → ω × σ) : σ → List ε → List (ε × ω)
  | _, [] => []
  | state, event :: events =>
      (event, (step state event).1) :: answers step (step state event).2 events

/-- The events `owned` run the machine `alone` on a part of the state. -/
structure Projection (step : σ → ε → ω × σ) (owned : ε → Bool) (part : σ → τ)
    (alone : τ → ε → ω × τ) : Prop where
  foreign : ∀ state event, owned event = false → part (step state event).2 = part state
  answer : ∀ state event, owned event = true →
    (step state event).1 = (alone (part state) event).1
  next : ∀ state event, owned event = true →
    part (step state event).2 = (alone (part state) event).2

namespace Projection

variable {step : σ → ε → ω × σ} {owned : ε → Bool} {part : σ → τ} {alone : τ → ε → ω × τ}

/-- The owned events of a run are answered as by the smaller machine. -/
theorem answers_filter (projection : Projection step owned part alone) (state : σ)
    (events : List ε) :
    (answers step state events).filter (fun answered => owned answered.1) =
      answers alone (part state) (events.filter owned) := by
  induction events generalizing state with
  | nil => rfl
  | cons event events ih =>
      rw [answers]
      cases mine : owned event with
      | true =>
          simp only [List.filter_cons, mine, if_true]
          rw [ih, answers, projection.answer state event mine, projection.next state event mine]
      | false =>
          simp only [List.filter_cons, mine, Bool.false_eq_true, if_false]
          rw [ih, projection.foreign state event mine]

/-- Runs with the same owned events answer them alike. -/
theorem answers_congr (projection : Projection step owned part alone) {left right : σ}
    (samePart : part left = part right) {leftEvents rightEvents : List ε}
    (sameEvents : leftEvents.filter owned = rightEvents.filter owned) :
    (answers step left leftEvents).filter (fun answered => owned answered.1) =
      (answers step right rightEvents).filter (fun answered => owned answered.1) := by
  rw [projection.answers_filter, projection.answers_filter, samePart, sameEvents]

end Projection
