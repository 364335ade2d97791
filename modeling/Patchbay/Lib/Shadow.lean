import Mathlib.Data.List.Basic

/-!
# Shadows

An observer of a machine sees some of its events, in its own terms, and sees them depending
on the state they happen in.  When a second machine follows the first by taking a step for
each event that is seen, and stands still for the others, it follows every run.
-/

universe u v w x

variable {σ : Type u} {τ : Type v} {ε : Type w} {ω : Type x}

/-- What is seen of a run. -/
def sights (step : σ → ε → σ) (view : σ → ε → Option ω) : σ → List ε → List ω
  | _, [] => []
  | state, event :: events =>
      (view state event).toList ++ sights step view (step state event) events

/-- One more event adds what is seen of it. -/
theorem sights_concat (step : σ → ε → σ) (view : σ → ε → Option ω) (state : σ)
    (events : List ε) (event : ε) :
    sights step view state (events ++ [event]) =
      sights step view state events ++ (view (events.foldl step state) event).toList := by
  induction events generalizing state with
  | nil => simp [sights]
  | cons first events ih =>
      rw [List.cons_append, sights, sights, ih, List.foldl_cons, List.append_assoc]

/-- The second machine follows the first with the events that are seen. -/
structure Shadow (step : σ → ε → σ) (view : σ → ε → Option ω) (alone : τ → ω → τ)
    (follows : σ → τ → Prop) : Prop where
  hidden : ∀ {state shadow event}, follows state shadow → view state event = none →
    follows (step state event) shadow
  seen : ∀ {state shadow event sight}, follows state shadow → view state event = some sight →
    follows (step state event) (alone shadow sight)

namespace Shadow

variable {step : σ → ε → σ} {view : σ → ε → Option ω} {alone : τ → ω → τ}
  {follows : σ → τ → Prop}

/-- A run is followed by the run of what is seen of it. -/
theorem run (shadow : Shadow step view alone follows) {state : σ} {other : τ}
    (start : follows state other) (events : List ε) :
    follows (events.foldl step state) ((sights step view state events).foldl alone other) := by
  induction events generalizing state other with
  | nil => exact start
  | cons event events ih =>
      rw [List.foldl_cons, sights, List.foldl_append]
      cases visible : view state event with
      | none => exact ih (shadow.hidden start visible)
      | some sight => exact ih (shadow.seen start visible)

end Shadow
