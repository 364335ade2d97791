import Patchbay.Lib.Projection
import Patchbay.Lib.Shadow

/-!
# Delegation

A machine keeps a part of its state in a second one and touches it by calls only.  The
calls of a run make up a log.  What has become of the part can be read off the log alone,
and so can whatever the first machine shows of the answers.
-/

universe u v w x y z

variable {σ : Type u} {τ : Type v} {ε : Type w} {κ : Type x} {ω : Type y} {α : Type z}

/-- The state after some calls. -/
def calling (call : τ → κ → ω × τ) (state : τ) (calls : List κ) : τ :=
  calls.foldl (fun state next => (call state next).2) state

theorem calling_append (call : τ → κ → ω × τ) (state : τ) (before after : List κ) :
    calling call state (before ++ after) = calling call (calling call state before) after :=
  List.foldl_append

theorem answers_append (call : τ → κ → ω × τ) (state : τ) (before after : List κ) :
    answers call state (before ++ after) =
      answers call state before ++ answers call (calling call state before) after := by
  induction before generalizing state with
  | nil => rfl
  | cons next before ih =>
      rw [List.cons_append, answers, answers, ih, List.cons_append]
      rfl

/-- The calls that a run makes. -/
def callLog (step : σ → ε → σ) (calls : σ → ε → List κ) : σ → List ε → List κ
  | _, [] => []
  | state, event :: events => calls state event ++ callLog step calls (step state event) events

/-- What holds of the calls of any step holds of a log. -/
theorem forall_callLog {step : σ → ε → σ} {calls : σ → ε → List κ} {P : κ → Prop}
    (each : ∀ state event, ∀ made ∈ calls state event, P made) (state : σ) (events : List ε) :
    ∀ made ∈ callLog step calls state events, P made := by
  induction events generalizing state with
  | nil =>
      intro made membership
      cases membership
  | cons event events ih =>
      intro made membership
      rcases List.mem_append.mp membership with now | later
      · exact each state event made now
      · exact ih (step state event) made later

/-- What a machine does to a part of its state, it does by calls. -/
structure Delegates (step : σ → ε → σ) (sound : σ → Prop) (part : σ → τ)
    (call : τ → κ → ω × τ) (calls : σ → ε → List κ) : Prop where
  keeps : ∀ {state}, sound state → ∀ event, sound (step state event)
  calls : ∀ {state}, sound state → ∀ event,
    part (step state event) = calling call (part state) (calls state event)

namespace Delegates

variable {step : σ → ε → σ} {sound : σ → Prop} {part : σ → τ} {call : τ → κ → ω × τ}
  {calls : σ → ε → List κ}

/-- The log decides what becomes of the part. -/
theorem run (delegates : Delegates step sound part call calls) {state : σ}
    (start : sound state) (events : List ε) :
    part (events.foldl step state) =
      calling call (part state) (callLog step calls state events) := by
  induction events generalizing state with
  | nil => rfl
  | cons event events ih =>
      rw [List.foldl_cons, ih (delegates.keeps start event), delegates.calls start event,
        callLog, calling_append]

/-- What a machine shows of the answers step by step, it shows of the log. -/
theorem shows (delegates : Delegates step sound part call calls) (shown : σ → List α)
    (reading : κ × ω → Option α)
    (shows : ∀ {state}, sound state → ∀ event, shown (step state event) =
      shown state ++ (answers call (part state) (calls state event)).filterMap reading)
    {state : σ} (start : sound state) (events : List ε) :
    shown (events.foldl step state) = shown state ++
      (answers call (part state) (callLog step calls state events)).filterMap reading := by
  induction events generalizing state with
  | nil => simp [callLog, answers]
  | cons event events ih =>
      rw [List.foldl_cons, ih (delegates.keeps start event), shows start event,
        delegates.calls start event, callLog, answers_append, List.filterMap_append,
        List.append_assoc]

/-- What is seen of the steps of a run, if they show the answers, is seen of the log. -/
theorem sights_eq (delegates : Delegates step sound part call calls)
    (view : σ → ε → Option α) (reading : κ × ω → Option α)
    (shows : ∀ {state}, sound state → ∀ event, (view state event).toList =
      (answers call (part state) (calls state event)).filterMap reading)
    {state : σ} (start : sound state) (events : List ε) :
    sights step view state events =
      (answers call (part state) (callLog step calls state events)).filterMap reading := by
  induction events generalizing state with
  | nil => simp [callLog, answers, sights]
  | cons event events ih =>
      rw [sights, ih (delegates.keeps start event), shows start event,
        delegates.calls start event, callLog, answers_append, List.filterMap_append]

end Delegates
