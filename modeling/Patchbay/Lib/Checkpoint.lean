import Mathlib.Data.List.Basic

/-!
# Checkpoints

A value is changed by events, saved from time to time and set back to what was saved
last.  Setting back undoes all events since then and no others.
-/

universe u v w

/-- The current value and the saved one. -/
structure Checkpoint (α : Type u) where
  current : α
  saved : α

namespace Checkpoint

variable {α : Type u} {β : Type v} {ε : Type w}

inductive Op (ε : Type w) where
  | act (event : ε)
  | save
  | restore
  deriving DecidableEq

def step (apply : α → ε → α) (checkpoint : Checkpoint α) : Op ε → Checkpoint α
  | .act event => { checkpoint with current := apply checkpoint.current event }
  | .save => { checkpoint with saved := checkpoint.current }
  | .restore => { checkpoint with current := checkpoint.saved }

def run (apply : α → ε → α) (checkpoint : Checkpoint α) (ops : List (Op ε)) :
    Checkpoint α :=
  ops.foldl (step apply) checkpoint

def map (f : α → β) (checkpoint : Checkpoint α) : Checkpoint β where
  current := f checkpoint.current
  saved := f checkpoint.saved

/-- The events whose effect is still there. -/
def survivors (ops : List (Op ε)) : Checkpoint (List ε) :=
  run (fun events event => events ++ [event]) ⟨[], []⟩ ops

theorem run_append (apply : α → ε → α) (checkpoint : Checkpoint α)
    (before after : List (Op ε)) :
    checkpoint.run apply (before ++ after) = (checkpoint.run apply before).run apply after :=
  List.foldl_append

/-- A map that commutes with events commutes with runs. -/
theorem run_map {applyLeft : α → ε → α} {applyRight : β → ε → β} {f : α → β}
    (commutes : ∀ value event, f (applyLeft value event) = applyRight (f value) event)
    (checkpoint : Checkpoint α) (ops : List (Op ε)) :
    (checkpoint.run applyLeft ops).map f = (checkpoint.map f).run applyRight ops := by
  induction ops generalizing checkpoint with
  | nil => rfl
  | cons op ops ih =>
      have stepped : (checkpoint.step applyLeft op).map f =
          (checkpoint.map f).step applyRight op := by
        cases op with
        | act event => simp [step, map, commutes]
        | save => rfl
        | restore => rfl
      rw [run, run, List.foldl_cons, List.foldl_cons, ← stepped]
      exact ih _

/-- A run applies the surviving events. -/
theorem run_survivors (apply : α → ε → α) (initial : α) (ops : List (Op ε)) :
    run apply ⟨initial, initial⟩ ops =
      (survivors ops).map fun events => events.foldl apply initial := by
  have commutes : ∀ (events : List ε) (event : ε),
      (events ++ [event]).foldl apply initial = apply (events.foldl apply initial) event := by
    intro events event
    rw [List.foldl_append]
    rfl
  rw [survivors, run_map commutes]
  rfl

/-- Without a save, the saved value stays. -/
theorem saved_run_of_notMem (apply : α → ε → α) (checkpoint : Checkpoint α)
    {ops : List (Op ε)} (noSave : .save ∉ ops) :
    (checkpoint.run apply ops).saved = checkpoint.saved := by
  induction ops generalizing checkpoint with
  | nil => rfl
  | cons op ops ih =>
      simp only [List.mem_cons, not_or] at noSave
      rw [run, List.foldl_cons, ← run, ih _ noSave.2]
      cases op with
      | act event => rfl
      | save => exact (noSave.1 rfl).elim
      | restore => rfl

/-- The saved value is the current one of the last save. -/
theorem saved_run_last_save (apply : α → ε → α) (checkpoint : Checkpoint α)
    (before : List (Op ε)) {between : List (Op ε)} (noSave : .save ∉ between) :
    (checkpoint.run apply (before ++ .save :: between)).saved =
      (checkpoint.run apply before).current := by
  rw [run_append, run, List.foldl_cons, ← run, saved_run_of_notMem apply _ noSave]
  rfl

end Checkpoint
