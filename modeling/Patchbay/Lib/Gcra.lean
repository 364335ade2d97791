import Mathlib.Algebra.Order.Field.Basic
import Mathlib.Tactic.Linarith
import Mathlib.Tactic.Ring

/-!
# The generic cell rate algorithm

A limiter remembers the time at which the next cell is due.  A cell may come early by as
much as the burst allows, and each one moves the due time on by a period.
-/

universe u

/-- How many cells may come at once, and the time in which one is replenished. -/
structure Gcra (𝕜 : Type u) where
  burst : Nat
  period : 𝕜

namespace Gcra

variable {𝕜 : Type u} [Field 𝕜] [LinearOrder 𝕜] (gcra : Gcra 𝕜)

/-- Admit a cell, if it conforms, and return the next due time.  Before the first cell
none is due. -/
def conform (due : Option 𝕜) (now : 𝕜) : Option 𝕜 :=
  if due.getD now ≤ now + (gcra.burst - 1) * gcra.period then
    some (max (due.getD now) now + gcra.period)
  else none

/-- The times at which cells are admitted. -/
def admitted (due : Option 𝕜) : List 𝕜 → List 𝕜
  | [] => []
  | now :: times =>
      match gcra.conform due now with
      | some next => now :: admitted (some next) times
      | none => admitted due times

variable {gcra} [IsStrictOrderedRing 𝕜]

theorem conform_spec {due : Option 𝕜} {now next : 𝕜}
    (conforms : gcra.conform due now = some next) :
    due.getD now ≤ now + (gcra.burst - 1) * gcra.period ∧
      due.getD now + gcra.period ≤ next ∧ now + gcra.period ≤ next := by
  rw [conform] at conforms
  split at conforms
  · next early =>
      cases conforms
      exact ⟨early, add_le_add_left (le_max_left _ _) _, add_le_add_left (le_max_right _ _) _⟩
  · cases conforms

/-- From a due time on, each cell that is admitted before `upper` uses up one period. -/
theorem admitted_before (replenished : 0 < gcra.period) {due upper : 𝕜} {times : List 𝕜}
    {more : Nat}
    (counted : (gcra.admitted (some due) times).countP (· < upper) = more + 1) :
    due + (more + 1) * gcra.period < upper + gcra.burst * gcra.period := by
  induction times generalizing due more with
  | nil => cases counted
  | cons now times ih =>
      rw [admitted] at counted
      cases conforms : gcra.conform (some due) now with
      | none =>
          rw [conforms] at counted
          exact ih counted
      | some next =>
          rcases conform_spec conforms with ⟨early, later, -⟩
          rw [Option.getD_some] at early later
          rw [conforms] at counted
          by_cases before : now < upper
          · rw [List.countP_cons_of_pos (by simpa using before), Nat.add_right_cancel_iff]
              at counted
            cases more with
            | zero =>
                simp only [Nat.cast_zero, zero_add, one_mul]
                linarith
            | succ more =>
                have rest := ih counted
                push_cast
                linarith
          · rw [List.countP_cons_of_neg (by simpa using before)] at counted
            have rest := ih counted
            linarith

/-- **Any window.** In a window of any length fewer cells are admitted than the burst and
what is replenished in the window. -/
theorem admitted_window (replenished : 0 < gcra.period) (bursts : 0 < gcra.burst)
    {window : 𝕜} (long : 0 < window) (due : Option 𝕜) (start : 𝕜) (times : List 𝕜) :
    ((gcra.admitted due times).countP fun time => start ≤ time ∧ time < start + window) *
      gcra.period < window + gcra.burst * gcra.period := by
  have nonempty : 1 * gcra.period ≤ gcra.burst * gcra.period := by
    apply mul_le_mul_of_nonneg_right _ replenished.le
    exact_mod_cast bursts
  induction times generalizing due with
  | nil =>
      simp only [admitted, List.countP_nil, Nat.cast_zero, zero_mul]
      linarith
  | cons now times ih =>
      rw [admitted]
      cases conforms : gcra.conform due now with
      | none => exact ih due
      | some next =>
          by_cases inside : start ≤ now ∧ now < start + window
          · rw [List.countP_cons_of_pos (by simpa using inside)]
            rcases conform_spec conforms with ⟨-, -, later⟩
            have fewer : (gcra.admitted (some next) times).countP
                (fun time => start ≤ time ∧ time < start + window) ≤
                  (gcra.admitted (some next) times).countP (· < start + window) := by
              apply List.countP_mono_left
              intro time _ within
              simp only [decide_eq_true_eq] at within ⊢
              exact within.2
            cases counted : (gcra.admitted (some next) times).countP
              (· < start + window) with
            | zero =>
                rw [counted, Nat.le_zero] at fewer
                rw [fewer]
                simp only [Nat.cast_one, zero_add]
                linarith
            | succ more =>
                have used := admitted_before replenished counted
                rw [counted] at fewer
                have fewerCast : (((gcra.admitted (some next) times).countP
                    (fun time => start ≤ time ∧ time < start + window) : Nat) : 𝕜) *
                      gcra.period ≤ (more + 1) * gcra.period := by
                  apply mul_le_mul_of_nonneg_right _ replenished.le
                  exact_mod_cast fewer
                rw [Nat.cast_add, Nat.cast_one, add_mul]
                linarith [inside.1]
          · rw [List.countP_cons_of_neg (by simpa using inside)]
            exact ih (some next)

/-! ## A burst -/

theorem conform_none (bursts : 0 < gcra.burst) (replenished : 0 < gcra.period) (now : 𝕜) :
    gcra.conform none now = some (now + gcra.period) := by
  have room : (1 : 𝕜) ≤ gcra.burst := by exact_mod_cast bursts
  have early : now ≤ now + (gcra.burst - 1) * gcra.period := by
    have allowance := mul_nonneg (sub_nonneg.mpr room) replenished.le
    linarith
  rw [conform, Option.getD_none, if_pos early, max_self]

/-- Cells that come at once are admitted until the burst is spent. -/
theorem admitted_burst (replenished : 0 < gcra.period) (now : 𝕜) (rest : List 𝕜)
    {spent cells : Nat} (room : spent + cells ≤ gcra.burst) :
    gcra.admitted (some (now + spent * gcra.period)) (List.replicate cells now ++ rest) =
      List.replicate cells now ++
        gcra.admitted (some (now + (spent + cells : Nat) * gcra.period)) rest := by
  induction cells generalizing spent with
  | zero => rfl
  | succ cells ih =>
      have conforms : gcra.conform (some (now + spent * gcra.period)) now =
          some (now + (spent + 1 : Nat) * gcra.period) := by
        have spentRoom : (spent : 𝕜) + 1 ≤ gcra.burst := by
          have roomForOne : spent + 1 ≤ gcra.burst := by omega
          exact_mod_cast roomForOne
        have early : now + spent * gcra.period ≤ now + (gcra.burst - 1) * gcra.period := by
          have fewer := mul_le_mul_of_nonneg_right spentRoom replenished.le
          linarith
        have due : now ≤ now + spent * gcra.period := by
          have nonneg := mul_nonneg (Nat.cast_nonneg spent) replenished.le
          linarith
        rw [conform, Option.getD_some, if_pos early, max_eq_left due, Nat.cast_add,
          Nat.cast_one, add_mul, one_mul, add_assoc]
      rw [List.replicate_succ, List.cons_append, admitted, conforms]
      have roomForRest : spent + 1 + cells ≤ gcra.burst := by omega
      have tail := ih roomForRest
      rw [Nat.add_right_comm] at tail
      exact congrArg (List.cons now) tail

/-- A fresh limiter admits a whole burst at once. -/
theorem admitted_fresh_burst (bursts : 0 < gcra.burst) (replenished : 0 < gcra.period)
    (now : 𝕜) (rest : List 𝕜) :
    gcra.admitted none (List.replicate gcra.burst now ++ rest) =
      List.replicate gcra.burst now ++
        gcra.admitted (some (now + gcra.burst * gcra.period)) rest := by
  rcases Nat.exists_eq_add_one_of_ne_zero bursts.ne' with ⟨cells, size⟩
  have room : 1 + cells ≤ gcra.burst := by omega
  have tail := admitted_burst replenished now rest room
  rw [Nat.cast_one, one_mul, Nat.add_comm, ← size] at tail
  rw [size, List.replicate_succ, List.cons_append, admitted, conform_none bursts replenished]
  rw [← size]
  exact congrArg (List.cons now) tail

end Gcra
