import Mathlib.Algebra.BigOperators.Intervals
import Mathlib.Analysis.Convex.Combination
import Mathlib.Data.List.GetD
import Mathlib.Tactic.Ring

/-!
# Exponentially weighted moving averages

Each sample is blended into the average of those before it.  The result is a sum of the
samples with weights that only depend on their positions, and the weights are those of a
convex combination.
-/

namespace MovingAverage

universe u

variable {𝕜 : Type u} [Field 𝕜] (alpha : 𝕜)

def blend (average sample : 𝕜) : 𝕜 := alpha * sample + (1 - alpha) * average

/-- The weight of the sample at a position among so many, positions counted from one. -/
def weight (count : Nat) : Nat → 𝕜
  | 1 => (1 - alpha) ^ (count - 1)
  | position => alpha * (1 - alpha) ^ (count - position)

theorem weight_succ {count position : Nat} (early : position ∈ Finset.Icc 1 count) :
    weight alpha (count + 1) position = (1 - alpha) * weight alpha count position := by
  rw [Finset.mem_Icc] at early
  by_cases first : position = 1
  · subst first
    rw [weight, weight, ← pow_succ']
    congr 1
    omega
  · rw [weight, weight, Nat.succ_sub early.2, pow_succ']
    · ring
    · exact first
    · exact first

theorem weight_last {count : Nat} (some : count ≠ 0) :
    weight alpha (count + 1) (count + 1) = alpha := by
  rw [weight, Nat.sub_self, pow_zero, mul_one]
  omega

/-- One more value takes its share from all the others. -/
theorem sum_weight_succ {count : Nat} (some : count ≠ 0) (values : Nat → 𝕜) :
    ∑ position ∈ Finset.Icc 1 (count + 1), weight alpha (count + 1) position * values position =
      blend alpha (∑ position ∈ Finset.Icc 1 count, weight alpha count position * values position)
        (values (count + 1)) := by
  have earlier : ∀ position ∈ Finset.Icc 1 count,
      weight alpha (count + 1) position * values position =
        (1 - alpha) * (weight alpha count position * values position) := by
    intro position early
    rw [weight_succ alpha early, mul_assoc]
  rw [Finset.sum_Icc_succ_top (by omega), Finset.sum_congr rfl earlier, ← Finset.mul_sum,
    weight_last alpha some, blend, add_comm]

theorem sum_weight {count : Nat} (some : count ≠ 0) :
    ∑ position ∈ Finset.Icc 1 count, weight alpha count position = 1 := by
  induction count with
  | zero => exact absurd rfl some
  | succ count ih =>
      cases count with
      | zero => simp [weight]
      | succ count =>
          have blended := sum_weight_succ alpha (Nat.succ_ne_zero count) fun _ => 1
          simp only [mul_one] at blended
          rw [blended, ih (Nat.succ_ne_zero count), blend]
          ring

/-- The closed form of the blended average. -/
theorem foldl_blend (first : 𝕜) (samples : List 𝕜) :
    samples.foldl (blend alpha) first =
      ∑ position ∈ Finset.Icc 1 (samples.length + 1),
        weight alpha (samples.length + 1) position * (first :: samples).getD (position - 1) 0 := by
  induction samples using List.reverseRecOn with
  | nil => simp [weight]
  | append_singleton samples last ih =>
      have earlier : ∀ position ∈ Finset.Icc 1 (samples.length + 1),
          weight alpha (samples.length + 1) position *
              (first :: (samples ++ [last])).getD (position - 1) 0 =
            weight alpha (samples.length + 1) position *
              (first :: samples).getD (position - 1) 0 := by
        intro position early
        rw [Finset.mem_Icc] at early
        rw [← List.cons_append, List.getD_append]
        rw [List.length_cons]
        omega
      have atEnd : (first :: (samples ++ [last])).getD (samples.length + 1 + 1 - 1) 0 = last := by
        simp
      rw [List.foldl_append, List.foldl_cons, List.foldl_nil, ih, List.length_append,
        List.length_singleton, sum_weight_succ alpha (Nat.succ_ne_zero _), atEnd,
        Finset.sum_congr rfl earlier]

section

variable [LinearOrder 𝕜] [IsStrictOrderedRing 𝕜] {alpha}

theorem weight_nonneg (notNegative : 0 ≤ alpha) (atMostOne : alpha ≤ 1) (count position : Nat) :
    0 ≤ weight alpha count position := by
  have rest : 0 ≤ 1 - alpha := sub_nonneg.mpr atMostOne
  by_cases first : position = 1
  · subst first
    exact pow_nonneg rest _
  · rw [weight]
    · exact mul_nonneg notNegative (pow_nonneg rest _)
    · exact first

/-- The average lies in every convex set that the samples lie in. -/
theorem foldl_blend_mem (notNegative : 0 ≤ alpha) (atMostOne : alpha ≤ 1) {first : 𝕜}
    {samples : List 𝕜} {range : Set 𝕜} (convex : Convex 𝕜 range)
    (inRange : ∀ sample ∈ first :: samples, sample ∈ range) :
    samples.foldl (blend alpha) first ∈ range := by
  rw [foldl_blend]
  apply convex.sum_mem
  · exact fun position _ => weight_nonneg notNegative atMostOne _ position
  · exact sum_weight alpha (Nat.succ_ne_zero _)
  · intro position within
    rw [Finset.mem_Icc] at within
    have inBounds : position - 1 < (first :: samples).length := by
      rw [List.length_cons]
      omega
    apply inRange
    rw [List.getD_eq_getElem _ _ inBounds]
    exact List.getElem_mem inBounds

end

end MovingAverage
