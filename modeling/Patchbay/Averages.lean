import Patchbay.Lib.MovingAverage
import Patchbay.Probing

/-!
# The value of a moving average

Interleaved with the observations of other backends, a backend's average is a convex
combination of its own samples, in which later samples weigh more and the first one stands
in for all that came before it.
-/

namespace Patchbay

namespace EwmaLatency

theorem asSecs_nonneg (latency : Duration) : 0 ≤ latency.asSecs := by
  rw [Duration.asSecs]
  positivity

theorem samplesOf_nonneg {history : List (String × Duration)} {backend : String} :
    ∀ sample ∈ samplesOf history backend, 0 ≤ sample := by
  intro sample membership
  rcases List.mem_map.mp membership with ⟨observation, -, rfl⟩
  exact mul_nonneg (asSecs_nonneg observation.2) (by norm_num)

theorem samplesOf_eq_nil_iff {history : List (String × Duration)} {backend : String} :
    samplesOf history backend = [] ↔
      ∀ observation ∈ history, observation.1 ≠ backend := by
  simp [samplesOf]

/-- After the first sample, each one is blended in. -/
theorem movingAverage_cons (alpha first : ℚ) (samples : List ℚ) :
    movingAverage alpha (first :: samples) =
      some (samples.foldl (MovingAverage.blend alpha) first) := by
  induction samples using List.reverseRecOn with
  | nil => rfl
  | append_singleton samples last ih =>
      rw [movingAverage] at ih ⊢
      rw [← List.cons_append, List.foldl_append, ih, List.foldl_append]
      rfl

/-- The average is the sum of the samples with the weights of a convex combination, and no
sample bound excludes it. -/
structure ConvexAverage (alpha : ℚ) (samples : List ℚ) (average : ℚ) : Prop where
  value : average = ∑ position ∈ Finset.Icc 1 samples.length,
    MovingAverage.weight alpha samples.length position * samples.getD (position - 1) 0
  weights : ∀ position, 0 ≤ MovingAverage.weight alpha samples.length position
  total : ∑ position ∈ Finset.Icc 1 samples.length,
    MovingAverage.weight alpha samples.length position = 1
  lower : ∀ low, (∀ sample ∈ samples, low ≤ sample) → low ≤ average
  upper : ∀ high, (∀ sample ∈ samples, sample ≤ high) → average ≤ high

theorem convexAverage_foldl {alpha : ℚ} (inRange : 0 < alpha ∧ alpha ≤ 1) (first : ℚ)
    (samples : List ℚ) :
    ConvexAverage alpha (first :: samples)
      (samples.foldl (MovingAverage.blend alpha) first) where
  value := MovingAverage.foldl_blend alpha first samples
  weights position := MovingAverage.weight_nonneg inRange.1.le inRange.2 _ position
  total := MovingAverage.sum_weight alpha (Nat.succ_ne_zero _)
  lower low bound := MovingAverage.foldl_blend_mem inRange.1.le inRange.2 (convex_Ici low) bound
  upper high bound := MovingAverage.foldl_blend_mem inRange.1.le inRange.2 (convex_Iic high) bound

/-- **Moving averages.**  After any sequence of observations, a backend has an average if it
was observed, and this is a convex combination of its own samples, never negative. -/
theorem latencyMs_convex {alpha : ℚ} {ewma : EwmaLatency}
    (created : EwmaLatency.new alpha = some ewma) (history : List (String × Duration))
    (backend : String) :
    ((ewma.observeAll history).latencyMs backend = none ↔
        ∀ observation ∈ history, observation.1 ≠ backend) ∧
      ∀ average, (ewma.observeAll history).latencyMs backend = some average →
        ConvexAverage alpha (samplesOf history backend) average ∧ 0 ≤ average := by
  have inRange : 0 < alpha ∧ alpha ≤ 1 := by
    rw [EwmaLatency.new, Option.ite_none_right_eq_some] at created
    exact created.1
  have nonneg : ∀ sample ∈ samplesOf history backend, 0 ≤ sample := samplesOf_nonneg
  rw [latencyMs_observeAll created, ← samplesOf_eq_nil_iff]
  cases own : samplesOf history backend with
  | nil =>
      constructor
      · exact iff_of_true rfl rfl
      · intro average absent
        cases absent
  | cons first rest =>
      rw [movingAverage_cons]
      constructor
      · exact iff_of_false (Option.some_ne_none _) (List.cons_ne_nil _ _)
      · intro average found
        cases found
        have convex := convexAverage_foldl inRange first rest
        rw [own] at nonneg
        exact ⟨convex, convex.lower 0 nonneg⟩

/-- A backend is observed twice, with another one between. -/
def twice : List (String × Duration) :=
  [("cloud", (Sample.taking 2).latency), ("local", (Sample.taking 9).latency),
    ("cloud", (Sample.taking 1).latency)]

theorem latencyMs_convex_twice :
    ∃ average, (observeAll ⟨1 / 2, ∅⟩ twice).latencyMs "cloud" = some average ∧
      ConvexAverage (1 / 2) [2000, 1000] average ∧ 0 ≤ average := by
  have created : EwmaLatency.new (1 / 2) = some ⟨1 / 2, ∅⟩ := if_pos (by norm_num)
  have convex := latencyMs_convex created twice "cloud"
  have observed : (observeAll ⟨1 / 2, ∅⟩ twice).latencyMs "cloud" ≠ none := by
    intro absent
    exact convex.1.mp absent _ List.mem_cons_self rfl
  rcases Option.ne_none_iff_exists'.mp observed with ⟨average, found⟩
  have samples : samplesOf twice "cloud" = [2000, 1000] := by
    change [_, _] = _
    norm_num [Sample.taking, Duration.asSecs, show UInt64.toNat 2 = 2 from rfl,
      show UInt64.toNat 1 = 1 from rfl]
  rw [samples] at convex
  exact ⟨average, found, convex.2 average found⟩

end EwmaLatency

end Patchbay
