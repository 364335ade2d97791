import Mathlib.Data.Rat.Defs
import Mathlib.Algebra.Order.Ring.Rat
import Patchbay.Budget
import Patchbay.Router

/-!
# The moving-average policy

Picks the candidate with the lowest exponentially weighted moving average of its
latencies.  A candidate without a sample scores zero, and ties go to the earlier
one.  Floating-point numbers are read as the rationals they stand for.
-/

namespace Patchbay

namespace Duration

/-- `as_secs_f64` -/
def asSecs (duration : Duration) : ℚ :=
  (duration.secs.toNat : ℚ) + (duration.nanos.val : ℚ) / 1000000000

end Duration

structure EwmaLatency where
  alpha : ℚ
  /-- Backend name to moving average in milliseconds. -/
  stats : Table String ℚ

namespace EwmaLatency

/-- `none` where the source panics. -/
def new (alpha : ℚ) : Option EwmaLatency :=
  if 0 < alpha ∧ alpha ≤ 1 then some { alpha, stats := ∅ } else none

/-- Record an observed request latency. -/
def observe (ewma : EwmaLatency) (backend : String) (latency : Duration) : EwmaLatency :=
  let sample := latency.asSecs * 1000
  let average :=
    match ewma.stats.lookup backend with
    | some average => ewma.alpha * sample + (1 - ewma.alpha) * average
    | none => sample
  { ewma with stats := ewma.stats.insert backend average }

def latencyMs (ewma : EwmaLatency) (backend : String) : Option ℚ :=
  ewma.stats.lookup backend

/-- What `choose` compares. -/
def score (ewma : EwmaLatency) (backend : Backend) : ℚ :=
  (ewma.latencyMs backend.name).getD 0

/-- The index of the first lowest score. -/
def choose (ewma : EwmaLatency) (candidates : List Backend) : Option Nat :=
  ((candidates.map ewma.score).zipIdx.argmin Prod.fst).map Prod.snd

/-- Record one observation after the other. -/
def observeAll (ewma : EwmaLatency) (history : List (String × Duration)) : EwmaLatency :=
  history.foldl (fun ewma observation => ewma.observe observation.1 observation.2) ewma

@[simp] theorem observe_alpha (ewma : EwmaLatency) (backend : String)
    (latency : Duration) : (ewma.observe backend latency).alpha = ewma.alpha := rfl

theorem latencyMs_observe (ewma : EwmaLatency) (backend other : String)
    (latency : Duration) :
    (ewma.observe backend latency).latencyMs other =
      if other = backend then
        some (match ewma.latencyMs backend with
          | some average => ewma.alpha * (latency.asSecs * 1000) + (1 - ewma.alpha) * average
          | none => latency.asSecs * 1000)
      else ewma.latencyMs other := by
  by_cases same : other = backend
  · subst same
    simp [observe, latencyMs]
  · simp [observe, latencyMs, same, Finmap.lookup_insert_of_ne]

theorem idxOf_zipIdx {α : Type} [DecidableEq (α × Nat)] {scores : List α} {score : α}
    {index : Nat} (found : scores[index]? = some score) :
    scores.zipIdx.idxOf (score, index) = index := by
  have distinct : scores.zipIdx.Nodup := (List.nodup_zipIdx_map_snd scores).of_map _
  rcases List.getElem?_eq_some_iff.mp found with ⟨inBounds, rfl⟩
  have inBoundsZip : index < scores.zipIdx.length := by simpa using inBounds
  have atIndex := distinct.idxOf_getElem index inBoundsZip
  simpa using atIndex

/-- The chosen candidate has the lowest score, and those before it score higher. -/
theorem choose_spec {ewma : EwmaLatency} {candidates : List Backend} {index : Nat}
    (chosen : ewma.choose candidates = some index) :
    ∃ backend, candidates[index]? = some backend ∧
      ∀ (other : Nat) (rival : Backend), candidates[other]? = some rival →
        ewma.score backend ≤ ewma.score rival ∧
          (other < index → ewma.score backend < ewma.score rival) := by
  simp only [choose, Option.map_eq_some_iff] at chosen
  rcases chosen with ⟨⟨lowest, position⟩, isMin, rfl⟩
  rcases List.argmin_eq_some_iff.mp isMin with ⟨membership, minimal, first⟩
  have atPosition := List.mk_mem_zipIdx_iff_getElem?.mp membership
  have found := atPosition
  rw [List.getElem?_map, Option.map_eq_some_iff] at found
  rcases found with ⟨backend, found, rfl⟩
  use backend, found
  intro other rival foundRival
  have atOther : (candidates.map ewma.score)[other]? = some (ewma.score rival) := by
    rw [List.getElem?_map, foundRival, Option.map_some]
  have membershipOther := List.mk_mem_zipIdx_iff_getElem?.mpr atOther
  constructor
  · exact minimal _ membershipOther
  · intro earlier
    by_contra notLower
    have notLater := first _ membershipOther (not_lt.mp notLower)
    rw [idxOf_zipIdx atPosition, idxOf_zipIdx atOther] at notLater
    omega

/-- Only the scores of the candidates matter. -/
theorem choose_congr {left right : EwmaLatency} {candidates : List Backend}
    (sameScores : ∀ backend ∈ candidates, left.score backend = right.score backend) :
    left.choose candidates = right.choose candidates := by
  rw [choose, choose, List.map_congr_left sameScores]

end EwmaLatency

/-- The policy with its own averages as its state. -/
def Policy.ewmaLatency : Policy EwmaLatency where
  choose ewma candidates := (ewma.choose candidates, ewma)

end Patchbay
