import Mathlib.Data.List.Basic
import Mathlib.Order.Defs.PartialOrder

/-!
# The first of least score

Among the eligible entries of a list, the one of least score that comes first.
-/

universe u v

variable {α : Type u} {β : Type v} [Preorder β]

/-- `winner` is eligible, and no eligible entry scores less, nor as little before it. -/
def FirstLeast (eligible : α → Prop) (score : α → β) (items : List α) (winner : α) : Prop :=
  ∃ before after, items = before ++ winner :: after ∧ eligible winner ∧
    (∀ earlier ∈ before, eligible earlier → score winner < score earlier) ∧
    ∀ later ∈ after, eligible later → score winner ≤ score later

namespace FirstLeast

variable {eligible : α → Prop} {score : α → β} {items : List α} {winner : α}

theorem mem (first : FirstLeast eligible score items winner) : winner ∈ items := by
  rcases first with ⟨before, after, rfl, -, -, -⟩
  simp

theorem isEligible (first : FirstLeast eligible score items winner) : eligible winner := by
  rcases first with ⟨_, _, -, winnerEligible, -, -⟩
  exact winnerEligible

theorem le (first : FirstLeast eligible score items winner) {other : α}
    (membership : other ∈ items) (otherEligible : eligible other) :
    score winner ≤ score other := by
  rcases first with ⟨before, after, rfl, -, strict, least⟩
  rcases List.mem_append.mp membership with earlier | later
  · exact le_of_lt (strict other earlier otherEligible)
  · rcases List.mem_cons.mp later with rfl | later
    · exact le_rfl
    · exact least other later otherEligible

/-- What the position of an entry says about it. -/
theorem of_getElem? {index : Nat} (found : items[index]? = some winner)
    (least : ∀ (other : Nat) (rival : α), items[other]? = some rival →
      score winner ≤ score rival ∧ (other < index → score winner < score rival)) :
    FirstLeast (fun _ => True) score items winner := by
  rcases List.getElem?_eq_some_iff.mp found with ⟨inBounds, same⟩
  refine ⟨items.take index, items.drop (index + 1), ?_, trivial, ?_, ?_⟩
  · rw [← same, List.getElem_cons_drop, List.take_append_drop]
  · intro earlier membership _
    rcases List.mem_iff_getElem?.mp membership with ⟨other, atOther⟩
    rw [List.getElem?_take] at atOther
    split at atOther
    · next isEarlier => exact (least other earlier atOther).2 isEarlier
    · cases atOther
  · intro later membership _
    rcases List.mem_iff_getElem?.mp (List.mem_of_mem_drop membership) with ⟨other, atOther⟩
    exact (least other later atOther).1

/-- The first of a filtered list is the first among what passes the filter. -/
theorem of_filter {passes : α → Bool}
    (first : FirstLeast (fun _ => True) score (items.filter passes) winner) :
    FirstLeast (fun item => passes item = true) score items winner := by
  rcases first with ⟨before, after, split, -, strict, least⟩
  rcases List.filter_eq_append_iff.mp split with ⟨front, back, rfl, rfl, atBack⟩
  rcases List.filter_eq_cons_iff.mp atBack with ⟨skipped, rest, rfl, noneSkipped, pass, rfl⟩
  refine ⟨front ++ skipped, rest, by simp, pass, ?_, ?_⟩
  · intro earlier membership passing
    rcases List.mem_append.mp membership with atFront | wasSkipped
    · exact strict earlier (List.mem_filter.mpr ⟨atFront, passing⟩) trivial
    · exact absurd passing (noneSkipped earlier wasSkipped)
  · intro later membership passing
    exact least later (List.mem_filter.mpr ⟨membership, passing⟩) trivial

end FirstLeast
