import Mathlib.Algebra.BigOperators.Group.List.Basic
import Mathlib.Data.List.Basic

/-!
# Parts of a list

A list of parts, one of which is replaced at a time: what becomes of a sum over the parts,
and of the parts that an observer sees.  The observer counts the parts by their rank among
those that it sees.
-/

universe u v

namespace Parts

variable {α : Type u} {parts : List α} {index : Nat} {part other : α}

/-- The part at an index, with what stands before and after it. -/
theorem exists_split (found : parts[index]? = some part) :
    ∃ front back, front.length = index ∧ parts = front ++ part :: back ∧
      ∀ other, parts.set index other = front ++ other :: back := by
  rcases List.getElem?_eq_some_iff.mp found with ⟨inBounds, rfl⟩
  use parts.take index, parts.drop (index + 1)
  refine ⟨List.length_take_of_le (Nat.le_of_lt inBounds), ?_, ?_⟩
  · rw [List.getElem_cons_drop, List.take_append_drop]
  · intro other
    rw [List.set_eq_take_append_cons_drop, if_pos inBounds]

/-- Replacing a part changes a sum by what the part contributes. -/
theorem sum_set {M : Type v} [AddCommMonoid M] (found : parts[index]? = some part)
    (other : α) (measure : α → M) :
    ((parts.set index other).map measure).sum + measure part =
      (parts.map measure).sum + measure other := by
  rcases exists_split found with ⟨front, back, -, split, replaced⟩
  rw [replaced, split]
  simp only [List.map_append, List.map_cons, List.sum_append, List.sum_cons]
  ac_rfl

/-- Replacing a part changes nothing that is read off the parts, if the two read alike. -/
theorem filterMap_set {β : Type v} (found : parts[index]? = some part) {reading : α → Option β}
    (same : reading other = reading part) :
    (parts.set index other).filterMap reading = parts.filterMap reading := by
  rcases exists_split found with ⟨front, back, -, split, replaced⟩
  rw [replaced, split, List.filterMap_append, List.filterMap_append, List.filterMap_cons,
    List.filterMap_cons, same]

/-! ## What an observer sees -/

variable {sees : α → Bool}

/-- How many of the parts before an index the observer sees. -/
def rank (sees : α → Bool) (parts : List α) (index : Nat) : Nat :=
  (parts.take index).countP sees

/-- A part that the observer sees stands at its rank among those. -/
theorem getElem?_rank (found : parts[index]? = some part) (seen : sees part = true) :
    (parts.filter sees)[rank sees parts index]? = some part := by
  rcases exists_split found with ⟨front, back, length, split, -⟩
  rw [rank, split, ← length, List.take_left, List.countP_eq_length_filter, List.filter_append,
    List.filter_cons_of_pos seen, List.getElem?_append_right (Nat.le_refl _), Nat.sub_self]
  rfl

theorem filter_set_of_seen (found : parts[index]? = some part) (seen : sees part = true)
    (stillSeen : sees other = true) :
    (parts.set index other).filter sees =
      (parts.filter sees).set (rank sees parts index) other := by
  rcases exists_split found with ⟨front, back, length, split, replaced⟩
  rw [replaced, rank, split, ← length, List.take_left, List.countP_eq_length_filter,
    List.filter_append, List.filter_append, List.filter_cons_of_pos seen,
    List.filter_cons_of_pos stillSeen, List.set_append_right _ _ (Nat.le_refl _), Nat.sub_self]
  rfl

theorem filter_set_of_hidden (found : parts[index]? = some part)
    (hidden : sees part = false) (stillHidden : sees other = false) :
    (parts.set index other).filter sees = parts.filter sees := by
  rcases exists_split found with ⟨front, back, -, split, replaced⟩
  rw [replaced, split, List.filter_append, List.filter_append,
    List.filter_cons_of_neg (by simp [stillHidden]), List.filter_cons_of_neg (by simp [hidden])]

end Parts
