import Mathlib.Data.List.Basic

/-!
# Descent

A rank that no event of a run raises and that the counted events lower until it is zero.
-/

universe u v

variable {σ : Type u} {ε : Type v}

/-- Where `holds` is kept by the valid events, they do not raise `rank`, and the counted
ones lower it. -/
structure Descent (step : σ → ε → σ) (holds : σ → Prop) (valid : ε → Prop)
    (counted : ε → Bool) (rank : σ → Nat) : Prop where
  kept : ∀ {state event}, holds state → valid event → holds (step state event)
  raisesNot : ∀ {state event}, holds state → valid event →
    rank (step state event) ≤ rank state
  lowers : ∀ {state event}, holds state → valid event → counted event = true →
    rank state ≠ 0 → rank (step state event) < rank state

namespace Descent

variable {step : σ → ε → σ} {holds : σ → Prop} {valid : ε → Prop} {counted : ε → Bool}
  {rank : σ → Nat} {state : σ} {events : List ε}

theorem invariant (descent : Descent step holds valid counted rank) (initially : holds state)
    (allValid : ∀ event ∈ events, valid event) : holds (events.foldl step state) := by
  induction events generalizing state with
  | nil => exact initially
  | cons event events ih =>
      rw [List.forall_mem_cons] at allValid
      exact ih (descent.kept initially allValid.1) allValid.2

/-- As many counted events as the rank at the start bring it to zero. -/
theorem reaches_zero (descent : Descent step holds valid counted rank)
    (initially : holds state) (allValid : ∀ event ∈ events, valid event)
    (enough : rank state ≤ events.countP counted) : rank (events.foldl step state) = 0 := by
  induction events generalizing state with
  | nil => exact Nat.le_zero.mp enough
  | cons event events ih =>
      rw [List.forall_mem_cons] at allValid
      apply ih (descent.kept initially allValid.1) allValid.2
      have notRaised := descent.raisesNot initially allValid.1
      cases isCounted : counted event with
      | true =>
          rw [List.countP_cons_of_pos isCounted] at enough
          by_cases already : rank state = 0
          · omega
          · have lowered := descent.lowers initially allValid.1 isCounted already
            omega
      | false =>
          rw [List.countP_cons_of_neg (by simp [isCounted])] at enough
          exact Nat.le_trans notRaised enough

end Descent

/-- A count falls when an entry no longer counts and none is new. -/
theorem countP_lt_of_mem {α : Type u} {now before : α → Bool} {items : List α}
    (notNew : ∀ item ∈ items, now item = true → before item = true) {gone : α}
    (membership : gone ∈ items) (counted : before gone = true) (isGone : now gone = false) :
    items.countP now < items.countP before := by
  rcases List.append_of_mem membership with ⟨front, back, rfl⟩
  rw [List.countP_append, List.countP_append, List.countP_cons_of_pos counted,
    List.countP_cons_of_neg (by simp [isGone])]
  have inFront : front.countP now ≤ front.countP before :=
    List.countP_mono_left fun item inFront => notNew item (List.mem_append_left _ inFront)
  have inBack : back.countP now ≤ back.countP before :=
    List.countP_mono_left fun item inBack =>
      notNew item (List.mem_append_right _ (List.mem_cons_of_mem _ inBack))
  omega
