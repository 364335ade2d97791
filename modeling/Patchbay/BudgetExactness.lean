import Patchbay.BudgetPeriods

/-!
# Exact budgets

Counters and the sums that checks compare wrap at 2^64.  A check is measured here against
the exact sum of all recorded usage and the proposed one.
-/

namespace Patchbay

/-- The dimension an error is about. -/
def BudgetExceeded.dimension : BudgetExceeded → Dimension
  | .promptTokens _ _ => .prompt
  | .completionTokens _ _ => .completion
  | .totalTokens _ _ => .total

namespace BudgetLimit

/-- Is this usage above the maximum of a limited dimension? -/
def isOver (limit : BudgetLimit) (usage : Dimension → Nat) (dimension : Dimension) : Bool :=
  (limit.get dimension).any fun max => max.toNat < usage dimension

/-- The first dimension, in the order of the checks, that a usage is above. -/
def firstOver (limit : BudgetLimit) (usage : Dimension → Nat) : Option Dimension :=
  Dimension.all.find? (limit.isOver usage)

theorem isOver_eq_true {limit : BudgetLimit} {usage : Dimension → Nat} {dimension : Dimension} :
    limit.isOver usage dimension = true ↔
      ∃ max, limit.get dimension = some max ∧ max.toNat < usage dimension := by
  rw [isOver, Option.any_eq_true]
  simp only [decide_eq_true_eq]

/-- Less usage is above a maximum only where more is. -/
theorem isOver_of_le {limit : BudgetLimit} {less more : Dimension → Nat}
    (le : ∀ dimension, less dimension ≤ more dimension) {dimension : Dimension}
    (above : limit.isOver less dimension = true) : limit.isOver more dimension = true := by
  rcases isOver_eq_true.mp above with ⟨max, limited, exceeded⟩
  exact isOver_eq_true.mpr ⟨max, limited, Nat.lt_of_lt_of_le exceeded (le dimension)⟩

end BudgetLimit

/-- A stronger test finds the same entry exactly when that entry passes it. -/
theorem find?_eq_find?_iff {α : Type} {strong weak : α → Bool} {items : List α}
    (stronger : ∀ item, strong item = true → weak item = true) :
    items.find? strong = items.find? weak ↔
      ∀ item, items.find? weak = some item → strong item = true := by
  constructor
  · intro same item found
    rw [← same] at found
    exact List.find?_some found
  · intro passes
    cases found : items.find? weak with
    | none =>
        rw [List.find?_eq_none] at found ⊢
        exact fun item membership passing => found item membership (stronger item passing)
    | some item =>
        have passing := passes item found
        rcases List.find?_eq_some_iff_append.mp found with ⟨-, before, after, split, fail⟩
        rw [List.find?_eq_some_iff_append]
        refine ⟨passing, before, after, split, fun earlier membership => ?_⟩
        have failsWeak := fail earlier membership
        cases passingEarlier : strong earlier with
        | false => rfl
        | true =>
            rw [stronger earlier passingEarlier] at failsWeak
            cases failsWeak

namespace KeyCounters

/-- The wrapping sums that a check compares. -/
def sums (counters : KeyCounters) (proposed : Usage) (dimension : Dimension) : Nat :=
  (counters.get dimension + proposed.get dimension).toNat

/-- One dimension's check names that dimension. -/
theorem exceeds_dimension (counters : KeyCounters) (limit : BudgetLimit) (proposed : Usage)
    (dimension : Dimension) {exceeded : UInt64 → UInt64 → BudgetExceeded}
    (names : ∀ used max, (exceeded used max).dimension = dimension) :
    (exceeds (limit.get dimension) (counters.get dimension) (proposed.get dimension)
        exceeded).map BudgetExceeded.dimension =
      if limit.isOver (counters.sums proposed) dimension then some dimension else none := by
  rw [BudgetLimit.isOver, sums]
  cases limit.get dimension with
  | none => rfl
  | some max =>
      simp only [exceeds, Option.any_some, decide_eq_true_eq, UInt64.lt_iff_toNat_lt]
      split
      · rw [Option.map_some, names]
      · rfl

theorem wouldExceed_dimension (counters : KeyCounters) (limit : BudgetLimit)
    (proposed : Usage) :
    (counters.wouldExceed limit proposed).map BudgetExceeded.dimension =
      limit.firstOver (counters.sums proposed) := by
  have checks : counters.wouldExceed limit proposed =
      (exceeds (limit.get .prompt) (counters.get .prompt) (proposed.get .prompt)
          .promptTokens).or
        ((exceeds (limit.get .completion) (counters.get .completion)
            (proposed.get .completion) .completionTokens).or
          (exceeds (limit.get .total) (counters.get .total) (proposed.get .total)
            .totalTokens)) := rfl
  rw [checks, Option.map_or, Option.map_or,
    exceeds_dimension counters limit proposed .prompt fun _ _ => rfl,
    exceeds_dimension counters limit proposed .completion fun _ _ => rfl,
    exceeds_dimension counters limit proposed .total fun _ _ => rfl, BudgetLimit.firstOver]
  simp only [Dimension.all, List.find?_cons, List.find?_nil]
  cases limit.isOver (counters.sums proposed) .prompt <;>
    cases limit.isOver (counters.sums proposed) .completion <;>
    cases limit.isOver (counters.sums proposed) .total <;> rfl

end KeyCounters

namespace BudgetLedger

/-- The dimension that a check names, if it fails. -/
def named (result : Except BudgetExceeded Unit) : Option Dimension :=
  match result with
  | .ok () => none
  | .error exceeded => some exceeded.dimension

/-- The exact sum of what was counted to begin with, of what was recorded and of what is
proposed. -/
def exactUsage (ledger : BudgetLedger) (recordings : List Recording) (key : String)
    (proposed : Usage) (dimension : Dimension) : Nat :=
  ((ledger.countersFor key).get dimension).toNat + recorded recordings key dimension +
    (proposed.get dimension).toNat

/-- A check goes by the exact sums modulo 2^64. -/
theorem named_check (ledger : BudgetLedger) (recordings : List Recording) (key : String)
    (proposed : Usage) :
    named ((ledger.recordAll recordings).check key proposed).1 =
      (ledger.limitFor key).firstOver fun dimension =>
        exactUsage ledger recordings key proposed dimension % 2 ^ 64 := by
  have wrapped : ((ledger.recordAll recordings).countersFor key).sums proposed =
      fun dimension => exactUsage ledger recordings key proposed dimension % 2 ^ 64 := by
    funext dimension
    rw [KeyCounters.sums, countersFor_recordAll, UInt64.toNat_add, UInt64.toNat_add,
      UInt64.toNat_ofNat', Nat.add_mod_mod, Nat.mod_add_mod, exactUsage]
  have names := KeyCounters.wouldExceed_dimension
    ((ledger.recordAll recordings).countersFor key) (ledger.limitFor key) proposed
  rw [wrapped] at names
  rw [← names, check, limitFor_recordAll]
  cases ((ledger.recordAll recordings).countersFor key).wouldExceed (ledger.limitFor key)
    proposed <;> rfl

/-- **Exact checks.**  A check names the first dimension whose exact sum is above its
maximum, or none where there is none, exactly when that sum is above it modulo 2^64 too. -/
theorem check_exact_iff (ledger : BudgetLedger) (recordings : List Recording) (key : String)
    (proposed : Usage) :
    named ((ledger.recordAll recordings).check key proposed).1 =
        (ledger.limitFor key).firstOver (exactUsage ledger recordings key proposed) ↔
      ∀ dimension max,
        (ledger.limitFor key).firstOver (exactUsage ledger recordings key proposed) =
            some dimension →
          (ledger.limitFor key).get dimension = some max →
            max.toNat < exactUsage ledger recordings key proposed dimension % 2 ^ 64 := by
  rw [named_check, BudgetLimit.firstOver, BudgetLimit.firstOver,
    find?_eq_find?_iff fun _ => BudgetLimit.isOver_of_le fun _ => Nat.mod_le _ _]
  constructor
  · intro passes dimension max first limited
    rcases BudgetLimit.isOver_eq_true.mp (passes dimension first) with ⟨same, isMax, above⟩
    rw [limited, Option.some.injEq] at isMax
    rwa [isMax]
  · intro passes dimension first
    rcases BudgetLimit.isOver_eq_true.mp (List.find?_some first) with ⟨max, limited, -⟩
    exact BudgetLimit.isOver_eq_true.mpr ⟨max, limited, passes dimension max first limited⟩

end BudgetLedger

namespace Sample

/-- A key's two usages, of which the second wraps its counter around. -/
def wrapping : List Recording :=
  [⟨0, "dev", ⟨0, 0, 18446744073709551615⟩⟩, ⟨0, "dev", ⟨0, 0, 2⟩⟩]

end Sample

open BudgetLedger Sample in
/-- After 2^64 + 1 tokens a check against a maximum of 100 passes. -/
theorem check_not_exact_wrapping :
    ¬ ∀ recordings proposed,
      named (((startedAt 0).recordAll recordings).check "dev" proposed).1 =
        ((startedAt 0).limitFor "dev").firstOver
          (exactUsage (startedAt 0) recordings "dev" proposed) := by
  intro exact
  have passes : named (((startedAt 0).recordAll wrapping).check "dev" ⟨0, 0, 0⟩).1 = none := by
    decide
  have above : ((startedAt 0).limitFor "dev").firstOver
      (exactUsage (startedAt 0) wrapping "dev" ⟨0, 0, 0⟩) = some .total := by
    decide
  have same := exact wrapping ⟨0, 0, 0⟩
  rw [passes, above] at same
  cases same

end Patchbay
