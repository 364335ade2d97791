import Mathlib.Algebra.BigOperators.Group.Finset.Piecewise
import Mathlib.Algebra.Group.Action.Defs
import Mathlib.Algebra.Order.BigOperators.Group.Finset
import Mathlib.Algebra.Group.Nat.Defs
import Mathlib.Data.Fintype.Card
import Mathlib.Logic.Relation
import Patchbay.Budget

/-!
# Check, then record

A client checks a usage against the budget of a key and records it later.  The two
are not one atomic step, so several clients can pass the check on the same counter.
What they have checked and not recorded yet is in flight; counted together with it,
the counter stays within the limit and one more usage for each other client.
-/

namespace Patchbay

/-- A ledger and its clients, each with what it checked and has not recorded. -/
structure Clients (ι : Type) where
  ledger : BudgetLedger
  between : ι → Option Usage

namespace Clients

variable {ι : Type} [DecidableEq ι]

def start (ledger : BudgetLedger) : Clients ι where
  ledger
  between _ := none

/-- A client that has nothing in flight asks for a usage. -/
def check (clients : Clients ι) (key : String) (client : ι) (usage : Usage) :
    Option (Clients ι) :=
  match clients.between client with
  | some _ => none
  | none =>
      match clients.ledger.check key usage with
      | (.ok (), ledger) =>
          some { ledger, between := Function.update clients.between client (some usage) }
      | (.error _, ledger) => some { clients with ledger }

/-- A client records the usage it asked for. -/
def record (clients : Clients ι) (key : String) (client : ι) : Option (Clients ι) :=
  (clients.between client).map fun usage =>
    { ledger := clients.ledger.record key usage
      between := Function.update clients.between client none }

/-- What the counter of a key shows in one dimension. -/
def counter (clients : Clients ι) (key : String) (dimension : Dimension) : Nat :=
  ((clients.ledger.countersFor key).get dimension).toNat

/-- Usage of one client that is in flight. -/
def held (clients : Clients ι) (dimension : Dimension) (client : ι) : Nat :=
  (clients.between client).elim 0 fun usage => (usage.get dimension).toNat

variable [Fintype ι]

/-- The clients between a successful check and the matching record. -/
def inFlight (clients : Clients ι) : Finset ι :=
  Finset.univ.filter fun client => (clients.between client).isSome

end Clients

/-- What is promised of the clients of one key: in one dimension no usage is above
`usage`, and at most `clients` of them are in flight. -/
structure Contract where
  key : String
  dimension : Dimension
  usage : UInt64
  clients : Nat

namespace Contract

open Clients

variable {ι : Type} [DecidableEq ι] [Fintype ι] (contract : Contract)

/-- One step of some client that keeps the contract and overflows no sum.  Other keys
of the ledger may be checked and recorded at any time. -/
inductive Step : Clients ι → Clients ι → Prop
  | check {before after : Clients ι} (client : ι) (usage : Usage)
      (checked : before.check contract.key client usage = some after)
      (bounded : usage.get contract.dimension ≤ contract.usage)
      (few : after.inFlight.card ≤ contract.clients)
      (fits : before.counter contract.key contract.dimension +
        (usage.get contract.dimension).toNat < 2 ^ 64) :
      Step before after
  | record {before after : Clients ι} (client : ι)
      (recorded : before.record contract.key client = some after)
      (fits : before.counter contract.key contract.dimension +
        before.held contract.dimension client < 2 ^ 64) :
      Step before after
  | checkElsewhere (before : Clients ι) {key : String} (different : key ≠ contract.key)
      (usage : Usage) :
      Step before { before with ledger := (before.ledger.check key usage).2 }
  | recordElsewhere (before : Clients ι) {key : String} (different : key ≠ contract.key)
      (usage : Usage) :
      Step before { before with ledger := before.ledger.record key usage }

/-- The counter and everything in flight. -/
def exposure (clients : Clients ι) : Nat :=
  clients.counter contract.key contract.dimension +
    ∑ client, clients.held contract.dimension client

/-- What every state keeps under a limit `max`. -/
structure Invariant (max : UInt64) (clients : Clients ι) : Prop where
  limited : (clients.ledger.limitFor contract.key).get contract.dimension = some max
  bounded : ∀ client, clients.held contract.dimension client ≤ contract.usage.toNat
  exposure : contract.exposure clients ≤
    max.toNat + (contract.clients - 1) * contract.usage.toNat

end Contract

namespace Clients

variable {ι : Type} [DecidableEq ι]

/-- The two ways a check ends. -/
theorem check_cases {clients after : Clients ι} {key : String} {client : ι} {usage : Usage}
    (checked : clients.check key client usage = some after) :
    clients.between client = none ∧ after.ledger = (clients.ledger.check key usage).2 ∧
      ((after.between = clients.between) ∨
        (after.between = Function.update clients.between client (some usage) ∧
          (clients.ledger.check key usage).1 = .ok ())) := by
  simp only [check] at checked
  split at checked
  · cases checked
  · next idle =>
      use idle
      split at checked
      · next ledger allowed =>
          cases checked
          simp [allowed]
      · next error ledger refused =>
          cases checked
          simp [refused]

theorem held_update (clients : Clients ι) (ledger : BudgetLedger) (dimension : Dimension)
    (client : ι) (usage : Option Usage) :
    held ⟨ledger, Function.update clients.between client usage⟩ dimension =
      Function.update (clients.held dimension) client
        (usage.elim 0 fun usage => (usage.get dimension).toNat) := by
  funext other
  by_cases same : other = client
  · subst same
    simp [held]
  · simp [held, same]

variable [Fintype ι]

/-- Everything in flight but for one client is bounded by the number of the others. -/
theorem held_others_le (clients : Clients ι) {dimension : Dimension} {usage : Nat}
    (bounded : ∀ client, clients.held dimension client ≤ usage) {client : ι}
    (flying : client ∈ clients.inFlight) :
    ∑ other ∈ Finset.univ.erase client, clients.held dimension other ≤
      (clients.inFlight.card - 1) * usage := by
  have onlyInFlight : ∑ other ∈ clients.inFlight.erase client, clients.held dimension other =
      ∑ other ∈ Finset.univ.erase client, clients.held dimension other := by
    apply Finset.sum_subset
    · exact Finset.erase_subset_erase _ (Finset.subset_univ _)
    · intro other membership notFlying
      have idle : clients.between other = none := by
        simp only [inFlight, Finset.mem_erase, Finset.mem_filter, Finset.mem_univ, true_and,
          and_true] at membership notFlying
        simpa [membership] using notFlying
      simp [held, idle]
  calc
    ∑ other ∈ Finset.univ.erase client, clients.held dimension other
      = ∑ other ∈ clients.inFlight.erase client, clients.held dimension other :=
        onlyInFlight.symm
    _ ≤ (clients.inFlight.erase client).card • usage :=
        Finset.sum_le_card_nsmul _ _ _ fun other _ => bounded other
    _ = (clients.inFlight.card - 1) * usage := by
        rw [Finset.card_erase_of_mem flying, smul_eq_mul]

end Clients

namespace BudgetLedger

/-- A successful check leaves room for the usage, unless the sum wraps. -/
theorem check_ok_le {ledger : BudgetLedger} {key : String} {usage : Usage}
    {dimension : Dimension} {max : UInt64}
    (limited : (ledger.limitFor key).get dimension = some max)
    (fits : ((ledger.countersFor key).get dimension).toNat + (usage.get dimension).toNat <
      2 ^ 64)
    (allowed : (ledger.check key usage).1 = .ok ()) :
    ((ledger.countersFor key).get dimension).toNat + (usage.get dimension).toNat ≤
      max.toNat := by
  have notExceeded : ¬ max < (ledger.countersFor key).get dimension + usage.get dimension := by
    intro exceeded
    rcases check_error_iff.mpr ⟨dimension, max, limited, exceeded⟩ with ⟨error, refused⟩
    rw [allowed] at refused
    cases refused
  rw [UInt64.lt_iff_toNat_lt, UInt64.toNat_add, Nat.mod_eq_of_lt fits] at notExceeded
  omega

end BudgetLedger

namespace Contract

open Clients

variable {ι : Type} [Fintype ι] {contract : Contract}

theorem Invariant.start {ledger : BudgetLedger} {max : UInt64}
    (limited : (ledger.limitFor contract.key).get contract.dimension = some max)
    (below : (ledger.countersFor contract.key).get contract.dimension ≤ max) :
    Invariant contract max (Clients.start (ι := ι) ledger) where
  limited := limited
  bounded _ := Nat.zero_le _
  exposure := by
    have nothingHeld : ∀ client : ι,
        (Clients.start (ι := ι) ledger).held contract.dimension client = 0 := fun _ => rfl
    rw [Contract.exposure, Finset.sum_eq_zero fun client _ => nothingHeld client]
    exact Nat.le_add_right_of_le (UInt64.le_iff_toNat_le.mp below)

/-- Steps of the ledger that concern neither the counter nor the limit of the key. -/
theorem Invariant.congr {before after : Clients ι} {max : UInt64}
    (invariant : Invariant contract max before)
    (limits : after.ledger.limits = before.ledger.limits)
    (counter : after.counter contract.key contract.dimension =
      before.counter contract.key contract.dimension)
    (between : after.between = before.between) : Invariant contract max after := by
  have held : after.held = before.held := by
    funext dimension client
    rw [Clients.held, Clients.held, between]
  constructor
  · rw [BudgetLedger.limitFor, limits]
    exact invariant.limited
  · rw [held]
    exact invariant.bounded
  · rw [Contract.exposure, counter, held]
    exact invariant.exposure

variable [DecidableEq ι]

/-- A client that passed the check has room below the limit, and only the others can
use up the rest. -/
theorem Invariant.checked {before after : Clients ι} {max : UInt64} {client : ι}
    {usage : Usage} (invariant : Invariant contract max before)
    (ledger : after.ledger = (before.ledger.check contract.key usage).2)
    (between : after.between = Function.update before.between client (some usage))
    (allowed : (before.ledger.check contract.key usage).1 = .ok ())
    (bounded : usage.get contract.dimension ≤ contract.usage)
    (few : after.inFlight.card ≤ contract.clients)
    (fits : before.counter contract.key contract.dimension +
      (usage.get contract.dimension).toNat < 2 ^ 64) :
    Invariant contract max after := by
  rcases after with ⟨ledgerAfter, betweenAfter⟩
  subst ledger between
  have room := BudgetLedger.check_ok_le invariant.limited fits allowed
  have sameCounter : counter (⟨(before.ledger.check contract.key usage).2,
      Function.update before.between client (some usage)⟩ : Clients ι) contract.key
        contract.dimension = before.counter contract.key contract.dimension := by
    rw [counter, counter, BudgetLedger.check, BudgetLedger.countersFor_withEntry]
  have allBounded : ∀ other, held (⟨(before.ledger.check contract.key usage).2,
      Function.update before.between client (some usage)⟩ : Clients ι) contract.dimension
        other ≤ contract.usage.toNat := by
    intro other
    rw [held_update, Function.update_apply]
    split
    · exact UInt64.le_iff_toNat_le.mp bounded
    · exact invariant.bounded other
  constructor
  · exact invariant.limited
  · exact allBounded
  · have others := held_others_le _ allBounded (show client ∈ _ by simp [inFlight])
    have capped := Nat.mul_le_mul_right contract.usage.toNat (Nat.sub_le_sub_right few 1)
    rw [Contract.exposure, sameCounter, ← Finset.add_sum_erase _ _ (Finset.mem_univ client)]
    rw [held_update, Function.update_self] at *
    simp only [counter, Option.elim_some] at *
    omega

/-- Recording moves a usage from the flight to the counter. -/
theorem Invariant.recorded {before after : Clients ι} {max : UInt64} {client : ι}
    (invariant : Invariant contract max before)
    (recorded : before.record contract.key client = some after)
    (fits : before.counter contract.key contract.dimension +
      before.held contract.dimension client < 2 ^ 64) :
    Invariant contract max after := by
  simp only [record, Option.map_eq_some_iff] at recorded
  rcases recorded with ⟨usage, flying, rfl⟩
  have heldUsage : before.held contract.dimension client =
      (usage.get contract.dimension).toNat := by
    rw [held, flying, Option.elim_some]
  constructor
  · exact invariant.limited
  · intro other
    rw [held_update, Function.update_apply]
    split
    · exact Nat.zero_le _
    · exact invariant.bounded other
  · have counted : counter (⟨before.ledger.record contract.key usage,
        Function.update before.between client none⟩ : Clients ι) contract.key
          contract.dimension =
        before.counter contract.key contract.dimension +
          (usage.get contract.dimension).toNat := by
      rw [heldUsage] at fits
      rw [counter, BudgetLedger.countersFor_record, if_pos rfl, KeyCounters.get_addUsage,
        UInt64.toNat_add]
      exact Nat.mod_eq_of_lt fits
    have before_exposure := invariant.exposure
    rw [Contract.exposure, ← Finset.add_sum_erase _ _ (Finset.mem_univ client), heldUsage]
      at before_exposure
    rw [Contract.exposure, counted, held_update,
      Finset.sum_update_of_mem (Finset.mem_univ client), Finset.sdiff_singleton_eq_erase,
      Option.elim_none]
    omega

/-- The step lemma. -/
theorem Invariant.step {before after : Clients ι} {max : UInt64}
    (invariant : Invariant contract max before) (step : Step contract before after) :
    Invariant contract max after := by
  cases step with
  | check client usage checked bounded few fits =>
      rcases check_cases checked with ⟨-, ledger, same | ⟨between, allowed⟩⟩
      · apply invariant.congr _ _ same
        · rw [ledger, BudgetLedger.check_limits]
        · rw [counter, counter, ledger, BudgetLedger.check,
            BudgetLedger.countersFor_withEntry]
      · exact invariant.checked ledger between allowed bounded few fits
  | record client recorded fits => exact invariant.recorded recorded fits
  | checkElsewhere different usage =>
      apply invariant.congr (by rfl) _ (by rfl)
      rw [counter, counter, BudgetLedger.check, BudgetLedger.countersFor_withEntry]
  | recordElsewhere different usage =>
      apply invariant.congr (by rfl) _ (by rfl)
      rw [counter, counter, BudgetLedger.countersFor_record, if_neg different.symm]

/-- The run lemma. -/
theorem Invariant.reachable {before after : Clients ι} {max : UInt64}
    (invariant : Invariant contract max before)
    (run : Relation.ReflTransGen (Step contract) before after) :
    Invariant contract max after := by
  induction run with
  | refl => exact invariant
  | tail _ step ih => exact ih.step step

variable (contract) in
/-- The counter of a limited key overshoots by at most one usage for each other client
in flight, and not at all with a single one. -/
theorem overshoot_le {ledger : BudgetLedger} {max : UInt64}
    (limited : (ledger.limitFor contract.key).get contract.dimension = some max)
    (below : (ledger.countersFor contract.key).get contract.dimension ≤ max)
    {clients : Clients ι}
    (run : Relation.ReflTransGen (Step contract) (Clients.start ledger) clients) :
    ((clients.ledger.countersFor contract.key).get contract.dimension).toNat ≤
        max.toNat + (contract.clients - 1) * contract.usage.toNat ∧
      (contract.clients = 1 →
        (clients.ledger.countersFor contract.key).get contract.dimension ≤ max) := by
  have exposed := ((Invariant.start limited below).reachable run).exposure
  have overshoot := (Nat.le_add_right _ _).trans exposed
  constructor
  · exact overshoot
  · intro single
    rw [single, Nat.sub_self, Nat.zero_mul, Nat.add_zero] at overshoot
    exact UInt64.le_iff_toNat_le.mpr overshoot

/-- Two clients, requests of 60 tokens, and a limit of 100. -/
def pair : Contract where
  key := "dev"
  dimension := .total
  usage := 60
  clients := 2

def budgetOf100 : BudgetLedger where
  periodStart := 0
  counters := ∅
  limits := Table.collect [("dev", ⟨none, none, some 100⟩)]
  snapshotPath := none

def overshot : Clients Bool where
  ledger :=
    let checked := ((budgetOf100.check "dev" (.only .total 60)).2.check "dev" (.only .total 60)).2
    (checked.record "dev" (.only .total 60)).record "dev" (.only .total 60)
  between := Function.update (Function.update (Function.update (Function.update (fun _ => none)
    true (some (.only .total 60))) false (some (.only .total 60))) true none) false none

theorem overshot_reachable :
    Relation.ReflTransGen (Step pair) (Clients.start budgetOf100) overshot := by
  apply Relation.ReflTransGen.head (.check true (.only .total 60) rfl (by decide) (by decide)
    (by decide +kernel))
  apply Relation.ReflTransGen.head (.check false (.only .total 60) rfl (by decide) (by decide)
    (by decide +kernel))
  apply Relation.ReflTransGen.head (.record true rfl (by decide +kernel))
  exact Relation.ReflTransGen.single (.record false rfl (by decide +kernel))

/-- Both pass the check on an empty counter, and the bound is met. -/
theorem overshoot_le_pair :
    ((overshot.ledger.countersFor "dev").get .total).toNat = 120 ∧
      ((overshot.ledger.countersFor "dev").get .total).toNat ≤ 100 + (2 - 1) * 60 := by
  have limited : (budgetOf100.limitFor "dev").get .total = some 100 := rfl
  have bounded := overshoot_le pair limited (by decide +kernel) overshot_reachable
  exact ⟨by decide +kernel, bounded.1⟩

end Contract

end Patchbay
