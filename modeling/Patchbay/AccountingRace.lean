import Mathlib.Data.UInt
import Patchbay.Budget
import Patchbay.Exposition
import Patchbay.Lib.SharedCounters

/-!
# Concurrent accounting

One task for each relayed response: it records the usage in the ledger and then in the
token metrics.  Both are tables of shared counters, and tasks interleave at every look
into a table, every insertion and every addition to a counter.
-/

namespace Patchbay

namespace KeyCounters

instance : Zero KeyCounters := ⟨default⟩

instance : Add KeyCounters where
  add left right := {
    promptTokens := left.promptTokens + right.promptTokens
    completionTokens := left.completionTokens + right.completionTokens
    totalTokens := left.totalTokens + right.totalTokens }

@[simp] theorem get_zero (dimension : Dimension) : (0 : KeyCounters).get dimension = 0 :=
  get_default dimension

@[simp] theorem get_add (left right : KeyCounters) (dimension : Dimension) :
    (left + right).get dimension = left.get dimension + right.get dimension := by
  cases dimension <;> rfl

theorem ext_get {left right : KeyCounters}
    (same : ∀ dimension, left.get dimension = right.get dimension) : left = right := by
  rcases left with ⟨prompt, completion, total⟩
  rw [KeyCounters.mk.injEq]
  exact ⟨same .prompt, same .completion, same .total⟩

instance : AddCommMonoid KeyCounters where
  add_assoc first second third := by
    apply ext_get
    intro dimension
    simp only [get_add, add_assoc]
  zero_add counters := by
    apply ext_get
    intro dimension
    simp only [get_add, get_zero, zero_add]
  add_zero counters := by
    apply ext_get
    intro dimension
    simp only [get_add, get_zero, add_zero]
  add_comm left right := by
    apply ext_get
    intro dimension
    simp only [get_add, add_comm]
  nsmul := nsmulRec

def getHom (dimension : Dimension) : KeyCounters →+ UInt64 where
  toFun counters := counters.get dimension
  map_zero' := get_zero dimension
  map_add' left right := get_add left right dimension

/-- One `fetch_add` adds to one of the counters. -/
def only (dimension : Dimension) (tokens : UInt64) : KeyCounters where
  promptTokens := if dimension = .prompt then tokens else 0
  completionTokens := if dimension = .completion then tokens else 0
  totalTokens := if dimension = .total then tokens else 0

@[simp] theorem get_only (dimension other : Dimension) (tokens : UInt64) :
    (only dimension tokens).get other = if dimension = other then tokens else 0 := by
  cases other <;> rfl

/-- The atomic additions of `addUsage`. -/
def usageAmounts (usage : Usage) : List KeyCounters :=
  [only .prompt usage.promptTokens, only .completion usage.completionTokens,
    only .total usage.totalTokens]

theorem get_sum_usageAmounts (usage : Usage) (dimension : Dimension) :
    (usageAmounts usage).sum.get dimension = usage.get dimension := by
  cases dimension <;> simp [usageAmounts, Usage.get]

/-- Together they do what `addUsage` does. -/
theorem add_sum_usageAmounts (counters : KeyCounters) (usage : Usage) :
    counters + (usageAmounts usage).sum = counters.addUsage usage := by
  apply ext_get
  intro dimension
  rw [get_add, get_addUsage, get_sum_usageAmounts]

end KeyCounters

/-- A relayed response that is to be accounted. -/
structure Relayed where
  key : String
  usage : Usage
  deriving DecidableEq, Repr

namespace Relayed

/-- `BudgetLedger::record` -/
def record (response : Relayed) : List (Addition String KeyCounters) :=
  [⟨response.key, KeyCounters.usageAmounts response.usage⟩]

/-- `MetricsHandle::record_tokens` -/
def recordTokens (response : Relayed) : List (Addition String UInt64) :=
  [("prompt", response.usage.promptTokens), ("completion", response.usage.completionTokens),
    ("total", response.usage.totalTokens)].map fun (kind, val) =>
      ⟨MetricsHandle.tokensLabel response.key kind, [val]⟩

end Relayed

/-- The ledger, the token metrics and the tasks that account to them. -/
structure AccountingRace (ι : Type) where
  ledger : SharedCounters ι String KeyCounters
  tokens : SharedCounters ι String UInt64

namespace AccountingRace

variable {ι : Type} [DecidableEq ι]

/-- Empty stores and one task for each response. -/
def start (responses : ι → Relayed) : AccountingRace ι where
  ledger := .start fun task => (responses task).record
  tokens := .start fun task => (responses task).recordTokens

/-- A task goes on to the metrics when it is through with the ledger. -/
def step (race : AccountingRace ι) (task : ι) : Option (AccountingRace ι) :=
  match (race.ledger.adders task).additions with
  | [] => (race.tokens.step task).map fun tokens => { race with tokens }
  | _ :: _ => (race.ledger.step task).map fun ledger => { race with ledger }

def run (race : AccountingRace ι) (schedule : List ι) : Option (AccountingRace ι) :=
  schedule.foldlM step race

/-- All tasks have finished. -/
def Complete (race : AccountingRace ι) : Prop := race.ledger.Complete ∧ race.tokens.Complete

/-! ## A task by itself -/

section

variable {race : AccountingRace ι} {task : ι}

theorem run_ledger (schedule : List ι) {ledger : SharedCounters ι String KeyCounters}
    (ran : race.ledger.run schedule = some ledger) :
    race.run schedule = some ⟨ledger, race.tokens⟩ := by
  have followed : ∀ task ∈ schedule, ∀ {other : AccountingRace ι} {before after},
      other = ⟨before, race.tokens⟩ → before.step task = some after →
        ∃ next, other.step task = some next ∧ next = ⟨after, race.tokens⟩ := by
    intro task _ other before after same stepped
    subst same
    use ⟨after, race.tokens⟩
    simp only [step, and_true]
    split
    · next through => simp [SharedCounters.step, Adder.step, through] at stepped
    · rw [stepped, Option.map_some]
  rcases Schedule.simulation followed rfl ran with ⟨ending, ran, same⟩
  rwa [same] at ran

theorem run_tokens (steps : Nat) {tokens : SharedCounters ι String UInt64}
    (through : (race.ledger.adders task).additions = [])
    (ran : race.tokens.run (List.replicate steps task) = some tokens) :
    race.run (List.replicate steps task) = some ⟨race.ledger, tokens⟩ := by
  have followed : ∀ turn ∈ List.replicate steps task,
      ∀ {other : AccountingRace ι} {before after}, other = ⟨race.ledger, before⟩ →
        before.step turn = some after →
          ∃ next, other.step turn = some next ∧ next = ⟨race.ledger, after⟩ := by
    intro turn membership other before after same stepped
    rw [List.eq_of_mem_replicate membership] at stepped ⊢
    subst same
    use ⟨race.ledger, after⟩
    simp only [step, through, stepped, Option.map_some, and_self]
  rcases Schedule.simulation followed rfl ran with ⟨ending, ran, same⟩
  rwa [same] at ran

/-- A task that nobody interrupts does what `record` and `recordTokens` do. -/
theorem run_alone {response : Relayed}
    (freshLedger : race.ledger.adders task = ⟨.lookup, response.record⟩)
    (freshTokens : race.tokens.adders task = ⟨.lookup, response.recordTokens⟩)
    {ledger : BudgetLedger} (sameCounters : ledger.counters = race.ledger.table.toTable)
    {metrics : MetricsHandle} (sameTokens : metrics.tokens = race.tokens.table.toTable) :
    ∃ steps after, race.run (List.replicate steps task) = some after ∧
      after.ledger.table.toTable =
        (ledger.record response.key response.usage).counters ∧
      after.tokens.table.toTable =
        (metrics.recordTokens response.key response.usage).tokens := by
  rcases SharedCounters.run_alone response.record freshLedger with
    ⟨recording, recorded, ranLedger, through, counters⟩
  rcases SharedCounters.run_alone response.recordTokens freshTokens with
    ⟨counting, counted, ranTokens, -, tokens⟩
  use recording + counting, ⟨recorded, counted⟩
  constructor
  · have noAdditions : (recorded.adders task).additions = [] := by rw [through]
    rw [List.replicate_add]
    apply Schedule.run_append.mpr
    use ⟨recorded, race.tokens⟩, run_ledger _ ranLedger
    exact run_tokens counting noAdditions ranTokens
  · constructor
    · rw [counters, BudgetLedger.record, sameCounters, Relayed.record, List.foldl_cons,
        List.foldl_nil]
      simp only [KeyCounters.add_sum_usageAmounts]
      rfl
    · rw [tokens, MetricsHandle.recordTokens, sameTokens, Relayed.recordTokens,
        List.foldl_map]
      simp only [List.sum_singleton]
      rfl

end

variable [Fintype ι] {responses : ι → Relayed} {race after : AccountingRace ι}

/-- Both stores account for the responses. -/
structure Accounts (responses : ι → Relayed) (race : AccountingRace ι) : Prop where
  ledger : race.ledger.Accounts fun task => (responses task).record
  tokens : race.tokens.Accounts fun task => (responses task).recordTokens

theorem step_accounts {task : ι} (accounts : race.Accounts responses)
    (stepped : race.step task = some after) : after.Accounts responses := by
  simp only [step] at stepped
  split at stepped
  · rcases Option.map_eq_some_iff.mp stepped with ⟨tokens, moved, same⟩
    subst same
    exact ⟨accounts.ledger, SharedCounters.step_accounts accounts.tokens moved⟩
  · rcases Option.map_eq_some_iff.mp stepped with ⟨ledger, moved, same⟩
    subst same
    exact ⟨SharedCounters.step_accounts accounts.ledger moved, accounts.tokens⟩

theorem run_accounts (accounts : race.Accounts responses) (schedule : List ι)
    (ran : race.run schedule = some after) : after.Accounts responses :=
  Schedule.invariant _ step_accounts accounts schedule ran

/-! ## What the tasks add -/

omit [DecidableEq ι] in
theorem toNat_sum (amounts : ι → UInt64) :
    (∑ task, amounts task).toNat = (∑ task, (amounts task).toNat) % 2 ^ 64 := by
  classical
  suffices partly : ∀ tasks : Finset ι, (∑ task ∈ tasks, amounts task).toNat =
      (∑ task ∈ tasks, (amounts task).toNat) % 2 ^ 64 from partly Finset.univ
  intro tasks
  induction tasks using Finset.induction_on with
  | empty => rfl
  | insert task tasks new ih =>
      rw [Finset.sum_insert new, Finset.sum_insert new, UInt64.toNat_add, ih]
      omega

/-- The exact sum of a key's tokens in one dimension. -/
def tokensOf (responses : ι → Relayed) (key : String) (dimension : Dimension) : Nat :=
  ∑ task, if (responses task).key = key then
    ((responses task).usage.get dimension).toNat else 0

end AccountingRace

theorem Relayed.sumOf_record (response : Relayed) (key : String) (dimension : Dimension) :
    (Adder.sumOf response.record key).get dimension =
      if response.key = key then response.usage.get dimension else 0 := by
  by_cases same : response.key = key
  · simp [Adder.sumOf, record, same, KeyCounters.get_sum_usageAmounts]
  · simp [Adder.sumOf, record, same]

/-- The kind label of a dimension. -/
def Dimension.kind : Dimension → String
  | .prompt => "prompt"
  | .completion => "completion"
  | .total => "total"

theorem Dimension.escape_kind (dimension : Dimension) : escape dimension.kind = dimension.kind := by
  cases dimension <;> decide

/-- Different keys or dimensions have different labels. -/
theorem MetricsHandle.tokensLabel_inj {left right : String} {first second : Dimension} :
    tokensLabel left first.kind = tokensLabel right second.kind ↔
      left = right ∧ first = second := by
  constructor
  · intro same
    rw [tokensLabel_eq left first.escape_kind, tokensLabel_eq right second.escape_kind] at same
    have names : ∀ (key : String) (dimension : Dimension),
        WellNamed [("key", key), ("kind", dimension.kind)] := by
      intro key dimension label membership
      apply validName_of_mem_labelNames
      simp only [List.mem_cons, List.not_mem_nil, or_false] at membership
      rcases membership with isKey | isKind
      · simp [isKey, labelNames]
      · simp [isKind, labelNames]
    have labels := labelText_injective (names left first) (names right second) same
    simp only [List.cons.injEq, Prod.mk.injEq, true_and, and_true] at labels
    constructor
    · exact labels.1
    · cases first <;> cases second <;> first | rfl | exact absurd labels.2 (by decide)
  · rintro ⟨sameKey, sameDimension⟩
    rw [sameKey, sameDimension]

theorem Relayed.recordTokens_eq (response : Relayed) :
    response.recordTokens = Dimension.all.map fun dimension =>
      ⟨MetricsHandle.tokensLabel response.key dimension.kind,
        [response.usage.get dimension]⟩ := rfl

theorem Relayed.sumOf_recordTokens (response : Relayed) (key : String)
    (dimension : Dimension) :
    Adder.sumOf response.recordTokens (MetricsHandle.tokensLabel key dimension.kind) =
      if response.key = key then response.usage.get dimension else 0 := by
  rw [recordTokens_eq]
  by_cases same : response.key = key
  · cases dimension <;>
      simp [Adder.sumOf, Dimension.all, MetricsHandle.tokensLabel_inj, same]
  · simp [Adder.sumOf, Dimension.all, MetricsHandle.tokensLabel_inj, same]

namespace AccountingRace

variable {ι : Type} [DecidableEq ι] [Fintype ι] {responses : ι → Relayed}
  {race after : AccountingRace ι}

omit [DecidableEq ι] in
/-- The counters of a key in the ledger. -/
theorem Accounts.ledger_content (accounts : race.Accounts responses)
    (complete : race.Complete) (task : ι) :
    ∃ counters, race.ledger.table.content (responses task).key = some counters ∧
      ∀ dimension, (counters.get dimension).toNat =
        tokensOf responses (responses task).key dimension % 2 ^ 64 := by
  have membership : ⟨(responses task).key, KeyCounters.usageAmounts (responses task).usage⟩ ∈
      (responses task).record := List.mem_singleton_self _
  have content : race.ledger.table.content (responses task).key =
      some (∑ other, Adder.sumOf (responses other).record (responses task).key) :=
    accounts.ledger.content complete.1 membership
  use ∑ other, Adder.sumOf (responses other).record (responses task).key, content
  intro dimension
  change (KeyCounters.getHom dimension _).toNat = _
  rw [map_sum, toNat_sum, tokensOf]
  congr 1
  apply Finset.sum_congr rfl
  intro other _
  change ((Adder.sumOf (responses other).record (responses task).key).get dimension).toNat = _
  rw [Relayed.sumOf_record]
  split <;> rfl

omit [DecidableEq ι] in
/-- The three series of a key. -/
theorem Accounts.tokens_content (accounts : race.Accounts responses)
    (complete : race.Complete) (task : ι) (dimension : Dimension) :
    ∃ total, race.tokens.table.content
        (MetricsHandle.tokensLabel (responses task).key dimension.kind) = some total ∧
      total.toNat = tokensOf responses (responses task).key dimension % 2 ^ 64 := by
  have membership : ⟨MetricsHandle.tokensLabel (responses task).key dimension.kind,
      [(responses task).usage.get dimension]⟩ ∈ (responses task).recordTokens := by
    rw [Relayed.recordTokens_eq]
    exact List.mem_map_of_mem (Dimension.mem_all dimension)
  have content : race.tokens.table.content
      (MetricsHandle.tokensLabel (responses task).key dimension.kind) =
        some (∑ other, Adder.sumOf (responses other).recordTokens
          (MetricsHandle.tokensLabel (responses task).key dimension.kind)) :=
    accounts.tokens.content complete.2 membership
  use ∑ other, Adder.sumOf (responses other).recordTokens
    (MetricsHandle.tokensLabel (responses task).key dimension.kind), content
  have each : ∀ other, (Adder.sumOf (responses other).recordTokens
      (MetricsHandle.tokensLabel (responses task).key dimension.kind)).toNat =
        if (responses other).key = (responses task).key then
          ((responses other).usage.get dimension).toNat else 0 := by
    intro other
    rw [Relayed.sumOf_recordTokens]
    split <;> rfl
  rw [toNat_sum, tokensOf]
  simp only [each]

/-- **Accounting.** Whichever way the tasks interleave, in the end the ledger's counters of a
key with responses and its three series are the sums of its responses modulo 2^64, and there
are no other counters and no other series. -/
theorem accounting_exact (responses : ι → Relayed) {schedule : List ι}
    (ran : (start responses).run schedule = some after) (complete : after.Complete) :
    (∀ key, (∃ task, (responses task).key = key) →
      ∃ counters, after.ledger.table.toTable.lookup key = some counters ∧
        ∀ dimension,
          (counters.get dimension).toNat = tokensOf responses key dimension % 2 ^ 64 ∧
          after.tokens.table.toTable.lookup (MetricsHandle.tokensLabel key dimension.kind) =
            some (counters.get dimension)) ∧
      (∀ key, (∀ task, (responses task).key ≠ key) →
        after.ledger.table.toTable.lookup key = none) ∧
      (∀ label, (∀ task (dimension : Dimension),
          MetricsHandle.tokensLabel (responses task).key dimension.kind ≠ label) →
        after.tokens.table.toTable.lookup label = none) := by
  have accounts : after.Accounts responses :=
    run_accounts ⟨SharedCounters.start_accounts, SharedCounters.start_accounts⟩ schedule ran
  simp only [SharedTable.lookup_toTable]
  constructor
  · rintro key ⟨task, same⟩
    subst same
    rcases accounts.ledger_content complete task with ⟨counters, content, sums⟩
    use counters, content
    intro dimension
    use sums dimension
    rcases accounts.tokens_content complete task dimension with ⟨total, series, sum⟩
    rw [series, Option.some.injEq]
    apply UInt64.toNat_inj.mp
    rw [sum, sums]
  · constructor
    · intro key unused
      apply accounts.ledger.absent
      intro task addition membership
      rw [Relayed.record, List.mem_singleton] at membership
      rw [membership]
      exact unused task
    · intro label unused
      apply accounts.tokens.absent
      intro task addition membership
      rw [Relayed.recordTokens_eq] at membership
      rcases List.mem_map.mp membership with ⟨dimension, -, same⟩
      rw [← same]
      exact unused task dimension

/-- Two responses of one key. -/
def pair (second : Bool) : Relayed :=
  if second then ⟨"dev", ⟨10, 20, 30⟩⟩ else ⟨"dev", ⟨1, 2, 3⟩⟩

/-- Both tasks find no counter, in the ledger and for each series. -/
def takingTurns : List Bool := (List.replicate 18 [false, true]).flatten

theorem accounting_exact_pair :
    ∃ after, (start pair).run takingTurns = some after ∧
      ∃ counters, after.ledger.table.toTable.lookup "dev" = some counters ∧
        counters.totalTokens.toNat = 33 := by
  have finished : ((start pair).run takingTurns).map (fun after =>
      [false, true].all fun task => (after.ledger.adders task).additions.isEmpty &&
        (after.tokens.adders task).additions.isEmpty) = some true := by
    decide +kernel
  rcases Option.map_eq_some_iff.mp finished with ⟨after, ran, empty⟩
  have complete : after.Complete := by
    simp only [List.all_cons, List.all_nil, Bool.and_true, Bool.and_eq_true,
      List.isEmpty_iff] at empty
    constructor
    · intro task
      cases task with
      | false => exact empty.1.1
      | true => exact empty.2.1
    · intro task
      cases task with
      | false => exact empty.1.2
      | true => exact empty.2.2
  rcases (accounting_exact pair ran complete).1 "dev" ⟨false, rfl⟩ with
    ⟨counters, found, sums⟩
  use after, ran, counters, found
  exact (sums .total).1

end AccountingRace

end Patchbay
