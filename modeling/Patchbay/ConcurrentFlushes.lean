import Patchbay.AccountingRace
import Patchbay.BudgetPeriods
import Patchbay.Lib.Scan

/-!
# Flushes while tasks record

A flush reads the counters of all keys under the read lock of the ledger, three loads for
each key, while tasks go on recording usage.  What it writes is what a ledger of the same
period starts from after a restart.
-/

namespace Patchbay

/-- The ledger's counters, the tasks that record usage and the flushes that read it. -/
abbrev LedgerRace (ι ζ : Type) := Scanned ι ζ String Dimension KeyCounters UInt64

/-- Three loads for each key. -/
def snapshotEntries : List ((String × Dimension) × UInt64) → List (String × KeyCounters)
  | ((key, _), prompt) :: (_, completion) :: (_, total) :: rest =>
      (key, ⟨prompt, completion, total⟩) :: snapshotEntries rest
  | _ => []

theorem snapshotEntries_spec {keys : List String}
    {seen : List ((String × Dimension) × UInt64)}
    (order : seen.map Prod.fst = keys ×ˢ Dimension.all) :
    (snapshotEntries seen).map Prod.fst = keys ∧
      ∀ entry ∈ snapshotEntries seen, ∀ dimension,
        ((entry.1, dimension), entry.2.get dimension) ∈ seen := by
  induction keys generalizing seen with
  | nil =>
      rw [List.nil_product, List.map_eq_nil_iff] at order
      subst order
      exact ⟨rfl, fun entry membership => by cases membership⟩
  | cons key keys ih =>
      rw [List.product_cons] at order
      rcases seen with _ | ⟨⟨first, prompt⟩, _ | ⟨⟨second, completion⟩, _ | ⟨⟨third, total⟩, rest⟩⟩⟩
      · cases order
      · cases order
      · cases order
      · simp only [Dimension.all, List.map_cons, List.map_nil, List.cons_append,
          List.nil_append, List.cons.injEq] at order
        rcases order with ⟨rfl, rfl, rfl, order⟩
        rcases ih order with ⟨names, read⟩
        constructor
        · rw [snapshotEntries, List.map_cons, names]
        · intro entry membership dimension
          rw [snapshotEntries, List.mem_cons] at membership
          rcases membership with rfl | later
          · cases dimension <;> simp [KeyCounters.get]
          · have again := read entry later dimension
            simp only [List.mem_cons]
            exact .inr (.inr (.inr again))

namespace LedgerRace

variable {ι ζ : Type} [DecidableEq ι] [DecidableEq ζ] [Fintype ζ]

/-- One load. -/
def load (dimension : Dimension) (counters : KeyCounters) : UInt64 := counters.get dimension

/-- Tasks with the responses that each is to account, over the counters of a ledger. -/
def start (table : SharedTable String KeyCounters) (responses : ι → List Relayed) :
    LedgerRace ι ζ :=
  Scanned.start table fun task => (responses task).flatMap Relayed.record

def run (race : LedgerRace ι ζ) (events : List (ScannedEvent ι ζ String)) :
    Option (LedgerRace ι ζ) :=
  Scanned.run load Dimension.all race events

/-- A ledger as a flush has read it. -/
def readBy (race : LedgerRace ι ζ) (flush : ζ) (ledger : BudgetLedger) : Option BudgetLedger :=
  (race.scans flush).result.map fun seen =>
    { ledger with counters := Table.collect (snapshotEntries seen) }

/-- A dimension of a key's counters as a number, which wraps at 2^64. -/
def gauge (dimension : Dimension) : Gauge KeyCounters where
  size counters := (counters.get dimension).toNat
  bound := 2 ^ 64
  size_zero := by rw [KeyCounters.get_zero]; rfl
  size_add := by
    intro left right fits
    rw [KeyCounters.get_add, UInt64.toNat_add, Nat.mod_eq_of_lt fits]

/-- The exact tokens of some responses for a key. -/
def tokensOf (responses : List Relayed) (key : String) (dimension : Dimension) : Nat :=
  ((responses.filter fun response => response.key = key).map fun response =>
    (response.usage.get dimension).toNat).sum

/-- What the counters of a key stand at. -/
def count (race : LedgerRace ι ζ) (key : String) (dimension : Dimension) : Nat :=
  ((race.counters.table.value key).get dimension).toNat

omit [DecidableEq ι] [DecidableEq ζ] [Fintype ζ] in
theorem pending_start (table : SharedTable String KeyCounters) (responses : ι → List Relayed)
    (key : String) (dimension : Dimension) (task : ι) :
    (start table responses : LedgerRace ι ζ).counters.pending (gauge dimension) key task =
      tokensOf (responses task) key dimension := by
  change ((Adder.amountsFor ((responses task).flatMap Relayed.record) key).map
    (gauge dimension).size).sum = _
  induction responses task with
  | nil => rfl
  | cons response rest ih =>
      rw [List.flatMap_cons, Adder.amountsFor, List.flatMap_append, List.map_append,
        List.sum_append, ← Adder.amountsFor, ← Adder.amountsFor, ih, tokensOf, tokensOf]
      by_cases same : response.key = key
      · rw [List.filter_cons_of_pos (by simpa using same), List.map_cons, List.sum_cons]
        congr 1
        simp only [Adder.amountsFor, Relayed.record, List.flatMap_cons, List.flatMap_nil,
          List.append_nil, if_pos same, KeyCounters.usageAmounts]
        cases dimension <;> simp [gauge, Usage.get]
      · rw [List.filter_cons_of_neg (by simpa using same)]
        simp [Adder.amountsFor, Relayed.record, same]

/-! ## What a flush reads -/

section

variable [Fintype ι] {table : SharedTable String KeyCounters} {responses : ι → List Relayed}
  {before after : LedgerRace ι ζ} {flush : ζ} {ledger : BudgetLedger} {key : String}
  {dimension : Dimension}

omit [DecidableEq ι] [DecidableEq ζ] [Fintype ζ] [Fintype ι] in
theorem sound_start : (start table responses : LedgerRace ι ζ).counters.Sound := by
  intro task id amounts addition rest same
  cases same

/-- The counters of each key are read between what they stood at when the flush began and
what they stand at when it is done. -/
theorem readBy_between (sound : before.counters.Sound)
    (fits : before.counters.due (gauge dimension) key < 2 ^ 64)
    (idle : before.scans flush = .waiting) {events : List (ScannedEvent ι ζ String)}
    (ran : before.run events = some after) {seen : BudgetLedger}
    (taken : after.readBy flush ledger = some seen) :
    before.count key dimension ≤ ((seen.countersFor key).get dimension).toNat ∧
      ((seen.countersFor key).get dimension).toNat ≤ after.count key dimension := by
  have course := Scanned.run_course idle ran
  rcases Option.map_eq_some_iff.mp taken with ⟨entries, result, rfl⟩
  rw [Scan.result_eq_some.mp result] at course
  cases course with
  | @done keys _ nodup known still order genuine =>
      rcases snapshotEntries_spec order with ⟨names, read⟩
      simp only [BudgetLedger.countersFor]
      by_cases listed : key ∈ keys
      · rw [← names] at listed
        rcases List.mem_map.mp listed with ⟨⟨_, counters⟩, membership, rfl⟩
        rw [Table.lookup_collect_of_mem (names ▸ nodup) membership, Option.getD_some]
        exact (genuine _ (read _ membership dimension)).between sound fits (fun _ => rfl) ran
      · have absent : (Table.collect (snapshotEntries entries)).lookup key = none := by
          rw [← Option.not_isSome_iff_eq_none, Option.isSome_iff_exists]
          rintro ⟨counters, found⟩
          apply listed
          rw [← names]
          exact List.mem_map_of_mem (f := Prod.fst) (Table.mem_of_lookup_collect found)
        have missing : before.counters.table.lookup key = none := by
          by_contra present
          exact listed (List.mem_toFinset.mp (known (SharedTable.mem_keys.mpr present)))
        rw [absent, count, SharedTable.value, SharedTable.content_eq_none.mpr missing]
        simp

omit [DecidableEq ι] [DecidableEq ζ] [Fintype ζ] [Fintype ι] in
theorem count_start (shared : table.toTable = ledger.counters) :
    (start table responses : LedgerRace ι ζ).count key dimension =
      ((ledger.countersFor key).get dimension).toNat := by
  rw [BudgetLedger.countersFor, ← shared, SharedTable.lookup_toTable]
  rfl

omit [DecidableEq ι] [DecidableEq ζ] [Fintype ζ] in
theorem due_start (shared : table.toTable = ledger.counters) :
    (start table responses : LedgerRace ι ζ).counters.due (gauge dimension) key =
      ((ledger.countersFor key).get dimension).toNat +
        ∑ task, tokensOf (responses task) key dimension := by
  have atStart : (start table responses : LedgerRace ι ζ).count key dimension =
      ((ledger.countersFor key).get dimension).toNat := count_start shared
  rw [← atStart, SharedCounters.due]
  congr 1
  exact Finset.sum_congr rfl fun task _ => pending_start table responses key dimension task

/-- **Flushes and restarts.**  Tasks may record while a flush reads the counters.  A ledger
that restarts from what the flush wrote, in the same period, has all that the tasks recorded
which were done when the flush began, and nothing of the tasks that had not begun when it
was through. -/
theorem restart_between {codec : SnapshotCodec}
    (roundTrips : ∀ snap text, codec.toStringPretty snap = .ok text →
      codec.fromStr text = some snap)
    (shared : table.toTable = ledger.counters)
    (small : ((ledger.countersFor key).get dimension).toNat +
      ∑ task, tokensOf (responses task) key dimension < 2 ^ 64)
    {front back : List (ScannedEvent ι ζ String)}
    (ran : (start table responses).run front = some before)
    (idle : before.scans flush = .waiting) (ranFlush : before.run back = some after)
    {seen : BudgetLedger} (taken : after.readBy flush ledger = some seen)
    {faults : FlushFaults} {files flushed : FileSystem} {path : String}
    (persistent : ledger.snapshotPath = some path)
    (succeeded : seen.flush codec faults files = (.ok (), flushed))
    {restart : UInt64} {limits : Table String BudgetLimit} {period : Duration}
    (samePeriod : ledger.periodStart = periodStartSecs period restart)
    {finished begun : Finset ι}
    (through : ∀ task ∈ finished, (before.counters.adders task).additions = [])
    (fresh : ∀ task ∉ begun, after.counters.adders task =
      (start table responses : LedgerRace ι ζ).counters.adders task) :
    let restarted := BudgetLedger.new codec flushed restart limits period (some path)
    ((ledger.countersFor key).get dimension).toNat +
        ∑ task ∈ finished, tokensOf (responses task) key dimension ≤
        ((restarted.countersFor key).get dimension).toNat ∧
      ((restarted.countersFor key).get dimension).toNat ≤
        ((ledger.countersFor key).get dimension).toNat +
          ∑ task ∈ begun, tokensOf (responses task) key dimension := by
  intro restarted
  have origin : (start table responses : LedgerRace ι ζ).counters.Sound := sound_start
  have fits : (start table responses : LedgerRace ι ζ).counters.due (gauge dimension) key <
      (gauge dimension).bound := by
    rw [due_start shared]
    exact small
  have sameLedger : seen.snapshotPath = ledger.snapshotPath ∧
      seen.periodStart = ledger.periodStart := by
    rcases Option.map_eq_some_iff.mp taken with ⟨entries, -, rfl⟩
    exact ⟨rfl, rfl⟩
  have restored : restarted.countersFor key = seen.countersFor key := by
    have entry := BudgetLedger.usageFor_restarted roundTrips
      (sameLedger.1.trans persistent) succeeded restart limits period key
    rw [if_pos (sameLedger.2.trans samePeriod)] at entry
    exact congrArg (fun entry => entry.getD .default) entry
  have fitsBefore : before.counters.due (gauge dimension) key < (gauge dimension).bound := by
    rw [(Scanned.run_grows origin fits ran).1]
    exact fits
  rcases readBy_between (Scanned.run_sound origin ran) fitsBefore idle ranFlush taken with
    ⟨lower, upper⟩
  have atStart : (start table responses : LedgerRace ι ζ).count key dimension =
      ((ledger.countersFor key).get dimension).toNat := count_start shared
  have tokens : ∀ tasks : Finset ι,
      ∑ task ∈ tasks, (start table responses : LedgerRace ι ζ).counters.pending
        (gauge dimension) key task = ∑ task ∈ tasks, tokensOf (responses task) key dimension :=
    fun tasks => Finset.sum_congr rfl fun task _ =>
      pending_start table responses key dimension task
  rw [restored, ← atStart]
  constructor
  · refine le_trans ?_ lower
    rw [← tokens]
    apply Scanned.le_count origin fits ran
    intro task membership
    rw [Adder.left, through task membership]
    cases (before.counters.adders task).progress <;> rfl
  · refine upper.trans ?_
    rw [← tokens]
    apply Scanned.count_le origin fits (Schedule.run_append.mpr ⟨before, ran, ranFlush⟩)
    intro task outside
    rw [fresh task outside]

end

/-- Ten tokens and five tokens of one key. -/
def tenAndFive (second : Bool) : List Relayed :=
  if second then [⟨"dev", ⟨0, 0, 5⟩⟩] else [⟨"dev", ⟨0, 0, 10⟩⟩]

/-- The ten tokens are recorded. -/
def tenRecorded : List (ScannedEvent Bool Unit String) :=
  [false, false, false, false, false, false].map .thread

/-- The five tokens are recorded when the flush has read the counters. -/
def fiveDuringFlush : List (ScannedEvent Bool Unit String) :=
  [.thread true, .scan () (.acquire ["dev"]), .thread true, .scan () .load, .scan () .load,
    .thread true, .scan () .load, .thread true, .scan () .release]

theorem restart_between_five :
    ∃ flushed : FileSystem,
      let restarted := BudgetLedger.new BudgetLedger.tenTokensCodec flushed 10 ∅
        BudgetLedger.hour (some "budget_snapshot.json")
      10 ≤ ((restarted.countersFor "dev").get .total).toNat ∧
        ((restarted.countersFor "dev").get .total).toNat ≤ 15 := by
  have finished : ((start .empty tenAndFive).run tenRecorded).bind (fun before =>
      (before.run fiveDuringFlush).bind fun after =>
        (after.readBy () (BudgetLedger.startedAt 0)).map fun seen =>
          (before.counters.adders false).additions.isEmpty && (before.scans ()).isWaiting &&
            (seen.flush BudgetLedger.tenTokensCodec ⟨none, none⟩
              BudgetLedger.emptyDisk).1.isOk) = some true := by
    decide +kernel
  rcases Option.bind_eq_some_iff.mp finished with ⟨before, ran, later⟩
  rcases Option.bind_eq_some_iff.mp later with ⟨after, ranFlush, read⟩
  rcases Option.map_eq_some_iff.mp read with ⟨seen, taken, ended⟩
  rw [Bool.and_eq_true, Bool.and_eq_true, List.isEmpty_iff, Scan.isWaiting_iff] at ended
  rcases ended with ⟨⟨through, idle⟩, succeeded⟩
  cases result : (seen.flush BudgetLedger.tenTokensCodec ⟨none, none⟩ BudgetLedger.emptyDisk).1 with
  | error error =>
      rw [result] at succeeded
      cases succeeded
  | ok flushed =>
      use (seen.flush BudgetLedger.tenTokensCodec ⟨none, none⟩ BudgetLedger.emptyDisk).2
      have shared : (SharedTable.empty : SharedTable String KeyCounters).toTable =
          (BudgetLedger.startedAt 0).counters := by rfl
      have samePeriod : (BudgetLedger.startedAt 0).periodStart =
          periodStartSecs BudgetLedger.hour 10 := by decide
      have small : (((BudgetLedger.startedAt 0).countersFor "dev").get .total).toNat +
          ∑ task, tokensOf (tenAndFive task) "dev" .total < 2 ^ 64 := by decide +kernel
      have done : ∀ task ∈ ({false} : Finset Bool),
          (before.counters.adders task).additions = [] := by
        intro task membership
        rw [Finset.mem_singleton] at membership
        rw [membership]
        exact through
      have fresh : ∀ task ∉ (Finset.univ : Finset Bool), after.counters.adders task =
          (start .empty tenAndFive : LedgerRace Bool Unit).counters.adders task :=
        fun task outside => absurd (Finset.mem_univ task) outside
      exact restart_between BudgetLedger.tenTokensCodec_roundTrips shared small ran idle ranFlush
        taken rfl (Prod.ext result rfl) samePeriod done fresh

end LedgerRace

end Patchbay
