import Mathlib.Algebra.GroupWithZero.Nat
import Patchbay.Budget

/-!
# Budgets and accounting periods

A budget is meant per accounting period, but a ledger fixes its period when it is
created and never renews its counters.  Counters are compared here with the exact
sums of what was recorded inside and outside the period of a point in time, within
one process and across a restart.
-/

namespace Patchbay

/-- A call of `record` at some time. -/
structure Recording where
  secs : UInt64
  key : String
  usage : Usage

namespace BudgetLedger

def recordAll (ledger : BudgetLedger) (recordings : List Recording) : BudgetLedger :=
  recordings.foldl (fun ledger recording => ledger.record recording.key recording.usage) ledger

/-- The exact sum of what was recorded for a key in one dimension. -/
def recorded (recordings : List Recording) (key : String) (dimension : Dimension) : Nat :=
  (recordings.map fun recording =>
    if recording.key = key then (recording.usage.get dimension).toNat else 0).sum

theorem recordAll_cons (ledger : BudgetLedger) (recording : Recording)
    (recordings : List Recording) :
    ledger.recordAll (recording :: recordings) =
      (ledger.record recording.key recording.usage).recordAll recordings := rfl

@[simp] theorem recordAll_limits (ledger : BudgetLedger) (recordings : List Recording) :
    (ledger.recordAll recordings).limits = ledger.limits := by
  induction recordings generalizing ledger with
  | nil => rfl
  | cons recording recordings ih => rw [recordAll_cons, ih, record_limits]

@[simp] theorem recordAll_periodStart (ledger : BudgetLedger) (recordings : List Recording) :
    (ledger.recordAll recordings).periodStart = ledger.periodStart := by
  induction recordings generalizing ledger with
  | nil => rfl
  | cons recording recordings ih => rw [recordAll_cons, ih, record_periodStart]

@[simp] theorem recordAll_snapshotPath (ledger : BudgetLedger)
    (recordings : List Recording) :
    (ledger.recordAll recordings).snapshotPath = ledger.snapshotPath := by
  induction recordings generalizing ledger with
  | nil => rfl
  | cons recording recordings ih => rw [recordAll_cons, ih, record_snapshotPath]

/-- Counters are the exact sums modulo 2^64. -/
theorem countersFor_recordAll (ledger : BudgetLedger) (recordings : List Recording)
    (key : String) (dimension : Dimension) :
    ((ledger.recordAll recordings).countersFor key).get dimension =
      (ledger.countersFor key).get dimension +
        UInt64.ofNat (recorded recordings key dimension) := by
  induction recordings generalizing ledger with
  | nil => simp [recordAll, recorded]
  | cons recording recordings ih =>
      rw [recordAll_cons, ih, countersFor_record]
      by_cases same : key = recording.key
      · subst same
        simp only [if_true, KeyCounters.get_addUsage, recorded, List.map_cons, List.sum_cons,
          UInt64.ofNat_add, UInt64.ofNat_toNat, UInt64.add_assoc]
      · have different : recording.key ≠ key := Ne.symm same
        simp only [if_neg same, recorded, List.map_cons, List.sum_cons, if_neg different,
          Nat.zero_add]

/-! ## Inside and outside a period -/

/-- The recordings inside the accounting period of `secs`. -/
def inside (period : Duration) (secs : UInt64) (recordings : List Recording) :
    List Recording :=
  recordings.filter fun recording =>
    periodStartSecs period recording.secs = periodStartSecs period secs

/-- The recordings outside it. -/
def outside (period : Duration) (secs : UInt64) (recordings : List Recording) :
    List Recording :=
  recordings.filter fun recording =>
    ¬ periodStartSecs period recording.secs = periodStartSecs period secs

theorem recorded_inside_add_outside (period : Duration) (secs : UInt64)
    (recordings : List Recording) (key : String) (dimension : Dimension) :
    recorded (inside period secs recordings) key dimension +
        recorded (outside period secs recordings) key dimension =
      recorded recordings key dimension := by
  induction recordings with
  | nil => rfl
  | cons recording recordings ih =>
      simp only [inside, outside, recorded] at ih ⊢
      by_cases here : periodStartSecs period recording.secs = periodStartSecs period secs
      · simp only [List.filter_cons, here, decide_true, if_true, not_true, decide_false,
          Bool.false_eq_true, if_false, List.map_cons, List.sum_cons] at ih ⊢
        omega
      · simp only [List.filter_cons, here, decide_false, Bool.false_eq_true, if_false,
          not_false_eq_true, decide_true, if_true, List.map_cons, List.sum_cons] at ih ⊢
        omega

/-- The exact usage of a key inside the period of `secs`.  What a ledger starts with
belongs to the period it was created in. -/
def usageInside (ledger : BudgetLedger) (period : Duration) (secs : UInt64)
    (recordings : List Recording) (key : String) (dimension : Dimension) : Nat :=
  (if ledger.periodStart = periodStartSecs period secs then
      ((ledger.countersFor key).get dimension).toNat
    else 0) +
    recorded (inside period secs recordings) key dimension

/-- The exact usage of a key that is counted but lies in other periods. -/
def usageOutside (ledger : BudgetLedger) (period : Duration) (secs : UInt64)
    (recordings : List Recording) (key : String) (dimension : Dimension) : Nat :=
  (if ledger.periodStart = periodStartSecs period secs then 0
    else ((ledger.countersFor key).get dimension).toNat) +
    recorded (outside period secs recordings) key dimension

/-- The counter is the usage of all periods, modulo 2^64. -/
theorem counter_toNat (ledger : BudgetLedger) (period : Duration) (secs : UInt64)
    (recordings : List Recording) (key : String) (dimension : Dimension) :
    (((ledger.recordAll recordings).countersFor key).get dimension).toNat =
      (usageInside ledger period secs recordings key dimension +
        usageOutside ledger period secs recordings key dimension) % 2 ^ 64 := by
  have split := recorded_inside_add_outside period secs recordings key dimension
  rw [countersFor_recordAll, UInt64.toNat_add, UInt64.toNat_ofNat', Nat.add_mod_mod,
    ← split, usageInside, usageOutside]
  congr 1
  split <;> omega

/-! ## Checks within one process -/

/-- When old usage in a wrapping counter of `size` values never rejects what the current
usage alone would allow: it vanishes, it wraps the counter around, or the maximum
cannot be exceeded. -/
theorem stale_harmless_iff {current stale max size : Nat} (within : current ≤ max)
    (representable : max < size) :
    (∀ proposed < size, max < (current + stale + proposed) % size → max < current + proposed) ↔
      stale % size = 0 ∨ size ≤ stale % size + current ∨ max + 1 = size := by
  have remainder : stale % size < size := Nat.mod_lt _ (by omega)
  have reduce : ∀ proposed, (current + stale + proposed) % size =
      (current + stale % size + proposed) % size := by
    intro proposed
    rw [Nat.add_right_comm, Nat.add_right_comm current (stale % size), Nat.add_mod_mod]
  constructor
  · intro harmless
    by_contra harmful
    simp only [not_or, Nat.not_le] at harmful
    rcases harmful with ⟨present, fits, bounded⟩
    -- The least proposal that the old usage lifts over the maximum.
    have rejected := harmless (max + 1 - (current + stale % size)) (by omega)
    rw [reduce, Nat.mod_eq_of_lt (by omega)] at rejected
    omega
  · rintro harmless proposed inBounds rejected
    rw [reduce] at rejected
    rcases harmless with vanishes | wraps | unbounded
    · rw [vanishes, Nat.add_zero] at rejected
      exact Nat.lt_of_lt_of_le rejected (Nat.mod_le _ _)
    · by_contra allowed
      rw [Nat.mod_eq_sub_mod (by omega), Nat.mod_eq_of_lt (by omega)] at rejected
      omega
    · have small := Nat.mod_lt (current + stale % size + proposed) (show 0 < size by omega)
      omega

theorem limitFor_recordAll (ledger : BudgetLedger) (recordings : List Recording)
    (key : String) : (ledger.recordAll recordings).limitFor key = ledger.limitFor key := by
  rw [limitFor, recordAll_limits, ← limitFor]

/-- A check fails on the wrapped sum of all usage, current or not. -/
theorem check_recordAll_iff (ledger : BudgetLedger) (period : Duration) (secs : UInt64)
    (recordings : List Recording) (key : String) (proposed : Usage) :
    (∃ exceeded, ((ledger.recordAll recordings).check key proposed).1 = .error exceeded) ↔
      ∃ dimension max, (ledger.limitFor key).get dimension = some max ∧
        max.toNat < (usageInside ledger period secs recordings key dimension +
          usageOutside ledger period secs recordings key dimension +
            (proposed.get dimension).toNat) % 2 ^ 64 := by
  simp only [check_error_iff, limitFor_recordAll, UInt64.lt_iff_toNat_lt, UInt64.toNat_add,
    counter_toNat ledger period secs, Nat.mod_add_mod]

/-- **Checks across periods.**  A failed check at time `secs` is always due to the usage
inside the period of `secs` exactly when that usage is above a maximum by itself, or
the usage of other periods is invisible in each limited dimension: it vanishes, wraps
the counter around, or meets a maximum that cannot be exceeded. -/
theorem check_rejects_current_usage_iff (codec : SnapshotCodec) (files : FileSystem)
    (started : UInt64) (limits : Table String BudgetLimit) (period : Duration)
    (snapshotPath : Option String) (recordings : List Recording) (key : String)
    (secs : UInt64) :
    let ledger := BudgetLedger.new codec files started limits period snapshotPath
    let current := usageInside ledger period secs recordings key
    let stale := usageOutside ledger period secs recordings key
    (∀ proposed,
        (∃ exceeded, ((ledger.recordAll recordings).check key proposed).1 = .error exceeded) →
          ∃ dimension max, (ledger.limitFor key).get dimension = some max ∧
            max.toNat < current dimension + (proposed.get dimension).toNat) ↔
      (∃ dimension max, (ledger.limitFor key).get dimension = some max ∧
          max.toNat < current dimension) ∨
        ∀ dimension max, (ledger.limitFor key).get dimension = some max →
          stale dimension % 2 ^ 64 = 0 ∨
            2 ^ 64 ≤ stale dimension % 2 ^ 64 + current dimension ∨
            max.toNat + 1 = 2 ^ 64 := by
  intro ledger current stale
  simp only [check_recordAll_iff ledger period secs]
  by_cases overLimit : ∃ dimension max, (ledger.limitFor key).get dimension = some max ∧
      max.toNat < current dimension
  · apply iff_of_true _ (.inl overLimit)
    intro proposed _
    rcases overLimit with ⟨dimension, max, limited, above⟩
    exact ⟨dimension, max, limited, Nat.lt_of_lt_of_le above (Nat.le_add_right _ _)⟩
  · have within : ∀ dimension max, (ledger.limitFor key).get dimension = some max →
        current dimension ≤ max.toNat := by
      intro dimension max limited
      apply Nat.le_of_not_lt
      intro above
      exact overLimit ⟨dimension, max, limited, above⟩
    rw [or_iff_right overLimit]
    constructor
    · intro sound dimension max limited
      apply (stale_harmless_iff (within dimension max limited) max.toNat_lt).mp
      intro proposed inBounds rejected
      -- Propose tokens in this dimension only, so that no other one can be to blame.
      have sameTokens : (UInt64.ofNat proposed).toNat = proposed :=
        UInt64.toNat_ofNat_of_lt' inBounds
      rcases sound (.only dimension (UInt64.ofNat proposed))
          ⟨dimension, max, limited, by simpa [sameTokens] using rejected⟩ with
        ⟨blamed, blamedMax, blamedLimit, above⟩
      by_cases same : dimension = blamed
      · subst same
        rw [limited, Option.some.injEq] at blamedLimit
        subst blamedLimit
        simpa [sameTokens] using above
      · have allowed := within blamed blamedMax blamedLimit
        simp only [Usage.get_only, if_neg same, UInt64.toNat_zero] at above
        omega
    · rintro harmless proposed ⟨dimension, max, limited, rejected⟩
      exact ⟨dimension, max, limited,
        (stale_harmless_iff (within dimension max limited) max.toNat_lt).mpr
          (harmless dimension max limited) _ (UInt64.toNat_lt _) rejected⟩

/-! ### A key that spends its budget once -/

def hour : Duration := ⟨3600, 0⟩

/-- A hundred tokens for one key. -/
def hundredTokens : Table String BudgetLimit := Table.collect [("dev", ⟨none, none, some 100⟩)]

/-- Ten tokens of that key, counted by a ledger of some period. -/
def tenTokens (periodStart : UInt64) : LedgerSnapshot where
  periodStart := periodStart
  entries := Table.collect [("dev", ⟨0, 0, 10⟩)]

def tenTokensText (periodStart : String) : String :=
  "\x7b\n  \"period_start\": " ++ periodStart ++ ",\n  \"entries\": \x7b\n    \"dev\": \x7b\n" ++
    "      \"prompt_tokens\": 0,\n      \"completion_tokens\": 0,\n" ++
    "      \"total_tokens\": 10\n    \x7d\n  \x7d\n\x7d"

/-- Encodes these snapshots and no others. -/
def tenTokensCodec : SnapshotCodec where
  toStringPretty snap :=
    if snap = tenTokens 0 then .ok (tenTokensText "0")
    else if snap = tenTokens 3600 then .ok (tenTokensText "3600")
    else .error "unsupported"
  fromStr text :=
    if text = tenTokensText "0" then some (tenTokens 0)
    else if text = tenTokensText "3600" then some (tenTokens 3600)
    else none

theorem tenTokensCodec_roundTrips (snap : LedgerSnapshot) (text : String)
    (encoded : tenTokensCodec.toStringPretty snap = .ok text) :
    tenTokensCodec.fromStr text = some snap := by
  simp only [tenTokensCodec] at encoded
  split at encoded
  · next same =>
      cases encoded
      rw [same]
      decide +kernel
  · split at encoded
    · next same =>
        cases encoded
        rw [same]
        decide +kernel
    · cases encoded

def emptyDisk : FileSystem := fun _ => none

/-- A ledger over these limits, started at some time. -/
def startedAt (secs : UInt64) : BudgetLedger :=
  .new tenTokensCodec emptyDisk secs hundredTokens hour (some "budget_snapshot.json")

/-- Two hours later, usage of the first hour still rejects a proposal of one token. -/
theorem old_usage_rejects :
    ¬ ∀ proposed,
      (∃ exceeded, (((startedAt 0).recordAll [⟨10, "dev", ⟨0, 0, 100⟩⟩]).check "dev"
          proposed).1 = .error exceeded) →
        ∃ dimension max, ((startedAt 0).limitFor "dev").get dimension = some max ∧
          max.toNat < usageInside (startedAt 0) hour 7200 [⟨10, "dev", ⟨0, 0, 100⟩⟩] "dev"
            dimension + (proposed.get dimension).toNat := by
  intro sound
  rcases sound ⟨0, 0, 1⟩ ⟨.totalTokens 100 100, by rfl⟩ with ⟨dimension, max, limited, above⟩
  have nothingCurrent : ∀ dimension,
      usageInside (startedAt 0) hour 7200 [⟨10, "dev", ⟨0, 0, 100⟩⟩] "dev" dimension = 0 := by
    intro dimension
    cases dimension <;> decide +kernel
  have onlyLimit : ∀ dimension max, ((startedAt 0).limitFor "dev").get dimension = some max →
      max = 100 := by
    intro dimension max limited
    cases dimension with
    | prompt => cases limited
    | completion => cases limited
    | total =>
        cases limited
        rfl
  rw [nothingCurrent, onlyLimit dimension max limited] at above
  cases dimension <;> revert above <;> decide

/-! ## Across a restart -/

theorem counted_recordAll (ledger : BudgetLedger) (recordings : List Recording) (key : String)
    (counted : key ∈ ledger.counters ∨ ∃ recording ∈ recordings, recording.key = key) :
    key ∈ (ledger.recordAll recordings).counters := by
  induction recordings generalizing ledger with
  | nil => simpa [recordAll] using counted
  | cons recording recordings ih =>
      apply ih (ledger.record recording.key recording.usage)
      rcases counted with before | ⟨other, membership, rfl⟩
      · exact .inl (Finmap.mem_insert.mpr (.inr before))
      · rcases List.mem_cons.mp membership with rfl | later
        · exact .inl (Finmap.mem_insert.mpr (.inl rfl))
        · exact .inr ⟨other, later, rfl⟩

/-- After a restart the counters of `key` hold what the ledger started with and all that
was recorded. -/
def Includes (restarted ledger : BudgetLedger) (recordings : List Recording) (key : String) :
    Prop :=
  ∃ counters, restarted.usageFor key = some counters ∧ ∀ dimension,
    counters.get dimension = (ledger.countersFor key).get dimension +
      UInt64.ofNat (recorded recordings key dimension)

/-- A restarted ledger has the counters of the flushed one, if both stamps agree. -/
theorem usageFor_restarted {codec : SnapshotCodec}
    (roundTrips : ∀ snap text, codec.toStringPretty snap = .ok text →
      codec.fromStr text = some snap)
    {ledger : BudgetLedger} {faults : FlushFaults} {files flushed : FileSystem} {path : String}
    (persistent : ledger.snapshotPath = some path)
    (succeeded : ledger.flush codec faults files = (.ok (), flushed))
    (restart : UInt64) (limits : Table String BudgetLimit) (period : Duration) (key : String) :
    (BudgetLedger.new codec flushed restart limits period (some path)).usageFor key =
      if ledger.periodStart = periodStartSecs period restart then ledger.usageFor key
      else none := by
  rcases flush_ok persistent succeeded with ⟨text, encoded, stored⟩
  simp only [usageFor, new, restore, Option.bind_some, stored, roundTrips _ _ encoded]
  split
  · rfl
  · exact Finmap.lookup_empty key

/-- **Budgets across a restart.**  After a successful flush and a restart, all recorded
usage is still there exactly when nothing was recorded or the flushing process had
started in the accounting period of the restart. -/
theorem restart_includes_iff {codec : SnapshotCodec}
    (roundTrips : ∀ snap text, codec.toStringPretty snap = .ok text →
      codec.fromStr text = some snap)
    (disk : FileSystem) (started restart : UInt64) (limits limitsAfter : Table String BudgetLimit)
    (period : Duration) (path : String) (recordings : List Recording) (faults : FlushFaults)
    {files flushed : FileSystem}
    (succeeded : ((BudgetLedger.new codec disk started limits period (some path)).recordAll
      recordings).flush codec faults files = (.ok (), flushed)) :
    (∀ recording ∈ recordings,
        Includes (.new codec flushed restart limitsAfter period (some path))
          (.new codec disk started limits period (some path)) recordings recording.key) ↔
      recordings = [] ∨ periodStartSecs period started = periodStartSecs period restart := by
  have restarted := usageFor_restarted roundTrips (recordAll_snapshotPath _ _) succeeded
    restart limitsAfter period
  simp only [recordAll_periodStart, new_periodStart] at restarted
  constructor
  · intro included
    cases recordings with
    | nil => exact .inl rfl
    | cons recording recordings =>
        right
        rcases included recording List.mem_cons_self with ⟨counters, found, -⟩
        by_contra different
        rw [restarted, if_neg different] at found
        cases found
  · rintro (rfl | same) recording membership
    · cases membership
    · rw [Includes, restarted, if_pos same]
      have counted := counted_recordAll
        (.new codec disk started limits period (some path)) recordings recording.key
        (.inr ⟨recording, membership, rfl⟩)
      rcases Finmap.mem_iff.mp counted with ⟨counters, found⟩
      refine ⟨counters, found, ?_⟩
      intro dimension
      rw [← countersFor_recordAll, countersFor, found]
      rfl

/-- Ten tokens, recorded in the second hour. -/
def secondHour : List Recording := [⟨3605, "dev", ⟨0, 0, 10⟩⟩]

/-- They are flushed by a process that started at some time. -/
def flushedBy (started : UInt64) : Except String Unit × FileSystem :=
  ((startedAt started).recordAll secondHour).flush tenTokensCodec ⟨none, none⟩ emptyDisk

/-- The process restarted in the second hour. -/
def restartedAfter (started : UInt64) : BudgetLedger :=
  .new tenTokensCodec (flushedBy started).2 3610 hundredTokens hour (some "budget_snapshot.json")

/-- A process that started in the second hour keeps the tokens. -/
theorem restart_includes_second_hour :
    Includes (restartedAfter 3600) (startedAt 3600) secondHour "dev" :=
  (restart_includes_iff tenTokensCodec_roundTrips emptyDisk 3600 3610 hundredTokens hundredTokens
    hour "budget_snapshot.json" secondHour ⟨none, none⟩
    (Prod.ext (by rfl : (flushedBy 3600).1 = .ok ()) rfl)).mpr (.inr (by decide))
    ⟨3605, "dev", ⟨0, 0, 10⟩⟩ List.mem_cons_self

/-- A process that started an hour earlier loses them. -/
theorem restart_loses_second_hour :
    (flushedBy 0).1 = .ok () ∧
      (∀ recording ∈ secondHour,
        periodStartSecs hour recording.secs = periodStartSecs hour 3610) ∧
      ¬ ∀ recording ∈ secondHour,
        Includes (restartedAfter 0) (startedAt 0) secondHour recording.key := by
  refine ⟨by rfl, by decide, ?_⟩
  intro included
  rcases included ⟨3605, "dev", ⟨0, 0, 10⟩⟩ List.mem_cons_self with ⟨counters, found, -⟩
  have lost : (restartedAfter 0).usageFor "dev" = none := by decide +kernel
  rw [lost] at found
  cases found

end BudgetLedger

end Patchbay
