import Patchbay.BudgetPeriods
import Patchbay.Lib.Checkpoint

/-!
# Sessions over one snapshot file

A ledger is checked, recorded to and flushed, and now and then the process restarts
and reads its snapshot back.  Within one accounting period the ledger and its file are
a checkpoint: a restart goes back to the last flush.
-/

namespace Patchbay

/-- What happens to a ledger between flushes and restarts. -/
inductive LedgerEvent where
  | check (key : String) (proposed : Usage)
  | record (recording : Recording)

namespace LedgerEvent

def apply (counters : Table String KeyCounters) : LedgerEvent → Table String KeyCounters
  | .check key _ => Table.update counters key .default id
  | .record recording =>
      Table.update counters recording.key .default fun counters =>
        counters.addUsage recording.usage

def recording? : LedgerEvent → Option Recording
  | .check _ _ => none
  | .record recording => some recording

end LedgerEvent

inductive SessionOp where
  | act (event : LedgerEvent)
  | flush (faults : FlushFaults)
  /-- Drop the ledger and create it anew. -/
  | restart (secs : UInt64) (limits : Table String BudgetLimit)

/-- A ledger and the disk it is saved on. -/
structure Session where
  ledger : BudgetLedger
  files : FileSystem

namespace Session

variable (codec : SnapshotCodec) (period : Duration) (path : String)

def start (files : FileSystem) (secs : UInt64) (limits : Table String BudgetLimit) :
    Session where
  ledger := .new codec files secs limits period (some path)
  files

/-- One operation; an I/O error ends the run. -/
def step (session : Session) : SessionOp → Except String Session
  | .act (.check key proposed) =>
      .ok { session with ledger := (session.ledger.check key proposed).2 }
  | .act (.record recording) =>
      .ok { session with ledger := session.ledger.record recording.key recording.usage }
  | .flush faults =>
      match session.ledger.flush codec faults session.files with
      | (.ok (), files) => .ok { session with files }
      | (.error error, _) => .error error
  | .restart secs limits => .ok (start codec period path session.files secs limits)

def run (session : Session) (ops : List SessionOp) : Except String Session :=
  ops.foldlM (step codec period path) session

end Session

namespace SessionOp

/-- What an operation means for the checkpoint. -/
def checkpoint : SessionOp → Checkpoint.Op LedgerEvent
  | .act event => .act event
  | .flush _ => .save
  | .restart _ _ => .restore

/-- Does every restart fall into the accounting period that starts here? -/
def within (period : Duration) (periodStart : UInt64) : SessionOp → Prop
  | .restart secs _ => periodStartSecs period secs = periodStart
  | _ => True

end SessionOp

namespace Session

variable {codec : SnapshotCodec} {period : Duration} {path : String}

/-- The session is at this checkpoint: the ledger has the current counters, and the
file would restore the saved ones. -/
structure Represents (codec : SnapshotCodec) (path : String) (periodStart : UInt64)
    (session : Session) (checkpoint : Checkpoint (Table String KeyCounters)) : Prop where
  located : session.ledger.snapshotPath = some path
  stamped : session.ledger.periodStart = periodStart
  current : session.ledger.counters = checkpoint.current
  saved : BudgetLedger.restore codec session.files (some path) periodStart = checkpoint.saved

theorem start_represents {files : FileSystem} (absent : files path = none) (secs : UInt64)
    (limits : Table String BudgetLimit) :
    Represents codec path (periodStartSecs period secs)
      (start codec period path files secs limits) ⟨∅, ∅⟩ := by
  have nothing : BudgetLedger.restore codec files (some path) (periodStartSecs period secs) =
      ∅ := by
    rw [BudgetLedger.restore, Option.bind_some, absent, Option.bind_none]
  exact ⟨rfl, rfl, nothing, nothing⟩

/-- The step lemma. -/
theorem Represents.step
    (roundTrips : ∀ snap text, codec.toStringPretty snap = .ok text →
      codec.fromStr text = some snap)
    {periodStart : UInt64} {session after : Session}
    {checkpoint : Checkpoint (Table String KeyCounters)}
    (represents : Represents codec path periodStart session checkpoint) {op : SessionOp}
    (within : op.within period periodStart)
    (stepped : session.step codec period path op = .ok after) :
    Represents codec path periodStart after
      (checkpoint.step LedgerEvent.apply op.checkpoint) := by
  cases op with
  | act event =>
      cases event with
      | check key proposed =>
          cases stepped
          constructor
          · exact represents.located
          · exact represents.stamped
          · exact congrArg (Table.update · key .default id) represents.current
          · exact represents.saved
      | record recording =>
          cases stepped
          constructor
          · exact represents.located
          · exact represents.stamped
          · exact congrArg (LedgerEvent.apply · (.record recording)) represents.current
          · exact represents.saved
  | flush faults =>
      simp only [Session.step] at stepped
      split at stepped
      · next files flushed =>
          cases stepped
          rcases BudgetLedger.flush_ok represents.located flushed with ⟨text, encoded, stored⟩
          have readBack : BudgetLedger.restore codec files (some path) periodStart =
              session.ledger.counters := by
            rw [BudgetLedger.restore, Option.bind_some, stored, Option.bind_some,
              roundTrips _ _ encoded]
            exact if_pos represents.stamped
          constructor
          · exact represents.located
          · exact represents.stamped
          · exact represents.current
          · exact readBack.trans represents.current
      · cases stepped
  | restart secs limits =>
      cases stepped
      have sameStamp : periodStartSecs period secs = periodStart := within
      constructor
      · rfl
      · exact sameStamp
      · rw [start, BudgetLedger.new, sameStamp]
        exact represents.saved
      · exact represents.saved

/-- The run lemma: a run within the period is a run of its checkpoint. -/
theorem Represents.run
    (roundTrips : ∀ snap text, codec.toStringPretty snap = .ok text →
      codec.fromStr text = some snap)
    {periodStart : UInt64} {session after : Session}
    {checkpoint : Checkpoint (Table String KeyCounters)}
    (represents : Represents codec path periodStart session checkpoint)
    {ops : List SessionOp} (within : ∀ op ∈ ops, op.within period periodStart)
    (ran : session.run codec period path ops = .ok after) :
    Represents codec path periodStart after
      (checkpoint.run LedgerEvent.apply (ops.map SessionOp.checkpoint)) := by
  induction ops generalizing session checkpoint with
  | nil =>
      cases ran
      exact represents
  | cons op ops ih =>
      rw [Session.run, List.foldlM_cons] at ran
      cases stepped : session.step codec period path op with
      | error error =>
          rw [stepped] at ran
          cases ran
      | ok middle =>
          rw [stepped] at ran
          have represented := represents.step roundTrips (within op List.mem_cons_self) stepped
          apply ih represented _ ran
          intro other membership
          exact within other (List.mem_cons_of_mem _ membership)

end Session

/-- The recordings that were flushed before the next restart. -/
def flushedRecordings (ops : List SessionOp) : List Recording :=
  (Checkpoint.survivors (ops.map SessionOp.checkpoint)).saved.filterMap
    LedgerEvent.recording?

namespace LedgerEvent

/-- A check counts nothing, and recordings add up modulo 2^64. -/
theorem get_foldl_apply (counters : Table String KeyCounters) (events : List LedgerEvent)
    (key : String) (dimension : Dimension) :
    (((events.foldl apply counters).lookup key).getD .default).get dimension =
      ((counters.lookup key).getD .default).get dimension +
        UInt64.ofNat (BudgetLedger.recorded (events.filterMap recording?) key dimension) := by
  induction events generalizing counters with
  | nil => simp [BudgetLedger.recorded]
  | cons event events ih =>
      rw [List.foldl_cons, ih]
      cases event with
      | check other proposed =>
          rw [List.filterMap_cons_none rfl]
          by_cases same : key = other
          · subst same
            simp [apply]
          · simp [apply, same]
      | record recording =>
          rw [List.filterMap_cons_some (f := recording?) (b := recording) rfl]
          by_cases same : key = recording.key
          · subst same
            simp [apply, BudgetLedger.recorded, UInt64.ofNat_add, UInt64.add_assoc]
          · simp [apply, same, BudgetLedger.recorded, Ne.symm same]

end LedgerEvent

namespace Session

variable {codec : SnapshotCodec} {period : Duration} {path : String}

/-- **Sessions.**  After a restart every key has the entry it had at the last flush,
none if there was no flush or no entry, and its counters are the sums of what was
recorded and flushed. -/
theorem restart_restores_last_flush
    (roundTrips : ∀ snap text, codec.toStringPretty snap = .ok text →
      codec.fromStr text = some snap)
    {files : FileSystem} (absent : files path = none) (started : UInt64)
    (limits : Table String BudgetLimit) (ops : List SessionOp)
    (within : ∀ op ∈ ops, op.within period (periodStartSecs period started)) {after : Session}
    (ran : (start codec period path files started limits).run codec period path ops =
      .ok after)
    {secs : UInt64} (restartWithin : periodStartSecs period secs = periodStartSecs period started)
    (restartLimits : Table String BudgetLimit) (key : String) :
    let restarted := BudgetLedger.new codec after.files secs restartLimits period (some path)
    (∀ before faults between flushing, ops = before ++ .flush faults :: between →
        (∀ op ∈ between, ∀ faults, op ≠ .flush faults) →
        (start codec period path files started limits).run codec period path before =
          .ok flushing →
        restarted.usageFor key = flushing.ledger.usageFor key) ∧
      ((∀ op ∈ ops, ∀ faults, op ≠ .flush faults) → restarted.usageFor key = none) ∧
      ∀ dimension, (restarted.countersFor key).get dimension =
        UInt64.ofNat (BudgetLedger.recorded (flushedRecordings ops) key dimension) := by
  intro restarted
  have noSave : ∀ {ops : List SessionOp}, (∀ op ∈ ops, ∀ faults, op ≠ .flush faults) →
      .save ∉ ops.map SessionOp.checkpoint := by
    intro ops noFlush membership
    rcases List.mem_map.mp membership with ⟨op, opMembership, isSave⟩
    cases op with
    | act event => cases isSave
    | flush faults => exact noFlush _ opMembership faults rfl
    | restart secs limits => cases isSave
  have initially : Represents codec path (periodStartSecs period started)
      (start codec period path files started limits) ⟨∅, ∅⟩ :=
    start_represents absent started limits
  have represents := initially.run roundTrips within ran
  have restored : restarted.counters =
      (Checkpoint.run LedgerEvent.apply ⟨∅, ∅⟩ (ops.map SessionOp.checkpoint)).saved := by
    rw [← represents.saved, ← restartWithin]
    rfl
  constructor
  · rintro before faults between flushing rfl noFlush ranBefore
    have withinBefore : ∀ op ∈ before, op.within period (periodStartSecs period started) := by
      intro op membership
      exact within op (List.mem_append_left _ membership)
    have flushed := initially.run roundTrips withinBefore ranBefore
    rw [List.map_append, List.map_cons] at restored
    have sameCounters := restored.trans
      (Checkpoint.saved_run_last_save LedgerEvent.apply ⟨∅, ∅⟩ _ (noSave noFlush))
    rw [BudgetLedger.usageFor, BudgetLedger.usageFor, sameCounters, flushed.current]
  constructor
  · intro noFlush
    rw [BudgetLedger.usageFor, restored, Checkpoint.saved_run_of_notMem _ _ (noSave noFlush)]
    exact Finmap.lookup_empty key
  · intro dimension
    rw [Checkpoint.run_survivors] at restored
    rw [BudgetLedger.countersFor, restored, Checkpoint.map, LedgerEvent.get_foldl_apply,
      Finmap.lookup_empty, Option.getD_none, KeyCounters.get_default, UInt64.zero_add,
      flushedRecordings]

/-- Ten tokens are flushed, five more are not. -/
def tenOfFifteen : List SessionOp :=
  [.act (.record ⟨10, "dev", ⟨0, 0, 10⟩⟩), .flush ⟨none, none⟩,
    .act (.record ⟨20, "dev", ⟨0, 0, 5⟩⟩)]

/-- The restarted ledger has the ten tokens. -/
theorem restart_restores_ten :
    ∃ after, (start BudgetLedger.tenTokensCodec BudgetLedger.hour "budget_snapshot.json"
        BudgetLedger.emptyDisk 0 ∅).run BudgetLedger.tenTokensCodec BudgetLedger.hour
          "budget_snapshot.json" tenOfFifteen = .ok after ∧
      (BudgetLedger.new BudgetLedger.tenTokensCodec after.files 30 ∅ BudgetLedger.hour
        (some "budget_snapshot.json")).usageFor "dev" = some ⟨0, 0, 10⟩ := by
  have within : ∀ op ∈ tenOfFifteen,
      op.within BudgetLedger.hour (periodStartSecs BudgetLedger.hour 0) := by
    simp [tenOfFifteen, SessionOp.within]
  have absent : BudgetLedger.emptyDisk "budget_snapshot.json" = none := rfl
  have restored := restart_restores_last_flush BudgetLedger.tenTokensCodec_roundTrips absent
    0 ∅ tenOfFifteen within rfl
    (show periodStartSecs BudgetLedger.hour 30 = _ by decide) ∅ "dev"
  have atFlush := restored.1 [.act (.record ⟨10, "dev", ⟨0, 0, 10⟩⟩)] ⟨none, none⟩
    [.act (.record ⟨20, "dev", ⟨0, 0, 5⟩⟩)] _ rfl (by simp) rfl
  exact ⟨_, rfl, atFlush.trans (by decide +kernel)⟩

end Session

end Patchbay
