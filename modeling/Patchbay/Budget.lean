import Mathlib.Data.List.DropRight
import Patchbay.Lib.Table
import Patchbay.Upstream.Usage

/-!
# Per-key token budgets

Three counters a key, checked against optional maxima before a request and
increased after it.  Counters are 64-bit and wrap.  The ledger stamps itself with
the start of the accounting period it was created in; flushing writes the stamp
and the counters to a snapshot file, and a new ledger restores a snapshot that
carries its own stamp.
-/

namespace Patchbay

/-- The three budgeted dimensions, in the order they are checked. -/
inductive Dimension where
  | prompt
  | completion
  | total
  deriving DecidableEq, Repr

namespace Dimension

def all : List Dimension := [.prompt, .completion, .total]

@[simp] theorem mem_all (dimension : Dimension) : dimension ∈ all := by
  cases dimension <;> simp [all]

end Dimension

namespace Usage

def get (usage : Usage) : Dimension → UInt64
  | .prompt => usage.promptTokens
  | .completion => usage.completionTokens
  | .total => usage.totalTokens

/-- Usage in one dimension. -/
def only (dimension : Dimension) (tokens : UInt64) : Usage where
  promptTokens := if dimension = .prompt then tokens else 0
  completionTokens := if dimension = .completion then tokens else 0
  totalTokens := if dimension = .total then tokens else 0

@[simp] theorem get_only (dimension other : Dimension) (tokens : UInt64) :
    (only dimension tokens).get other = if dimension = other then tokens else 0 := by
  cases other <;> rfl

end Usage

/-- Budget limit for a single key; `none` means unlimited. -/
structure BudgetLimit where
  maxPromptTokens : Option UInt64
  maxCompletionTokens : Option UInt64
  maxTotalTokens : Option UInt64
  deriving DecidableEq, Repr

namespace BudgetLimit

def unlimited : BudgetLimit := ⟨none, none, none⟩

def get (limit : BudgetLimit) : Dimension → Option UInt64
  | .prompt => limit.maxPromptTokens
  | .completion => limit.maxCompletionTokens
  | .total => limit.maxTotalTokens

end BudgetLimit

/-- Which dimension was exceeded. -/
inductive BudgetExceeded where
  | promptTokens (used limit : UInt64)
  | completionTokens (used limit : UInt64)
  | totalTokens (used limit : UInt64)
  deriving DecidableEq, Repr

namespace BudgetExceeded

def message : BudgetExceeded → String
  | .promptTokens used limit =>
      "prompt token budget exceeded (" ++ toString used ++ "/" ++ toString limit ++ ")"
  | .completionTokens used limit =>
      "completion token budget exceeded (" ++ toString used ++ "/" ++ toString limit ++ ")"
  | .totalTokens used limit =>
      "total token budget exceeded (" ++ toString used ++ "/" ++ toString limit ++ ")"

end BudgetExceeded

/-- Counters for one key.  A snapshot of them is the same three numbers. -/
structure KeyCounters where
  promptTokens : UInt64
  completionTokens : UInt64
  totalTokens : UInt64
  deriving DecidableEq, Repr

namespace KeyCounters

def default : KeyCounters := ⟨0, 0, 0⟩

def get (counters : KeyCounters) : Dimension → UInt64
  | .prompt => counters.promptTokens
  | .completion => counters.completionTokens
  | .total => counters.totalTokens

def addUsage (counters : KeyCounters) (usage : Usage) : KeyCounters where
  promptTokens := counters.promptTokens + usage.promptTokens
  completionTokens := counters.completionTokens + usage.completionTokens
  totalTokens := counters.totalTokens + usage.totalTokens

/-- One dimension of `wouldExceed`; the sum wraps. -/
def exceeds (max : Option UInt64) (current proposed : UInt64)
    (exceeded : UInt64 → UInt64 → BudgetExceeded) : Option BudgetExceeded :=
  match max with
  | none => none
  | some max => if max < current + proposed then some (exceeded current max) else none

/-- The first dimension that the counters plus `proposed` would exceed. -/
def wouldExceed (counters : KeyCounters) (limit : BudgetLimit) (proposed : Usage) :
    Option BudgetExceeded :=
  (exceeds limit.maxPromptTokens counters.promptTokens proposed.promptTokens
      .promptTokens).or <|
    (exceeds limit.maxCompletionTokens counters.completionTokens
        proposed.completionTokens .completionTokens).or <|
      exceeds limit.maxTotalTokens counters.totalTokens proposed.totalTokens .totalTokens

@[simp] theorem get_addUsage (counters : KeyCounters) (usage : Usage)
    (dimension : Dimension) :
    (counters.addUsage usage).get dimension = counters.get dimension + usage.get dimension := by
  cases dimension <;> rfl

@[simp] theorem get_default (dimension : Dimension) : default.get dimension = 0 := by
  cases dimension <;> rfl

theorem exceeds_isSome {max : Option UInt64} {current proposed : UInt64}
    {exceeded : UInt64 → UInt64 → BudgetExceeded} :
    (exceeds max current proposed exceeded).isSome ↔
      ∃ limit, max = some limit ∧ limit < current + proposed := by
  cases max with
  | none => simp [exceeds]
  | some limit => by_cases exceeded : limit < current + proposed <;> simp [exceeds, exceeded]

/-- A check fails exactly when some limited dimension is exceeded. -/
theorem wouldExceed_isSome {counters : KeyCounters} {limit : BudgetLimit}
    {proposed : Usage} :
    (counters.wouldExceed limit proposed).isSome ↔
      ∃ dimension max, limit.get dimension = some max ∧
        max < counters.get dimension + proposed.get dimension := by
  have byDimension : (counters.wouldExceed limit proposed).isSome ↔
      (∃ max, limit.get .prompt = some max ∧
          max < counters.get .prompt + proposed.get .prompt) ∨
        (∃ max, limit.get .completion = some max ∧
          max < counters.get .completion + proposed.get .completion) ∨
        (∃ max, limit.get .total = some max ∧
          max < counters.get .total + proposed.get .total) := by
    simp only [wouldExceed, Option.isSome_or, Bool.or_eq_true, exceeds_isSome]
    rfl
  rw [byDimension]
  constructor
  · rintro (exceeded | exceeded | exceeded)
    · exact ⟨.prompt, exceeded⟩
    · exact ⟨.completion, exceeded⟩
    · exact ⟨.total, exceeded⟩
  · rintro ⟨dimension, exceeded⟩
    cases dimension with
    | prompt => exact .inl exceeded
    | completion => exact .inr (.inl exceeded)
    | total => exact .inr (.inr exceeded)

end KeyCounters

/-! ## Paths -/

/-- A reversed path without the slashes and `.` components that it ends in. -/
def skipTrailing : List Char → List Char
  | '/' :: rest => skipTrailing rest
  | '.' :: '/' :: rest => skipTrailing rest
  | path => path

/-- `Path::file_name`, with the part of the path before it. -/
def splitFileName (path : List Char) : Option (List Char × List Char) :=
  let path := (skipTrailing path.reverse).reverse
  let file := path.rtakeWhile (· != '/')
  if file = [] ∨ file = ['.'] ∨ file = ['.', '.'] then none
  else some (path.rdropWhile (· != '/'), file)

/-- The stem and the extension of a file name: a dot that it starts with is no separator. -/
def rsplitFileAtDot (file : List Char) : List Char × Option (List Char) :=
  if '.' ∈ file.tail then
    ((file.rdropWhile (· != '.')).dropLast, some (file.rtakeWhile (· != '.')))
  else (file, none)

/-- `PathBuf::set_extension`: a path that names no file stays as it is. -/
def setExtension (path extension : List Char) : List Char :=
  match splitFileName path with
  | none => path
  | some (dir, file) => dir ++ (rsplitFileAtDot file).1 ++ '.' :: extension

/-- `Path::with_extension`: the length of the previous extension is cut off the whole path,
whatever follows the file name. -/
def withExtension (path extension : String) : String :=
  let file := splitFileName path.toList
  let previous := (file.bind fun (_, file) => (rsplitFileAtDot file).2).getD []
  String.ofList (setExtension (path.toList.rdrop previous.length) extension.toList)

example : ["dir/budget.json", "..foo", "sl/", "x.json/", "x.tmp/.", "a/.."].map
    (withExtension · "tmp") = ["dir/budget.tmp", "..", "sl.tmp", "x.tmp", "x.tmp", "a/.."] := by
  decide +kernel

/-! ## Periods and snapshots -/

structure Duration where
  secs : UInt64
  nanos : Fin 1000000000

/-- The start of the accounting period that contains `now`. -/
def periodStartSecs (period : Duration) (now : UInt64) : UInt64 :=
  let secs := max period.secs 1
  (now / secs) * secs

/-- Full on-disk snapshot. -/
structure LedgerSnapshot where
  periodStart : UInt64
  entries : Table String KeyCounters
  deriving DecidableEq

/-- Serialization of snapshots. -/
structure SnapshotCodec where
  toStringPretty : LedgerSnapshot → Except String String
  fromStr : String → Option LedgerSnapshot

/-- Contents of the files that exist. -/
abbrev FileSystem := String → Option String

namespace FileSystem

def write (files : FileSystem) (path text : String) : FileSystem :=
  Function.update files path (some text)

def rename (files : FileSystem) (old new : String) : FileSystem :=
  Function.update (Function.update files old none) new (files old)

end FileSystem

/-- The file operations of a flush that fail, with their errors. -/
structure FlushFaults where
  write : Option String
  rename : Option String

structure BudgetLedger where
  /-- When this period started. -/
  periodStart : UInt64
  counters : Table String KeyCounters
  limits : Table String BudgetLimit
  /-- Where to write snapshots; `none` disables persistence. -/
  snapshotPath : Option String

namespace BudgetLedger

/-- The counters of the snapshot at `path`, if it is from period `periodStart`. -/
def restore (codec : SnapshotCodec) (files : FileSystem) (snapshotPath : Option String)
    (periodStart : UInt64) : Table String KeyCounters :=
  match (snapshotPath.bind files).bind codec.fromStr with
  | none => ∅
  | some snap => if snap.periodStart = periodStart then snap.entries else ∅

def new (codec : SnapshotCodec) (files : FileSystem) (now : UInt64)
    (limits : Table String BudgetLimit) (period : Duration)
    (snapshotPath : Option String) : BudgetLedger where
  periodStart := periodStartSecs period now
  counters := restore codec files snapshotPath (periodStartSecs period now)
  limits
  snapshotPath

/-- The counters of `key`, as `counters_for` finds or creates them. -/
def countersFor (ledger : BudgetLedger) (key : String) : KeyCounters :=
  (ledger.counters.lookup key).getD .default

/-- The ledger after `counters_for` made sure that `key` has an entry. -/
def withEntry (ledger : BudgetLedger) (key : String) : BudgetLedger :=
  { ledger with counters := Table.update ledger.counters key .default id }

def limitFor (ledger : BudgetLedger) (key : String) : BudgetLimit :=
  (ledger.limits.lookup key).getD .unlimited

def check (ledger : BudgetLedger) (key : String) (proposed : Usage) :
    Except BudgetExceeded Unit × BudgetLedger :=
  (match (ledger.countersFor key).wouldExceed (ledger.limitFor key) proposed with
    | some exceeded => .error exceeded
    | none => .ok (),
    ledger.withEntry key)

def record (ledger : BudgetLedger) (key : String) (usage : Usage) : BudgetLedger :=
  { ledger with
    counters := Table.update ledger.counters key .default fun counters =>
      counters.addUsage usage }

def usageFor (ledger : BudgetLedger) (key : String) : Option KeyCounters :=
  ledger.counters.lookup key

/-- Write a temporary file, then rename it over the snapshot. -/
def flush (codec : SnapshotCodec) (faults : FlushFaults) (ledger : BudgetLedger)
    (files : FileSystem) : Except String Unit × FileSystem :=
  match ledger.snapshotPath with
  | none => (.ok (), files)
  | some path =>
      let snap : LedgerSnapshot :=
        { periodStart := ledger.periodStart, entries := ledger.counters }
      match codec.toStringPretty snap with
      | .error error => (.error error, files)
      | .ok json =>
          let tmpPath := withExtension path "tmp"
          match faults.write with
          | some error => (.error error, files)
          | none =>
              let files := files.write tmpPath json
              match faults.rename with
              | some error => (.error error, files)
              | none => (.ok (), files.rename tmpPath path)

/-! ## Small facts -/

@[simp] theorem new_periodStart (codec : SnapshotCodec) (files : FileSystem) (now : UInt64)
    (limits : Table String BudgetLimit) (period : Duration) (snapshotPath : Option String) :
    (new codec files now limits period snapshotPath).periodStart =
      periodStartSecs period now := rfl

@[simp] theorem record_limits (ledger : BudgetLedger) (key : String) (usage : Usage) :
    (ledger.record key usage).limits = ledger.limits := rfl

@[simp] theorem check_limits (ledger : BudgetLedger) (key : String) (proposed : Usage) :
    (ledger.check key proposed).2.limits = ledger.limits := rfl

@[simp] theorem record_periodStart (ledger : BudgetLedger) (key : String) (usage : Usage) :
    (ledger.record key usage).periodStart = ledger.periodStart := rfl

@[simp] theorem record_snapshotPath (ledger : BudgetLedger) (key : String) (usage : Usage) :
    (ledger.record key usage).snapshotPath = ledger.snapshotPath := rfl

theorem countersFor_record (ledger : BudgetLedger) (key other : String) (usage : Usage) :
    (ledger.record key usage).countersFor other =
      if other = key then (ledger.countersFor other).addUsage usage
      else ledger.countersFor other := by
  by_cases same : other = key
  · subst same
    simp [record, countersFor]
  · simp [record, countersFor, same]

/-- Looking a key up does not change what is counted. -/
theorem countersFor_withEntry (ledger : BudgetLedger) (key other : String) :
    (ledger.withEntry key).countersFor other = ledger.countersFor other := by
  by_cases same : other = key
  · subst same
    simp [withEntry, countersFor]
  · simp [withEntry, countersFor, same]

/-- A flush that succeeded left the encoded snapshot at its path. -/
theorem flush_ok {codec : SnapshotCodec} {faults : FlushFaults} {ledger : BudgetLedger}
    {files flushed : FileSystem} {path : String} (persistent : ledger.snapshotPath = some path)
    (succeeded : ledger.flush codec faults files = (.ok (), flushed)) :
    ∃ text, codec.toStringPretty ⟨ledger.periodStart, ledger.counters⟩ = .ok text ∧
      flushed path = some text := by
  simp only [flush, persistent] at succeeded
  split at succeeded
  · cases succeeded
  · next text encoded =>
      split at succeeded
      · cases succeeded
      · split at succeeded
        · cases succeeded
        · cases succeeded
          exact ⟨text, encoded, by simp [FileSystem.rename, FileSystem.write]⟩

theorem check_error_iff {ledger : BudgetLedger} {key : String} {proposed : Usage} :
    (∃ exceeded, (ledger.check key proposed).1 = .error exceeded) ↔
      ∃ dimension max, (ledger.limitFor key).get dimension = some max ∧
        max < (ledger.countersFor key).get dimension + proposed.get dimension := by
  rw [← KeyCounters.wouldExceed_isSome, check]
  cases (ledger.countersFor key).wouldExceed (ledger.limitFor key) proposed <;> simp

end BudgetLedger

end Patchbay
