import Mathlib.Logic.Function.Basic
import Patchbay.Budget
import Patchbay.Lib.Disk
import Patchbay.Lib.Schedule

/-!
# The snapshot file

Flushes of one ledger that run at the same time, each a sequence of file operations that
others may interleave with and that a crash may cut short anywhere.  All of them write the
same temporary file.
-/

namespace Patchbay

def utf8Bytes (text : String) : Bytes := text.toUTF8.data.toList

/-- Where a flush stands. -/
inductive FlushStep where
  /-- It has read the counters and is about to encode them. -/
  | encode
  | create (json : Bytes)
  /-- The temporary file is open, with this much written. -/
  | write (json : Bytes) (file offset : Nat)
  | rename
  | done (result : Except String Unit)

namespace FlushStep

/-- Between truncating the temporary file and renaming it. -/
def usesTmp : FlushStep → Bool
  | .write .. => true
  | .rename => true
  | _ => false

/-- Go on writing until all is written. -/
def writing (json : Bytes) (file offset : Nat) : FlushStep :=
  if json.length ≤ offset then .rename else .write json file offset

end FlushStep

/-- A flush makes its next step, writing at most so many further bytes, or fails there. -/
inductive FlushEvent where
  | advance (count : Nat)
  | fail (error : String)

/-- The disk and the flushes that are under way. -/
structure FlushRace (ι : Type) where
  disk : Disk String
  next : ι → FlushStep

namespace FlushRace

variable {ι : Type} [DecidableEq ι] (codec : SnapshotCodec) (path : String)
  (snaps : ι → LedgerSnapshot)

def start (disk : Disk String) : FlushRace ι where
  disk
  next _ := .encode

/-- The next step of a flush, given what it has read of the counters.  `write` may write
less than it was given, and is then called again. -/
def advance (snap : LedgerSnapshot) (count : Nat) (disk : Disk String) :
    FlushStep → Option (Disk String × FlushStep)
  | .encode =>
      match codec.toStringPretty snap with
      | .error error => some (disk, .done (.error error))
      | .ok json => some (disk, .create (utf8Bytes json))
  | .create json =>
      let opened := disk.create (withExtension path "tmp")
      some (opened.2, .writing json opened.1 0)
  | .write json file offset =>
      let chunk := (json.drop offset).take (count + 1)
      some (disk.write file offset chunk, .writing json file (offset + chunk.length))
  | .rename =>
      match disk.rename (withExtension path "tmp") path with
      | some disk => some (disk, .done (.ok ()))
      | none => some (disk, .done (.error "No such file or directory (os error 2)"))
  | .done _ => none

/-- One step of one flush. -/
def step (race : FlushRace ι) (call : ι) (event : FlushEvent) : Option (FlushRace ι) :=
  match event with
  | .advance count =>
      (advance codec path (snaps call) count race.disk (race.next call)).map fun moved =>
        ⟨moved.1, Function.update race.next call moved.2⟩
  | .fail error =>
      match race.next call with
      | .done _ => none
      | _ => some ⟨race.disk, Function.update race.next call (.done (.error error))⟩

/-- A run up to now, or up to a crash. -/
def run (race : FlushRace ι) (events : List (ι × FlushEvent)) : Option (FlushRace ι) :=
  events.foldlM (fun race event => race.step codec path snaps event.1 event.2) race

/-- The complete JSON of some flush's snapshot. -/
def Document (json : Bytes) : Prop :=
  ∃ call text, codec.toStringPretty (snaps call) = .ok text ∧ json = utf8Bytes text

/-- The file at `path` is what it was, or a complete snapshot. -/
def Intact (initial : Option Bytes) (race : FlushRace ι) : Prop :=
  race.disk.content path = initial ∨
    ∃ json, Document codec snaps json ∧ race.disk.content path = some json

/-- If a flush is about to truncate the temporary file, no other uses it. -/
def Exclusive (race : FlushRace ι) (call : ι) : Prop :=
  ∀ json, race.next call = .create json →
    ∀ other, other ≠ call → (race.next other).usesTmp = false

/-- Every step of the run is exclusive. -/
def RunsExclusively (race : FlushRace ι) : List (ι × FlushEvent) → Prop
  | [] => True
  | event :: events => race.Exclusive event.1 ∧
      ∀ after, race.step codec path snaps event.1 event.2 = some after →
        after.RunsExclusively events

/-! ## What a step does -/

variable {codec path snaps} {race after : FlushRace ι} {call : ι}

/-- The kinds of steps. -/
inductive Stepped (codec : SnapshotCodec) (path : String) (snaps : ι → LedgerSnapshot)
    (race : FlushRace ι) (call : ι) : FlushRace ι → Prop
  /-- It fails, to encode, with its file operation, or since the temporary file is gone. -/
  | failed (error : String) :
      Stepped codec path snaps race call
        ⟨race.disk, Function.update race.next call (.done (.error error))⟩
  | encoded {text : String} (encodes : codec.toStringPretty (snaps call) = .ok text) :
      Stepped codec path snaps race call
        ⟨race.disk, Function.update race.next call (.create (utf8Bytes text))⟩
  | created {json : Bytes} (creating : race.next call = .create json) :
      Stepped codec path snaps race call
        ⟨(race.disk.create (withExtension path "tmp")).2, Function.update race.next call
          (.writing json (race.disk.create (withExtension path "tmp")).1 0)⟩
  | wrote {json : Bytes} {file offset : Nat} (count : Nat)
      (writing : race.next call = .write json file offset) :
      Stepped codec path snaps race call
        ⟨race.disk.write file offset ((json.drop offset).take (count + 1)),
          Function.update race.next call (.writing json file
            (offset + ((json.drop offset).take (count + 1)).length))⟩
  | renamed {disk : Disk String} (moving : race.next call = .rename)
      (renamed : race.disk.rename (withExtension path "tmp") path = some disk) :
      Stepped codec path snaps race call
        ⟨disk, Function.update race.next call (.done (.ok ()))⟩

theorem step_spec {event : FlushEvent}
    (stepped : race.step codec path snaps call event = some after) :
    Stepped codec path snaps race call after := by
  cases event with
  | fail error =>
      simp only [step] at stepped
      split at stepped
      · cases stepped
      · cases stepped
        exact .failed error
  | advance count =>
      rcases Option.map_eq_some_iff.mp stepped with ⟨⟨disk, next⟩, advanced, same⟩
      subst same
      cases here : race.next call with
      | encode =>
          rw [here, advance] at advanced
          split at advanced
          · next error failed =>
              cases advanced
              exact .failed error
          · next text encodes =>
              cases advanced
              exact .encoded encodes
      | create json =>
          rw [here, advance] at advanced
          cases advanced
          exact .created here
      | write json file offset =>
          rw [here, advance] at advanced
          cases advanced
          exact .wrote count here
      | rename =>
          rw [here, advance] at advanced
          split at advanced
          · next renamed =>
              cases advanced
              exact .renamed here renamed
          · cases advanced
            exact .failed _
      | done result =>
          rw [here, advance] at advanced
          cases advanced

/-! ## Exclusive runs -/

/-- What a flush relies on: the temporary file that it uses holds what it has written. -/
def Relies (codec : SnapshotCodec) (path : String) (snaps : ι → LedgerSnapshot)
    (disk : Disk String) : FlushStep → Prop
  | .create json => Document codec snaps json
  | .write json file offset =>
      Document codec snaps json ∧ offset ≤ json.length ∧
        disk.lookup (withExtension path "tmp") = some file ∧
        disk.content (withExtension path "tmp") = some (json.take offset)
  | .rename =>
      ∃ json, Document codec snaps json ∧
        disk.content (withExtension path "tmp") = some json
  | _ => True

/-- Between the steps of exclusive runs. -/
structure Orderly (codec : SnapshotCodec) (path : String) (snaps : ι → LedgerSnapshot)
    (initial : Option Bytes) (race : FlushRace ι) : Prop where
  intact : Intact codec path snaps initial race
  /-- At most one flush uses the temporary file. -/
  sole : ∀ call other, (race.next call).usesTmp → other ≠ call →
    (race.next other).usesTmp = false
  relies : ∀ call, Relies codec path snaps race.disk (race.next call)

omit [DecidableEq ι] in
theorem Relies.of_idle {disk later : Disk String} {next : FlushStep}
    (idle : next.usesTmp = false) (relies : Relies codec path snaps disk next) :
    Relies codec path snaps later next := by
  cases next with
  | encode | done => trivial
  | create json => exact relies
  | write | rename => cases idle

omit [DecidableEq ι] in
theorem Relies.writing {disk : Disk String} {json : Bytes} {file offset : Nat}
    (document : Document codec snaps json) (inside : offset ≤ json.length)
    (opened : disk.lookup (withExtension path "tmp") = some file)
    (written : disk.content (withExtension path "tmp") = some (json.take offset)) :
    Relies codec path snaps disk (.writing json file offset) := by
  rw [FlushStep.writing]
  split
  · next complete =>
      rw [List.take_of_length_le complete] at written
      exact ⟨json, document, written⟩
  · exact ⟨document, inside, opened, written⟩

/-- A step that leaves the disk alone and does not take the temporary file. -/
theorem Orderly.idle {initial : Option Bytes} (orderly : race.Orderly codec path snaps initial)
    {next : FlushStep} (idle : next.usesTmp = false)
    (relies : Relies codec path snaps race.disk next) :
    Orderly codec path snaps initial ⟨race.disk, Function.update race.next call next⟩ := by
  constructor
  · exact orderly.intact
  · intro first other uses different
    simp only [Function.update_apply] at uses ⊢
    split at uses
    · rw [idle] at uses
      cases uses
    · split
      · exact idle
      · exact orderly.sole first other uses different
  · intro other
    simp only [Function.update_apply]
    split
    · exact relies
    · exact orderly.relies other

/-- A step of the only flush that uses the temporary file. -/
theorem Orderly.alone {initial : Option Bytes} (orderly : race.Orderly codec path snaps initial)
    (others : ∀ other, other ≠ call → (race.next other).usesTmp = false)
    {disk : Disk String} {next : FlushStep}
    (intact : Intact codec path snaps initial
      (⟨disk, Function.update race.next call next⟩ : FlushRace ι))
    (relies : Relies codec path snaps disk next) :
    Orderly codec path snaps initial ⟨disk, Function.update race.next call next⟩ := by
  constructor
  · exact intact
  · intro first other uses different
    simp only [Function.update_apply] at uses ⊢
    split at uses
    · next isCall =>
        rw [if_neg (by rwa [← isCall])]
        exact others other (by rwa [← isCall])
    · next notCall =>
        rw [others first notCall] at uses
        cases uses
  · intro other
    simp only [Function.update_apply]
    split
    · exact relies
    · next notCall => exact (orderly.relies other).of_idle (others other notCall)

/-- **Step.** An exclusive step keeps the snapshot file intact. -/
theorem step_orderly (separate : withExtension path "tmp" ≠ path) {initial : Option Bytes}
    (orderly : race.Orderly codec path snaps initial) {event : FlushEvent}
    (exclusive : race.Exclusive call)
    (stepped : race.step codec path snaps call event = some after) :
    after.Orderly codec path snaps initial := by
  have relies := orderly.relies call
  cases step_spec stepped with
  | failed error => exact orderly.idle rfl trivial
  | encoded encodes => exact orderly.idle rfl ⟨call, _, encodes, rfl⟩
  | created creating =>
      apply orderly.alone (exclusive _ creating)
      · rw [Intact, Disk.content_create_of_ne (Ne.symm separate)]
        exact orderly.intact
      · rw [creating] at relies
        apply Relies.writing relies (Nat.zero_le _) Disk.lookup_create_self
        exact Disk.content_create_self
  | wrote count writing =>
      rw [writing] at relies
      rcases relies with ⟨document, inside, opened, written⟩
      apply orderly.alone (fun other => orderly.sole call other (by rw [writing]; rfl))
      · rw [Intact, Disk.write, SharedTable.content_modify_of_ne _ opened (Ne.symm separate)]
        exact orderly.intact
      · apply Relies.writing document
        · rw [List.length_take, List.length_drop]
          omega
        · exact opened
        · rw [Disk.write, SharedTable.content_modify_self _ opened, written, Option.map_some,
            Disk.writeAt_take _ _ _ inside, Option.some.injEq, List.take_eq_take_iff,
            List.length_take, List.length_drop]
          omega
  | renamed moving renamed =>
      rw [moving] at relies
      rcases relies with ⟨json, document, written⟩
      apply orderly.alone (fun other => orderly.sole call other (by rw [moving]; rfl))
      · right
        use json, document
        rw [← written]
        exact SharedTable.content_rename_new renamed
      · trivial

/-- **Run.** -/
theorem run_orderly (separate : withExtension path "tmp" ≠ path) {initial : Option Bytes}
    (orderly : race.Orderly codec path snaps initial) (events : List (ι × FlushEvent))
    (exclusive : race.RunsExclusively codec path snaps events)
    (ran : race.run codec path snaps events = some after) :
    after.Orderly codec path snaps initial := by
  induction events generalizing race with
  | nil =>
      cases ran
      exact orderly
  | cons event events ih =>
      rcases Schedule.run_cons.mp ran with ⟨middle, stepped, rest⟩
      exact ih (step_orderly separate orderly exclusive.1 stepped)
        (exclusive.2 middle stepped) rest

omit [DecidableEq ι] in
theorem start_orderly (disk : Disk String) :
    (start disk : FlushRace ι).Orderly codec path snaps (disk.content path) where
  intact := .inl rfl
  sole := by
    intro call other uses
    cases uses
  relies := by
    intro call
    trivial

/-- A flush by itself is exclusive. -/
theorem runsExclusively_of_subsingleton [Subsingleton ι] (events : List (ι × FlushEvent)) :
    race.RunsExclusively codec path snaps events := by
  induction events generalizing race with
  | nil => trivial
  | cons event events ih =>
      constructor
      · intro json creating other different
        exact absurd (Subsingleton.elim other event.1) different
      · intro after stepped
        exact ih

/-! ## One flush at a time -/

theorem run_cons (call : ι) (event : FlushEvent) (events : List (ι × FlushEvent)) :
    race.run codec path snaps ((call, event) :: events) =
      (race.step codec path snaps call event).bind fun middle =>
        middle.run codec path snaps events :=
  List.foldlM_cons

theorem run_append (before later : List (ι × FlushEvent)) :
    race.run codec path snaps (before ++ later) =
      (race.run codec path snaps before).bind fun middle =>
        middle.run codec path snaps later :=
  List.foldlM_append

theorem runsExclusively_append {before later : List (ι × FlushEvent)}
    (exclusive : race.RunsExclusively codec path snaps before)
    (after : ∀ middle, race.run codec path snaps before = some middle →
      middle.RunsExclusively codec path snaps later) :
    race.RunsExclusively codec path snaps (before ++ later) := by
  induction before generalizing race with
  | nil => exact after race rfl
  | cons event before ih =>
      refine ⟨exclusive.1, fun middle stepped => ?_⟩
      apply ih (exclusive.2 middle stepped)
      intro last ran
      apply after last
      rw [run_cons, stepped, Option.bind_some, ran]

/-- A flush is exclusive while no other uses the temporary file. -/
theorem runsExclusively_alone (unused : ∀ other, other ≠ call → (race.next other).usesTmp = false)
    (events : List FlushEvent) :
    race.RunsExclusively codec path snaps (events.map (call, ·)) := by
  induction events generalizing race with
  | nil => trivial
  | cons event events ih =>
      refine ⟨fun json creating => unused, fun after stepped => ih fun other different => ?_⟩
      have still : after.next other = race.next other := by
        cases event with
        | advance count =>
            rw [step, Option.map_eq_some_iff] at stepped
            rcases stepped with ⟨moved, -, rfl⟩
            exact Function.update_of_ne different _ _
        | fail error =>
            rw [step] at stepped
            split at stepped
            · cases stepped
            · cases stepped
              exact Function.update_of_ne different _ _
      rw [still]
      exact unused other different

/-- Only one flush has moved, and only the temporary file has changed. -/
structure Confined (path : String) (call : ι) (race after : FlushRace ι) : Prop where
  others : ∀ other, other ≠ call → after.next other = race.next other
  files : ∀ name, name ≠ withExtension path "tmp" →
    after.disk.content name = race.disk.content name

omit [DecidableEq ι] in
theorem Confined.trans {middle : FlushRace ι} (first : Confined path call race middle)
    (second : Confined path call middle after) : Confined path call race after where
  others other different :=
    (second.others other different).trans (first.others other different)
  files name different := (second.files name different).trans (first.files name different)

theorem exists_step (count : Nat) {disk : Disk String} {next : FlushStep}
    (advanced : advance codec path (snaps call) count race.disk (race.next call) =
      some (disk, next)) :
    ∃ after, race.step codec path snaps call (.advance count) = some after ∧
      after.disk = disk ∧ after.next call = next ∧
        ∀ other, other ≠ call → after.next other = race.next other := by
  rw [step, advanced]
  constructor
  constructor
  · rfl
  · constructor
    · rfl
    · constructor
      · exact Function.update_self ..
      · intro other different
        exact Function.update_of_ne different ..

variable (path) in
theorem exists_encoded {text : String} (fresh : race.next call = .encode)
    (encodes : codec.toStringPretty (snaps call) = .ok text) :
    ∃ after, race.step codec path snaps call (.advance 0) = some after ∧
      after.next call = .create (utf8Bytes text) ∧ Confined path call race after := by
  have advanced : advance codec path (snaps call) 0 race.disk (race.next call) =
      some (race.disk, .create (utf8Bytes text)) := by
    rw [fresh]
    simp only [advance, encodes]
  rcases exists_step 0 advanced with ⟨after, stepped, disk, next, others⟩
  use after, stepped, next, others
  intro name _
  rw [disk]

variable (codec path snaps) in
theorem exists_created {json : Bytes} (creating : race.next call = .create json) :
    ∃ after file, race.step codec path snaps call (.advance 0) = some after ∧
      after.next call = .writing json file 0 ∧
      after.disk.lookup (withExtension path "tmp") = some file ∧
      after.disk.content (withExtension path "tmp") = some [] ∧
        Confined path call race after := by
  have advanced : advance codec path (snaps call) 0 race.disk (race.next call) =
      some ((race.disk.create (withExtension path "tmp")).2,
        .writing json (race.disk.create (withExtension path "tmp")).1 0) := by
    rw [creating, advance]
  rcases exists_step 0 advanced with ⟨after, stepped, disk, next, others⟩
  use after, (race.disk.create (withExtension path "tmp")).1, stepped, next
  rw [disk]
  use Disk.lookup_create_self, Disk.content_create_self, others
  intro name different
  rw [disk, Disk.content_create_of_ne different]

variable (codec snaps) in
theorem exists_wrote {json : Bytes} {file : Nat} (count : Nat)
    (writing : race.next call = .write json file 0)
    (opened : race.disk.lookup (withExtension path "tmp") = some file)
    (empty : race.disk.content (withExtension path "tmp") = some []) :
    ∃ after, race.step codec path snaps call (.advance count) = some after ∧
      after.next call = .writing json file (min (count + 1) json.length) ∧
      after.disk.content (withExtension path "tmp") = some (json.take (count + 1)) ∧
        Confined path call race after := by
  have advanced : advance codec path (snaps call) count race.disk (race.next call) =
      some (race.disk.write file 0 (json.take (count + 1)),
        .writing json file (min (count + 1) json.length)) := by
    rw [writing]
    simp only [advance, List.drop_zero, List.length_take, Nat.zero_add]
  rcases exists_step count advanced with ⟨after, stepped, disk, next, others⟩
  use after, stepped, next
  constructor
  · have written := Disk.writeAt_take json 0 (count + 1) (Nat.zero_le _)
    rw [List.take_zero, List.drop_zero, Nat.zero_add] at written
    rw [disk, Disk.write, SharedTable.content_modify_self _ opened, empty, Option.map_some,
      written]
  · use others
    intro name different
    rw [disk, Disk.write, SharedTable.content_modify_of_ne _ opened different]

variable (path) in
/-- A flush can write everything at once. -/
theorem exists_written {text : String} (fresh : race.next call = .encode)
    (encodes : codec.toStringPretty (snaps call) = .ok text) :
    ∃ events after, (∀ event ∈ events, event.1 = call) ∧
      race.run codec path snaps events = some after ∧ after.next call = .rename ∧
      after.disk.content (withExtension path "tmp") = some (utf8Bytes text) ∧
        Confined path call race after := by
  rcases exists_encoded path fresh encodes with ⟨encoded, first, creating, confined⟩
  rcases exists_created codec path snaps creating with
    ⟨created, file, second, writing, opened, empty, confined'⟩
  by_cases nothing : utf8Bytes text = []
  · use [(call, .advance 0), (call, .advance 0)], created, by simp
    constructor
    · rw [run_cons, first, Option.bind_some, run_cons, second]
      rfl
    · rw [writing, FlushStep.writing, nothing]
      exact ⟨if_pos (Nat.le_refl _), empty, confined.trans confined'⟩
  · have some_text : 0 < (utf8Bytes text).length := List.length_pos_iff.mpr nothing
    rw [FlushStep.writing, if_neg (by omega)] at writing
    rcases exists_wrote codec snaps (utf8Bytes text).length writing opened empty with
      ⟨written, third, finished, content, confined''⟩
    use [(call, .advance 0), (call, .advance 0), (call, .advance (utf8Bytes text).length)],
      written, by simp
    constructor
    · rw [run_cons, first, Option.bind_some, run_cons, second, Option.bind_some, run_cons,
        third]
      rfl
    · rw [finished, FlushStep.writing, if_pos (by omega), content,
        List.take_of_length_le (by omega)]
      exact ⟨rfl, rfl, (confined.trans confined').trans confined''⟩

omit [DecidableEq ι] in
theorem exists_rename {json : Bytes}
    (written : race.disk.content (withExtension path "tmp") = some json) :
    ∃ disk, race.disk.rename (withExtension path "tmp") path = some disk := by
  cases found : race.disk.lookup (withExtension path "tmp") with
  | none =>
      rw [SharedTable.content_eq_none.mpr found] at written
      cases written
  | some file => exact SharedTable.rename_isSome found path

omit [DecidableEq ι] in
/-- Renaming a written temporary file is what writing the snapshot file amounts to. -/
theorem content_renamed {moved : Disk String} {files : FileSystem} {text : String}
    (same : ∀ name, name ≠ withExtension path "tmp" →
      race.disk.content name = (files name).map utf8Bytes)
    (written : race.disk.content (withExtension path "tmp") = some (utf8Bytes text))
    (renamed : race.disk.rename (withExtension path "tmp") path = some moved)
    (name : String) :
    moved.content name = (((files.write (withExtension path "tmp") text).rename
      (withExtension path "tmp") path) name).map utf8Bytes := by
  rw [FileSystem.rename, FileSystem.write]
  by_cases isPath : name = path
  · rw [isPath, SharedTable.content_rename_new renamed, written]
    simp
  · rw [Function.update_of_ne isPath]
    by_cases isTmp : name = withExtension path "tmp"
    · rw [isTmp] at isPath ⊢
      rw [SharedTable.content_rename_old renamed isPath, Function.update_self]
      rfl
    · rw [SharedTable.content_rename_of_ne renamed isPath isTmp, same name isTmp,
        Function.update_of_ne isTmp, Function.update_of_ne isTmp]

/-- A flush that nobody interrupts does what `flush` does. -/
theorem run_alone {ledger : BudgetLedger} (located : ledger.snapshotPath = some path)
    (fresh : race.next call = .encode)
    (snap : snaps call = ⟨ledger.periodStart, ledger.counters⟩) {files : FileSystem}
    (same : ∀ name, race.disk.content name = (files name).map utf8Bytes) :
    ∃ events after, (∀ event ∈ events, event.1 = call) ∧
      race.run codec path snaps events = some after ∧
      after.next call = .done (ledger.flush codec ⟨none, none⟩ files).1 ∧
      ∀ name, after.disk.content name =
        ((ledger.flush codec ⟨none, none⟩ files).2 name).map utf8Bytes := by
  cases encodes : codec.toStringPretty (snaps call) with
  | error error =>
      have advanced : advance codec path (snaps call) 0 race.disk (race.next call) =
          some (race.disk, .done (.error error)) := by
        rw [fresh]
        simp only [advance, encodes]
      rcases exists_step 0 advanced with ⟨after, stepped, disk, next, -⟩
      rw [snap] at encodes
      use [(call, .advance 0)], after, by simp
      constructor
      · rw [run_cons, stepped]
        rfl
      · simp only [BudgetLedger.flush, located, encodes]
        rw [disk]
        exact ⟨next, same⟩
  | ok text =>
      rcases exists_written path fresh encodes with
        ⟨events, written, own, ran, finished, content, confined⟩
      rcases exists_rename content with ⟨moved, renamed⟩
      have advanced : advance codec path (snaps call) 0 written.disk (written.next call) =
          some (moved, .done (.ok ())) := by
        rw [finished]
        simp only [advance, renamed]
      rcases exists_step 0 advanced with ⟨after, last, disk, next, -⟩
      rw [snap] at encodes
      use events ++ [(call, .advance 0)], after
      constructor
      · intro event membership
        rcases List.mem_append.mp membership with earlier | isLast
        · exact own event earlier
        · rw [List.mem_singleton.mp isLast]
      · constructor
        · rw [run_append, ran, Option.bind_some, run_cons, last]
          rfl
        · simp only [BudgetLedger.flush, located, encodes]
          use next
          rw [disk]
          apply content_renamed _ content renamed
          intro name isTmp
          rw [confined.files name isTmp, same name]

/-! ## Runs that are not exclusive -/

variable (codec path snaps) in
/-- A flush that opens the temporary file shows it empty, and then with one byte. -/
theorem exists_truncating {json : Bytes} (creating : race.next call = .create json)
    (long : 2 ≤ json.length) (initial : Option Bytes) :
    ∃ events after, race.run codec path snaps events = some after ∧
      (∃ short : Bytes, short.length < 2 ∧ some short ≠ initial ∧
        after.disk.content (withExtension path "tmp") = some short) ∧
        Confined path call race after := by
  rcases exists_created codec path snaps creating with
    ⟨created, file, first, writing, opened, empty, confined⟩
  by_cases shown : some [] = initial
  · rw [FlushStep.writing, if_neg (by omega)] at writing
    rcases exists_wrote codec snaps 0 writing opened empty with
      ⟨written, second, -, content, confined'⟩
    use [(call, .advance 0), (call, .advance 0)], written
    constructor
    · rw [run_cons, first, Option.bind_some, run_cons, second]
      rfl
    · constructor
      · use json.take 1
        rw [List.length_take]
        constructor
        · omega
        · constructor
          · intro same
            rw [← shown, Option.some.injEq, List.take_eq_nil_iff] at same
            rcases same with zero | nil
            · cases zero
            · rw [nil] at long
              cases long
          · exact content
      · exact confined.trans confined'
  · use [(call, .advance 0)], created
    constructor
    · rw [run_cons, first]
      rfl
    · exact ⟨⟨[], Nat.zero_lt_two, shown, empty⟩, confined⟩

/-- Every snapshot encodes to a text with at least its two braces. -/
def Encodes (codec : SnapshotCodec) : Prop :=
  ∀ snap, ∃ text, codec.toStringPretty snap = .ok text ∧ 2 ≤ (utf8Bytes text).length

omit [DecidableEq ι] in
/-- A file cut short after at most one byte is not intact. -/
theorem not_intact_of_short (encodes : Encodes codec) {initial : Option Bytes} {short : Bytes}
    (few : short.length < 2) (different : some short ≠ initial)
    (content : race.disk.content path = some short) :
    ¬ Intact codec path snaps initial race := by
  rintro (same | ⟨json, ⟨call, text, encoded, isText⟩, complete⟩)
  · exact different (content.symm.trans same)
  · rcases encodes (snaps call) with ⟨again, encodedAgain, long⟩
    rw [encoded, Except.ok.injEq] at encodedAgain
    rw [content, Option.some.injEq] at complete
    rw [← encodedAgain, ← isText, ← complete] at long
    omega

/-- A temporary file that is the snapshot file itself is seen half-written. -/
theorem exists_torn_of_same (encodes : Encodes codec)
    (same : withExtension path "tmp" = path) (call : ι) (disk : Disk String) :
    ∃ events after, (start disk).run codec path snaps events = some after ∧
      ¬ Intact codec path snaps (disk.content path) after := by
  rcases encodes (snaps call) with ⟨text, encoded, long⟩
  have fresh : (start disk : FlushRace ι).next call = .encode := rfl
  rcases exists_encoded path fresh encoded with ⟨ready, first, creating, -⟩
  rcases exists_truncating codec path snaps creating long (disk.content path) with
    ⟨events, after, ran, ⟨short, few, different, content⟩, -⟩
  use (call, .advance 0) :: events, after
  constructor
  · rw [run_cons, first, Option.bind_some, ran]
  · rw [same] at content
    exact not_intact_of_short encodes few different content

/-- A flush truncates the temporary file that another has written, which is then renamed. -/
theorem exists_torn_of_two (encodes : Encodes codec) {first second : ι}
    (different : first ≠ second) (disk : Disk String) :
    ∃ events after, (start disk).run codec path snaps events = some after ∧
      ¬ Intact codec path snaps (disk.content path) after := by
  rcases encodes (snaps first) with ⟨firstText, firstEncoded, firstLong⟩
  rcases encodes (snaps second) with ⟨secondText, secondEncoded, secondLong⟩
  have fresh : (start disk : FlushRace ι).next first = .encode := rfl
  rcases exists_written path fresh firstEncoded with
    ⟨events, written, -, ran, complete, -, confined⟩
  have secondFresh : written.next second = .encode :=
    confined.others second (Ne.symm different)
  rcases exists_encoded path secondFresh secondEncoded with ⟨ready, stepped, creating, confined'⟩
  rcases exists_truncating codec path snaps creating secondLong (disk.content path) with
    ⟨truncating, truncated, ranTruncating, ⟨short, few, unlike, content⟩, confined''⟩
  have finishing : truncated.next first = .rename := by
    rw [confined''.others first different, confined'.others first different, complete]
  rcases exists_rename content with ⟨moved, renamed⟩
  have advanced : advance codec path (snaps first) 0 truncated.disk (truncated.next first) =
      some (moved, .done (.ok ())) := by
    rw [finishing]
    simp only [advance, renamed]
  rcases exists_step 0 advanced with ⟨after, last, disk', -, -⟩
  use events ++ (second, .advance 0) :: (truncating ++ [(first, .advance 0)]), after
  constructor
  · rw [run_append, ran, Option.bind_some, run_cons, stepped, Option.bind_some, run_append,
      ranTruncating, Option.bind_some, run_cons, last]
    rfl
  · apply not_intact_of_short encodes few unlike
    rw [disk', SharedTable.content_rename_new renamed, content]

/-- **The snapshot file.** In every run in which no flush truncates the temporary file while
another is between its truncation and its rename, the file at `path` is always what it was or
a complete snapshot, unless the temporary file is that file.  It is so in all runs exactly
when there is no flush, or a single one with a temporary file of its own. -/
theorem snapshot_intact_iff (codec : SnapshotCodec) (path : String)
    (snaps : ι → LedgerSnapshot) (disk : Disk String) :
    (withExtension path "tmp" ≠ path → ∀ events after,
      (start disk).RunsExclusively codec path snaps events →
        (start disk).run codec path snaps events = some after →
          Intact codec path snaps (disk.content path) after) ∧
      (Encodes codec →
        ((∀ events after, (start disk).run codec path snaps events = some after →
          Intact codec path snaps (disk.content path) after) ↔
            IsEmpty ι ∨ withExtension path "tmp" ≠ path ∧ Subsingleton ι)) := by
  have exclusively : withExtension path "tmp" ≠ path → ∀ events after,
      (start disk).RunsExclusively codec path snaps events →
        (start disk).run codec path snaps events = some after →
          Intact codec path snaps (disk.content path) after := by
    intro separate events after exclusive ran
    exact (run_orderly separate (start_orderly disk) events exclusive ran).intact
  constructor
  · exact exclusively
  · intro encodes
    constructor
    · intro intact
      rw [or_iff_not_imp_left, not_isEmpty_iff]
      rintro ⟨call⟩
      constructor
      · intro same
        rcases exists_torn_of_same encodes same call disk with ⟨events, after, ran, torn⟩
        exact torn (intact events after ran)
      · constructor
        intro first second
        by_contra different
        rcases exists_torn_of_two encodes different disk with ⟨events, after, ran, torn⟩
        exact torn (intact events after ran)
    · rintro (none | ⟨separate, single⟩) events after ran
      · cases events with
        | nil =>
            cases ran
            exact .inl rfl
        | cons event events => exact none.elim event.1
      · exact exclusively separate events after (runsExclusively_of_subsingleton events) ran

/-! ### Two flushes of an unused ledger -/

/-- The snapshot of a ledger without entries, as it is written. -/
def unusedJson : String := "\x7b\n  \"period_start\": 0,\n  \"entries\": \x7b\x7d\n\x7d"

def unusedCodec : SnapshotCodec where
  toStringPretty _ := .ok unusedJson
  fromStr text := if text = unusedJson then some ⟨0, ∅⟩ else none

/-- A whole flush, and one after it that crashes after four bytes. -/
def oneAfterTheOther : List (Bool × FlushEvent) :=
  [.advance 0, .advance 0, .advance 100, .advance 0].map (false, ·) ++
    [.advance 0, .advance 0, .advance 3].map (true, ·)

/-- The file holds what the first one wrote. -/
theorem two_flushes_intact :
    ∃ after, (start .empty).run unusedCodec "budget_snapshot.json" (fun _ : Bool => ⟨0, ∅⟩)
        oneAfterTheOther = some after ∧
      Intact unusedCodec "budget_snapshot.json" (fun _ : Bool => ⟨0, ∅⟩) none after := by
  have ran : ((start .empty).run unusedCodec "budget_snapshot.json"
      (fun _ : Bool => ⟨0, ∅⟩) oneAfterTheOther).isSome := by
    decide +kernel
  rcases Option.isSome_iff_exists.mp ran with ⟨after, ran⟩
  have separate : withExtension "budget_snapshot.json" "tmp" ≠ "budget_snapshot.json" := by
    decide +kernel
  have finished : ((start .empty).run unusedCodec "budget_snapshot.json"
      (fun _ : Bool => ⟨0, ∅⟩) ([.advance 0, .advance 0, .advance 100, .advance 0].map
        (false, ·))).map (fun middle => (middle.next false).usesTmp) = some false := by
    decide +kernel
  have exclusive : (start .empty).RunsExclusively unusedCodec "budget_snapshot.json"
      (fun _ : Bool => ⟨0, ∅⟩) oneAfterTheOther := by
    apply runsExclusively_append
    · exact runsExclusively_alone (fun other _ => rfl) _
    · intro middle half
      rw [half, Option.map_some, Option.some.injEq] at finished
      apply runsExclusively_alone
      intro other different
      rwa [Bool.eq_false_of_not_eq_true different]
  use after, ran
  exact (snapshot_intact_iff unusedCodec "budget_snapshot.json" (fun _ : Bool => ⟨0, ∅⟩)
    .empty).1 separate _ after exclusive ran

/-- The first flush has written everything when the second truncates the file, and then
renames it. -/
def truncatedAndRenamed : List (Bool × FlushEvent) :=
  [(false, .advance 0), (true, .advance 0), (false, .advance 0), (false, .advance 100),
    (true, .advance 0), (false, .advance 0)]

/-- The snapshot file is empty. -/
theorem two_flushes_torn :
    ¬ ∀ events after,
      (start .empty).run unusedCodec "budget_snapshot.json" (fun _ : Bool => ⟨0, ∅⟩) events =
          some after →
        Intact unusedCodec "budget_snapshot.json" (fun _ : Bool => ⟨0, ∅⟩) none after := by
  intro intact
  have ran : ((start .empty).run unusedCodec "budget_snapshot.json"
      (fun _ : Bool => ⟨0, ∅⟩) truncatedAndRenamed).map
        (fun after => after.disk.content "budget_snapshot.json") = some (some []) := by
    decide +kernel
  rcases Option.map_eq_some_iff.mp ran with ⟨after, ran, empty⟩
  rcases intact truncatedAndRenamed after ran with
    absent | ⟨json, ⟨call, text, encoded, isText⟩, complete⟩
  · rw [empty] at absent
    cases absent
  · rw [empty, Option.some.injEq] at complete
    cases encoded
    rw [isText] at complete
    revert complete
    decide +kernel

end FlushRace

end Patchbay
