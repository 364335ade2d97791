import Mathlib.Data.UInt
import Patchbay.Lib.Scan
import Patchbay.Scrape

/-!
# Scrapes while the server records

Handlers record while scrapes are under way.  A scrape takes one snapshot of each family of
counters after the other, each under the read lock of the family, and loads the counters one
by one.
-/

namespace Patchbay

theorem LabeledCounters.ext_value {left right : LabeledCounters}
    (known : ∀ label, label ∈ left ↔ label ∈ right)
    (same : ∀ label, left.value label = right.value label) : left = right := by
  apply Finmap.ext_lookup
  intro label
  by_cases present : label ∈ left
  · rcases Finmap.mem_iff.mp present with ⟨shown, found⟩
    rcases Finmap.mem_iff.mp ((known label).mp present) with ⟨other, foundOther⟩
    have equal := same label
    rw [LabeledCounters.value, LabeledCounters.value, found, foundOther] at equal
    rw [found, foundOther]
    exact congrArg some equal
  · rw [Finmap.lookup_eq_none.mpr present,
      Finmap.lookup_eq_none.mpr fun other => present ((known label).mpr other)]

/-- What calls add to one family, one counter after the other. -/
def additionsTo (family : MetricFamily) (records : List MetricsRecord) :
    List (Addition String UInt64) :=
  (addsTo family records).map fun add => ⟨add.1, [add.2]⟩

/-- The five families, the handlers that record in them and the scrapes. -/
structure MetricsRace (ι ζ : Type) where
  families : MetricFamily → Scanned ι ζ String Unit UInt64 UInt64
  /-- The families of the additions that each handler is yet to finish. -/
  pending : ι → List MetricFamily

inductive MetricsEvent (ι ζ : Type) where
  | record (handler : ι)
  | scrape (reader : ζ) (family : MetricFamily) (event : ScanEvent String)

namespace MetricsRace

variable {ι ζ : Type} [DecidableEq ι] [DecidableEq ζ] [Fintype ζ]

/-- Empty families, and the calls that each handler is going to make. -/
def start (records : ι → List MetricsRecord) : MetricsRace ι ζ where
  families family := .start .empty fun handler => additionsTo family (records handler)
  pending handler := ((records handler).flatMap MetricsRecord.series).map Series.family

/-- A counter is one word, loaded at once. -/
def load (_ : Unit) (value : UInt64) : UInt64 := value

/-- A step in one family. -/
def stepFamily (race : MetricsRace ι ζ) (family : MetricFamily)
    (event : ScannedEvent ι ζ String) : Option (MetricsRace ι ζ) :=
  ((race.families family).step load [()] event).map fun moved =>
    { race with families := Function.update race.families family moved }

/-- The additions to a family that a handler has not finished. -/
def unfinished (race : MetricsRace ι ζ) (handler : ι) (family : MetricFamily) : Nat :=
  ((race.families family).counters.adders handler).additions.length

/-- A handler makes its additions in their order, and a scrape snapshots the families in
theirs. -/
def step (race : MetricsRace ι ζ) : MetricsEvent ι ζ → Option (MetricsRace ι ζ)
  | .record handler =>
      match race.pending handler with
      | [] => none
      | family :: rest =>
          (race.stepFamily family (.thread handler)).map fun moved =>
            if moved.unfinished handler family < race.unfinished handler family then
              { moved with pending := Function.update race.pending handler rest }
            else moved
  | .scrape reader family event =>
      if ∀ earlier ∈ MetricFamily.all.takeWhile (· ≠ family),
          ((race.families earlier).scans reader).result.isSome then
        race.stepFamily family (.scan reader event)
      else none

def run (race : MetricsRace ι ζ) (events : List (MetricsEvent ι ζ)) :
    Option (MetricsRace ι ζ) :=
  events.foldlM step race

/-- The snapshot of a family that a scrape took. -/
def snapshot (race : MetricsRace ι ζ) (reader : ζ) (family : MetricFamily) :
    Option LabeledCounters :=
  ((race.families family).scans reader).result.map fun seen =>
    Table.collect (seen.map fun entry => (entry.1.1, entry.2))

/-- The text that a scrape answers with, from its five snapshots. -/
def rendered (race : MetricsRace ι ζ) (reader : ζ) : Option String := do
  let requests ← race.snapshot reader .requests
  let tokens ← race.snapshot reader .tokens
  let upstreamErrors ← race.snapshot reader .upstreamErrors
  let rateLimitRejections ← race.snapshot reader .rateLimitRejections
  let budgetRejections ← race.snapshot reader .budgetRejections
  return MetricsHandle.render
    ⟨requests, tokens, upstreamErrors, rateLimitRejections, budgetRejections⟩

/-- A scrape has not begun. -/
def Idle (race : MetricsRace ι ζ) (reader : ζ) : Prop :=
  ∀ family, (race.families family).scans reader = .waiting

variable {race before after : MetricsRace ι ζ} {reader : ζ} {text : String}

omit [DecidableEq ι] [DecidableEq ζ] [Fintype ζ] in
theorem exists_of_rendered (done : race.rendered reader = some text) :
    ∃ metrics : MetricsHandle, text = metrics.render ∧
      ∀ family, race.snapshot reader family = some (family.counters metrics) := by
  simp only [rendered, Option.bind_eq_bind, Option.bind_eq_some_iff, pure, Option.some.injEq]
    at done
  rcases done with ⟨requests, first, tokens, second, errors, third, limited, fourth, refused,
    fifth, rfl⟩
  refine ⟨_, rfl, ?_⟩
  intro family
  cases family with
  | requests => exact first
  | tokens => exact second
  | upstreamErrors => exact third
  | rateLimitRejections => exact fourth
  | budgetRejections => exact fifth

/-! ## One family by itself -/

theorem stepFamily_spec {family : MetricFamily} {event : ScannedEvent ι ζ String}
    (stepped : race.stepFamily family event = some after) :
    (race.families family).step load [()] event = some (after.families family) ∧
      ∀ other, other ≠ family → after.families other = race.families other := by
  rcases Option.map_eq_some_iff.mp stepped with ⟨moved, own, rfl⟩
  constructor
  · simp only [Function.update_self]
    exact own
  · intro other different
    exact Function.update_of_ne different ..

theorem exists_stepFamily {event : MetricsEvent ι ζ} (stepped : race.step event = some after) :
    ∃ family own moved, race.stepFamily family own = some moved ∧
      after.families = moved.families := by
  cases event with
  | record handler =>
      simp only [step] at stepped
      split at stepped
      · cases stepped
      · next family rest pending =>
          rcases Option.map_eq_some_iff.mp stepped with ⟨moved, own, rfl⟩
          refine ⟨family, _, moved, own, ?_⟩
          split <;> rfl
  | scrape reader family event =>
      simp only [step, Option.ite_none_right_eq_some] at stepped
      exact ⟨family, _, after, stepped.2, rfl⟩

/-- What happens in one family is a run of its counters and scans. -/
theorem exists_run_family (family : MetricFamily) {events : List (MetricsEvent ι ζ)}
    (ran : before.run events = some after) :
    ∃ own, (before.families family).run load [()] own = some (after.families family) := by
  refine Schedule.invariant (fun state : MetricsRace ι ζ => ∃ own,
    (before.families family).run load [()] own = some (state.families family))
    ?_ ⟨[], rfl⟩ events ran
  rintro state event next ⟨own, reached⟩ stepped
  rcases exists_stepFamily stepped with ⟨mover, moving, moved, acted, same⟩
  rcases stepFamily_spec acted with ⟨here, elsewhere⟩
  rw [same]
  by_cases isMover : family = mover
  · subst isMover
    exact ⟨own ++ [moving], Schedule.run_append.mpr
      ⟨_, reached, Schedule.run_cons.mpr ⟨_, here, rfl⟩⟩⟩
  · rw [elsewhere family isMover]
    exact ⟨own, reached⟩

/-! ## What a scrape shows -/

/-- A counter as a number, which wraps at 2^64. -/
def gauge : Gauge UInt64 where
  size := UInt64.toNat
  bound := 2 ^ 64
  size_zero := rfl
  size_add := by
    intro left right fits
    rw [UInt64.toNat_add, Nat.mod_eq_of_lt fits]

/-- What a counter stands at. -/
def count (race : MetricsRace ι ζ) (family : MetricFamily) (text : String) : Nat :=
  ((race.families family).counters.table.value text).toNat

variable [Fintype ι] {records : ι → List MetricsRecord}

/-- The exact sum of what all handlers record under these labels. -/
def total (records : ι → List MetricsRecord) (family : MetricFamily)
    (labels : Prometheus.Labels) : Nat :=
  ∑ handler, recordedSum (records handler) family labels

/-- Every family accounts for the calls. -/
def Accounts (records : ι → List MetricsRecord) (race : MetricsRace ι ζ) : Prop :=
  ∀ family, (race.families family).counters.Accounts fun handler =>
    additionsTo family (records handler)

/-- No counter wraps, whatever is still to be added to it. -/
def Fits (race : MetricsRace ι ζ) : Prop :=
  ∀ family text, (race.families family).counters.due gauge text < gauge.bound

omit [DecidableEq ι] [DecidableEq ζ] [Fintype ζ] in
theorem accounts_start : (start records : MetricsRace ι ζ).Accounts records :=
  fun _ => SharedCounters.start_accounts

theorem accounts_run (accounts : before.Accounts records) {events : List (MetricsEvent ι ζ)}
    (ran : before.run events = some after) : after.Accounts records := by
  intro family
  rcases exists_run_family family ran with ⟨own, reached⟩
  exact Scanned.run_accounts (accounts family) reached

theorem fits_run (accounts : before.Accounts records) (fits : before.Fits)
    {events : List (MetricsEvent ι ζ)} (ran : before.run events = some after) : after.Fits := by
  intro family text
  rcases exists_run_family family ran with ⟨own, reached⟩
  rw [(Scanned.run_grows (accounts family).holds (fits family text) reached).1]
  exact fits family text

omit [DecidableEq ι] [DecidableEq ζ] [Fintype ζ] [Fintype ι] in
theorem sum_left_additionsTo (family : MetricFamily) (records : List MetricsRecord)
    (text : String) :
    (((⟨.lookup, additionsTo family records⟩ : Adder String UInt64).left text).map
      UInt64.toNat).sum = LabeledCounters.added (addsTo family records) text := by
  change ((Adder.amountsFor (additionsTo family records) text).map UInt64.toNat).sum = _
  rw [Adder.amountsFor, additionsTo, LabeledCounters.added]
  generalize addsTo family records = adds
  induction adds with
  | nil => rfl
  | cons add adds ih =>
      rw [List.map_cons, List.flatMap_cons, List.map_append, List.sum_append, ih]
      by_cases same : add.1 = text
      · rw [List.filter_cons_of_pos (by simpa using same), if_pos same]
        rfl
      · rw [List.filter_cons_of_neg (by simpa using same), if_neg same]
        exact Nat.zero_add _

/-- Nothing is recorded under a text that no labels have. -/
theorem added_of_unnamed {family : MetricFamily} (records : List MetricsRecord) {text : String}
    (unnamed : ¬∃ labels, WellNamed labels ∧ labelText labels = text) :
    LabeledCounters.added (addsTo family records) text = 0 := by
  have absent : (addsTo family records).filter (fun add => add.1 = text) = [] := by
    rw [List.filter_eq_nil_iff]
    intro add membership same
    have listed := List.mem_map_of_mem (f := Prod.fst) membership
    rcases mem_addsTo.mp listed with ⟨labels, recorded, isText⟩
    exact unnamed ⟨labels, wellNamed_of_recorded recorded, isText.trans (of_decide_eq_true same)⟩
  rw [LabeledCounters.added, absent]
  rfl

omit [DecidableEq ι] [DecidableEq ζ] [Fintype ζ] in
theorem fits_start (small : ∀ family labels, total records family labels < 2 ^ 64) :
    (start records : MetricsRace ι ζ).Fits := by
  intro family text
  have due : ((start records : MetricsRace ι ζ).families family).counters.due gauge text =
      ∑ handler, LabeledCounters.added (addsTo family (records handler)) text := by
    rw [SharedCounters.due]
    refine (Nat.zero_add _).trans (Finset.sum_congr rfl fun handler _ => ?_)
    exact sum_left_additionsTo family (records handler) text
  rw [due]
  by_cases named : ∃ labels, WellNamed labels ∧ labelText labels = text
  · rcases named with ⟨labels, names, rfl⟩
    have sums : ∀ handler, LabeledCounters.added (addsTo family (records handler))
        (labelText labels) = recordedSum (records handler) family labels :=
      fun handler => added_addsTo (records handler) names
    simp only [sums]
    exact small family labels
  · have nothing : ∀ handler,
        LabeledCounters.added (addsTo family (records handler)) text = 0 :=
      fun handler => added_of_unnamed (records handler) named
    simp only [nothing, Finset.sum_const_zero]
    exact Nat.two_pow_pos 64

/-- A snapshot has what was loaded, under the label it was loaded for. -/
theorem lookup_collect_seen {seen : List ((String × Unit) × UInt64)}
    (distinct : (seen.map Prod.fst).Nodup) {text : String} {value : UInt64} :
    (Table.collect (seen.map fun entry => (entry.1.1, entry.2))).lookup text = some value ↔
      ((text, ()), value) ∈ seen := by
  constructor
  · intro found
    rcases List.mem_map.mp (Table.mem_of_lookup_collect found) with ⟨⟨⟨_, _⟩, _⟩, read, same⟩
    cases same
    exact read
  · intro read
    have labels : ((seen.map fun entry => (entry.1.1, entry.2)).map Prod.fst).Nodup := by
      rw [List.Nodup, List.pairwise_map] at distinct
      rw [List.map_map, List.Nodup, List.pairwise_map]
      exact distinct.imp fun different same => different (Prod.ext same rfl)
    have listed : (text, value) ∈ seen.map fun entry => (entry.1.1, entry.2) :=
      List.mem_map_of_mem read
    exact Table.lookup_collect_of_mem labels listed

/-- A snapshot has all counters that were there when its scrape began and none that are not
there when it is done, and shows each between what it stood at then and now. -/
theorem snapshot_between (accounts : before.Accounts records) (fits : before.Fits)
    (idle : before.Idle reader) {events : List (MetricsEvent ι ζ)} (ran : before.run events = some after)
    {family : MetricFamily} {counters : LabeledCounters}
    (taken : after.snapshot reader family = some counters) :
    (∀ text ∈ (before.families family).counters.table.keys, text ∈ counters) ∧
      (∀ text ∈ counters, text ∈ (after.families family).counters.table.keys) ∧
      ∀ text, before.count family text ≤ (counters.value text).toNat ∧
        (counters.value text).toNat ≤ after.count family text := by
  rcases exists_run_family family ran with ⟨own, reached⟩
  have course := Scanned.run_course (idle family) reached
  rcases Option.map_eq_some_iff.mp taken with ⟨seen, result, rfl⟩
  rw [Scan.result_eq_some.mp result] at course
  have found : ∀ {text value},
      (Table.collect (seen.map fun entry => (entry.1.1, entry.2))).lookup text = some value ↔
        ((text, ()), value) ∈ seen :=
    lookup_collect_seen (course.nodup_seen (List.nodup_singleton ()))
  have between : ∀ {text value}, ((text, ()), value) ∈ seen →
      before.count family text ≤ value.toNat ∧ value.toNat ≤ after.count family text :=
    fun read => (course.of_mem_seen read).2.2.between (accounts family).holds (fits family _)
      (fun _ => rfl) reached
  refine ⟨?_, ?_, ?_⟩
  · intro text present
    rcases course.exists_mem_seen present (List.mem_singleton_self ()) with ⟨value, read⟩
    exact Finmap.mem_of_lookup_eq_some (found.mpr read)
  · intro text present
    rcases Finmap.mem_iff.mp present with ⟨value, shown⟩
    exact (course.of_mem_seen (found.mp shown)).1
  · intro text
    rw [LabeledCounters.value]
    cases shown : (Table.collect (seen.map fun entry => (entry.1.1, entry.2))).lookup text with
    | some value => exact between (found.mp shown)
    | none =>
        have absent : text ∉ (before.families family).counters.table.keys := by
          intro present
          rcases course.exists_mem_seen present (List.mem_singleton_self ()) with ⟨value, read⟩
          rw [found.mpr read] at shown
          cases shown
        rw [SharedTable.mem_keys, not_not] at absent
        have nothing : before.count family text = 0 := by
          rw [count, SharedTable.value, SharedTable.content_eq_none.mpr absent]
          rfl
        rw [nothing]
        exact ⟨le_rfl, Nat.zero_le _⟩

omit [DecidableEq ι] [DecidableEq ζ] [Fintype ζ] in
theorem labeled_of_mem_keys (accounts : race.Accounts records) {family : MetricFamily}
    {text : String} (present : text ∈ (race.families family).counters.table.keys) :
    ∃ labels, WellNamed labels ∧ text = labelText labels := by
  rcases (accounts family).known text (SharedTable.mem_keys.mp present) with
    ⟨handler, addition, membership, rfl⟩
  rcases List.mem_map.mp membership with ⟨add, added, rfl⟩
  rcases mem_addsTo.mp (List.mem_map_of_mem (f := Prod.fst) added) with
    ⟨labels, recorded, isText⟩
  exact ⟨labels, wellNamed_of_recorded recorded, isText.symm⟩

/-- The text of a scrape reads back as its snapshots. -/
theorem exists_scraped (accounts : before.Accounts records) (fits : before.Fits)
    (idle : before.Idle reader) {events : List (MetricsEvent ι ζ)}
    (ran : before.run events = some after) (done : after.rendered reader = some text) :
    ∃ (metrics : MetricsHandle) (samples : List Prometheus.Sample),
      (∀ family, after.snapshot reader family = some (family.counters metrics)) ∧
      Prometheus.parse text = some samples ∧
      ∀ sample, sample ∈ samples ↔
        ∃ family : MetricFamily, ∃ labels, WellNamed labels ∧
          labelText labels ∈ family.counters metrics ∧
          sample = ⟨family.name, labels,
            ((family.counters metrics).value (labelText labels)).toNat⟩ := by
  rcases exists_of_rendered done with ⟨metrics, rfl, taken⟩
  have labeled : metrics.WellLabeled := by
    intro family text present
    exact labeled_of_mem_keys (accounts_run accounts ran)
      ((snapshot_between accounts fits idle ran (taken family)).2.1 text present)
  rcases MetricsHandle.exists_samples labeled with ⟨samples, parsed, listed⟩
  exact ⟨metrics, samples, taken, parsed, listed⟩

/-- **Successive scrapes.**  Handlers may record at any time.  A scrape that begins when
another has answered shows every series that the other showed, and no counter smaller than
it was. -/
theorem scrapes_grow (records : ι → List MetricsRecord)
    (small : ∀ family labels, total records family labels < 2 ^ 64)
    {front back : List (MetricsEvent ι ζ)} {middle after : MetricsRace ι ζ} {first second : ζ}
    {earlier later : String} (ranFirst : (start records).run front = some middle)
    (firstDone : middle.rendered first = some earlier) (secondIdle : middle.Idle second)
    (ranSecond : middle.run back = some after)
    (secondDone : after.rendered second = some later) :
    ∃ old new, Prometheus.parse earlier = some old ∧ Prometheus.parse later = some new ∧
      ∀ sample ∈ old, ∃ value, ⟨sample.metric, sample.labels, value⟩ ∈ new ∧
        sample.value ≤ value := by
  have accounts : (start records : MetricsRace ι ζ).Accounts records := accounts_start
  have fits : (start records : MetricsRace ι ζ).Fits := fits_start small
  have idle : (start records : MetricsRace ι ζ).Idle first := fun _ => rfl
  have accountsMiddle := accounts_run accounts ranFirst
  have fitsMiddle := fits_run accounts fits ranFirst
  rcases exists_scraped accounts fits idle ranFirst firstDone with
    ⟨shown, old, takenFirst, parsedFirst, listedFirst⟩
  rcases exists_scraped accountsMiddle fitsMiddle secondIdle ranSecond secondDone with
    ⟨shownNext, new, takenSecond, parsedSecond, listedSecond⟩
  refine ⟨old, new, parsedFirst, parsedSecond, ?_⟩
  intro sample membership
  rcases (listedFirst sample).mp membership with ⟨family, labels, names, present, rfl⟩
  have before := snapshot_between accounts fits idle ranFirst (takenFirst family)
  have since := snapshot_between accountsMiddle fitsMiddle secondIdle ranSecond
    (takenSecond family)
  use ((family.counters shownNext).value (labelText labels)).toNat
  constructor
  · rw [listedSecond]
    exact ⟨family, labels, names, since.1 _ (before.2.1 _ present), rfl⟩
  · exact (before.2.2 _).2.trans (since.2.2 _).1

/-- Two handlers whose upstream failed. -/
def failing (_ : Bool) : List MetricsRecord := [.upstreamError "a"]

/-- A scrape that finds one failure counter, and what goes on before it is loaded. -/
def scrapeDuring (reader : Bool) (meanwhile : List (MetricsEvent Bool Bool)) :
    List (MetricsEvent Bool Bool) :=
  MetricFamily.all.flatMap fun family =>
    if family = .upstreamErrors then
      [.scrape reader family (.acquire [MetricsHandle.backendLabel "a"])] ++ meanwhile ++
        [.scrape reader family .load, .scrape reader family .release]
    else [.scrape reader family (.acquire []), .scrape reader family .release]

/-- Both handlers find no counter; one of them counts during the first scrape. -/
def firstScrape : List (MetricsEvent Bool Bool) :=
  [false, true, false, true].map .record ++ scrapeDuring false [.record false]

/-- The other counts during the second. -/
def secondScrape : List (MetricsEvent Bool Bool) :=
  scrapeDuring true [.record true, .record false, .record true]

def isIdle (race : MetricsRace Bool Bool) (reader : Bool) : Bool :=
  MetricFamily.all.all fun family =>
    match (race.families family).scans reader with
    | .waiting => true
    | _ => false

theorem idle_of_isIdle {race : MetricsRace Bool Bool} {reader : Bool}
    (idle : race.isIdle reader = true) : race.Idle reader := by
  intro family
  have own := List.all_eq_true.mp idle family (MetricFamily.mem_all family)
  split at own
  · assumption
  · cases own

theorem scrapes_grow_failing :
    ∃ middle after earlier later old new,
      (start failing).run firstScrape = some middle ∧ middle.rendered false = some earlier ∧
      middle.run secondScrape = some after ∧ after.rendered true = some later ∧
      Prometheus.parse earlier = some old ∧ Prometheus.parse later = some new ∧
      ∀ sample ∈ old, ∃ value, ⟨sample.metric, sample.labels, value⟩ ∈ new ∧
        sample.value ≤ value := by
  have finished : ((start failing).run firstScrape).bind (fun middle =>
      (middle.run secondScrape).map fun after => (middle.rendered false).isSome &&
        middle.isIdle true && (after.rendered true).isSome) = some true := by
    decide +kernel
  rcases Option.bind_eq_some_iff.mp finished with ⟨middle, ranFirst, later⟩
  rcases Option.map_eq_some_iff.mp later with ⟨after, ranSecond, done⟩
  rw [Bool.and_eq_true, Bool.and_eq_true, Option.isSome_iff_exists,
    Option.isSome_iff_exists] at done
  rcases done with ⟨⟨⟨earlier, firstDone⟩, idle⟩, later, secondDone⟩
  have small : ∀ family labels, total failing family labels < 2 ^ 64 := by
    intro family labels
    have each : ∀ handler, recordedSum (failing handler) family labels ≤ 1 := by
      intro handler
      rw [recordedSum]
      refine ((List.filter_sublist.map _).sum_le_sum fun _ _ => Nat.zero_le _).trans ?_
      exact le_rfl
    exact (Finset.sum_le_sum fun handler _ => each handler).trans_lt (by decide)
  rcases scrapes_grow failing small ranFirst firstDone (idle_of_isIdle idle) ranSecond
    secondDone with ⟨old, new, parsedFirst, parsedSecond, grown⟩
  exact ⟨middle, after, earlier, later, old, new, ranFirst, firstDone, ranSecond, secondDone,
    parsedFirst, parsedSecond, grown⟩

/-! ## Once the handlers are done -/

/-- The additions that a handler has not finished are pending in their families. -/
def Paced (race : MetricsRace ι ζ) : Prop :=
  ∀ handler family, (race.pending handler).count family = race.unfinished handler family

omit [DecidableEq ι] [DecidableEq ζ] [Fintype ζ] [Fintype ι] in
theorem paced_start : (start records : MetricsRace ι ζ).Paced := by
  intro handler family
  change (((records handler).flatMap MetricsRecord.series).map Series.family).count family =
    (additionsTo family (records handler)).length
  rw [additionsTo, List.length_map, addsTo]
  induction records handler with
  | nil => rfl
  | cons record later ih =>
      have own : (record.series.map Series.family).count family = (record.adds family).length := by
        rw [MetricsRecord.adds, List.length_map, List.count, List.countP_map,
          List.countP_eq_length_filter]
        rfl
      rw [List.flatMap_cons, List.flatMap_cons, List.map_append, List.count_append,
        List.length_append, ih, own]

/-- A step of a handler finishes at most its current addition. -/
theorem unfinished_record {handler : ι} {family : MetricFamily} {moved : MetricsRace ι ζ}
    (accounts : race.Accounts records)
    (acted : race.stepFamily family (.thread handler) = some moved) :
    (∀ other place, other ≠ handler ∨ place ≠ family →
      moved.unfinished other place = race.unfinished other place) ∧
      (moved.unfinished handler family = race.unfinished handler family ∨
        race.unfinished handler family = moved.unfinished handler family + 1) := by
  rcases stepFamily_spec acted with ⟨own, elsewhere⟩
  rcases SharedCounters.step_spec (Scanned.step_thread own).1 with ⟨adder, others⟩
  constructor
  · intro other place different
    rw [unfinished, unfinished]
    by_cases there : place = family
    · subst there
      rw [others other (different.resolve_right fun apart => apart rfl)]
    · rw [elsewhere place there]
  · rcases Adder.step_additions ((accounts family).holds handler) adder with same | ⟨_, front, _⟩
    · exact .inl (congrArg List.length same)
    · exact .inr (congrArg List.length front)

theorem paced_step (accounts : race.Accounts records) (paced : race.Paced)
    {event : MetricsEvent ι ζ} (stepped : race.step event = some after) : after.Paced := by
  cases event with
  | record handler =>
      simp only [step] at stepped
      split at stepped
      · cases stepped
      · next family rest pending =>
          rcases Option.map_eq_some_iff.mp stepped with ⟨moved, acted, rfl⟩
          rcases unfinished_record accounts acted with ⟨others, own⟩
          have queue : moved.pending = race.pending := by
            rcases Option.map_eq_some_iff.mp acted with ⟨_, -, rfl⟩
            rfl
          have current := paced handler family
          rw [pending, List.count_cons_self] at current
          intro other place
          by_cases isOwn : other = handler ∧ place = family
          · rcases isOwn with ⟨rfl, rfl⟩
            split
            · next finished =>
                simp only [Function.update_self]
                change rest.count place = moved.unfinished other place
                omega
            · next working =>
                rw [queue, pending, List.count_cons_self]
                omega
          · have apart : other ≠ handler ∨ place ≠ family := not_and_or.mp isOwn
            have same := (paced other place).trans (others other place apart).symm
            split
            · simp only
              by_cases isHandler : other = handler
              · subst isHandler
                have elsewhere := apart.resolve_left fun different => different rfl
                rw [pending, List.count_cons_of_ne (Ne.symm elsewhere)] at same
                rw [Function.update_self]
                exact same
              · rw [Function.update_of_ne isHandler]
                exact same
            · rw [queue]
              exact same
  | scrape reader family event =>
      simp only [step, Option.ite_none_right_eq_some] at stepped
      rcases Option.map_eq_some_iff.mp stepped.2 with ⟨moved, own, rfl⟩
      intro handler place
      rw [unfinished]
      by_cases there : place = family
      · subst there
        simp only [Function.update_self]
        rw [(Scanned.step_scan own).1]
        exact paced handler place
      · simp only [Function.update_of_ne there]
        exact paced handler place

theorem paced_run (accounts : before.Accounts records) (paced : before.Paced)
    {events : List (MetricsEvent ι ζ)} (ran : before.run events = some after) : after.Paced := by
  refine (Schedule.invariant
    (fun race : MetricsRace ι ζ => race.Accounts records ∧ race.Paced) ?_
    ⟨accounts, paced⟩ events ran).2
  rintro state event next ⟨accounts, paced⟩ stepped
  have oneStep : state.run [event] = some next := Schedule.run_cons.mpr ⟨next, stepped, rfl⟩
  exact ⟨accounts_run accounts oneStep, paced_step accounts paced stepped⟩

/-- All handlers have made their calls. -/
def Finished (race : MetricsRace ι ζ) : Prop := ∀ handler, race.pending handler = []

omit [DecidableEq ι] [DecidableEq ζ] [Fintype ζ] [Fintype ι] in
theorem complete_of_finished (paced : race.Paced) (finished : race.Finished)
    (family : MetricFamily) : (race.families family).counters.Complete := by
  intro handler
  apply List.eq_nil_of_length_eq_zero
  have current := paced handler family
  rw [finished handler] at current
  exact current.symm

omit [Fintype ι] in
/-- From then on the counters stay as they are. -/
theorem counters_of_finished (finished : before.Finished) {events : List (MetricsEvent ι ζ)}
    (ran : before.run events = some after) (family : MetricFamily) :
    (after.families family).counters = (before.families family).counters := by
  refine (Schedule.invariant (fun race : MetricsRace ι ζ => race.Finished ∧
    (race.families family).counters = (before.families family).counters) ?_
    ⟨finished, rfl⟩ events ran).2
  rintro state event next ⟨finished, same⟩ stepped
  cases event with
  | record handler => simp [step, finished handler] at stepped
  | scrape reader place event =>
      simp only [step, Option.ite_none_right_eq_some] at stepped
      rcases Option.map_eq_some_iff.mp stepped.2 with ⟨moved, own, rfl⟩
      use finished
      by_cases there : family = place
      · subst there
        simp only [Function.update_self]
        rw [(Scanned.step_scan own).1]
        exact same
      · simp only [Function.update_of_ne there]
        exact same

omit [DecidableEq ι] [DecidableEq ζ] [Fintype ζ] [Fintype ι] in
theorem sumOf_additionsTo (family : MetricFamily) (records : List MetricsRecord)
    (text : String) :
    Adder.sumOf (additionsTo family records) text =
      UInt64.ofNat (LabeledCounters.added (addsTo family records) text) := by
  rw [additionsTo, LabeledCounters.added]
  generalize addsTo family records = adds
  induction adds with
  | nil => rfl
  | cons add adds ih =>
      rw [List.map_cons, Adder.sumOf_cons, ih]
      by_cases same : add.1 = text
      · rw [List.filter_cons_of_pos (by simpa using same), if_pos same, List.sum_singleton,
          List.map_cons, List.sum_cons, UInt64.ofNat_add, UInt64.ofNat_toNat]
      · rw [List.filter_cons_of_neg (by simpa using same), if_neg same, zero_add]

omit [DecidableEq ι] [DecidableEq ζ] [Fintype ζ] [Fintype ι] in
/-- The sequential counters of some handlers' calls. -/
theorem value_recordAll (family : MetricFamily) (handlers : List ι) (text : String) :
    (family.counters (MetricsHandle.new.recordAll (handlers.flatMap records))).value text =
      (handlers.map fun handler =>
        Adder.sumOf (additionsTo family (records handler)) text).sum := by
  have fresh : (family.counters MetricsHandle.new).value text = 0 := by cases family <;> rfl
  rw [counters_recordAll, LabeledCounters.value_addAll, fresh, zero_add]
  induction handlers with
  | nil => rfl
  | cons handler handlers ih =>
      rw [List.flatMap_cons, addsTo, List.flatMap_append, LabeledCounters.added,
        List.filter_append, List.map_append, List.sum_append, UInt64.ofNat_add, List.map_cons,
        List.sum_cons, sumOf_additionsTo, ← ih]
      rfl

omit [DecidableEq ι] [DecidableEq ζ] [Fintype ζ] [Fintype ι] in
theorem mem_addsTo_flatMap {family : MetricFamily} {handlers : List ι} {text : String} :
    text ∈ (addsTo family (handlers.flatMap records)).map Prod.fst ↔
      ∃ handler ∈ handlers, ∃ addition ∈ additionsTo family (records handler),
        addition.key = text := by
  have own : ∀ handler, (∃ addition ∈ additionsTo family (records handler),
      addition.key = text) ↔ text ∈ (addsTo family (records handler)).map Prod.fst := by
    intro handler
    rw [additionsTo]
    simp
  simp only [own]
  rw [addsTo, List.flatMap_assoc, List.map_flatMap, List.mem_flatMap]
  rfl

/-- Once all handlers are done, a scrape takes the sequential counters. -/
theorem snapshot_of_finished (accounts : before.Accounts records) (paced : before.Paced)
    (finished : before.Finished) (idle : before.Idle reader)
    {events : List (MetricsEvent ι ζ)} (ran : before.run events = some after)
    {family : MetricFamily} {counters : LabeledCounters}
    (taken : after.snapshot reader family = some counters) :
    counters =
      family.counters (MetricsHandle.new.recordAll (Finset.univ.toList.flatMap records)) := by
  have complete := complete_of_finished paced finished
  have fits : before.Fits := by
    intro family text
    rw [SharedCounters.due_of_complete (complete family)]
    exact UInt64.toNat_lt _
  have same := counters_of_finished finished ran family
  rcases snapshot_between accounts fits idle ran taken with ⟨present, absent, between⟩
  rw [same] at absent
  have value : ∀ text, counters.value text =
      (family.counters (MetricsHandle.new.recordAll (Finset.univ.toList.flatMap records))).value
        text := by
    intro text
    have bounds := between text
    rw [count, count, same] at bounds
    have shown : counters.value text = (before.families family).counters.table.value text :=
      UInt64.toNat_inj.mp (le_antisymm bounds.2 bounds.1)
    rw [shown, (accounts family).value (complete family), value_recordAll, Finset.sum_map_toList]
  have known : ∀ text, text ∈ counters ↔ text ∈ family.counters
      (MetricsHandle.new.recordAll (Finset.univ.toList.flatMap records)) := by
    intro text
    have fresh : text ∉ family.counters MetricsHandle.new := by
      cases family <;> exact Finmap.notMem_empty
    rw [counters_recordAll, LabeledCounters.mem_addAll, or_iff_right fresh]
    constructor
    · intro listed
      rcases (accounts family).known text (SharedTable.mem_keys.mp (absent text listed)) with
        ⟨handler, addition, membership, rfl⟩
      exact mem_addsTo_flatMap.mpr ⟨handler, Finset.mem_toList.mpr (Finset.mem_univ handler),
        addition, membership, rfl⟩
    · intro listed
      rcases mem_addsTo_flatMap.mp listed with ⟨handler, -, addition, membership, rfl⟩
      apply present
      rw [SharedTable.mem_keys]
      apply ((accounts family).passed handler addition membership).resolve_left
      rw [complete family handler]
      exact List.not_mem_nil
  exact LabeledCounters.ext_value known value

/-- **Settled scrapes.**  However the handlers' calls were interleaved, a scrape that begins
when they are done answers with the text of these calls one after the other, in any order. -/
theorem scrape_settled (records : ι → List MetricsRecord)
    {front back : List (MetricsEvent ι ζ)} {middle after : MetricsRace ι ζ} {text : String}
    (ran : (start records).run front = some middle) (finished : middle.Finished)
    (idle : middle.Idle reader) (ranScrape : middle.run back = some after)
    (done : after.rendered reader = some text) {calls : List MetricsRecord}
    (reordered : calls.Perm (Finset.univ.toList.flatMap records)) :
    text = (MetricsHandle.new.recordAll calls).render := by
  rcases exists_of_rendered done with ⟨metrics, rfl, taken⟩
  have accounts : (start records : MetricsRace ι ζ).Accounts records := accounts_start
  rw [recordAll_perm _ reordered]
  congr 1
  apply MetricsHandle.ext_counters
  intro family
  exact snapshot_of_finished (accounts_run accounts ran) (paced_run accounts paced_start ran)
    finished idle ranScrape (taken family)

theorem scrape_settled_failing :
    ∃ middle after text,
      (start failing).run ([false, true, false, true, true, false, false, true].map .record) =
        some middle ∧
      middle.run (scrapeDuring false []) = some after ∧ after.rendered false = some text ∧
      text = (MetricsHandle.new.recordAll [.upstreamError "a", .upstreamError "a"]).render := by
  have finished : ((start failing).run
      ([false, true, false, true, true, false, false, true].map .record)).bind (fun middle =>
        (middle.run (scrapeDuring false [])).map fun after => (after.rendered false).isSome &&
          middle.isIdle false && [false, true].all fun handler =>
            (middle.pending handler).isEmpty) = some true := by
    decide +kernel
  rcases Option.bind_eq_some_iff.mp finished with ⟨middle, ran, later⟩
  rcases Option.map_eq_some_iff.mp later with ⟨after, ranScrape, ended⟩
  rw [Bool.and_eq_true, Bool.and_eq_true, Option.isSome_iff_exists] at ended
  rcases ended with ⟨⟨⟨text, done⟩, idle⟩, empty⟩
  have noneLeft : middle.Finished := by
    intro handler
    apply List.isEmpty_iff.mp
    exact List.all_eq_true.mp empty handler (by cases handler <;> simp)
  have reordered : [MetricsRecord.upstreamError "a", .upstreamError "a"].Perm
      ((Finset.univ : Finset Bool).toList.flatMap failing) := by
    have same : (Finset.univ : Finset Bool).toList.flatMap failing =
        List.replicate 2 (.upstreamError "a") := by
      rw [List.eq_replicate_iff]
      constructor
      · simp [failing]
      · intro record membership
        simpa [failing] using membership
    rw [same]
    rfl
  exact ⟨middle, after, text, ran, ranScrape, done,
    scrape_settled failing ran noneLeft (idle_of_isIdle idle) ranScrape done reordered⟩

end MetricsRace

end Patchbay
