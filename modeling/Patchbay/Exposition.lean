import Mathlib.Algebra.GroupWithZero.Nat
import Mathlib.Data.Finset.Sort
import Mathlib.Data.String.Basic
import Patchbay.Lib.Prometheus
import Patchbay.Metrics

/-!
# Exposition of the metrics

Every counter is kept under the text of its labels.  Rendering writes the five families
one after the other, sorted by that text.  A reader of the exposition format gets back
what was recorded: one sample for each set of labels, with its sum.
-/

namespace Patchbay

namespace LabeledCounters

/-- All counters, sorted by their label text. -/
def snapshot (counters : LabeledCounters) : List (String × UInt64) :=
  counters.keys.sort.map fun label => (label, counters.value label)

/-- One addition after the other. -/
def addAll (counters : LabeledCounters) (adds : List (String × UInt64)) : LabeledCounters :=
  adds.foldl (fun counters add => counters.add add.1 add.2) counters

/-- The exact sum of what is added under a label. -/
def added (adds : List (String × UInt64)) (label : String) : Nat :=
  ((adds.filter fun add => add.1 = label).map fun add => add.2.toNat).sum

theorem mem_add {counters : LabeledCounters} {label other : String} {n : UInt64} :
    other ∈ counters.add label n ↔ other = label ∨ other ∈ counters := by
  rw [add, Table.update, Finmap.mem_insert]

theorem add_comm (counters : LabeledCounters) (first second : String) (m n : UInt64) :
    (counters.add first m).add second n = (counters.add second n).add first m := by
  apply Finmap.ext_lookup
  intro label
  by_cases isFirst : label = first
  · by_cases isSecond : label = second
    · subst isFirst isSecond
      simp [add, UInt64.add_assoc, UInt64.add_comm m n]
    · subst isFirst
      simp [add, isSecond]
  · by_cases isSecond : label = second
    · subst isSecond
      simp [add, isFirst]
    · simp [add, isFirst, isSecond]

theorem mem_addAll {counters : LabeledCounters} {adds : List (String × UInt64)}
    {label : String} :
    label ∈ counters.addAll adds ↔ label ∈ counters ∨ label ∈ adds.map Prod.fst := by
  induction adds generalizing counters with
  | nil => simp [addAll]
  | cons add adds ih =>
      rw [addAll, List.foldl_cons, ← addAll, ih, mem_add, List.map_cons, List.mem_cons]
      tauto

theorem value_addAll (counters : LabeledCounters) (adds : List (String × UInt64))
    (label : String) :
    (counters.addAll adds).value label =
      counters.value label + UInt64.ofNat (added adds label) := by
  induction adds generalizing counters with
  | nil => simp [addAll, added]
  | cons add adds ih =>
      rw [addAll, List.foldl_cons, ← addAll, ih, added, added]
      by_cases same : add.1 = label
      · subst same
        rw [List.filter_cons_of_pos (by simp), List.map_cons, List.sum_cons, UInt64.ofNat_add,
          UInt64.ofNat_toNat, value_add_self, UInt64.add_assoc]
      · rw [List.filter_cons_of_neg (by simpa using same),
          value_add_of_ne counters (Ne.symm same)]

theorem addAll_perm (counters : LabeledCounters) {left right : List (String × UInt64)}
    (reordered : left.Perm right) : counters.addAll left = counters.addAll right := by
  apply reordered.foldl_eq'
  intro first _ second _ current
  exact add_comm current _ _ _ _

theorem mem_snapshot {counters : LabeledCounters} {label : String} {value : UInt64} :
    (label, value) ∈ counters.snapshot ↔ label ∈ counters ∧ counters.value label = value := by
  simp [snapshot, Finmap.mem_keys]

end LabeledCounters

/-! ## Rendering -/

def writeFamily (out name ty help : String) (pairs : List (String × UInt64)) : String :=
  if pairs.isEmpty then out
  else
    let out := out ++ "# HELP " ++ name ++ " " ++ help ++ "\n"
    let out := out ++ "# TYPE " ++ name ++ " " ++ ty ++ "\n"
    pairs.foldl
      (fun out (labels, value) => out ++ name ++ labels ++ " " ++ toString value ++ "\n") out

namespace MetricsHandle

/-- Render all metrics. -/
def render (metrics : MetricsHandle) : String :=
  let out := ""
  let out := writeFamily out "patchbay_requests_total" "counter" "Total requests received."
    metrics.requests.snapshot
  let out := writeFamily out "patchbay_tokens_total" "counter" "Total tokens consumed."
    metrics.tokens.snapshot
  let out := writeFamily out "patchbay_upstream_errors_total" "counter"
    "Upstream non-2xx or connection errors." metrics.upstreamErrors.snapshot
  let out := writeFamily out "patchbay_rate_limit_rejections_total" "counter"
    "Requests rejected by rate limiter." metrics.rateLimitRejections.snapshot
  let out := writeFamily out "patchbay_budget_rejections_total" "counter"
    "Requests rejected by token budget." metrics.budgetRejections.snapshot
  out

end MetricsHandle

/-- A call of one of the recording functions. -/
inductive MetricsRecord where
  | request (backend model statusClass : String)
  | tokens (key : String) (usage : Usage)
  | upstreamError (backend : String)
  | rateLimitRejection (key : String)
  | budgetRejection (key : String)

namespace MetricsHandle

def record (metrics : MetricsHandle) : MetricsRecord → MetricsHandle
  | .request backend model statusClass => metrics.recordRequest backend model statusClass
  | .tokens key usage => metrics.recordTokens key usage
  | .upstreamError backend => metrics.recordUpstreamError backend
  | .rateLimitRejection key => metrics.recordRateLimitRejection key
  | .budgetRejection key => metrics.recordBudgetRejection key

def recordAll (metrics : MetricsHandle) (records : List MetricsRecord) : MetricsHandle :=
  records.foldl record metrics

end MetricsHandle

/-! ## Series -/

inductive MetricFamily where
  | requests
  | tokens
  | upstreamErrors
  | rateLimitRejections
  | budgetRejections
  deriving DecidableEq, Repr

namespace MetricFamily

def all : List MetricFamily :=
  [.requests, .tokens, .upstreamErrors, .rateLimitRejections, .budgetRejections]

def name : MetricFamily → String
  | .requests => "patchbay_requests_total"
  | .tokens => "patchbay_tokens_total"
  | .upstreamErrors => "patchbay_upstream_errors_total"
  | .rateLimitRejections => "patchbay_rate_limit_rejections_total"
  | .budgetRejections => "patchbay_budget_rejections_total"

def help : MetricFamily → String
  | .requests => "Total requests received."
  | .tokens => "Total tokens consumed."
  | .upstreamErrors => "Upstream non-2xx or connection errors."
  | .rateLimitRejections => "Requests rejected by rate limiter."
  | .budgetRejections => "Requests rejected by token budget."

def counters (metrics : MetricsHandle) : MetricFamily → LabeledCounters
  | .requests => metrics.requests
  | .tokens => metrics.tokens
  | .upstreamErrors => metrics.upstreamErrors
  | .rateLimitRejections => metrics.rateLimitRejections
  | .budgetRejections => metrics.budgetRejections

@[simp] theorem mem_all (family : MetricFamily) : family ∈ all := by
  cases family <;> simp [all]

end MetricFamily

/-- One counter that a call adds to, by its labels. -/
structure Series where
  family : MetricFamily
  labels : Prometheus.Labels
  added : UInt64

namespace MetricsRecord

/-- What a call adds to. -/
def series : MetricsRecord → List Series
  | .request backend model statusClass =>
      [⟨.requests, [("backend", backend), ("model", model), ("status", statusClass)], 1⟩]
  | .tokens key usage =>
      [⟨.tokens, [("key", key), ("kind", "prompt")], usage.promptTokens⟩,
        ⟨.tokens, [("key", key), ("kind", "completion")], usage.completionTokens⟩,
        ⟨.tokens, [("key", key), ("kind", "total")], usage.totalTokens⟩]
  | .upstreamError backend => [⟨.upstreamErrors, [("backend", backend)], 1⟩]
  | .rateLimitRejection key => [⟨.rateLimitRejections, [("key", key)], 1⟩]
  | .budgetRejection key => [⟨.budgetRejections, [("key", key)], 1⟩]

end MetricsRecord

/-- Was something recorded under these labels? -/
def Recorded (records : List MetricsRecord) (family : MetricFamily)
    (labels : Prometheus.Labels) : Prop :=
  ∃ series ∈ records.flatMap MetricsRecord.series, series.family = family ∧
    series.labels = labels

/-- The exact sum of what was recorded under these labels. -/
def recordedSum (records : List MetricsRecord) (family : MetricFamily)
    (labels : Prometheus.Labels) : Nat :=
  (((records.flatMap MetricsRecord.series).filter fun series =>
    series.family = family ∧ series.labels = labels).map fun series => series.added.toNat).sum

/-! ## Label texts -/

/-- The text of labels. -/
def labelText (labels : Prometheus.Labels) : String :=
  String.ofList (Prometheus.formatLabels labels)

/-- The three replacements escape every character once. -/
theorem toList_escape (text : String) :
    (escape text).toList = text.toList.flatMap Prometheus.escapeChar := by
  simp only [escape, Text.replaceChar, String.toList_ofList, List.flatMap_assoc]
  apply List.flatMap_congr
  intro char _
  by_cases backslash : char = '\\'
  · subst backslash
    decide
  · by_cases quote : char = '"'
    · subst quote
      decide
    · simp [Prometheus.escapeChar, backslash, quote]

namespace MetricsHandle

theorem requestLabel_eq (backend model statusClass : String) :
    requestLabel backend model statusClass =
      labelText [("backend", backend), ("model", model), ("status", statusClass)] := by
  apply String.toList_injective
  simp [requestLabel, labelText, Prometheus.formatLabels, Prometheus.formatPairs,
    Prometheus.formatLabel, toList_escape]

theorem tokensLabel_eq (key : String) {kind : String} (plain : escape kind = kind) :
    tokensLabel key kind = labelText [("key", key), ("kind", kind)] := by
  have plainChars : kind.toList.flatMap Prometheus.escapeChar = kind.toList := by
    rw [← toList_escape, plain]
  apply String.toList_injective
  simp [tokensLabel, labelText, Prometheus.formatLabels, Prometheus.formatPairs,
    Prometheus.formatLabel, toList_escape, plainChars]

theorem backendLabel_eq (backend : String) :
    backendLabel backend = labelText [("backend", backend)] := by
  apply String.toList_injective
  simp [backendLabel, labelText, Prometheus.formatLabels, Prometheus.formatPairs,
    Prometheus.formatLabel, toList_escape]

theorem keyLabel_eq (key : String) : keyLabel key = labelText [("key", key)] := by
  apply String.toList_injective
  simp [keyLabel, labelText, Prometheus.formatLabels, Prometheus.formatPairs,
    Prometheus.formatLabel, toList_escape]

end MetricsHandle

/-- Label sets with names that can be read back. -/
def WellNamed (labels : Prometheus.Labels) : Prop :=
  ∀ label ∈ labels, Prometheus.ValidName Prometheus.isLabelChar label.1

theorem labelText_injective {left right : Prometheus.Labels} (leftNames : WellNamed left)
    (rightNames : WellNamed right) (same : labelText left = labelText right) : left = right :=
  Prometheus.formatLabels_injective leftNames rightNames (String.ofList_injective same)

def labelNames : List String := ["backend", "model", "status", "key", "kind"]

theorem validName_of_mem_labelNames :
    ∀ name ∈ labelNames, Prometheus.ValidName Prometheus.isLabelChar name := by
  intro name membership
  simp only [labelNames, List.mem_cons, List.not_mem_nil, or_false] at membership
  rcases membership with rfl | rfl | rfl | rfl | rfl <;> rfl

theorem mem_labelNames (record : MetricsRecord) :
    ∀ series ∈ record.series, series.labels.map Prod.fst ⊆ labelNames := by
  cases record <;> simp [MetricsRecord.series, labelNames]

theorem wellNamed_series {record : MetricsRecord} {series : Series}
    (membership : series ∈ record.series) : WellNamed series.labels := by
  intro label labelMembership
  apply validName_of_mem_labelNames
  exact mem_labelNames record series membership (List.mem_map_of_mem labelMembership)

namespace MetricsRecord

/-- What a call adds to one family, by label text. -/
def adds (family : MetricFamily) (record : MetricsRecord) : List (String × UInt64) :=
  (record.series.filter fun series => series.family = family).map fun series =>
    (labelText series.labels, series.added)

/-- A call adds its series and nothing else. -/
theorem counters_record (metrics : MetricsHandle) (record : MetricsRecord)
    (family : MetricFamily) :
    family.counters (metrics.record record) =
      (family.counters metrics).addAll (record.adds family) := by
  cases record with
  | request backend model statusClass =>
      cases family <;> simp [MetricsHandle.record, MetricsHandle.recordRequest, adds, series,
        MetricFamily.counters, LabeledCounters.addAll, LabeledCounters.inc,
        MetricsHandle.requestLabel_eq]
  | tokens key usage =>
      cases family <;> simp [MetricsHandle.record, MetricsHandle.recordTokens, adds, series,
        MetricFamily.counters, LabeledCounters.addAll,
        MetricsHandle.tokensLabel_eq key (by decide : escape "prompt" = "prompt"),
        MetricsHandle.tokensLabel_eq key (by decide : escape "completion" = "completion"),
        MetricsHandle.tokensLabel_eq key (by decide : escape "total" = "total")]
  | upstreamError backend =>
      cases family <;> simp [MetricsHandle.record, MetricsHandle.recordUpstreamError, adds,
        series, MetricFamily.counters, LabeledCounters.addAll, LabeledCounters.inc,
        MetricsHandle.backendLabel_eq]
  | rateLimitRejection key =>
      cases family <;> simp [MetricsHandle.record, MetricsHandle.recordRateLimitRejection,
        adds, series, MetricFamily.counters, LabeledCounters.addAll, LabeledCounters.inc,
        MetricsHandle.keyLabel_eq]
  | budgetRejection key =>
      cases family <;> simp [MetricsHandle.record, MetricsHandle.recordBudgetRejection,
        adds, series, MetricFamily.counters, LabeledCounters.addAll, LabeledCounters.inc,
        MetricsHandle.keyLabel_eq]

end MetricsRecord

/-! ## The tables after any calls -/

/-- What all calls add to one family, by label text. -/
def addsTo (family : MetricFamily) (records : List MetricsRecord) : List (String × UInt64) :=
  records.flatMap (MetricsRecord.adds family)

/-- The run lemma. -/
theorem counters_recordAll (metrics : MetricsHandle) (records : List MetricsRecord)
    (family : MetricFamily) :
    family.counters (metrics.recordAll records) =
      (family.counters metrics).addAll (addsTo family records) := by
  induction records generalizing metrics with
  | nil => rfl
  | cons record records ih =>
      rw [MetricsHandle.recordAll, List.foldl_cons, ← MetricsHandle.recordAll, ih,
        MetricsRecord.counters_record, LabeledCounters.addAll, LabeledCounters.addAll,
        ← List.foldl_append]
      rfl

theorem MetricsHandle.ext_counters {left right : MetricsHandle}
    (same : ∀ family : MetricFamily, family.counters left = family.counters right) :
    left = right := by
  rcases left with ⟨requests, tokens, upstreamErrors, rateLimitRejections, budgetRejections⟩
  rw [MetricsHandle.mk.injEq]
  exact ⟨same .requests, same .tokens, same .upstreamErrors, same .rateLimitRejections,
    same .budgetRejections⟩

/-- The order of the calls does not matter. -/
theorem recordAll_perm (metrics : MetricsHandle) {left right : List MetricsRecord}
    (reordered : left.Perm right) : metrics.recordAll left = metrics.recordAll right := by
  apply MetricsHandle.ext_counters
  intro family
  rw [counters_recordAll, counters_recordAll]
  exact LabeledCounters.addAll_perm _ (reordered.flatMap_right _)

theorem mem_addsTo {family : MetricFamily} {records : List MetricsRecord} {text : String} :
    text ∈ (addsTo family records).map Prod.fst ↔
      ∃ labels, Recorded records family labels ∧ labelText labels = text := by
  simp only [addsTo, MetricsRecord.adds, Recorded, List.mem_map, List.mem_flatMap,
    List.mem_filter, decide_eq_true_eq]
  constructor
  · rintro ⟨_, ⟨record, membership, series, ⟨ofRecord, ofFamily⟩, rfl⟩, rfl⟩
    exact ⟨series.labels, ⟨series, ⟨record, membership, ofRecord⟩, ofFamily, rfl⟩, rfl⟩
  · rintro ⟨_, ⟨series, ⟨record, membership, ofRecord⟩, ofFamily, rfl⟩, rfl⟩
    exact ⟨_, ⟨record, membership, series, ⟨ofRecord, ofFamily⟩, rfl⟩, rfl⟩

theorem wellNamed_of_recorded {records : List MetricsRecord} {family : MetricFamily}
    {labels : Prometheus.Labels} (recorded : Recorded records family labels) :
    WellNamed labels := by
  rcases recorded with ⟨series, membership, -, rfl⟩
  rcases List.mem_flatMap.mp membership with ⟨record, -, ofRecord⟩
  exact wellNamed_series ofRecord

/-- Distinct labels are never counted together. -/
theorem added_addsTo {family : MetricFamily} (records : List MetricsRecord)
    {labels : Prometheus.Labels} (names : WellNamed labels) :
    LabeledCounters.added (addsTo family records) (labelText labels) =
      recordedSum records family labels := by
  induction records with
  | nil => rfl
  | cons record records ih =>
      rw [addsTo, List.flatMap_cons, ← addsTo]
      simp only [LabeledCounters.added, recordedSum, List.filter_append, List.map_append,
        List.sum_append, List.flatMap_cons] at ih ⊢
      rw [ih, MetricsRecord.adds, List.filter_map, List.map_map, List.filter_filter]
      congr 2
      apply congrArg
      apply List.filter_congr
      intro series membership
      have sameText : labelText series.labels = labelText labels ↔ series.labels = labels :=
        ⟨labelText_injective (wellNamed_series membership) names, congrArg labelText⟩
      simp [sameText, Bool.and_comm]

/-! ## The rendered text -/

/-- The labels that a text was made of. -/
def labelsOf (text : String) : Prometheus.Labels :=
  match Prometheus.expect '{' text.toList with
  | none => []
  | some rest => ((Prometheus.readLabels text.toList.length rest).map Prod.fst).getD []

theorem labelsOf_labelText {labels : Prometheus.Labels} (names : WellNamed labels) :
    labelsOf (labelText labels) = labels := by
  have enough : labels.length < (Prometheus.formatLabels labels).length := by
    have bounded := Prometheus.formatPairs_length labels
    simp only [Prometheus.formatLabels, List.length_cons, List.length_append]
    omega
  have read := Prometheus.readLabels_formatPairs names [] enough
  have opened : Prometheus.expect '{' (Prometheus.formatLabels labels) =
      some (Prometheus.formatPairs labels ++ ['}']) := Prometheus.expect_self _ _
  simp only [labelsOf, labelText, String.toList_ofList, opened, read, Option.map_some,
    Option.getD_some]

/-- A family with its samples, as the format has it. -/
def MetricFamily.exposed (metrics : MetricsHandle) (family : MetricFamily) :
    Prometheus.Family where
  metric := family.name
  kind := "counter"
  help := family.help
  samples := (family.counters metrics).snapshot.map fun pair =>
    (labelsOf pair.1, pair.2.toNat)

/-- The families that are not empty. -/
def MetricsHandle.exposed (metrics : MetricsHandle) : List Prometheus.Family :=
  (MetricFamily.all.filter fun family =>
    !(family.counters metrics).snapshot.isEmpty).map (MetricFamily.exposed metrics)

/-- Every counter is kept under a text that was made of labels. -/
def MetricsHandle.WellLabeled (metrics : MetricsHandle) : Prop :=
  ∀ (family : MetricFamily), ∀ text ∈ family.counters metrics,
    ∃ labels, WellNamed labels ∧ text = labelText labels

theorem toList_foldl_write (name out : String) (pairs : List (String × UInt64)) :
    (pairs.foldl (fun out (labels, value) =>
        out ++ name ++ labels ++ " " ++ toString value ++ "\n") out).toList =
      out.toList ++ (pairs.map fun pair =>
        name.toList ++ pair.1.toList ++ ' ' :: pair.2.toNat.repr.toList).flatMap
          (· ++ ['\n']) := by
  induction pairs generalizing out with
  | nil => simp
  | cons pair pairs ih =>
      have shown : (toString pair.2).toList = pair.2.toNat.repr.toList := rfl
      rw [List.foldl_cons, ih]
      simp only [String.toList_append, shown, List.map_cons, List.flatMap_cons,
        List.append_assoc]
      rfl

theorem toList_writeFamily (out : String) (metrics : MetricsHandle)
    (labeled : metrics.WellLabeled) (family : MetricFamily) :
    (writeFamily out family.name "counter" family.help
        (family.counters metrics).snapshot).toList =
      out.toList ++ Prometheus.write
        (if (family.counters metrics).snapshot.isEmpty then [] else [family.exposed metrics]) := by
  rw [writeFamily]
  split
  · simp [Prometheus.write]
  · rw [toList_foldl_write]
    have samples : (family.exposed metrics).samples.map (family.exposed metrics).sampleLine =
        (family.counters metrics).snapshot.map fun pair =>
          family.name.toList ++ pair.1.toList ++ ' ' :: pair.2.toNat.repr.toList := by
      rw [MetricFamily.exposed, List.map_map]
      apply List.map_congr_left
      rintro ⟨text, value⟩ membership
      rcases labeled family text (LabeledCounters.mem_snapshot.mp membership).1 with
        ⟨labels, names, rfl⟩
      have chars : (labelText labels).toList = Prometheus.formatLabels labels :=
        String.toList_ofList
      simp [Prometheus.Family.sampleLine, labelsOf_labelText names, chars]
    simp only [Prometheus.write, List.flatMap_cons, List.flatMap_nil, List.append_nil,
      Prometheus.Family.lines, samples]
    simp [MetricFamily.exposed]

namespace MetricsHandle

variable {metrics : MetricsHandle}

/-- Rendering goes through the families in order. -/
theorem render_eq_foldl (metrics : MetricsHandle) :
    metrics.render = MetricFamily.all.foldl (fun out family =>
      writeFamily out family.name "counter" family.help (family.counters metrics).snapshot)
      "" := rfl

theorem toList_render (labeled : metrics.WellLabeled) :
    metrics.render.toList = Prometheus.write metrics.exposed := by
  suffices ∀ (families : List MetricFamily) (out : String),
      (families.foldl (fun out family => writeFamily out family.name "counter" family.help
          (family.counters metrics).snapshot) out).toList =
        out.toList ++ Prometheus.write ((families.filter fun family =>
          !(family.counters metrics).snapshot.isEmpty).map (MetricFamily.exposed metrics)) by
    rw [render_eq_foldl, this, exposed]
    rfl
  intro families
  induction families with
  | nil => simp [Prometheus.write]
  | cons family families ih =>
      intro out
      rw [List.foldl_cons, ih, toList_writeFamily out metrics labeled, List.filter_cons]
      split
      · next empty => simp [empty, Prometheus.write]
      · next present => simp [present, Prometheus.write]

theorem exposed_distinct : (metrics.exposed.map Prometheus.Family.metric).Nodup := by
  have names : (MetricFamily.all.map MetricFamily.name).Nodup := by decide +kernel
  rw [exposed, List.map_map]
  exact List.Nodup.sublist (List.filter_sublist.map _) names

theorem validName_name (family : MetricFamily) :
    Prometheus.ValidName Prometheus.isMetricChar family.name := by
  cases family <;> rfl

theorem newline_notMem_help (family : MetricFamily) : '\n' ∉ family.help.toList := by
  have oneLine : family.help.toList.all (· != '\n') = true := by
    cases family <;> decide +kernel
  intro membership
  exact absurd (List.all_eq_true.mp oneLine _ membership) (by decide)

theorem exposed_valid (labeled : metrics.WellLabeled) :
    ∀ family ∈ metrics.exposed, family.Valid := by
  intro family membership
  rcases List.mem_map.mp membership with ⟨family, -, rfl⟩
  have labeledText : ∀ text ∈ family.counters metrics,
      WellNamed (labelsOf text) ∧ labelText (labelsOf text) = text := by
    intro text present
    rcases labeled family text present with ⟨labels, names, rfl⟩
    rw [labelsOf_labelText names]
    exact ⟨names, rfl⟩
  constructor
  · exact validName_name family
  · simp [MetricFamily.exposed, Prometheus.kinds]
  · exact newline_notMem_help family
  · intro sample sampleMembership
    rcases List.mem_map.mp sampleMembership with ⟨⟨text, value⟩, present, rfl⟩
    exact (labeledText text (LabeledCounters.mem_snapshot.mp present).1).1
  · simp only [MetricFamily.exposed, LabeledCounters.snapshot, List.map_map]
    apply List.Nodup.map_on _ (Finset.sort_nodup _ _)
    intro left leftMembership right rightMembership same
    rw [Finset.mem_sort, Finmap.mem_keys] at leftMembership rightMembership
    rw [← (labeledText left leftMembership).2, ← (labeledText right rightMembership).2]
    exact congrArg labelText same

/-- A sample is exposed for every counter and for nothing else. -/
theorem mem_exposed {sample : Prometheus.Sample} :
    sample ∈ metrics.exposed.flatMap Prometheus.Family.readBack ↔
      ∃ family : MetricFamily, ∃ text ∈ family.counters metrics,
        sample = ⟨family.name, labelsOf text, ((family.counters metrics).value text).toNat⟩ := by
  simp only [List.mem_flatMap, exposed, List.mem_map, List.mem_filter, MetricFamily.mem_all,
    true_and, Prometheus.Family.readBack]
  constructor
  · rintro ⟨_, ⟨family, -, rfl⟩, _, written, rfl⟩
    rcases List.mem_map.mp written with ⟨⟨text, value⟩, present, rfl⟩
    rcases LabeledCounters.mem_snapshot.mp present with ⟨membership, rfl⟩
    exact ⟨family, text, membership, rfl⟩
  · rintro ⟨family, text, membership, rfl⟩
    have present := LabeledCounters.mem_snapshot.mpr ⟨membership, rfl⟩
    have notEmpty : (family.counters metrics).snapshot.isEmpty = false :=
      List.isEmpty_eq_false_iff.mpr (List.ne_nil_of_mem present)
    exact ⟨_, ⟨family, by rw [notEmpty]; rfl, rfl⟩, _, List.mem_map_of_mem present, rfl⟩

end MetricsHandle

/-! ## Round trip -/

theorem wellLabeled_recordAll (records : List MetricsRecord) :
    (MetricsHandle.new.recordAll records).WellLabeled := by
  intro family text membership
  rw [counters_recordAll, LabeledCounters.mem_addAll, mem_addsTo] at membership
  rcases membership with absent | ⟨labels, recorded, rfl⟩
  · cases family <;> exact (Finmap.notMem_empty absent).elim
  · exact ⟨labels, wellNamed_of_recorded recorded, rfl⟩

/-- **Exposition round trip.**  The rendered text reads back as one sample for each set
of labels under which something was recorded, with its sum, and it does not depend on
the order of the calls. -/
theorem parse_render (records : List MetricsRecord)
    (small : ∀ family labels, recordedSum records family labels < 2 ^ 64) :
    ∃ samples, Prometheus.parse (MetricsHandle.new.recordAll records).render = some samples ∧
      (samples.map fun sample => (sample.metric, sample.labels)).Nodup ∧
      (∀ sample, sample ∈ samples ↔ ∃ family labels, Recorded records family labels ∧
        sample = ⟨family.name, labels, recordedSum records family labels⟩) ∧
      ∀ reordered, records.Perm reordered →
        (MetricsHandle.new.recordAll reordered).render =
          (MetricsHandle.new.recordAll records).render := by
  have labeled := wellLabeled_recordAll records
  have parsed := Prometheus.parse_write (MetricsHandle.exposed_valid labeled)
    MetricsHandle.exposed_distinct
  rw [← MetricsHandle.toList_render labeled, String.ofList_toList] at parsed
  have sums : ∀ {family : MetricFamily} {labels : Prometheus.Labels},
      Recorded records family labels →
        ((family.counters (MetricsHandle.new.recordAll records)).value
          (labelText labels)).toNat = recordedSum records family labels := by
    intro family labels recorded
    have fresh : (family.counters MetricsHandle.new).value (labelText labels) = 0 := by
      cases family <;> rfl
    rw [counters_recordAll, LabeledCounters.value_addAll, fresh, UInt64.zero_add,
      added_addsTo records (wellNamed_of_recorded recorded), UInt64.toNat_ofNat']
    exact Nat.mod_eq_of_lt (small family labels)
  have present : ∀ {family : MetricFamily} {text : String},
      text ∈ family.counters (MetricsHandle.new.recordAll records) ↔
        ∃ labels, Recorded records family labels ∧ labelText labels = text := by
    intro family text
    have fresh : text ∉ family.counters MetricsHandle.new := by
      cases family <;> exact Finmap.notMem_empty
    rw [counters_recordAll, LabeledCounters.mem_addAll, or_iff_right fresh, mem_addsTo]
  refine ⟨_, parsed, Prometheus.parse_nodup parsed, ?_, ?_⟩
  · intro sample
    rw [MetricsHandle.mem_exposed]
    constructor
    · rintro ⟨family, text, membership, rfl⟩
      rcases present.mp membership with ⟨labels, recorded, rfl⟩
      use family, labels, recorded
      rw [labelsOf_labelText (wellNamed_of_recorded recorded), sums recorded]
    · rintro ⟨family, labels, recorded, rfl⟩
      use family, labelText labels, present.mpr ⟨labels, recorded, rfl⟩
      rw [labelsOf_labelText (wellNamed_of_recorded recorded), sums recorded]
  · intro reordered same
    rw [recordAll_perm _ same]

/-- Two requests to a backend whose name looks like the end of a metric line. -/
def disguised : List MetricsRecord :=
  [.request "a\"\x7d 1\nb" "m" "2xx", .request "a\"\x7d 1\nb" "m" "2xx"]

/-- They read back as one sample of that backend. -/
theorem parse_render_disguised :
    ∃ samples, Prometheus.parse (MetricsHandle.new.recordAll disguised).render = some samples ∧
      ⟨"patchbay_requests_total",
        [("backend", "a\"\x7d 1\nb"), ("model", "m"), ("status", "2xx")], 2⟩ ∈ samples := by
  have small : ∀ family labels, recordedSum disguised family labels < 2 ^ 64 := by
    intro family labels
    simp only [recordedSum, disguised, MetricsRecord.series, List.flatMap_cons,
      List.flatMap_nil, List.append_nil, List.cons_append, List.nil_append, List.filter_cons,
      List.filter_nil]
    split <;> decide
  rcases parse_render disguised small with ⟨samples, parsed, -, content, -⟩
  use samples, parsed
  rw [content]
  exact ⟨.requests, _, ⟨_, List.mem_cons_self, rfl, rfl⟩, by decide⟩

end Patchbay
