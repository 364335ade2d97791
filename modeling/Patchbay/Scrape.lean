import Patchbay.BoundedTables
import Patchbay.Conservation

/-!
# What a scrape shows

The metrics of a server are only seen as text.  Whoever scrapes a server that began over a
configuration and reads the text back finds the books of its exchanges.
-/

namespace Patchbay

theorem MetricFamily.name_injective : Function.Injective MetricFamily.name := by
  intro left right same
  cases left <;> cases right <;> first | rfl | exact absurd same (by decide)

namespace MetricsHandle

variable {metrics : MetricsHandle}

/-- A record adds well-formed labels only. -/
theorem WellLabeled.record (labeled : metrics.WellLabeled) (record : MetricsRecord) :
    (metrics.record record).WellLabeled := by
  intro family text membership
  rw [MetricsRecord.counters_record, LabeledCounters.mem_addAll] at membership
  rcases membership with old | new
  · exact labeled family text old
  · rcases List.mem_map.mp new with ⟨⟨_, added⟩, recorded, rfl⟩
    rw [MetricsRecord.adds, List.mem_map] at recorded
    rcases recorded with ⟨series, membership, same⟩
    cases same
    exact ⟨series.labels, wellNamed_series (List.mem_filter.mp membership).1, rfl⟩

theorem wellLabeled_new : MetricsHandle.new.WellLabeled :=
  wellLabeled_recordAll []

/-- The rendered text reads back as one sample for each counter. -/
theorem exists_samples (labeled : metrics.WellLabeled) :
    ∃ samples, Prometheus.parse metrics.render = some samples ∧
      ∀ sample, sample ∈ samples ↔
        ∃ family : MetricFamily, ∃ labels, WellNamed labels ∧
          labelText labels ∈ family.counters metrics ∧
          sample = ⟨family.name, labels,
            ((family.counters metrics).value (labelText labels)).toNat⟩ := by
  have parsed := Prometheus.parse_write (exposed_valid labeled) exposed_distinct
  rw [← toList_render labeled, String.ofList_toList] at parsed
  refine ⟨_, parsed, fun sample => ?_⟩
  rw [mem_exposed]
  constructor
  · rintro ⟨family, text, present, rfl⟩
    rcases labeled family text present with ⟨labels, names, rfl⟩
    rw [labelsOf_labelText names]
    exact ⟨family, labels, names, present, rfl⟩
  · rintro ⟨family, labels, names, present, rfl⟩
    use family, labelText labels, present
    rw [labelsOf_labelText names]

/-- Every series reads as its counter. -/
theorem exists_readings (labeled : metrics.WellLabeled) :
    ∃ samples, Prometheus.parse metrics.render = some samples ∧
      ∀ (family : MetricFamily) (labels : Prometheus.Labels), WellNamed labels →
        Prometheus.reading samples family.name labels =
          ((family.counters metrics).value (labelText labels)).toNat := by
  rcases exists_samples labeled with ⟨samples, parsed, listed⟩
  refine ⟨samples, parsed, fun family labels names => ?_⟩
  by_cases present : labelText labels ∈ family.counters metrics
  · apply Prometheus.reading_of_mem (Prometheus.parse_nodup parsed)
    exact (listed _).mpr ⟨family, labels, names, present, rfl⟩
  · have nothing : (family.counters metrics).value (labelText labels) = 0 := by
      rw [LabeledCounters.value, Finmap.lookup_eq_none.mpr present]
      rfl
    rw [nothing]
    apply Prometheus.reading_of_absent
    intro value membership
    rcases (listed _).mp membership with ⟨other, otherLabels, otherNames, found, same⟩
    rw [Prometheus.Sample.mk.injEq] at same
    rcases same with ⟨sameName, rfl, -⟩
    cases MetricFamily.name_injective sameName
    exact present found

end MetricsHandle

theorem wellNamed_tokens (key : String) (dimension : Dimension) :
    WellNamed [("key", key), ("kind", dimension.kind)] := by
  intro label membership
  apply validName_of_mem_labelNames
  simp only [List.mem_cons, List.not_mem_nil, or_false] at membership
  rcases membership with isKey | isKind
  · simp [isKey, labelNames]
  · simp [isKind, labelNames]

/-! ## Along a run -/

namespace AppState

variable {σ γ : Type} {crates : Crates γ} {app : AppState σ γ} {exchange : Exchange}

theorem wellLabeled_account (labeled : app.metrics.WellLabeled) (keyName : String)
    (usage : Usage) (secs : UInt64) :
    (app.account keyName usage secs).metrics.WellLabeled :=
  labeled.record (.tokens keyName usage)

theorem wellLabeled_accountStream (labeled : app.metrics.WellLabeled) (task : RelayTask)
    (summary : RelaySummary) (secs : UInt64) :
    (app.accountStream task summary secs).metrics.WellLabeled := by
  have counted : ∀ {metrics : MetricsHandle}, metrics.WellLabeled →
      (metrics.recordUpstreamError task.backendName).WellLabeled :=
    fun old => old.record (.upstreamError task.backendName)
  rw [accountStream]
  cases summary.usage with
  | none =>
      cases summary.outcome with
      | completed => exact labeled
      | upstreamError message => exact counted labeled
      | stalled => exact counted labeled
      | clientDisconnected => exact labeled
  | some usage =>
      have accounted := wellLabeled_account labeled task.keyName usage secs
      cases summary.outcome with
      | completed => exact accounted
      | upstreamError message => exact counted accounted
      | stalled => exact counted accounted
      | clientDisconnected => exact accounted

/-- Every action records under well-formed labels. -/
theorem Outcome.wellLabeled (labeled : app.metrics.WellLabeled)
    {result : AppState σ γ × Exchange} (outcome : app.Outcome crates exchange result) :
    result.1.metrics.WellLabeled := by
  have failed : ∀ job, (app.countError job).metrics.WellLabeled :=
    fun job => labeled.record (.upstreamError job.backend.name)
  have answered : ∀ job, (app.countRequest job "2xx").metrics.WellLabeled :=
    fun job => labeled.record (.request job.backend.name job.model "2xx")
  cases outcome with
  | idle => exact labeled
  | @retried job attempt ms calling => exact failed job
  | @gaveUp job attempt message calling =>
      exact (failed job).record (.request job.backend.name job.model "5xx")
  | @passedThrough job attempt status message calling other => exact failed job
  | @streamed job attempt response clock calling => exact answered job
  | @reads job attempt response calling success => exact answered job
  | called sleeping => exact labeled
  | @unreadable job response message reading => exact failed job
  | @served job response headers body secs reading =>
      cases bufferedUsage crates.json body with
      | none => exact labeled
      | some usage => exact wellLabeled_account labeled job.keyName usage secs
  | polled context relayed => exact labeled
  | cancelled running => exact labeled
  | released relayed => exact labeled
  | @settled task summary later secs relayed unsettled reported =>
      exact wellLabeled_accountStream labeled task summary secs

theorem wellLabeled_chatCompletions (labeled : app.metrics.WellLabeled)
    (request : ClientRequest) (clock : Clock) :
    (app.chatCompletions crates request clock).1.metrics.WellLabeled := by
  have spec := admission_spec crates app request clock
  rw [chatCompletions]
  generalize app.admission crates request clock = admission at spec
  cases spec with
  | limited known refused => exact labeled.record (.rateLimitRejection _)
  | unauthorized refused => exact labeled
  | noModel known allowed refused => exact labeled
  | unroutable known allowed present refused => exact labeled
  | admitted known allowed present routed => exact labeled

end AppState

namespace Gateway

variable {σ γ : Type} (crates : Crates γ)

theorem wellLabeled_run (app : AppState σ γ) (labeled : app.metrics.WellLabeled)
    (events : List (Event σ)) : ((start app).run crates events).app.metrics.WellLabeled := by
  refine (sound_start crates app).induct (P := fun gateway => gateway.app.metrics.WellLabeled)
    ?_ labeled events
  intro gateway after sound stepped labeled
  cases stepped with
  | idle => exact labeled
  | arrived request clock => exact AppState.wellLabeled_chatCompletions labeled request clock
  | retuned router backends policy => exact labeled
  | acted found outcome => exact outcome.wellLabeled labeled

/-- **Scrape.**  A server that began over a configuration renders its metrics as a text
that reads back.  For each key the text shows the tokens accounted for its exchanges and
the number of its 429 answers, for each backend the failures its exchanges met with. -/
theorem scrape_of_run (codec : SnapshotCodec) (files : FileSystem) (secs : UInt64)
    (cfg : GatewayConfig) (policy : Policy σ) (state : σ) (events : List (Event σ)) :
    let keys := KeyStore.fromVirtualKeys cfg.virtualKeys
    let gateway :=
      (start (AppState.fromConfig crates codec files secs cfg policy state)).run crates events
    ∃ samples, Prometheus.parse gateway.app.metrics.render = some samples ∧
      (∀ (key : String) (dimension : Dimension),
        Prometheus.reading samples "patchbay_tokens_total"
            [("key", key), ("kind", dimension.kind)] =
          ((gateway.exchanges.map (Exchange.tokensOf crates keys key dimension)).sum).toNat) ∧
      (∀ backend : String,
        Prometheus.reading samples "patchbay_upstream_errors_total" [("backend", backend)] =
          ((gateway.exchanges.map (Exchange.failuresOf backend)).sum).toNat) ∧
      ∀ key : String,
        Prometheus.reading samples "patchbay_rate_limit_rejections_total" [("key", key)] =
          ((gateway.exchanges.map (Exchange.rejectionsOf crates.toStr keys key)).sum).toNat := by
  intro keys gateway
  have labeled : gateway.app.metrics.WellLabeled :=
    wellLabeled_run crates _ MetricsHandle.wellLabeled_new events
  rcases MetricsHandle.exists_readings labeled with ⟨samples, parsed, readings⟩
  refine ⟨samples, parsed, ?_, ?_, ?_⟩
  · intro key dimension
    have books := ((TokenBook.metrics key dimension).balance crates keys).run
      (AppState.fromConfig crates codec files secs cfg policy state) events
    have shown := readings .tokens [("key", key), ("kind", dimension.kind)]
      (wellNamed_tokens key dimension)
    rw [← MetricsHandle.tokensLabel_eq key dimension.escape_kind] at shown
    exact shown.trans (congrArg UInt64.toNat (books.trans (zero_add _)))
  · intro backend
    have books := (Books.failures_balance crates keys backend).run
      (AppState.fromConfig crates codec files secs cfg policy state) events
    have shown := readings .upstreamErrors [("backend", backend)] (wellNamed_backend backend)
    rw [← MetricsHandle.backendLabel_eq] at shown
    exact shown.trans (congrArg UInt64.toNat (books.trans (zero_add _)))
  · intro key
    have books := (Books.rejections_balance crates keys key).run
      (AppState.fromConfig crates codec files secs cfg policy state) events
    have shown := readings .rateLimitRejections [("key", key)] (wellNamed_key key)
    rw [← MetricsHandle.keyLabel_eq] at shown
    exact shown.trans (congrArg UInt64.toNat (books.trans (zero_add _)))

end Gateway

end Patchbay
