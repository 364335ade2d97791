import Patchbay.Gateway

/-!
# Clients cannot grow the tables

Seven tables gain an entry on first use: five families of metrics, the budget counters
and the token windows.  In a server over a configuration, every entry they ever get is
named by the configuration, whatever clients and upstreams send.
-/

namespace Patchbay

namespace GatewayConfig

variable (cfg : GatewayConfig)

/-- The names under which requests are accounted. -/
def keyNames : List String :=
  if cfg.virtualKeys.isEmpty then [AuthedKey.anonymous.name]
  else cfg.virtualKeys.map VirtualKey.name

def backendNames : List String := cfg.backends.map Backend.name

def requestLabels : List String :=
  cfg.backends.flatMap fun backend => backend.models.flatMap fun model =>
    ["2xx", "5xx"].map (MetricsHandle.requestLabel backend.name model)

def tokensLabels : List String :=
  cfg.keyNames.flatMap fun key =>
    ["prompt", "completion", "total"].map (MetricsHandle.tokensLabel key)

def backendLabels : List String := cfg.backendNames.map MetricsHandle.backendLabel

def keyLabels : List String := cfg.keyNames.map MetricsHandle.keyLabel

end GatewayConfig

/-- The application state over a configuration.  The source builds the policy that the
configuration selects; here it is any policy. -/
def AppState.fromConfig {σ γ : Type} (crates : Crates γ) (codec : SnapshotCodec)
    (files : FileSystem) (secs : UInt64) (cfg : GatewayConfig) (policy : Policy σ) (state : σ) :
    AppState σ γ :=
  .ofConfig cfg policy state (BudgetLedger.new codec files secs ∅ ⟨3600, ⟨0, by decide⟩⟩ none)
    (RateLimitStore.new crates.governor ∅) .new

/-- All keys of a table are among these. -/
def Table.Within {ν : Type} (table : Table String ν) (allowed : List String) : Prop :=
  ∀ key ∈ table, key ∈ allowed

theorem Table.Within.update {ν : Type} {table : Table String ν} {allowed : List String}
    (within : Table.Within table allowed) {key : String} (known : key ∈ allowed) (fresh : ν)
    (modify : ν → ν) : Table.Within (Table.update table key fresh modify) allowed := by
  intro other membership
  rcases Finmap.mem_insert.mp membership with rfl | old
  · exact known
  · exact within other old

/-- The state is over this configuration, and all its entries are named there. -/
structure AppState.Within {σ γ : Type} (cfg : GatewayConfig) (app : AppState σ γ) : Prop where
  keys : app.keys = KeyStore.fromVirtualKeys cfg.virtualKeys
  backends : app.router.backends = cfg.backends
  requests : Table.Within app.metrics.requests cfg.requestLabels
  tokens : Table.Within app.metrics.tokens cfg.tokensLabels
  upstreamErrors : Table.Within app.metrics.upstreamErrors cfg.backendLabels
  rateLimitRejections : Table.Within app.metrics.rateLimitRejections cfg.keyLabels
  budgetRejections : Table.Within app.metrics.budgetRejections cfg.keyLabels
  budget : Table.Within app.budget.counters cfg.keyNames
  tpm : Table.Within app.limits.tpmCounters cfg.keyNames

/-- The job was routed to a configured backend that lists its model. -/
structure Job.Within (cfg : GatewayConfig) (job : Job) : Prop where
  key : job.keyName ∈ cfg.keyNames
  backend : job.backend ∈ cfg.backends
  model : job.model ∈ job.backend.models

structure Exchange.Within (cfg : GatewayConfig) (exchange : Exchange) : Prop where
  job : ∀ job, exchange.phase.job = some job → job.Within cfg
  relay : ∀ task, exchange.relay = some task →
    task.keyName ∈ cfg.keyNames ∧ task.backendName ∈ cfg.backendNames

namespace KeyStore

/-- An admitted caller goes by a configured name. -/
theorem name_mem_keyNames {cfg : GatewayConfig} {toStr : Bytes → Option String}
    {authorization : Option Bytes} {identity : KeyIdentity}
    (known : AuthedKey.fromRequestParts toStr (fromVirtualKeys cfg.virtualKeys) authorization =
      .ok identity) : identity.name ∈ cfg.keyNames := by
  cases isOpen : (fromVirtualKeys cfg.virtualKeys).isOpen with
  | true =>
      rw [AuthedKey.fromRequestParts, if_pos isOpen] at known
      cases known
      rw [GatewayConfig.keyNames, isOpen_fromVirtualKeys isOpen]
      exact List.mem_singleton_self _
  | false =>
      rcases (AuthedKey.fromRequestParts_ok_iff isOpen).mp known with ⟨token, -, authenticated⟩
      rcases List.mem_map.mp (Table.mem_of_lookup_collect authenticated)
        with ⟨vk, membership, same⟩
      rw [Prod.mk.injEq] at same
      rw [GatewayConfig.keyNames, if_neg, ← same.2]
      · exact List.mem_map_of_mem membership
      · rw [List.isEmpty_iff]
        exact List.ne_nil_of_mem membership

end KeyStore

/-- A handler that goes on or ends without a new relay. -/
theorem Exchange.Within.next {cfg : GatewayConfig} {exchange : Exchange}
    (within : exchange.Within cfg) {after : Exchange}
    (phase : ∀ job, after.phase.job = some job → exchange.phase.job = some job)
    (relay : after.relay = exchange.relay) : after.Within cfg where
  job job found := within.job job (phase job found)
  relay task found := within.relay task (relay ▸ found)

/-! ## What each handler adds -/

namespace AppState

variable {σ γ : Type} (crates : Crates γ) {cfg : GatewayConfig} {app : AppState σ γ}

theorem Within.recordRequest (within : app.Within cfg) {job : Job} (routed : job.Within cfg)
    {statusClass : String} (known : statusClass ∈ ["2xx", "5xx"]) :
    Within cfg
      { app with metrics := app.metrics.recordRequest job.backend.name job.model statusClass } :=
  { within with
    requests := within.requests.update (List.mem_flatMap.mpr ⟨job.backend, routed.backend,
      List.mem_flatMap.mpr ⟨job.model, routed.model, List.mem_map_of_mem known⟩⟩) _ _ }

theorem Within.recordUpstreamError (within : app.Within cfg) {backend : String}
    (configured : backend ∈ cfg.backendNames) :
    Within cfg { app with metrics := app.metrics.recordUpstreamError backend } :=
  { within with
    upstreamErrors := within.upstreamErrors.update (List.mem_map_of_mem configured) _ _ }

theorem Within.account (within : app.Within cfg) {keyName : String}
    (known : keyName ∈ cfg.keyNames) (usage : Usage) (secs : UInt64) :
    Within cfg (app.account keyName usage secs) := by
  have label : ∀ kind ∈ ["prompt", "completion", "total"],
      MetricsHandle.tokensLabel keyName kind ∈ cfg.tokensLabels := by
    intro kind membership
    exact List.mem_flatMap.mpr ⟨keyName, known, List.mem_map_of_mem membership⟩
  constructor
  · exact within.keys
  · exact within.backends
  · exact within.requests
  · have prompt := within.tokens.update (label "prompt" (by simp)) 0 (· + usage.promptTokens)
    have completion := prompt.update (label "completion" (by simp)) 0
      (· + usage.completionTokens)
    exact completion.update (label "total" (by simp)) 0 (· + usage.totalTokens)
  · exact within.upstreamErrors
  · exact within.rateLimitRejections
  · exact within.budgetRejections
  · exact within.budget.update known _ _
  · intro key membership
    rcases Finmap.mem_insert.mp membership with rfl | old
    · exact known
    · exact within.tpm key old

theorem Within.checkRpm (within : app.Within cfg) (identity : KeyIdentity) (clock : Clock) :
    Within cfg { app with
      limits := (app.limits.checkRpm crates.governor identity.name clock.nanos).2 } :=
  { within with tpm := by simpa using within.tpm }

/-- Admission touches the tables of a caller that it knows, and routes to a configured
backend. -/
theorem Within.chatCompletions (within : app.Within cfg) (request : ClientRequest)
    (clock : Clock) :
    Within cfg (app.chatCompletions crates request clock).1 ∧
      Exchange.Within cfg (app.chatCompletions crates request clock).2 := by
  have noJob : ∀ response, Exchange.Within cfg (.refused request response) := by
    intro response
    constructor
    · intro job found
      cases found
    · intro task found
      cases found
  have spec := admission_spec crates app request clock
  unfold AppState.chatCompletions
  generalize app.admission crates request clock = admission at spec
  cases spec with
  | unauthorized refused => exact ⟨within, noJob _⟩
  | limited known refused =>
      rw [within.keys] at known
      have configured := KeyStore.name_mem_keyNames known
      constructor
      · exact { within.checkRpm crates _ clock with
          rateLimitRejections :=
            within.rateLimitRejections.update (List.mem_map_of_mem configured) _ _ }
      · exact noJob _
  | noModel known allowed refused => exact ⟨within.checkRpm crates _ clock, noJob _⟩
  | unroutable known allowed present refused =>
      refine ⟨{ within.checkRpm crates _ clock with backends := ?_ }, noJob _⟩
      simpa using within.backends
  | admitted known allowed present routed =>
      rw [within.keys] at known
      have configured := Router.route_ok routed
      rw [within.backends] at configured
      constructor
      · exact { within.checkRpm crates _ clock with backends := by simpa using within.backends }
      constructor
      · intro job found
        cases found
        exact ⟨KeyStore.name_mem_keyNames known, configured.1, configured.2⟩
      · intro task found
        cases found

variable {exchange : Exchange}

theorem Within.sent (within : app.Within cfg) (known : exchange.Within cfg)
    (result : HttpResult) (hash : UInt64) (clock : Clock) :
    Within cfg (app.sent exchange result hash clock).1 ∧
      Exchange.Within cfg (app.sent exchange result hash clock).2 := by
  unfold AppState.sent
  cases phase : exchange.phase with
  | calling job attempt =>
      have routed := known.job job (by rw [phase]; rfl)
      have configured : job.backend.name ∈ cfg.backendNames :=
        List.mem_map_of_mem routed.backend
      dsimp only
      cases UpstreamClient.receive job.backend result with
      | error error =>
          have counted := within.recordUpstreamError configured
          dsimp only
          split
          · constructor
            · exact counted
            · exact known.next (by simp [Exchange.answer, Phase.job]) (by rfl)
          · unfold retry
            split
            · constructor
              · exact counted
              · apply known.next _ (by rfl)
                rw [phase]
                exact fun next found => found
            · constructor
              · exact counted.recordRequest routed (by simp)
              · exact known.next (by simp [Exchange.answer, Phase.job]) (by rfl)
      | ok response =>
          have counted := within.recordRequest routed (show "2xx" ∈ _ by simp)
          dsimp only [handOver]
          split
          · constructor
            · exact counted
            constructor
            · simp [streamResponse, Phase.job]
            · intro task found
              cases found
              exact ⟨routed.key, configured⟩
          · constructor
            · exact counted
            · apply known.next _ (by rfl)
              rw [phase]
              exact fun next found => found
  | sleeping job attempt => exact ⟨within, known⟩
  | reading job response => exact ⟨within, known⟩
  | answered response => exact ⟨within, known⟩
  | cancelled => exact ⟨within, known⟩

theorem Within.woke (within : app.Within cfg) (known : exchange.Within cfg) :
    Within cfg (app.woke exchange).1 ∧ Exchange.Within cfg (app.woke exchange).2 := by
  unfold AppState.woke
  cases phase : exchange.phase with
  | sleeping job attempt =>
      constructor
      · exact within
      · apply known.next _ (by rfl)
        rw [phase]
        exact fun next found => found
  | calling job attempt => exact ⟨within, known⟩
  | reading job response => exact ⟨within, known⟩
  | answered response => exact ⟨within, known⟩
  | cancelled => exact ⟨within, known⟩

theorem Within.read (within : app.Within cfg) (known : exchange.Within cfg)
    (body : Except String Bytes) (secs : UInt64) :
    Within cfg (app.read crates exchange body secs).1 ∧
      Exchange.Within cfg (app.read crates exchange body secs).2 := by
  unfold AppState.read
  cases phase : exchange.phase with
  | reading job response =>
      have routed := known.job job (by rw [phase]; rfl)
      cases body with
      | error message =>
          constructor
          · exact within.recordUpstreamError (List.mem_map_of_mem routed.backend)
          · exact known.next (by simp [Exchange.answer, Phase.job]) (by rfl)
      | ok body =>
          constructor
          · dsimp only
            cases bufferedUsage crates.json body with
            | none => exact within
            | some usage => exact within.account routed.key usage secs
          · exact known.next (by simp [Exchange.answer, Phase.job]) (by rfl)
  | calling job attempt => exact ⟨within, known⟩
  | sleeping job attempt => exact ⟨within, known⟩
  | answered response => exact ⟨within, known⟩
  | cancelled => exact ⟨within, known⟩

theorem Within.poll (within : app.Within cfg) (known : exchange.Within cfg)
    (context : PollContext) :
    Within cfg (app.poll crates exchange context).1 ∧
      Exchange.Within cfg (app.poll crates exchange context).2 := by
  unfold AppState.poll
  cases relay : exchange.relay with
  | none => exact ⟨within, known⟩
  | some task =>
      dsimp only
      split
      · exact ⟨within, known⟩
      · constructor
        · exact within
        constructor
        · exact known.job
        · intro next found
          cases found
          exact known.relay task relay

theorem Within.close (within : app.Within cfg) (known : exchange.Within cfg) :
    Within cfg (app.close exchange).1 ∧ Exchange.Within cfg (app.close exchange).2 := by
  have evolves := (close_spec app exchange).2
  constructor
  · exact within
  constructor
  · intro job found
    exact known.job job (evolves.job job found)
  · intro task found
    simp only [AppState.close, Option.map_eq_some_iff] at found
    rcases found with ⟨before, relay, rfl⟩
    have named := known.relay before relay
    split <;> exact named

theorem Within.accountStream (within : app.Within cfg) {task : RelayTask}
    (named : task.keyName ∈ cfg.keyNames ∧ task.backendName ∈ cfg.backendNames)
    (summary : RelaySummary) (secs : UInt64) :
    Within cfg (app.accountStream task summary secs) := by
  unfold AppState.accountStream
  cases summary.usage with
  | none =>
      cases summary.outcome with
      | completed => exact within
      | clientDisconnected => exact within
      | stalled => exact within.recordUpstreamError named.2
      | upstreamError error => exact within.recordUpstreamError named.2
  | some usage =>
      have accounted := within.account named.1 usage secs
      cases summary.outcome with
      | completed => exact accounted
      | clientDisconnected => exact accounted
      | stalled => exact accounted.recordUpstreamError named.2
      | upstreamError error => exact accounted.recordUpstreamError named.2

theorem Within.settle (within : app.Within cfg) (known : exchange.Within cfg)
    (secs : UInt64) :
    Within cfg (app.settle exchange secs).1 ∧
      Exchange.Within cfg (app.settle exchange secs).2 := by
  unfold AppState.settle
  cases relay : exchange.relay with
  | none => exact ⟨within, known⟩
  | some task =>
      have named := known.relay task relay
      dsimp only
      split
      · exact ⟨within, known⟩
      · split
        · exact ⟨within, known⟩
        · next summary _ _ =>
            constructor
            · exact within.accountStream named summary secs
            constructor
            · exact known.job
            · intro next found
              cases found
              exact named

end AppState

/-! ## All runs -/

/-- A gateway whose state and exchanges are within the configuration. -/
structure Gateway.Within {σ γ : Type} (cfg : GatewayConfig) (gateway : Gateway σ γ) :
    Prop where
  app : gateway.app.Within cfg
  exchanges : ∀ exchange ∈ gateway.exchanges, exchange.Within cfg

namespace Gateway

variable {σ γ : Type} (crates : Crates γ) {cfg : GatewayConfig} {gateway : Gateway σ γ}

theorem Within.advance (within : gateway.Within cfg) (index : Nat)
    {act : AppState σ γ → Exchange → AppState σ γ × Exchange}
    (spec : ∀ {app exchange}, AppState.Within cfg app → Exchange.Within cfg exchange →
      AppState.Within cfg (act app exchange).1 ∧ Exchange.Within cfg (act app exchange).2) :
    (gateway.advance index act).Within cfg := by
  unfold Gateway.advance
  cases found : gateway.exchanges[index]? with
  | none => exact within
  | some exchange =>
      have acted := spec within.app
        (within.exchanges exchange (List.mem_of_getElem? found))
      constructor
      · exact acted.1
      · intro other membership
        rcases List.mem_or_eq_of_mem_set membership with old | rfl
        · exact within.exchanges other old
        · exact acted.2

/-- The step lemma. -/
theorem Within.step (within : gateway.Within cfg) (event : Event σ) :
    (gateway.step crates event).Within cfg := by
  cases event with
  | arrive request clock =>
      have arrived := within.app.chatCompletions crates request clock
      constructor
      · exact arrived.1
      · intro exchange membership
        rcases List.mem_append.mp membership with old | new
        · exact within.exchanges exchange old
        · rw [List.mem_singleton.mp new]
          exact arrived.2
  | sent index result hash clock =>
      exact within.advance index fun app exchange => app.sent exchange result hash clock
  | woke index => exact within.advance index fun app exchange => app.woke exchange
  | read index body secs =>
      exact within.advance index fun app exchange => app.read crates exchange body secs
  | poll index context =>
      exact within.advance index fun app exchange => app.poll crates exchange context
  | close index => exact within.advance index fun app exchange => app.close exchange
  | settle index secs => exact within.advance index fun app exchange => app.settle exchange secs
  | retune state => exact ⟨{ within.app with }, within.exchanges⟩

/-- The run lemma. -/
theorem Within.run (within : gateway.Within cfg) (events : List (Event σ)) :
    (gateway.run crates events).Within cfg := by
  induction events generalizing gateway with
  | nil => exact within
  | cons event events ih => exact ih (within.step crates event)

end Gateway

namespace AppState

variable {σ γ : Type} (crates : Crates γ)

/-- **Bounded tables.**  In every run of a server over a configuration, the entries of
its tables are among those that the configuration names. -/
theorem tables_within_config (codec : SnapshotCodec) (files : FileSystem) (secs : UInt64)
    (cfg : GatewayConfig) (policy : Policy σ) (state : σ) (events : List (Event σ)) :
    let app := ((Gateway.start (fromConfig crates codec files secs cfg policy state)).run
      crates events).app
    Table.Within app.metrics.requests cfg.requestLabels ∧
      Table.Within app.metrics.tokens cfg.tokensLabels ∧
      Table.Within app.metrics.upstreamErrors cfg.backendLabels ∧
      Table.Within app.metrics.rateLimitRejections cfg.keyLabels ∧
      Table.Within app.metrics.budgetRejections cfg.keyLabels ∧
      Table.Within app.budget.counters cfg.keyNames ∧
      Table.Within app.limits.tpmCounters cfg.keyNames := by
  have empty : ∀ {ν : Type} (allowed : List String), Table.Within (∅ : Table String ν) allowed :=
    fun allowed key membership => (Finmap.notMem_empty membership).elim
  have start : (Gateway.start (fromConfig crates codec files secs cfg policy state)).Within
      cfg := by
    constructor
    · exact ⟨rfl, rfl, empty _, empty _, empty _, empty _, empty _, empty _, empty _⟩
    · intro exchange membership
      cases membership
  have within := (start.run crates events).app
  exact ⟨within.requests, within.tokens, within.upstreamErrors, within.rateLimitRejections,
    within.budgetRejections, within.budget, within.tpm⟩

end AppState

end Patchbay
