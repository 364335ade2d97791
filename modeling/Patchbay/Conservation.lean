import Patchbay.AccountingRace
import Patchbay.Lib.Parts
import Patchbay.Outcomes

/-!
# Books that balance

The shared counters of the gateway say nothing but what its exchanges went through.  Three
books are kept: the tokens of each key, in the ledger and in the metrics, the failed calls
of each backend, and the rejected requests of each key.  After any run, each of them is the
sum of what the exchanges contributed, as the exchanges themselves show.
-/

namespace Patchbay

/-! ## Keeping books -/

/-- An amount in the shared state, and the part of it that an exchange contributed. -/
structure Books (σ γ M : Type) where
  held : AppState σ γ → M
  due : Exchange → M

namespace Books

variable {σ γ M : Type} [AddCancelCommMonoid M] {crates : Crates γ} {keys : KeyStore}
  {books : Books σ γ M}

/-- Actions of coherent exchanges change both sides alike, and so do arrivals. -/
structure Balance (crates : Crates γ) (keys : KeyStore) (books : Books σ γ M) : Prop where
  outcome : ∀ {app : AppState σ γ} {exchange : Exchange} {result : AppState σ γ × Exchange},
    exchange.Coherent crates.toStr keys → app.Outcome crates exchange result →
      books.held result.1 + books.due exchange = books.held app + books.due result.2
  arrival : ∀ {app : AppState σ γ} (request : ClientRequest) (clock : Clock),
    app.keys = keys → books.held (app.chatCompletions crates request clock).1 =
      books.held app + books.due (app.chatCompletions crates request clock).2
  retuned : ∀ (app : AppState σ γ) (router : Router σ),
    books.held { app with router } = books.held app

variable {initial : M} {gateway after : Gateway σ γ}

/-- What holds of the books at any time of a run that began with the amount `initial`. -/
def Balanced (books : Books σ γ M) (initial : M) (gateway : Gateway σ γ) : Prop :=
  books.held gateway.app = initial + (gateway.exchanges.map books.due).sum

/-- **Step.** -/
theorem Balance.stepped (balance : books.Balance crates keys)
    (sound : gateway.Sound crates keys) (stepped : gateway.Stepped crates after)
    (balanced : books.Balanced initial gateway) : books.Balanced initial after := by
  cases stepped with
  | idle => exact balanced
  | arrived request clock =>
      rw [Balanced, List.map_append, List.map_singleton, List.sum_append, List.sum_singleton,
        balance.arrival request clock sound.sameKeys, balanced, add_assoc]
  | retuned router backends policy => exact (balance.retuned gateway.app router).trans balanced
  | @acted index exchange result found outcome =>
      have coherent := sound.coherent exchange (List.mem_of_getElem? found)
      have moved := balance.outcome coherent outcome
      have sums := Parts.sum_set found result.2 books.due
      apply add_right_cancel (b := books.due exchange)
      rw [moved, balanced, add_assoc, add_assoc, sums]

/-- **Run.**  Books that balance hold what the exchanges of a run contributed. -/
theorem Balance.run (app : AppState σ γ) (balance : books.Balance crates app.keys)
    (events : List (Event σ)) :
    books.held ((Gateway.start app).run crates events).app =
      books.held app +
        (((Gateway.start app).run crates events).exchanges.map books.due).sum := by
  have atStart : books.Balanced (books.held app) (.start app) := (add_zero _).symm
  exact (Gateway.sound_start crates app).induct balance.stepped atStart events

end Books

/-! ## Tokens -/

namespace Exchange

/-- The usage that was accounted for an exchange: that of the body it was answered with, or
that of its stream once the accounting task has run. -/
def accounted (json : Json.Reader) (exchange : Exchange) : Option Usage :=
  match exchange.relay with
  | some task => if task.settled then task.relay.summaries.head?.bind RelaySummary.usage else none
  | none =>
      match exchange.phase with
      | .answered { body := .bytes body, .. } => bufferedUsage json body
      | _ => none

variable {γ : Type} (crates : Crates γ) (keys : KeyStore) (key : String)
  (dimension : Dimension)

/-- The tokens of a key that were accounted for an exchange. -/
def tokensOf (exchange : Exchange) : UInt64 :=
  if exchange.keyName crates.toStr keys = some key then
    (exchange.accounted crates.json).elim 0 fun usage => usage.get dimension
  else 0

variable {crates keys key dimension} {exchange : Exchange}

theorem tokensOf_eq_zero (nothing : exchange.accounted crates.json = none) :
    exchange.tokensOf crates keys key dimension = 0 := by
  rw [tokensOf, nothing, Option.elim_none, ite_self]

/-- The request and what was accounted decide. -/
theorem tokensOf_congr {other : Exchange} (request : other.request = exchange.request)
    (accounted : other.accounted crates.json = exchange.accounted crates.json) :
    other.tokensOf crates keys key dimension = exchange.tokensOf crates keys key dimension := by
  rw [tokensOf, tokensOf, keyName, keyName, request, accounted]

variable (key dimension) in
theorem tokensOf_of_keyName {name : String}
    (named : exchange.keyName crates.toStr keys = some name) {usage : Option Usage}
    (accounted : exchange.accounted crates.json = usage) :
    exchange.tokensOf crates keys key dimension =
      if name = key then usage.elim 0 fun usage => usage.get dimension else 0 := by
  rw [tokensOf, named, accounted]
  simp only [Option.some.injEq]

theorem accounted_of_running {json : Json.Reader} {job : Job}
    (running : exchange.phase.job = some job) (noRelay : exchange.relay = none) :
    exchange.accounted json = none := by
  rw [accounted, noRelay]
  cases phase : exchange.phase with
  | answered response => simp [phase, Phase.job] at running
  | calling job attempt => rfl
  | sleeping job attempt => rfl
  | reading job response => rfl
  | cancelled => rfl

/-- An error shows no usage. -/
theorem accounted_answer_error {json : Json.Reader} {job : Job}
    (running : exchange.phase.job = some job) (noRelay : exchange.relay = none)
    (status : StatusCode) (message : String) :
    (exchange.answer (errorResponse status "upstream_error" message)).accounted json =
      exchange.accounted json := by
  rw [accounted_of_running running noRelay, accounted, answer, noRelay]
  rfl

/-- Once its stream was accounted for, an exchange shows the same whoever goes on reading. -/
theorem accounted_of_relay {json : Json.Reader} {task : RelayTask}
    (coherent : exchange.Coherent crates.toStr keys) (relayed : exchange.relay = some task)
    {relay : SseRelay} {released : Bool}
    (kept : task.relay.summaries ≠ [] → relay.summaries.head? = task.relay.summaries.head?) :
    accounted json { exchange with relay := some { task with relay, released } } =
      exchange.accounted json := by
  rw [accounted, accounted, relayed]
  cases settled : task.settled with
  | false => simp [settled]
  | true =>
      have same := kept ((coherent.relay task relayed).2.2.2 settled)
      simp [settled, same]

end Exchange

/-- A book of tokens: the amount in one place where a usage is recorded. -/
structure TokenBook {σ γ : Type} (held : AppState σ γ → UInt64) (key : String)
    (dimension : Dimension) : Prop where
  account : ∀ (app : AppState σ γ) (keyName : String) (usage : Usage) (secs : UInt64),
    held (app.account keyName usage secs) =
      held app + if keyName = key then usage.get dimension else 0
  frame : ∀ before after : AppState σ γ, after.budget.counters = before.budget.counters →
    after.metrics.tokens = before.metrics.tokens → held after = held before

namespace TokenBook

variable {σ γ : Type} {held : AppState σ γ → UInt64} {key : String} {dimension : Dimension}

theorem accountStream (book : TokenBook held key dimension) (app : AppState σ γ)
    (task : RelayTask) (summary : RelaySummary) (secs : UInt64) :
    held (app.accountStream task summary secs) =
      held app + if task.keyName = key then
        summary.usage.elim 0 fun usage => usage.get dimension else 0 := by
  rw [AppState.accountStream]
  cases summary.usage with
  | none =>
      simp only [Option.elim_none, ite_self, add_zero]
      cases summary.outcome <;> exact book.frame _ _ rfl rfl
  | some usage =>
      rw [Option.elim_some, ← book.account app task.keyName usage secs]
      cases summary.outcome <;> exact book.frame _ _ rfl rfl

/-- An action that neither records nor shows a usage. -/
theorem quiet (book : TokenBook held key dimension) (crates : Crates γ) (keys : KeyStore)
    {before after : AppState σ γ} {exchange other : Exchange}
    (counters : after.budget.counters = before.budget.counters)
    (tokens : after.metrics.tokens = before.metrics.tokens)
    (request : other.request = exchange.request)
    (accounted : other.accounted crates.json = exchange.accounted crates.json) :
    held after + exchange.tokensOf crates keys key dimension =
      held before + other.tokensOf crates keys key dimension := by
  rw [book.frame before after counters tokens, Exchange.tokensOf_congr request accounted]

section

variable (book : TokenBook held key dimension) {crates : Crates γ} {keys : KeyStore}
  {app : AppState σ γ} {exchange : Exchange}

include book in
/-- The usage of a body is recorded when the body is returned. -/
theorem served (coherent : exchange.Coherent crates.toStr keys) {job : Job}
    {response : HttpResponse} (reading : exchange.phase = .reading job response)
    (headers : List (String × Bytes)) (body : Bytes) (secs : UInt64) :
    held ((bufferedUsage crates.json body).elim app fun usage =>
        app.account job.keyName usage secs) + exchange.tokensOf crates keys key dimension =
      held app + (exchange.answer { status := response.status, headers, body := .bytes body }
        ).tokensOf crates keys key dimension := by
  have running := Exchange.job_of_reading reading
  rcases coherent.job job running with ⟨named, -, noRelay⟩
  have shown : (exchange.answer
      { status := response.status, headers, body := .bytes body }).accounted crates.json =
        bufferedUsage crates.json body := by
    rw [Exchange.accounted, Exchange.answer, noRelay]
  have sameKey : (exchange.answer
      { status := response.status, headers, body := .bytes body }).keyName crates.toStr
        keys = some job.keyName := named
  have tokens := Exchange.tokensOf_of_keyName key dimension sameKey shown
  rw [Exchange.tokensOf_eq_zero (Exchange.accounted_of_running running noRelay), add_zero, tokens]
  cases bufferedUsage crates.json body with
  | none => simp
  | some usage => exact book.account app job.keyName usage secs

include book in
/-- The usage of a stream is recorded when the accounting task runs. -/
theorem settled (coherent : exchange.Coherent crates.toStr keys) {task : RelayTask}
    {summary : RelaySummary} {later : List RelaySummary} (relayed : exchange.relay = some task)
    (unsettled : task.settled = false) (reported : task.relay.summaries = summary :: later)
    (secs : UInt64) :
    held (app.accountStream task summary secs) + exchange.tokensOf crates keys key dimension =
      held app + Exchange.tokensOf crates keys key dimension
        { exchange with relay := some { task with settled := true } } := by
  have named := (coherent.relay task relayed).1
  have before : exchange.accounted crates.json = none := by
    simp [Exchange.accounted, relayed, unsettled]
  have shown : Exchange.accounted crates.json
      { exchange with relay := some { task with settled := true } } = summary.usage := by
    simp [Exchange.accounted, reported]
  have sameKey : Exchange.keyName crates.toStr keys
      { exchange with relay := some { task with settled := true } } =
        some task.keyName := named
  have tokens := Exchange.tokensOf_of_keyName key dimension sameKey shown
  rw [Exchange.tokensOf_eq_zero before, add_zero, tokens]
  exact book.accountStream app task summary secs

include book in
theorem arrived (request : ClientRequest) (clock : Clock) :
    held (app.chatCompletions crates request clock).1 =
      held app + (app.chatCompletions crates request clock).2.tokensOf crates keys key
        dimension := by
  have nothing : (app.chatCompletions crates request clock).2.accounted crates.json =
      none := by
    have spec := AppState.admission_spec crates app request clock
    rw [AppState.chatCompletions]
    generalize app.admission crates request clock = admission at spec
    cases spec <;> rfl
  rw [Exchange.tokensOf_eq_zero nothing, add_zero]
  have spec := AppState.admission_spec crates app request clock
  rw [AppState.chatCompletions]
  generalize app.admission crates request clock = admission at spec
  cases spec <;> exact book.frame _ _ rfl rfl

end

/-- Each usage is recorded once, when its exchange shows it. -/
theorem balance (book : TokenBook held key dimension) (crates : Crates γ) (keys : KeyStore) :
    Books.Balance crates keys ⟨held, Exchange.tokensOf crates keys key dimension⟩ where
  outcome := by
    intro app exchange result coherent outcome
    have noRelay : ∀ {job}, exchange.phase.job = some job → exchange.relay = none :=
      fun running => (coherent.job _ running).2.2
    have nothing : ∀ {job}, exchange.phase.job = some job →
        exchange.accounted crates.json = none :=
      fun running => Exchange.accounted_of_running running (noRelay running)
    cases outcome with
    | idle => rfl
    | retried ms calling =>
        have running := Exchange.job_of_calling calling
        refine book.quiet crates keys rfl rfl rfl ?_
        rw [nothing running]
        exact Exchange.accounted_of_running rfl (noRelay running)
    | gaveUp message calling =>
        have running := Exchange.job_of_calling calling
        exact book.quiet crates keys rfl rfl rfl
          (Exchange.accounted_answer_error running (noRelay running) _ message)
    | passedThrough message calling other =>
        have running := Exchange.job_of_calling calling
        exact book.quiet crates keys rfl rfl rfl
          (Exchange.accounted_answer_error running (noRelay running) _ message)
    | streamed response clock calling =>
        refine book.quiet crates keys rfl rfl rfl ?_
        rw [nothing (Exchange.job_of_calling calling)]
        rfl
    | reads calling success =>
        have running := Exchange.job_of_calling calling
        refine book.quiet crates keys rfl rfl rfl ?_
        rw [nothing running]
        exact Exchange.accounted_of_running rfl (noRelay running)
    | called sleeping =>
        have running := Exchange.job_of_sleeping sleeping
        refine book.quiet crates keys rfl rfl rfl ?_
        rw [nothing running]
        exact Exchange.accounted_of_running rfl (noRelay running)
    | unreadable message reading =>
        have running := Exchange.job_of_reading reading
        exact book.quiet crates keys rfl rfl rfl
          (Exchange.accounted_answer_error running (noRelay running) _ message)
    | served headers body secs reading => exact book.served coherent reading headers body secs
    | polled context relayed =>
        exact book.quiet crates keys rfl rfl rfl (Exchange.accounted_of_relay coherent relayed
          fun reported => SseRelay.head?_pollNext _ reported context)
    | cancelled running =>
        refine book.quiet crates keys rfl rfl rfl ?_
        rw [nothing running, Exchange.accounted, noRelay running]
    | released relayed =>
        exact book.quiet crates keys rfl rfl rfl
          (Exchange.accounted_of_relay coherent relayed SseRelay.head?_drop)
    | settled secs relayed unsettled reported =>
        exact book.settled coherent relayed unsettled reported secs
  arrival request clock _ := book.arrived request clock
  retuned app router := book.frame _ _ rfl rfl

/-- The ledger is a book of tokens. -/
theorem ledger (key : String) (dimension : Dimension) :
    TokenBook (fun app : AppState σ γ => (app.budget.countersFor key).get dimension) key
      dimension where
  account app keyName usage secs := by
    rw [AppState.account, BudgetLedger.countersFor_record]
    by_cases same : key = keyName
    · rw [if_pos same, if_pos same.symm, KeyCounters.get_addUsage]
    · rw [if_neg same, if_neg (Ne.symm same), add_zero]
  frame before after counters _ := by
    rw [BudgetLedger.countersFor, BudgetLedger.countersFor, counters]

/-- So is the tokens family. -/
theorem metrics (key : String) (dimension : Dimension) :
    TokenBook (fun app : AppState σ γ =>
      app.metrics.tokens.value (MetricsHandle.tokensLabel key dimension.kind)) key
        dimension where
  account app keyName usage secs := by
    have others : ∀ {kind : Dimension} (counters : LabeledCounters) (tokens : UInt64),
        ¬ (keyName = key ∧ kind = dimension) →
          (counters.add (MetricsHandle.tokensLabel keyName kind.kind) tokens).value
              (MetricsHandle.tokensLabel key dimension.kind) =
            counters.value (MetricsHandle.tokensLabel key dimension.kind) := by
      intro kind counters tokens different
      refine counters.value_add_of_ne (fun same => different ?_) tokens
      exact MetricsHandle.tokensLabel_inj.mp same.symm
    have recorded : (app.account keyName usage secs).metrics.tokens =
        Dimension.all.foldl (fun counters kind =>
          counters.add (MetricsHandle.tokensLabel keyName kind.kind) (usage.get kind))
            app.metrics.tokens := rfl
    rw [recorded]
    by_cases same : keyName = key
    · subst same
      cases dimension <;> simp [Dimension.all, others]
    · simp [Dimension.all, others, same]
  frame before after _ tokens := by rw [tokens]

end TokenBook

/-- **Tokens.**  After any run, the ledger and the metrics have gained for a key, in each
dimension, the tokens that were accounted for the exchanges of the key. -/
theorem Gateway.tokens_of_run {σ γ : Type} (crates : Crates γ) (app : AppState σ γ)
    (events : List (Event σ)) (key : String) (dimension : Dimension) :
    (((start app).run crates events).app.budget.countersFor key).get dimension =
        (app.budget.countersFor key).get dimension +
          (((start app).run crates events).exchanges.map
            (Exchange.tokensOf crates app.keys key dimension)).sum ∧
      ((start app).run crates events).app.metrics.tokens.value
          (MetricsHandle.tokensLabel key dimension.kind) =
        app.metrics.tokens.value (MetricsHandle.tokensLabel key dimension.kind) +
          (((start app).run crates events).exchanges.map
            (Exchange.tokensOf crates app.keys key dimension)).sum := by
  constructor
  · exact ((TokenBook.ledger key dimension).balance crates app.keys).run app events
  · exact ((TokenBook.metrics key dimension).balance crates app.keys).run app events

/-! ## Failures -/

theorem wellNamed_backend (backend : String) : WellNamed [("backend", backend)] := by
  intro label membership
  apply validName_of_mem_labelNames
  simp [List.mem_singleton.mp membership, labelNames]

theorem MetricsHandle.backendLabel_inj {left right : String} :
    backendLabel left = backendLabel right ↔ left = right := by
  constructor
  · intro same
    rw [backendLabel_eq, backendLabel_eq] at same
    simpa using labelText_injective (wellNamed_backend left) (wellNamed_backend right) same
  · rintro rfl
    rfl

/-- The outcomes that the accounting task counts as a failure of the backend. -/
def RelayOutcome.failed : RelayOutcome → Bool
  | .stalled | .upstreamError _ => true
  | .completed | .clientDisconnected => false

namespace Exchange

/-- The last thing that came from the backend of a routed exchange was a failure: an error
that was handed on to the client, or the end of a stream that was accounted. -/
def brokeOff (exchange : Exchange) : Bool :=
  match exchange.relay with
  | some task =>
      task.settled && task.relay.summaries.head?.any fun summary => summary.outcome.failed
  | none =>
      match exchange.phase with
      | .answered { body := .error _, .. } => true
      | _ => false

/-- The failures of a backend that an exchange has met with: one before each wait, and the
one that ended it. -/
def failuresOf (backend : String) (exchange : Exchange) : UInt64 :=
  if exchange.backend.map Backend.name = some backend then
    UInt64.ofNat exchange.waits.length + if exchange.brokeOff then 1 else 0
  else 0

variable {exchange : Exchange}

theorem failuresOf_congr {other : Exchange} (backend : String)
    (sameBackend : other.backend = exchange.backend) (waits : other.waits = exchange.waits)
    (brokeOff : other.brokeOff = exchange.brokeOff) :
    other.failuresOf backend = exchange.failuresOf backend := by
  rw [failuresOf, failuresOf, sameBackend, waits, brokeOff]

theorem failuresOf_of_backend {name : String} (backend : String)
    (routed : exchange.backend.map Backend.name = some name) :
    exchange.failuresOf backend =
      if name = backend then
        UInt64.ofNat exchange.waits.length + if exchange.brokeOff then 1 else 0
      else 0 := by
  rw [failuresOf, routed]
  simp only [Option.some.injEq]

theorem brokeOff_of_running {job : Job} (running : exchange.phase.job = some job)
    (noRelay : exchange.relay = none) : exchange.brokeOff = false := by
  rw [brokeOff, noRelay]
  cases phase : exchange.phase with
  | answered response => simp [phase, Phase.job] at running
  | calling job attempt => rfl
  | sleeping job attempt => rfl
  | reading job response => rfl
  | cancelled => rfl

/-- Once its stream was accounted for, an exchange has broken off or not. -/
theorem brokeOff_of_relay {toStr : Bytes → Option String} {keys : KeyStore} {task : RelayTask}
    (coherent : exchange.Coherent toStr keys) (relayed : exchange.relay = some task)
    {relay : SseRelay} {released : Bool}
    (kept : task.relay.summaries ≠ [] → relay.summaries.head? = task.relay.summaries.head?) :
    brokeOff { exchange with relay := some { task with relay, released } } =
      exchange.brokeOff := by
  rw [brokeOff, brokeOff, relayed]
  cases settled : task.settled with
  | false => simp [settled]
  | true =>
      have same := kept ((coherent.relay task relayed).2.2.2 settled)
      simp [settled, same]

/-- A failure that ends a running exchange is one more. -/
theorem failuresOf_answer {job : Job} (backend : String)
    (routed : exchange.backend = some job.backend) (noRelay : exchange.relay = none)
    (running : exchange.phase.job = some job) (status : StatusCode) (message : String) :
    (exchange.answer (errorResponse status "upstream_error" message)).failuresOf backend =
      exchange.failuresOf backend + if job.backend.name = backend then 1 else 0 := by
  have before : exchange.backend.map Backend.name = some job.backend.name :=
    congrArg (Option.map Backend.name) routed
  have after : (exchange.answer (errorResponse status "upstream_error" message)).backend.map
      Backend.name = some job.backend.name := before
  have ended : (exchange.answer (errorResponse status "upstream_error" message)).brokeOff =
      true := by
    rw [brokeOff, answer, noRelay]
    rfl
  rw [failuresOf_of_backend backend before, failuresOf_of_backend backend after, ended,
    brokeOff_of_running running noRelay]
  by_cases same : job.backend.name = backend
  · simp [same, answer]
  · simp [same]

end Exchange

namespace AppState

variable {σ γ : Type} (app : AppState σ γ)

/-- A failed call is counted for its backend alone. -/
theorem upstreamErrorsOf_recordUpstreamError (metrics : MetricsHandle)
    (name backend : String) :
    (metrics.recordUpstreamError name).upstreamErrorsOf backend =
      metrics.upstreamErrorsOf backend + if name = backend then 1 else 0 := by
  rw [MetricsHandle.upstreamErrorsOf, MetricsHandle.upstreamErrorsOf,
    MetricsHandle.recordUpstreamError]
  by_cases same : name = backend
  · subst same
    simp
  · have different : MetricsHandle.backendLabel backend ≠ MetricsHandle.backendLabel name :=
      fun labels => same (MetricsHandle.backendLabel_inj.mp labels).symm
    simp [LabeledCounters.inc, LabeledCounters.value_add_of_ne _ different, same]

/-- The accounting task counts a stream that failed. -/
theorem upstreamErrorsOf_accountStream (task : RelayTask) (summary : RelaySummary)
    (secs : UInt64) (backend : String) :
    (app.accountStream task summary secs).metrics.upstreamErrorsOf backend =
      app.metrics.upstreamErrorsOf backend +
        if task.backendName = backend ∧ summary.outcome.failed then 1 else 0 := by
  have accounted : ∀ usage, (app.account task.keyName usage secs).metrics.upstreamErrorsOf
      backend = app.metrics.upstreamErrorsOf backend := fun usage => rfl
  rw [accountStream]
  cases summary.usage with
  | none =>
      cases summary.outcome <;>
        simp [RelayOutcome.failed, upstreamErrorsOf_recordUpstreamError]
  | some usage =>
      cases summary.outcome <;>
        simp [RelayOutcome.failed, upstreamErrorsOf_recordUpstreamError, accounted]

end AppState

namespace Books

variable {σ γ : Type}

section

variable {crates : Crates γ} {keys : KeyStore} {app : AppState σ γ} {exchange : Exchange}
  {backend : String}

/-- What neither fails nor shows a failure. -/
theorem failures_quiet {other : Exchange} {metrics : MetricsHandle}
    (errors : metrics.upstreamErrors = app.metrics.upstreamErrors)
    (routed : other.backend = exchange.backend) (waits : other.waits = exchange.waits)
    (brokeOff : other.brokeOff = exchange.brokeOff) :
    metrics.upstreamErrorsOf backend + exchange.failuresOf backend =
      app.metrics.upstreamErrorsOf backend + other.failuresOf backend := by
  rw [Exchange.failuresOf_congr backend routed waits brokeOff, MetricsHandle.upstreamErrorsOf,
    errors, MetricsHandle.upstreamErrorsOf]

/-- A failure that the client gets to see is counted with it. -/
theorem failures_failed (coherent : exchange.Coherent crates.toStr keys) {job : Job}
    (running : exchange.phase.job = some job) {metrics : MetricsHandle}
    (errors : metrics.upstreamErrors =
      (app.metrics.recordUpstreamError job.backend.name).upstreamErrors)
    (status : StatusCode) (message : String) :
    metrics.upstreamErrorsOf backend + exchange.failuresOf backend =
      app.metrics.upstreamErrorsOf backend +
        (exchange.answer (errorResponse status "upstream_error" message)).failuresOf backend := by
  rcases coherent.job job running with ⟨-, routed, noRelay⟩
  have counted : metrics.upstreamErrorsOf backend =
      (app.metrics.recordUpstreamError job.backend.name).upstreamErrorsOf backend := by
    rw [MetricsHandle.upstreamErrorsOf, errors, MetricsHandle.upstreamErrorsOf]
  rw [Exchange.failuresOf_answer backend routed noRelay running, counted,
    AppState.upstreamErrorsOf_recordUpstreamError]
  ac_rfl

/-- A failure that a wait follows is counted before the wait. -/
theorem failures_retried (coherent : exchange.Coherent crates.toStr keys) {job : Job}
    {attempt : Nat} (calling : exchange.phase = .calling job attempt) (ms : UInt64) :
    (app.countError job).metrics.upstreamErrorsOf backend + exchange.failuresOf backend =
      app.metrics.upstreamErrorsOf backend +
        (exchange.sleep job (attempt + 1) ms).failuresOf backend := by
  have running := Exchange.job_of_calling calling
  rcases coherent.job job running with ⟨-, routed, noRelay⟩
  have before : exchange.backend.map Backend.name = some job.backend.name :=
    congrArg (Option.map Backend.name) routed
  have after : (exchange.sleep job (attempt + 1) ms).backend.map Backend.name =
      some job.backend.name := before
  have asleep : (exchange.sleep job (attempt + 1) ms).brokeOff = false :=
    Exchange.brokeOff_of_running rfl noRelay
  have counted : (app.countError job).metrics.upstreamErrorsOf backend =
      app.metrics.upstreamErrorsOf backend + if job.backend.name = backend then 1 else 0 :=
    AppState.upstreamErrorsOf_recordUpstreamError app.metrics job.backend.name backend
  rw [counted, Exchange.failuresOf_of_backend backend before,
    Exchange.failuresOf_of_backend backend after, asleep,
    Exchange.brokeOff_of_running running noRelay]
  by_cases same : job.backend.name = backend
  · simp only [same, if_true, Bool.false_eq_true, if_false, Exchange.sleep,
      List.length_append, List.length_singleton, UInt64.ofNat_add, UInt64.ofNat_one]
    ac_rfl
  · simp [same]

/-- The failure of a stream is counted when the accounting task runs. -/
theorem failures_settled (coherent : exchange.Coherent crates.toStr keys) {task : RelayTask}
    {summary : RelaySummary} {later : List RelaySummary} (relayed : exchange.relay = some task)
    (unsettled : task.settled = false) (reported : task.relay.summaries = summary :: later)
    (secs : UInt64) :
    (app.accountStream task summary secs).metrics.upstreamErrorsOf backend +
        exchange.failuresOf backend =
      app.metrics.upstreamErrorsOf backend + Exchange.failuresOf backend
        { exchange with relay := some { task with settled := true } } := by
  have before := (coherent.relay task relayed).2.1
  have after : Option.map Backend.name (Exchange.backend
      { exchange with relay := some { task with settled := true } }) =
        some task.backendName := before
  have stands : exchange.brokeOff = false := by
    simp [Exchange.brokeOff, relayed, unsettled]
  have ended : Exchange.brokeOff
      { exchange with relay := some { task with settled := true } } =
        summary.outcome.failed := by
    simp [Exchange.brokeOff, reported]
  rw [AppState.upstreamErrorsOf_accountStream, Exchange.failuresOf_of_backend backend before,
    Exchange.failuresOf_of_backend backend after, stands, ended]
  by_cases same : task.backendName = backend
  · simp only [same, true_and, if_true, Bool.false_eq_true, if_false, add_zero]
    ac_rfl
  · simp [same]

/-- A request that arrives has met with no failure yet. -/
theorem failures_arrived (request : ClientRequest) (clock : Clock) :
    (app.chatCompletions crates request clock).1.metrics.upstreamErrorsOf backend =
      app.metrics.upstreamErrorsOf backend +
        (app.chatCompletions crates request clock).2.failuresOf backend := by
  have spec := AppState.admission_spec crates app request clock
  rw [AppState.chatCompletions]
  generalize app.admission crates request clock = admission at spec
  cases spec with
  | admitted known allowed present routed =>
      simp [Exchange.failuresOf, Exchange.brokeOff, Exchange.start]
  | _ => simp [Exchange.failuresOf, Exchange.backend, Exchange.refused,
      MetricsHandle.upstreamErrorsOf, MetricsHandle.recordRateLimitRejection]

end

/-- Each failure is counted once, when its exchange meets with it. -/
theorem failures_balance (crates : Crates γ) (keys : KeyStore) (backend : String) :
    Balance crates keys ⟨fun app : AppState σ γ => app.metrics.upstreamErrorsOf backend,
      Exchange.failuresOf backend⟩ where
  outcome := by
    intro app exchange result coherent outcome
    have noRelay : ∀ {job}, exchange.phase.job = some job → exchange.relay = none :=
      fun running => (coherent.job _ running).2.2
    have stands : ∀ {job}, exchange.phase.job = some job → exchange.brokeOff = false :=
      fun running => Exchange.brokeOff_of_running running (noRelay running)
    cases outcome with
    | idle => rfl
    | retried ms calling => exact failures_retried coherent calling ms
    | gaveUp message calling =>
        exact failures_failed coherent (Exchange.job_of_calling calling) rfl _ message
    | passedThrough message calling other =>
        exact failures_failed coherent (Exchange.job_of_calling calling) rfl _ message
    | streamed response clock calling =>
        refine failures_quiet rfl rfl rfl ?_
        rw [stands (Exchange.job_of_calling calling)]
        rfl
    | reads calling success =>
        have running := Exchange.job_of_calling calling
        refine failures_quiet rfl rfl rfl ?_
        rw [stands running]
        exact Exchange.brokeOff_of_running rfl (noRelay running)
    | @called job attempt sleeping =>
        have running := Exchange.job_of_sleeping sleeping
        have routed := (coherent.job job running).2.1
        refine failures_quiet rfl ?_ rfl ?_
        · exact (Exchange.backend_call routed attempt).trans routed.symm
        · rw [stands running]
          exact Exchange.brokeOff_of_running rfl (noRelay running)
    | unreadable message reading =>
        exact failures_failed coherent (Exchange.job_of_reading reading) rfl _ message
    | served headers body secs reading =>
        have running := Exchange.job_of_reading reading
        refine failures_quiet ?_ rfl rfl ?_
        · cases bufferedUsage crates.json body <;> rfl
        · rw [stands running, Exchange.brokeOff, Exchange.answer, noRelay running]
    | polled context relayed =>
        exact failures_quiet rfl rfl rfl (Exchange.brokeOff_of_relay coherent relayed
          fun reported => SseRelay.head?_pollNext _ reported context)
    | cancelled running =>
        refine failures_quiet rfl rfl rfl ?_
        rw [stands running, Exchange.brokeOff, noRelay running]
    | released relayed =>
        exact failures_quiet rfl rfl rfl
          (Exchange.brokeOff_of_relay coherent relayed SseRelay.head?_drop)
    | settled secs relayed unsettled reported =>
        exact failures_settled coherent relayed unsettled reported secs
  arrival request clock _ := failures_arrived request clock
  retuned app router := rfl

end Books

/-- **Failures.**  After any run, the counter of a backend has gained the failures that the
exchanges routed to it have met with. -/
theorem Gateway.failures_of_run {σ γ : Type} (crates : Crates γ) (app : AppState σ γ)
    (events : List (Event σ)) (backend : String) :
    ((start app).run crates events).app.metrics.upstreamErrorsOf backend =
      app.metrics.upstreamErrorsOf backend +
        (((start app).run crates events).exchanges.map (Exchange.failuresOf backend)).sum :=
  (Books.failures_balance crates app.keys backend).run app events

/-! ## Rejections -/

theorem StatusCode.ok_ne_tooManyRequests : ok ≠ tooManyRequests := by decide

theorem StatusCode.badGateway_ne_tooManyRequests : badGateway ≠ tooManyRequests := by decide

theorem StatusCode.unauthorized_ne_tooManyRequests : unauthorized ≠ tooManyRequests := by decide

theorem wellNamed_key (key : String) : WellNamed [("key", key)] := by
  intro label membership
  apply validName_of_mem_labelNames
  simp [List.mem_singleton.mp membership, labelNames]

theorem MetricsHandle.keyLabel_inj {left right : String} :
    keyLabel left = keyLabel right ↔ left = right := by
  constructor
  · intro same
    rw [keyLabel_eq, keyLabel_eq] at same
    simpa using labelText_injective (wellNamed_key left) (wellNamed_key right) same
  · rintro rfl
    rfl

namespace Exchange

/-- The status of the answer, if there is one yet. -/
def status (exchange : Exchange) : Option StatusCode :=
  match exchange.phase with
  | .answered response => some response.status
  | _ => none

variable (toStr : Bytes → Option String) (keys : KeyStore) (key : String)

/-- One if a request of the key was turned away for coming too soon. -/
def rejectionsOf (exchange : Exchange) : UInt64 :=
  if exchange.keyName toStr keys = some key ∧ exchange.status = some .tooManyRequests then 1
  else 0

variable {toStr keys key} {exchange : Exchange}

theorem rejectionsOf_congr {other : Exchange} (request : other.request = exchange.request)
    (status : other.status = some .tooManyRequests ↔ exchange.status = some .tooManyRequests) :
    other.rejectionsOf toStr keys key = exchange.rejectionsOf toStr keys key := by
  have named : other.keyName toStr keys = exchange.keyName toStr keys := by
    rw [keyName, keyName, request]
  refine if_congr (and_congr ?_ status) rfl rfl
  rw [named]

theorem status_of_running {job : Job} (running : exchange.phase.job = some job) :
    exchange.status = none := by
  rw [status]
  cases phase : exchange.phase with
  | answered response => simp [phase, Phase.job] at running
  | calling job attempt => rfl
  | sleeping job attempt => rfl
  | reading job response => rfl
  | cancelled => rfl

end Exchange

namespace AppState

variable {σ γ : Type} {crates : Crates γ} {app : AppState σ γ} {exchange : Exchange}
  {toStr : Bytes → Option String} {keys : KeyStore} {result : AppState σ γ × Exchange}

theorem Outcome.request (outcome : app.Outcome crates exchange result) :
    result.2.request = exchange.request := by
  cases outcome <;> rfl

/-- A request is turned away for coming too soon when it arrives, and not later. -/
theorem Outcome.limited_iff (coherent : exchange.Coherent toStr keys)
    (outcome : app.Outcome crates exchange result) :
    result.2.status = some .tooManyRequests ↔ exchange.status = some .tooManyRequests := by
  have ended : ∀ {job}, exchange.phase.job = some job →
      result.2.status ≠ some .tooManyRequests →
        (result.2.status = some .tooManyRequests ↔
          exchange.status = some .tooManyRequests) := by
    intro job running different
    rw [Exchange.status_of_running running]
    exact iff_of_false different nofun
  cases outcome with
  | idle => exact Iff.rfl
  | retried ms calling => exact ended (Exchange.job_of_calling calling) nofun
  | gaveUp message calling =>
      refine ended (Exchange.job_of_calling calling) ?_
      intro same
      exact StatusCode.badGateway_ne_tooManyRequests (Option.some.inj same)
  | passedThrough message calling other =>
      refine ended (Exchange.job_of_calling calling) ?_
      intro same
      exact other (Option.some.inj same)
  | streamed response clock calling =>
      refine ended (Exchange.job_of_calling calling) ?_
      intro same
      exact StatusCode.ok_ne_tooManyRequests (Option.some.inj same)
  | reads calling success => exact ended (Exchange.job_of_calling calling) nofun
  | called sleeping => exact ended (Exchange.job_of_sleeping sleeping) nofun
  | unreadable message reading =>
      refine ended (Exchange.job_of_reading reading) ?_
      intro same
      exact StatusCode.badGateway_ne_tooManyRequests (Option.some.inj same)
  | @served job response headers body secs reading =>
      refine ended (Exchange.job_of_reading reading) ?_
      intro same
      have success := coherent.reading job response reading
      rw [show response.status = .tooManyRequests from Option.some.inj same] at success
      exact absurd success (by decide)
  | polled context relayed => exact Iff.rfl
  | cancelled running => exact ended running nofun
  | released relayed => exact Iff.rfl
  | settled secs relayed unsettled reported => exact Iff.rfl

theorem Outcome.rateLimitRejections (outcome : app.Outcome crates exchange result) :
    result.1.metrics.rateLimitRejections = app.metrics.rateLimitRejections := by
  cases outcome with
  | served headers body secs reading => cases bufferedUsage crates.json body <;> rfl
  | @settled task summary later secs relayed unsettled reported =>
      dsimp only
      rw [accountStream]
      cases summary.usage <;> cases summary.outcome <;> rfl
  | _ => rfl

end AppState

namespace Books

variable {σ γ : Type}

/-- A rejection is counted when it is made, and no other answer has its status. -/
theorem rejections_balance (crates : Crates γ) (keys : KeyStore) (key : String) :
    Balance crates keys ⟨fun app : AppState σ γ =>
        app.metrics.rateLimitRejections.value (MetricsHandle.keyLabel key),
      Exchange.rejectionsOf crates.toStr keys key⟩ where
  outcome := by
    intro app exchange result coherent outcome
    dsimp only
    rw [outcome.rateLimitRejections,
      Exchange.rejectionsOf_congr outcome.request (outcome.limited_iff coherent)]
  arrival := by
    intro app request clock sameKeys
    subst sameKeys
    have spec := AppState.admission_spec crates app request clock
    rw [AppState.chatCompletions]
    generalize app.admission crates request clock = admission at spec
    have answered : ∀ {response : Response}, response.status ≠ .tooManyRequests →
        (Exchange.refused request response).rejectionsOf crates.toStr app.keys key = 0 := by
      intro response different
      apply if_neg
      rintro ⟨-, same⟩
      exact different (Option.some.inj same)
    cases spec with
    | unauthorized refused =>
        dsimp only
        rw [answered, add_zero]
        exact StatusCode.unauthorized_ne_tooManyRequests
    | @limited identity exceeded known refused =>
        have named : (Exchange.refused request (errorResponse .tooManyRequests
            "rate_limit_exceeded" exceeded.message)).keyName crates.toStr app.keys =
              some identity.name := by
          simp only [Exchange.keyName, ClientRequest.keyName, Exchange.refused, known]
        have status : (Exchange.refused request (errorResponse .tooManyRequests
            "rate_limit_exceeded" exceeded.message)).status = some .tooManyRequests := rfl
        dsimp only
        rw [Exchange.rejectionsOf, named, status, MetricsHandle.recordRateLimitRejection]
        by_cases same : identity.name = key
        · simp [same]
        · have different : MetricsHandle.keyLabel key ≠ MetricsHandle.keyLabel identity.name :=
            fun labels => same (MetricsHandle.keyLabel_inj.mp labels).symm
          simp [LabeledCounters.inc, LabeledCounters.value_add_of_ne _ different, same]
    | noModel known allowed refused =>
        dsimp only
        rw [answered, add_zero]
        intro same
        exact absurd same (by decide)
    | unroutable known allowed present refused =>
        dsimp only
        rw [answered, add_zero]
        exact StatusCode.badGateway_ne_tooManyRequests
    | admitted known allowed present routed =>
        dsimp only
        rw [Exchange.rejectionsOf, if_neg, add_zero]
        rintro ⟨-, same⟩
        cases same
  retuned app router := rfl

end Books

/-- **Rejections.**  After any run, the counter of a key has gained one for each exchange
of the key that was answered with 429, and the clients saw no other 429. -/
theorem Gateway.rejections_of_run {σ γ : Type} (crates : Crates γ) (app : AppState σ γ)
    (events : List (Event σ)) (key : String) :
    ((start app).run crates events).app.metrics.rateLimitRejections.value
        (MetricsHandle.keyLabel key) =
      app.metrics.rateLimitRejections.value (MetricsHandle.keyLabel key) +
        (((start app).run crates events).exchanges.map
          (Exchange.rejectionsOf crates.toStr app.keys key)).sum :=
  (Books.rejections_balance crates app.keys key).run app events

end Patchbay
