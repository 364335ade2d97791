import Mathlib.Algebra.BigOperators.Group.Finset.Piecewise
import Patchbay.Conservation
import Patchbay.Deployment

/-!
# Schedules

The handlers, the streams and the accounting tasks of all requests are interleaved by a
scheduler that nobody controls.  In a deployed server it makes no difference: what each
request goes through, and all that is counted, depend on what happens to the requests one
by one, and not on the order between them.
-/

namespace Patchbay

/-- The request with an index, the requests so far being counted, and what happens to its
exchange after it arrived. -/
def Event.fate {σ : Type} (index : Nat) : Nat → List (Event σ) →
    Option (ClientRequest × List (Event σ))
  | _, [] => none
  | number, .arrive request _ :: events =>
      if number = index then some (request, about index events)
      else fate index (number + 1) events
  | number, _ :: events => fate index number events

namespace Gateway

variable {γ : Type} {crates : Crates γ} {cfg : GatewayConfig}
  {app : AppState BuiltinPolicy γ}

/-- What the fate of a request makes of it. -/
def fulfilled (crates : Crates γ) (app : AppState BuiltinPolicy γ) (cfg : GatewayConfig)
    (fate : ClientRequest × List (Event BuiltinPolicy)) : Exchange :=
  (Exchange.ofAdmission fate.1 (cfg.respond crates fate.1)).course crates app fate.2

theorem length_step_of_target {σ : Type} (gateway : Gateway σ γ) {event : Event σ} {index : Nat}
    (about : event.target = some index) :
    (gateway.step crates event).exchanges.length = gateway.exchanges.length := by
  rw [Event.step_of_target crates about, advance]
  cases gateway.exchanges[index]? with
  | none => rfl
  | some exchange => exact List.length_set ..

theorem run_step (gateway : Gateway BuiltinPolicy γ) (before : List (Event BuiltinPolicy))
    (event : Event BuiltinPolicy) :
    gateway.run crates (before ++ [event]) = (gateway.run crates before).step crates event := by
  rw [run_append]
  rfl

/-- In a quiet run of a deployed server an arrival opens the exchange that its configuration
says. -/
theorem exchanges_run_arrive (deployed : app.Deployed cfg) {before : List (Event BuiltinPolicy)}
    (quiet : Quiet before) (request : ClientRequest) (clock : Clock) :
    ((start app).run crates (before ++ [.arrive request clock])).exchanges =
      ((start app).run crates before).exchanges ++
        [Exchange.ofAdmission request (cfg.respond crates request)] := by
  have admitted : (((start app).run crates before).app.admission crates request clock).1 =
      cfg.respond crates request :=
    (deployed_run deployed quiet).admission request clock
  rw [run_step, ← admitted, ← AppState.chatCompletions_snd]
  rfl

/-- Exchanges that arrive later are what their fates make of them. -/
theorem exchange_of_later_fate (deployed : app.Deployed cfg) {before : List (Event BuiltinPolicy)}
    {events : List (Event BuiltinPolicy)} (quiet : Quiet (before ++ events)) {index : Nat}
    (later : ((start app).run crates before).exchanges.length ≤ index) :
    ((start app).run crates (before ++ events)).exchanges[index]? =
      (Event.fate index ((start app).run crates before).exchanges.length events).map
        (fulfilled crates app cfg) := by
  induction events generalizing before with
  | nil =>
      rw [List.append_nil]
      exact List.getElem?_eq_none later
  | cons event events ih =>
      have quietBefore : Quiet before := fun state membership =>
        quiet state (List.mem_append_left _ membership)
      rw [List.append_cons] at quiet ⊢
      cases about : event.target with
      | some target =>
          have same : ((start app).run crates (before ++ [event])).exchanges.length =
              ((start app).run crates before).exchanges.length := by
            rw [run_step, length_step_of_target _ about]
          rw [ih quiet (same ▸ later), same]
          cases event <;> first | rfl | cases about
      | none =>
          cases event with
          | arrive request clock =>
              have grown : ((start app).run crates (before ++ [.arrive request clock])).exchanges =
                  ((start app).run crates before).exchanges ++
                    [Exchange.ofAdmission request (cfg.respond crates request)] :=
                exchanges_run_arrive deployed quietBefore request clock
              have length := congrArg List.length grown
              rw [List.length_append, List.length_singleton] at length
              rw [Event.fate]
              by_cases now : ((start app).run crates before).exchanges.length = index
              · have arrived : ((start app).run crates
                    (before ++ [.arrive request clock])).exchanges[index]? =
                      some (.ofAdmission request (cfg.respond crates request)) := by
                  rw [grown, ← now, List.getElem?_concat_length]
                rw [run_append, getElem?_run arrived app events, if_pos now]
                rfl
              · rw [ih quiet (by omega), length, if_neg now]
          | retune state => exact absurd (by simp) (quiet state)
          | _ => cases about

/-- In the run of a deployed server every exchange is what its fate makes of it. -/
theorem exchange_of_fate (deployed : app.Deployed cfg) {events : List (Event BuiltinPolicy)}
    (quiet : Quiet events) (index : Nat) :
    ((start app).run crates events).exchanges[index]? =
      (Event.fate index 0 events).map (fulfilled crates app cfg) := by
  rw [← List.nil_append events] at quiet ⊢
  exact exchange_of_later_fate deployed quiet (Nat.zero_le index)

end Gateway

/-! ## Series of requests -/

/-- The series of requests that an event counts in, if any, is the exchange's affair. -/
theorem Event.exists_series {σ γ : Type} (crates : Crates γ) (event : Event σ)
    (exchange : Exchange) : ∃ series : Option String, ∀ app : AppState σ γ,
      (event.act crates app exchange).1.metrics.requests =
        series.elim app.metrics.requests app.metrics.requests.inc := by
  cases event with
  | sent index result hash clock =>
      cases phase : exchange.phase with
      | calling job attempt =>
          cases received : UpstreamClient.receive job.backend result with
          | ok response =>
              use some (MetricsHandle.requestLabel job.backend.name job.model "2xx")
              intro app
              simp only [act, AppState.sent, phase, received, AppState.handOver]
              split <;> rfl
          | error error =>
              cases retryable : error.isRetryable with
              | false =>
                  use none
                  intro app
                  simp only [act, AppState.sent, phase, received, retryable]
                  rfl
              | true =>
                  by_cases left : attempt + 1 ≤ maxRetries
                  · use none
                    intro app
                    simp only [act, AppState.sent, phase, received, retryable, AppState.retry,
                      if_pos left]
                    rfl
                  · use some (MetricsHandle.requestLabel job.backend.name job.model "5xx")
                    intro app
                    simp only [act, AppState.sent, phase, received, retryable, AppState.retry,
                      if_neg left]
                    rfl
      | _ => exact ⟨none, fun app => by simp only [act, AppState.sent, phase]; rfl⟩
  | woke index =>
      refine ⟨none, fun app => ?_⟩
      simp only [act, AppState.woke]
      cases exchange.phase <;> rfl
  | read index body secs =>
      refine ⟨none, fun app => ?_⟩
      simp only [act, AppState.read]
      cases exchange.phase with
      | reading job response =>
          cases body with
          | error message => rfl
          | ok body =>
              dsimp only
              cases bufferedUsage crates.json body <;> rfl
      | _ => rfl
  | poll index context =>
      refine ⟨none, fun app => ?_⟩
      simp only [act, AppState.poll]
      cases exchange.relay with
      | none => rfl
      | some task =>
          dsimp only
          split <;> rfl
  | settle index secs =>
      refine ⟨none, fun app => ?_⟩
      simp only [act, AppState.settle]
      cases exchange.relay with
      | none => rfl
      | some task =>
          dsimp only
          split
          · rfl
          · cases task.relay.summaries with
            | nil => rfl
            | cons summary later => exact app.requests_accountStream task summary secs
  | _ => exact ⟨none, fun app => rfl⟩

namespace AppState

variable {σ γ : Type}

theorem counted_inc {before after : AppState σ γ} {series : String}
    (counts : after.metrics.requests = before.metrics.requests.inc series) (label : String) :
    counted before after label = once series label := by
  rw [counted, once, counts]
  by_cases same : label = series
  · subst same
    rw [LabeledCounters.value_inc_self, if_pos rfl, UInt64.add_comm, UInt64.add_sub_cancel]
  · rw [if_neg same, LabeledCounters.inc, LabeledCounters.value_add_of_ne _ same,
      UInt64.sub_self]

/-- What an event adds to a series does not depend on the rest of the state. -/
theorem counted_act (left right : AppState σ γ) (crates : Crates γ) (event : Event σ)
    (exchange : Exchange) (label : String) :
    left.counted (event.act crates left exchange).1 label =
      right.counted (event.act crates right exchange).1 label := by
  rcases event.exists_series crates exchange with ⟨series, counts⟩
  cases series with
  | none => rw [counted_same (counts left), counted_same (counts right)]
  | some series => rw [counted_inc (counts left), counted_inc (counts right)]

theorem requests_chatCompletions (app : AppState σ γ) (crates : Crates γ)
    (request : ClientRequest) (clock : Clock) :
    (app.chatCompletions crates request clock).1.metrics.requests = app.metrics.requests := by
  have spec := admission_spec crates app request clock
  rw [chatCompletions]
  generalize app.admission crates request clock = admission at spec
  cases spec <;> rfl

theorem value_add_counted (before after : AppState σ γ) (label : String) :
    before.metrics.requests.value label + counted before after label =
      after.metrics.requests.value label := by
  rw [counted, UInt64.add_comm, UInt64.sub_add_cancel]

end AppState

/-- What an exchange adds to a series of requests in its course. -/
def Exchange.growth {σ γ : Type} (crates : Crates γ) (app : AppState σ γ) (label : String) :
    Exchange → List (Event σ) → UInt64
  | _, [] => 0
  | exchange, event :: events =>
      AppState.counted app (event.act crates app exchange).1 label +
        growth crates app label (event.act crates app exchange).2 events

namespace Gateway

section

variable {σ γ : Type} {crates : Crates γ} {gateway : Gateway σ γ} {index : Nat}
  {label : String}

/-- The events about an exchange say what it adds. -/
theorem growth_of_exchange {exchange : Exchange}
    (found : gateway.exchanges[index]? = some exchange) (app : AppState σ γ)
    (events : List (Event σ)) :
    gateway.growth crates index label events =
      exchange.growth crates app label (Event.about index events) := by
  induction events generalizing gateway exchange with
  | nil => rfl
  | cons event events ih =>
      have stepped : (gateway.step crates event).exchanges[index]? = _ :=
        getElem?_step found app event
      rw [growth, ih stepped]
      by_cases own : event.target = some index
      · have after : (gateway.step crates event).app =
            (event.act crates gateway.app exchange).1 := by
          rw [Event.step_of_target crates own, advance, found]
        rw [after, AppState.counted_act gateway.app app]
        simp [Event.about, own, Exchange.growth]
      · simp [Event.about, own]

/-- An event adds nothing for an exchange that has not begun. -/
theorem requests_step_of_absent (absent : gateway.exchanges[index]? = none) {event : Event σ}
    (about : event.target = some index) : gateway.step crates event = gateway := by
  rw [Event.step_of_target crates about, advance, absent]

theorem requests_step_of_none {event : Event σ} (about : event.target = none) :
    (gateway.step crates event).app.metrics.requests = gateway.app.metrics.requests := by
  cases event with
  | arrive request clock => exact gateway.app.requests_chatCompletions crates request clock
  | retune state => rfl
  | _ => cases about

/-- A series holds what the exchanges add to it. -/
theorem requests_of_run {events : List (Event σ)} {bound : Nat}
    (bounded : ∀ event ∈ events, ∀ index, event.target = some index → index < bound) :
    (gateway.run crates events).app.metrics.requests.value label =
      gateway.app.metrics.requests.value label +
        ∑ index ∈ Finset.range bound, gateway.growth crates index label events := by
  induction events generalizing gateway with
  | nil => simp [run, growth]
  | cons event events ih =>
      rw [List.forall_mem_cons] at bounded
      have rest : ((gateway.step crates event).run crates events).app.metrics.requests.value
          label = _ := ih bounded.2
      have first : gateway.app.metrics.requests.value label +
          ∑ index ∈ Finset.range bound, (if event.target = some index then
            AppState.counted gateway.app (gateway.step crates event).app label else 0) =
          (gateway.step crates event).app.metrics.requests.value label := by
        cases about : event.target with
        | none => simp [requests_step_of_none about]
        | some index =>
            simp only [Option.some.injEq, Finset.sum_ite_eq, Finset.mem_range,
              bounded.1 index about, if_true]
            exact AppState.value_add_counted ..
      simp only [growth, Finset.sum_add_distrib]
      rw [← add_assoc, first, ← rest]
      rfl

end

variable {γ : Type} {crates : Crates γ} {cfg : GatewayConfig}
  {app : AppState BuiltinPolicy γ}

/-- What a request adds to a series in its fate. -/
def fateGrowth (crates : Crates γ) (app : AppState BuiltinPolicy γ) (cfg : GatewayConfig)
    (label : String) (fate : ClientRequest × List (Event BuiltinPolicy)) : UInt64 :=
  (Exchange.ofAdmission fate.1 (cfg.respond crates fate.1)).growth crates app label fate.2

theorem growth_of_later_fate (deployed : app.Deployed cfg) {before : List (Event BuiltinPolicy)}
    {events : List (Event BuiltinPolicy)} (quiet : Quiet (before ++ events)) {index : Nat}
    (later : ((start app).run crates before).exchanges.length ≤ index) (label : String) :
    ((start app).run crates before).growth crates index label events =
      ((Event.fate index ((start app).run crates before).exchanges.length events).elim 0
        (fateGrowth crates app cfg label)) := by
  induction events generalizing before with
  | nil => rfl
  | cons event events ih =>
      have quietBefore : Quiet before := fun state membership =>
        quiet state (List.mem_append_left _ membership)
      rw [List.append_cons] at quiet
      rw [growth, ← run_step]
      cases about : event.target with
      | some target =>
          have same : ((start app).run crates (before ++ [event])).exchanges.length =
              ((start app).run crates before).exchanges.length := by
            rw [run_step, length_step_of_target _ about]
          have nothing : (if some target = some index then AppState.counted
              ((start app).run crates before).app
                ((start app).run crates (before ++ [event])).app label else 0) = 0 := by
            split
            · next own =>
                rw [run_step, requests_step_of_absent (List.getElem?_eq_none later)
                  (about.trans own)]
                exact AppState.counted_same rfl label
            · rfl
          rw [nothing, ih quiet (same ▸ later), same, zero_add]
          cases event <;> first | rfl | cases about
      | none =>
          rw [if_neg (Option.some_ne_none index).symm, zero_add]
          cases event with
          | arrive request clock =>
              have grown : ((start app).run crates (before ++ [.arrive request clock])).exchanges =
                  ((start app).run crates before).exchanges ++
                    [Exchange.ofAdmission request (cfg.respond crates request)] :=
                exchanges_run_arrive deployed quietBefore request clock
              have length := congrArg List.length grown
              rw [List.length_append, List.length_singleton] at length
              rw [Event.fate]
              by_cases now : ((start app).run crates before).exchanges.length = index
              · have arrived : ((start app).run crates
                    (before ++ [.arrive request clock])).exchanges[index]? =
                      some (.ofAdmission request (cfg.respond crates request)) := by
                  rw [grown, ← now, List.getElem?_concat_length]
                rw [growth_of_exchange arrived app events, if_pos now]
                rfl
              · rw [ih quiet (by omega), length, if_neg now]
          | retune state => exact absurd (by simp) (quiet state)
          | _ => cases about

theorem growth_of_fate (deployed : app.Deployed cfg) {events : List (Event BuiltinPolicy)}
    (quiet : Quiet events) (index : Nat) (label : String) :
    (start app).growth crates index label events =
      (Event.fate index 0 events).elim 0 (fateGrowth crates app cfg label) := by
  rw [← List.nil_append events] at quiet
  exact growth_of_later_fate deployed quiet (Nat.zero_le index) label

theorem exists_bound {σ : Type} (events : List (Event σ)) :
    ∃ bound, ∀ event ∈ events, ∀ index, event.target = some index → index < bound := by
  induction events with
  | nil => exact ⟨0, List.forall_mem_nil _⟩
  | cons event events ih =>
      rcases ih with ⟨bound, bounded⟩
      use max bound (event.target.getD 0 + 1)
      rw [List.forall_mem_cons]
      constructor
      · intro index about
        rw [about]
        exact lt_max_of_lt_right (Nat.lt_succ_self index)
      · intro later membership index about
        exact lt_max_of_lt_left (bounded later membership index about)

/-- Requests with the same fates are counted alike. -/
theorem requests_of_fates (deployed : app.Deployed cfg) {left right : List (Event BuiltinPolicy)}
    (quietLeft : Quiet left) (quietRight : Quiet right)
    (fates : ∀ index, Event.fate index 0 left = Event.fate index 0 right) (label : String) :
    ((start app).run crates left).app.metrics.requests.value label =
      ((start app).run crates right).app.metrics.requests.value label := by
  rcases exists_bound (left ++ right) with ⟨bound, bounded⟩
  rw [requests_of_run fun event membership => bounded event (List.mem_append_left _ membership),
    requests_of_run fun event membership => bounded event (List.mem_append_right _ membership)]
  congr 1
  apply Finset.sum_congr rfl
  intro index _
  rw [growth_of_fate deployed quietLeft, growth_of_fate deployed quietRight, fates index]

end Gateway

/-! ## All that is counted -/

/-- The same was counted in every series. -/
structure AppState.CountsAlike {σ γ : Type} (left right : AppState σ γ) : Prop where
  ledger : ∀ key dimension, (left.budget.countersFor key).get dimension =
    (right.budget.countersFor key).get dimension
  requests : ∀ label, left.metrics.requests.value label = right.metrics.requests.value label
  tokens : ∀ (key : String) (dimension : Dimension),
    left.metrics.tokens.value (MetricsHandle.tokensLabel key dimension.kind) =
      right.metrics.tokens.value (MetricsHandle.tokensLabel key dimension.kind)
  upstreamErrors : ∀ backend,
    left.metrics.upstreamErrorsOf backend = right.metrics.upstreamErrorsOf backend
  rejections : ∀ key, left.metrics.rateLimitRejections.value (MetricsHandle.keyLabel key) =
    right.metrics.rateLimitRejections.value (MetricsHandle.keyLabel key)
  budgetRejections : left.metrics.budgetRejections = right.metrics.budgetRejections

namespace Books

variable {σ γ M : Type} [AddCancelCommMonoid M] {crates : Crates γ} {books : Books σ γ M}

/-- Books that balance hold the same after runs with the same exchanges. -/
theorem Balance.congr {app : AppState σ γ} (balance : books.Balance crates app.keys)
    {left right : List (Event σ)}
    (same : ((Gateway.start app).run crates left).exchanges =
      ((Gateway.start app).run crates right).exchanges) :
    books.held ((Gateway.start app).run crates left).app =
      books.held ((Gateway.start app).run crates right).app := by
  rw [balance.run app left, balance.run app right, same]

end Books

namespace Gateway

variable {γ : Type} {crates : Crates γ}

/-- **Schedules.**  Two runs of a deployed server in which the same requests arrive in the
same order, and in which the same things happen to each of them, in whatever order among
them, give every client the same, and they count the same. -/
theorem schedule_irrelevant {cfg : GatewayConfig} {app : AppState BuiltinPolicy γ}
    {codec : SnapshotCodec} {files : FileSystem} {secs : UInt64}
    (booted : AppState.boot crates codec files secs cfg = some app)
    {left right : List (Event BuiltinPolicy)} (quietLeft : Quiet left)
    (quietRight : Quiet right)
    (fates : ∀ index, Event.fate index 0 left = Event.fate index 0 right) :
    ((start app).run crates left).exchanges = ((start app).run crates right).exchanges ∧
      ((start app).run crates left).app.CountsAlike ((start app).run crates right).app := by
  have deployed := AppState.deployed_boot booted
  have exchanges : ((start app).run crates left).exchanges =
      ((start app).run crates right).exchanges := by
    apply List.ext_getElem?
    intro index
    rw [exchange_of_fate deployed quietLeft, exchange_of_fate deployed quietRight, fates index]
  refine ⟨exchanges, ?_⟩
  exact
    { ledger := fun key dimension =>
        ((TokenBook.ledger key dimension).balance crates app.keys).congr exchanges
      requests := requests_of_fates deployed quietLeft quietRight fates
      tokens := fun key dimension =>
        ((TokenBook.metrics key dimension).balance crates app.keys).congr exchanges
      upstreamErrors := fun backend =>
        (Books.failures_balance crates app.keys backend).congr exchanges
      rejections := fun key => (Books.rejections_balance crates app.keys key).congr exchanges
      budgetRejections := by
        have ofLeft := (run_frame crates (start app) left).budgetRejections
        have ofRight := (run_frame crates (start app) right).budgetRejections
        exact ofLeft.trans ofRight.symm }

end Gateway

namespace Sample

/-- Of two requests of the key one is served before the other arrives. -/
def inSequence : List (Event BuiltinPolicy) :=
  [.arrive request clock, .sent 0 (.ok success) 7 clock, .read 0 (.ok completion) 1000,
    .arrive request clock, .sent 1 (.error "connection refused") 7 clock, .woke 1]

/-- Both are there at once. -/
def atOnce : List (Event BuiltinPolicy) :=
  [.arrive request clock, .arrive request clock,
    .sent 1 (.error "connection refused") 7 clock, .sent 0 (.ok success) 7 clock, .woke 1,
    .read 0 (.ok completion) 1000]

theorem sameFates (index : Nat) : Event.fate index 0 inSequence = Event.fate index 0 atOnce := by
  match index with
  | 0 => rfl
  | 1 => rfl
  | _ + 2 => rfl

end Sample

theorem Gateway.schedule_irrelevant_atOnce :
    ((start Sample.booted).run Sample.crates Sample.inSequence).exchanges =
        ((start Sample.booted).run Sample.crates Sample.atOnce).exchanges ∧
      ((start Sample.booted).run Sample.crates Sample.inSequence).app.CountsAlike
        ((start Sample.booted).run Sample.crates Sample.atOnce).app :=
  schedule_irrelevant Sample.boot_config (by simp [Quiet, Sample.inSequence])
    (by simp [Quiet, Sample.atOnce]) Sample.sameFates

end Patchbay
