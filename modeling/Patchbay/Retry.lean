import Mathlib.Data.ENat.Lattice
import Patchbay.Gateway

/-!
# The retry protocol

What the forwarding loop does with an infinite sequence of upstream results: it
stops at the first result that settles the request, or after its last retry.  The
invariant of the loop says how many calls, waits and counted errors there are when
an attempt is under way.
-/

namespace Patchbay

/-! ## Waits -/

/-- The retries of the loop back off by doubling, without overflow. -/
theorem backoffMs_toNat {attempt : Nat} (retry : attempt < maxRetries) :
    (backoffMs attempt).toNat = 100 * 2 ^ attempt := by
  revert attempt
  decide

/-- Every backoff leaves room for its noise under the cap of two seconds. -/
theorem backoff_room {attempt : Nat} (retry : attempt < maxRetries) :
    100 * 2 ^ attempt + 100 * 2 ^ attempt / 4 ≤ 2000 := by
  revert attempt
  decide

/-- Jitter in exact arithmetic: neither the sum nor the divisor overflows. -/
theorem jitter_toNat {ms : UInt64} (capped : ms.toNat ≤ 2000) (hash : UInt64) :
    (ms / 4 + 1).toNat = ms.toNat / 4 + 1 ∧
      (jitter ms hash).toNat = ms.toNat + hash.toNat % (ms.toNat / 4 + 1) := by
  have divisor : (ms / 4 + 1).toNat = ms.toNat / 4 + 1 := by
    rw [UInt64.toNat_add, UInt64.toNat_div]
    exact Nat.mod_eq_of_lt (by simp; omega)
  refine ⟨divisor, ?_⟩
  have noise : hash.toNat % (ms.toNat / 4 + 1) < ms.toNat / 4 + 1 :=
    Nat.mod_lt _ (Nat.succ_pos _)
  rw [jitter, UInt64.toNat_add, UInt64.toNat_mod, divisor]
  exact Nat.mod_eq_of_lt (by omega)

/-- The wait before a retry, for every hash: nothing overflows, the divisor is not
zero, and the wait lies between the backoff and two seconds. -/
theorem retry_wait {attempt : Nat} (retry : attempt < maxRetries) (hash : UInt64) :
    (jitter (backoffMs attempt) hash).toNat =
        100 * 2 ^ attempt + hash.toNat % (100 * 2 ^ attempt / 4 + 1) ∧
      backoffMs attempt / 4 + 1 ≠ 0 ∧
      100 * 2 ^ attempt ≤ (jitter (backoffMs attempt) hash).toNat ∧
      (jitter (backoffMs attempt) hash).toNat ≤ 2000 := by
  have room := backoff_room retry
  have backoff := backoffMs_toNat retry
  have capped : (backoffMs attempt).toNat ≤ 2000 := by omega
  rcases jitter_toNat capped hash with ⟨divisor, wait⟩
  have noise : hash.toNat % (100 * 2 ^ attempt / 4 + 1) < 100 * 2 ^ attempt / 4 + 1 :=
    Nat.mod_lt _ (Nat.succ_pos _)
  rw [backoff] at divisor wait
  refine ⟨wait, ?_, by omega, by omega⟩
  intro zero
  rw [zero] at divisor
  simp at divisor

/-! ## Results -/

/-- A 2xx response. -/
def succeeded : HttpResult → Bool
  | .error _ => false
  | .ok response => response.status.isSuccess

/-- A 2xx response, or a status that is not worth a retry. -/
def settles : HttpResult → Bool
  | .error _ => false
  | .ok response =>
      response.status.isSuccess ||
        !(response.status.code == 429 || 500 ≤ response.status.code)

/-- The first result that settles the request, or infinity. -/
noncomputable def firstSettled (outcomes : Nat → HttpResult) : ℕ∞ :=
  sInf {k | ∃ i : ℕ, settles (outcomes i) = true ∧ k = i}

theorem not_settles_of_lt {outcomes : Nat → HttpResult} {i : Nat}
    (early : (i : ℕ∞) < firstSettled outcomes) : settles (outcomes i) = false := by
  by_contra settled
  rw [Bool.not_eq_false] at settled
  have reached : firstSettled outcomes ≤ i := sInf_le ⟨i, settled, rfl⟩
  exact absurd early (not_lt_of_ge reached)

theorem settles_of_firstSettled {outcomes : Nat → HttpResult} {n : Nat}
    (first : firstSettled outcomes = n) : settles (outcomes n) = true := by
  have nonempty : {k : ℕ∞ | ∃ i : ℕ, settles (outcomes i) = true ∧ k = i}.Nonempty := by
    by_contra empty
    rw [Set.not_nonempty_iff_eq_empty] at empty
    rw [firstSettled, empty, sInf_empty] at first
    exact absurd first (ENat.top_ne_natCast n)
  rcases csInf_mem nonempty with ⟨i, settled, same⟩
  rw [← firstSettled, first, Nat.cast_inj] at same
  rw [same]
  exact settled

/-- A result that does not settle the request is a failure worth a retry. -/
theorem receive_of_not_settles {result : HttpResult} (unsettled : settles result = false)
    (backend : Backend) :
    ∃ error, UpstreamClient.receive backend result = .error error ∧
      error.isRetryable = true := by
  cases result with
  | error message => exact ⟨.http message, rfl, rfl⟩
  | ok response =>
      simp only [settles, Bool.or_eq_false_iff, Bool.not_eq_false'] at unsettled
      refine ⟨_, if_pos (by simp [unsettled.1]), unsettled.2⟩

theorem not_succeeded_of_not_settles {result : HttpResult}
    (unsettled : settles result = false) : succeeded result = false := by
  cases result with
  | error message => rfl
  | ok response =>
      simp only [settles, Bool.or_eq_false_iff] at unsettled
      exact unsettled.1

/-- A settling result that is no success is passed through with its status. -/
theorem receive_of_settles {result : HttpResult} (settled : settles result = true)
    (failed : succeeded result = false) (backend : Backend) :
    ∃ response error, result = .ok response ∧
      UpstreamClient.receive backend result = .error error ∧ error.isRetryable = false ∧
      error.upstreamStatus.bind StatusCode.fromU16 = some response.status := by
  cases result with
  | error message => cases settled
  | ok response =>
      have unsuccessful : response.status.isSuccess = false := failed
      simp only [settles, unsuccessful, Bool.false_or, Bool.not_eq_true'] at settled
      exact ⟨response, _, rfl, if_pos (by simp [unsuccessful]), settled, by
        simp [UpstreamError.upstreamStatus]⟩

theorem receive_of_success {response : HttpResponse} (backend : Backend)
    (success : response.status.isSuccess = true) :
    UpstreamClient.receive backend (.ok response) = .ok response := by
  simp [UpstreamClient.receive, success]

/-! ## One attempt -/

section Loop

variable {σ γ : Type}

/-- The result of an attempt, and the end of the sleep that may follow. -/
def AppState.attempt (state : AppState σ γ × Exchange) (result : HttpResult)
    (hash : UInt64) (clock : Clock) : AppState σ γ × Exchange :=
  let (app, exchange) := state.1.sent state.2 result hash clock
  app.woke exchange

/-- The exchange with attempt `attempt` under way. -/
def Exchange.underway (request : ClientRequest) (job : Job) (hashes : Nat → UInt64)
    (attempt : Nat) : Exchange where
  request := request
  phase := .calling job attempt
  calls := List.replicate (attempt + 1) job.call
  waits := (List.range attempt).map fun i => jitter (backoffMs i) (hashes i)
  relay := none

variable {app : AppState σ γ} {request : ClientRequest} {job : Job}
variable {hashes : Nat → UInt64} {attempt : Nat} {result : HttpResult}

/-- A failure worth a retry leads to the next attempt, as long as there is one. -/
theorem attempt_retries (unsettled : settles result = false) (left : attempt < maxRetries)
    (clock : Clock) :
    AppState.attempt (app, .underway request job hashes attempt) result (hashes attempt)
        clock =
      ({ app with metrics := app.metrics.recordUpstreamError job.backend.name },
        .underway request job hashes (attempt + 1)) := by
  rcases receive_of_not_settles unsettled job.backend with ⟨error, received, retryable⟩
  have again : attempt + 1 ≤ maxRetries := left
  simp only [AppState.attempt, AppState.sent, Exchange.underway, received, retryable,
    Bool.not_true, Bool.false_eq_true, if_false, AppState.retry, if_pos again,
    Exchange.sleep, AppState.woke, Exchange.call, Nat.add_sub_cancel]
  rw [List.replicate_succ' (n := attempt + 1), List.range_succ, List.map_append]
  rfl

/-- The last failure ends the request with a bad gateway. -/
theorem attempt_exhausts (unsettled : settles result = false) (hash : UInt64)
    (clock : Clock) :
    ∃ answer : Response, answer.status = .badGateway ∧
      AppState.attempt (app, .underway request job hashes maxRetries) result hash clock =
        ({ app with
            metrics := (app.metrics.recordUpstreamError job.backend.name).recordRequest
              job.backend.name job.model "5xx" },
          (Exchange.underway request job hashes maxRetries).answer answer) := by
  rcases receive_of_not_settles unsettled job.backend with ⟨error, received, retryable⟩
  refine ⟨errorResponse .badGateway "upstream_error" error.message, rfl, ?_⟩
  simp only [AppState.attempt, AppState.sent, Exchange.underway, received, retryable,
    Bool.not_true, Bool.false_eq_true, if_false, AppState.retry,
    if_neg (Nat.not_succ_le_self maxRetries), Exchange.answer, AppState.woke]

/-- A failure that settles the request ends it with the upstream's status. -/
theorem attempt_passes_through (settled : settles result = true)
    (failed : succeeded result = false) (hash : UInt64) (clock : Clock) :
    ∃ (answer : Response) (response : HttpResponse), result = .ok response ∧
      answer.status = response.status ∧
      AppState.attempt (app, .underway request job hashes attempt) result hash clock =
        ({ app with metrics := app.metrics.recordUpstreamError job.backend.name },
          (Exchange.underway request job hashes attempt).answer answer) := by
  rcases receive_of_settles settled failed job.backend with
    ⟨response, error, same, received, final, status⟩
  refine ⟨errorResponse response.status "upstream_error" error.message, response, same, rfl, ?_⟩
  simp only [AppState.attempt, AppState.sent, Exchange.underway, received, final,
    Bool.not_false, if_true, status, Option.getD_some, Exchange.answer, AppState.woke]

/-- A success is handed over. -/
theorem attempt_succeeds (app : AppState σ γ) (request : ClientRequest) (job : Job)
    (hashes : Nat → UInt64) (attempt : Nat) {response : HttpResponse}
    (success : response.status.isSuccess = true) (hash : UInt64) (clock : Clock) :
    AppState.attempt (app, .underway request job hashes attempt) (.ok response) hash clock =
      AppState.handOver
        { app with
          metrics := app.metrics.recordRequest job.backend.name job.model "2xx" }
        (.underway request job hashes attempt) job response clock := by
  have received := receive_of_success job.backend success
  cases stream : job.stream <;>
    simp only [AppState.attempt, AppState.sent, Exchange.underway, received, AppState.handOver,
      stream, if_true, Bool.false_eq_true, if_false, AppState.streamResponse,
      AppState.bufferedResponse, AppState.woke]

/-- The exchange was handed over: a stream is answered and its relay starts, any other
body is to be read. -/
def HandedOver (job : Job) (response : HttpResponse) (clock : Clock) (exchange : Exchange) :
    Prop :=
  if job.stream then
    (∃ answer, exchange.phase = .answered answer ∧ answer.body = .relayed) ∧
      exchange.relay = some {
        keyName := job.keyName
        backendName := job.backend.name
        relay := SseRelay.new response.stream stallTimeout clock.nanos
        released := false
        settled := false }
  else exchange.phase = .reading job response

/-- No attempt is under way any more. -/
def Phase.resting : Phase → Bool
  | .calling _ _ | .sleeping _ _ => false
  | _ => true

theorem handOver_spec (app : AppState σ γ) (exchange : Exchange) (job : Job)
    (response : HttpResponse) (clock : Clock) :
    HandedOver job response clock (app.handOver exchange job response clock).2 ∧
      (app.handOver exchange job response clock).2.phase.resting = true ∧
      (app.handOver exchange job response clock).2.calls = exchange.calls ∧
      (app.handOver exchange job response clock).2.waits = exchange.waits ∧
      (app.handOver exchange job response clock).1 = app := by
  unfold HandedOver AppState.handOver
  cases job.stream with
  | true => exact ⟨⟨⟨_, rfl, rfl⟩, rfl⟩, rfl, rfl, rfl, rfl⟩
  | false => exact ⟨rfl, rfl, rfl, rfl, rfl⟩

theorem attempt_resting {state : AppState σ γ × Exchange}
    (resting : state.2.phase.resting = true) (result : HttpResult) (hash : UInt64)
    (clock : Clock) : AppState.attempt state result hash clock = state := by
  rcases state with ⟨app, exchange⟩
  unfold AppState.attempt AppState.sent
  cases phase : exchange.phase with
  | calling job attempt => simp [phase, Phase.resting] at resting
  | sleeping job attempt => simp [phase, Phase.resting] at resting
  | reading job response => simp only [AppState.woke, phase]
  | answered response => simp only [AppState.woke, phase]
  | cancelled => simp only [AppState.woke, phase]

/-- The first attempts of an exchange, one after the other. -/
def AppState.drive (outcomes : Nat → HttpResult) (hashes : Nat → UInt64)
    (clocks : Nat → Clock) (state : AppState σ γ × Exchange) : Nat → AppState σ γ × Exchange
  | 0 => state
  | attempt + 1 =>
      AppState.attempt (AppState.drive outcomes hashes clocks state attempt)
        (outcomes attempt) (hashes attempt) (clocks attempt)

variable {outcomes : Nat → HttpResult} {clocks : Nat → Clock}

/-- The application state after failed calls to a backend. -/
def AppState.afterFailures (app : AppState σ γ) (backend : String) (count : Nat) :
    AppState σ γ :=
  { app with metrics := (·.recordUpstreamError backend)^[count] app.metrics }

theorem upstreamErrorsOf_iterate (metrics : MetricsHandle) (backend : String) (count : Nat) :
    (MetricsHandle.upstreamErrorsOf ((·.recordUpstreamError backend)^[count] metrics) backend) =
      metrics.upstreamErrorsOf backend + UInt64.ofNat count := by
  induction count with
  | zero => simp
  | succ count ih =>
      rw [Function.iterate_succ_apply', UInt64.ofNat_add, ← UInt64.add_assoc, ← ih]
      exact LabeledCounters.value_inc_self _ _

/-- Errors counted before an attempt and one more at its failure. -/
theorem upstreamErrorsOf_failed (app : AppState σ γ) (backend : String) (attempt : Nat) :
    ((app.afterFailures backend attempt).metrics.recordUpstreamError
        backend).upstreamErrorsOf backend =
      app.metrics.upstreamErrorsOf backend + UInt64.ofNat (attempt + 1) := by
  have more := upstreamErrorsOf_iterate app.metrics backend (attempt + 1)
  rwa [Function.iterate_succ_apply'] at more

/-- The invariant of the loop: as long as no result settled the request, every attempt
so far was a failure, and the next one is under way. -/
theorem drive_underway {attempt : Nat} (bound : attempt ≤ maxRetries)
    (unsettled : ∀ i < attempt, settles (outcomes i) = false) :
    AppState.drive outcomes hashes clocks (app, .underway request job hashes 0) attempt =
      (app.afterFailures job.backend.name attempt, .underway request job hashes attempt) := by
  induction attempt with
  | zero => rfl
  | succ attempt ih =>
      have before := ih (Nat.le_of_succ_le bound) fun i early => unsettled i (by omega)
      rw [AppState.drive, before,
        attempt_retries (unsettled attempt (Nat.lt_succ_self attempt)) bound]
      unfold AppState.afterFailures
      rw [Function.iterate_succ_apply']

theorem drive_resting {state : AppState σ γ × Exchange} {attempts : Nat}
    (resting : (AppState.drive outcomes hashes clocks state attempts).2.phase.resting = true)
    (more : Nat) :
    AppState.drive outcomes hashes clocks state (attempts + more) =
      AppState.drive outcomes hashes clocks state attempts := by
  induction more with
  | zero => rfl
  | succ more ih =>
      rw [← Nat.add_assoc, AppState.drive, ih, attempt_resting resting]

/-- The failed calls among the first `calls` ones. -/
def failedCalls (outcomes : Nat → HttpResult) (calls : Nat) : Nat :=
  (List.range calls).countP fun i => !succeeded (outcomes i)

theorem failedCalls_succ {attempt : Nat}
    (unsettled : ∀ i < attempt, settles (outcomes i) = false) :
    failedCalls outcomes (attempt + 1) =
      attempt + if succeeded (outcomes attempt) then 0 else 1 := by
  have before : (List.range attempt).countP (fun i => !succeeded (outcomes i)) = attempt := by
    rw [List.countP_eq_length.mpr, List.length_range]
    intro i membership
    rw [not_succeeded_of_not_settles (unsettled i (List.mem_range.mp membership))]
    rfl
  rw [failedCalls, List.range_succ, List.countP_append, before]
  cases outcome : succeeded (outcomes attempt) <;> simp [outcome]

/-- What the loop has done when it is over, in terms of the first result that settles
the request. -/
structure Concluded (metrics : MetricsHandle) (job : Job) (outcomes : Nat → HttpResult)
    (hashes : Nat → UInt64) (clocks : Nat → Clock) (state : AppState σ γ × Exchange) :
    Prop where
  calls : (state.2.calls.length : ℕ∞) = min (firstSettled outcomes) 5 + 1
  sameCall : ∀ call ∈ state.2.calls, call = job.call
  waits : (state.2.waits.length : ℕ∞) = min (firstSettled outcomes) 5
  waited : ∀ i wait, state.2.waits[i]? = some wait →
    wait.toNat = 100 * 2 ^ i + (hashes i).toNat % (100 * 2 ^ i / 4 + 1) ∧
      backoffMs i / 4 + 1 ≠ 0 ∧ 100 * 2 ^ i ≤ wait.toNat ∧ wait.toNat ≤ 2000
  counted : state.1.metrics.upstreamErrorsOf job.backend.name =
    metrics.upstreamErrorsOf job.backend.name +
      UInt64.ofNat (failedCalls outcomes state.2.calls.length)
  handedOver : ∀ (n : Nat) (response : HttpResponse), firstSettled outcomes = n → n ≤ 5 →
    outcomes n = .ok response → response.status.isSuccess = true →
      HandedOver job response (clocks n) state.2
  passedThrough : ∀ (n : Nat) (response : HttpResponse), firstSettled outcomes = n → n ≤ 5 →
    outcomes n = .ok response → response.status.isSuccess = false →
      ∃ answer, state.2.phase = .answered answer ∧ answer.status = response.status
  exhausted : 5 < firstSettled outcomes →
    ∃ answer, state.2.phase = .answered answer ∧ answer.status = .badGateway

/-- The last attempt settles what the loop has done. -/
theorem Concluded.of_last {state : AppState σ γ × Exchange} {last : Nat}
    (bound : last ≤ maxRetries) (isLast : (last : ℕ∞) = min (firstSettled outcomes) 5)
    (calls : state.2.calls = List.replicate (last + 1) job.call)
    (waits : state.2.waits = (List.range last).map fun i => jitter (backoffMs i) (hashes i))
    (counted : state.1.metrics.upstreamErrorsOf job.backend.name =
      app.metrics.upstreamErrorsOf job.backend.name +
        UInt64.ofNat (failedCalls outcomes (last + 1)))
    (handedOver : ∀ response, firstSettled outcomes = last → outcomes last = .ok response →
      response.status.isSuccess = true → HandedOver job response (clocks last) state.2)
    (passedThrough : ∀ response, firstSettled outcomes = last →
      outcomes last = .ok response → response.status.isSuccess = false →
        ∃ answer, state.2.phase = .answered answer ∧ answer.status = response.status)
    (exhausted : 5 < firstSettled outcomes →
      ∃ answer, state.2.phase = .answered answer ∧ answer.status = .badGateway) :
    Concluded app.metrics job outcomes hashes clocks state := by
  have callCount : state.2.calls.length = last + 1 := by
    rw [calls]
    exact List.length_replicate
  have unique : ∀ {n : Nat}, firstSettled outcomes = n → n ≤ 5 → n = last := by
    intro n first inBounds
    have inBounds' : (n : ℕ∞) ≤ 5 := by exact_mod_cast inBounds
    rw [first, min_eq_left inBounds'] at isLast
    exact_mod_cast isLast.symm
  refine
    { calls := by rw [callCount, ← isLast]; rfl
      sameCall := fun call membership => by
        rw [calls] at membership
        exact List.eq_of_mem_replicate membership
      waits := by
        rw [waits, ← isLast, List.length_map, List.length_range]
      waited := fun i wait found => ?_
      counted := by rw [callCount]; exact counted
      handedOver := fun n response first inBounds same success => ?_
      passedThrough := fun n response first inBounds same failed => ?_
      exhausted := exhausted }
  · rw [waits] at found
    simp only [List.getElem?_map, Option.map_eq_some_iff,
      List.getElem?_eq_some_iff, List.getElem_range, List.length_range] at found
    rcases found with ⟨_, ⟨inBounds, rfl⟩, rfl⟩
    exact retry_wait (Nat.lt_of_lt_of_le inBounds bound) (hashes i)
  · obtain rfl := unique first inBounds
    exact handedOver response first same success
  · obtain rfl := unique first inBounds
    exact passedThrough response first same failed

/-- A state reached by attempt number `last` in which nothing is under way is the state
after any larger number of attempts. -/
theorem drive_ended {state : AppState σ γ × Exchange} {last : Nat} (bound : last ≤ maxRetries)
    (unsettled : ∀ i < last, settles (outcomes i) = false)
    (ended : AppState.attempt
        (app.afterFailures job.backend.name last, .underway request job hashes last)
        (outcomes last) (hashes last) (clocks last) = state)
    (resting : state.2.phase.resting = true) (more : Nat) :
    AppState.drive outcomes hashes clocks (app, .underway request job hashes 0) (6 + more) =
      state := by
  have reached : AppState.drive outcomes hashes clocks
      (app, .underway request job hashes 0) (last + 1) = state := by
    rw [AppState.drive, drive_underway bound unsettled, ended]
  have split : 6 + more = last + 1 + (5 - last + more) := by
    have bound' : last ≤ 5 := bound
    omega
  rw [split, drive_resting (by rw [reached]; exact resting), reached]

section Settled

variable {last : Nat}

theorem unsettled_before_first (first : firstSettled outcomes = last) :
    ∀ i < last, settles (outcomes i) = false := by
  intro i before
  apply not_settles_of_lt
  rw [first]
  exact_mod_cast before

theorem last_eq_min (first : firstSettled outcomes = last) (bound : last ≤ 5) :
    (last : ℕ∞) = min (firstSettled outcomes) 5 := by
  rw [first, min_eq_left]
  exact_mod_cast bound

theorem not_late (first : firstSettled outcomes = last) (bound : last ≤ 5) :
    ¬ 5 < firstSettled outcomes := by
  rw [first, not_lt]
  exact_mod_cast bound

/-- The loop ends at a status that is no success. -/
theorem concluded_of_failure (first : firstSettled outcomes = last) (bound : last ≤ 5)
    (failed : succeeded (outcomes last) = false) (more : Nat) :
    Concluded app.metrics job outcomes hashes clocks
      (AppState.drive outcomes hashes clocks (app, .underway request job hashes 0)
        (6 + more)) := by
  have unsettled := unsettled_before_first first
  obtain ⟨answer, response, same, status, ended⟩ :=
    attempt_passes_through (settles_of_firstSettled first) failed (hashes last) (clocks last)
  rw [drive_ended bound unsettled ended rfl]
  refine Concluded.of_last bound (last_eq_min first bound) rfl rfl ?_ ?_ ?_ ?_
  · rw [failedCalls_succ unsettled, failed]
    exact upstreamErrorsOf_failed app _ _
  · intro other _ otherSame success
    rw [otherSame, succeeded, success] at failed
    cases failed
  · intro other _ otherSame _
    rw [same, Except.ok.injEq] at otherSame
    exact ⟨answer, rfl, by rw [status, otherSame]⟩
  · intro late
    exact absurd late (not_late first bound)

/-- The loop ends at a success. -/
theorem concluded_of_success (first : firstSettled outcomes = last) (bound : last ≤ 5)
    {response : HttpResponse} (same : outcomes last = .ok response)
    (success : response.status.isSuccess = true) (more : Nat) :
    Concluded app.metrics job outcomes hashes clocks
      (AppState.drive outcomes hashes clocks (app, .underway request job hashes 0)
        (6 + more)) := by
  have unsettled := unsettled_before_first first
  have ended := attempt_succeeds (app.afterFailures job.backend.name last) request job hashes
    last success (hashes last) (clocks last)
  rcases handOver_spec
    { app.afterFailures job.backend.name last with
      metrics := (app.afterFailures job.backend.name last).metrics.recordRequest
        job.backend.name job.model "2xx" }
    (.underway request job hashes last) job response (clocks last) with
    ⟨handedOver, resting, calls, waits, unchanged⟩
  rw [← same] at ended
  rw [drive_ended bound unsettled ended resting]
  refine Concluded.of_last bound (last_eq_min first bound) calls waits ?_ ?_ ?_ ?_
  · have succeeds : succeeded (outcomes last) = true := by rw [same, succeeded, success]
    rw [unchanged, failedCalls_succ unsettled, succeeds]
    exact upstreamErrorsOf_iterate _ _ _
  · intro other _ otherSame _
    rw [same, Except.ok.injEq] at otherSame
    rw [← otherSame]
    exact handedOver
  · intro other _ otherSame failed
    rw [same, Except.ok.injEq] at otherSame
    rw [otherSame, failed] at success
    cases success
  · intro late
    exact absurd late (not_late first bound)

end Settled

/-- The loop ends with its last retry. -/
theorem concluded_of_late (late : 5 < firstSettled outcomes) (more : Nat) :
    Concluded app.metrics job outcomes hashes clocks
      (AppState.drive outcomes hashes clocks (app, .underway request job hashes 0)
        (6 + more)) := by
  have unsettled : ∀ i ≤ maxRetries, settles (outcomes i) = false := by
    intro i before
    apply not_settles_of_lt
    exact lt_of_le_of_lt (by exact_mod_cast before) late
  have earlier : ∀ i < maxRetries, settles (outcomes i) = false := by
    intro i before
    exact unsettled i before.le
  have last := unsettled maxRetries (Nat.le_refl maxRetries)
  have isLast : ((maxRetries : ℕ) : ℕ∞) = min (firstSettled outcomes) 5 := by
    rw [min_eq_right late.le]
    rfl
  have never : firstSettled outcomes ≠ (maxRetries : ℕ) := by
    intro first
    exact not_late first (Nat.le_refl 5) late
  rcases attempt_exhausts last (hashes maxRetries) (clocks maxRetries) with ⟨answer, status, ended⟩
  rw [drive_ended (Nat.le_refl maxRetries) earlier ended rfl]
  refine Concluded.of_last (Nat.le_refl maxRetries) isLast rfl rfl ?_ ?_ ?_ ?_
  · rw [failedCalls_succ earlier, not_succeeded_of_not_settles last]
    exact upstreamErrorsOf_failed app _ _
  · intro _ first
    exact absurd first never
  · intro _ first
    exact absurd first never
  · intro _
    exact ⟨answer, rfl, status⟩

/-- Once the last attempt is over, the loop has done what it should, and stays so. -/
theorem drive_concluded (app : AppState σ γ) (request : ClientRequest) (job : Job)
    (outcomes : Nat → HttpResult) (hashes : Nat → UInt64) (clocks : Nat → Clock)
    (more : Nat) :
    Concluded app.metrics job outcomes hashes clocks
      (AppState.drive outcomes hashes clocks (app, .underway request job hashes 0)
        (6 + more)) := by
  rcases le_or_gt (firstSettled outcomes) 5 with early | late
  · rcases ENat.le_natCast_iff.mp early with ⟨last, first, bound⟩
    cases same : outcomes last with
    | error message =>
        exact concluded_of_failure first bound (by rw [same]; rfl) more
    | ok response =>
        cases success : response.status.isSuccess with
        | false => exact concluded_of_failure first bound (by rw [same]; exact success) more
        | true => exact concluded_of_success first bound same success more
  · exact concluded_of_late late more

end Loop

/-! ## In the gateway -/

section Gateway

variable {σ γ : Type} (crates : Crates γ)

/-- The events of an exchange that is never cancelled: the result of each attempt, and
the end of the sleep that may follow. -/
def attemptEvents (index : Nat) (outcomes : Nat → HttpResult) (hashes : Nat → UInt64)
    (clocks : Nat → Clock) (count : Nat) : List (Event σ) :=
  (List.range count).flatMap fun i =>
    [.sent index (outcomes i) (hashes i) (clocks i), .woke index]

theorem advance_last (app : AppState σ γ) (others : List Exchange) (exchange : Exchange)
    (act : AppState σ γ → Exchange → AppState σ γ × Exchange) :
    Gateway.advance ⟨app, others ++ [exchange]⟩ others.length act =
      ⟨(act app exchange).1, others ++ [(act app exchange).2]⟩ := by
  simp [Gateway.advance]

theorem run_attemptEvents (app : AppState σ γ) (others : List Exchange) (exchange : Exchange)
    (outcomes : Nat → HttpResult) (hashes : Nat → UInt64) (clocks : Nat → Clock)
    (count : Nat) :
    Gateway.run crates ⟨app, others ++ [exchange]⟩
        (attemptEvents others.length outcomes hashes clocks count) =
      ⟨(AppState.drive outcomes hashes clocks (app, exchange) count).1,
        others ++ [(AppState.drive outcomes hashes clocks (app, exchange) count).2]⟩ := by
  induction count with
  | zero => rfl
  | succ count ih =>
      rw [attemptEvents, List.range_succ, List.flatMap_append, ← attemptEvents,
        Gateway.run_append, ih]
      simp only [Gateway.run, List.flatMap_cons, List.flatMap_nil, List.append_nil,
        List.foldl_cons, List.foldl_nil, Gateway.step, advance_last]
      rfl

/-- The request is refused before any call: by its key, by its request limit, for lack
of a model, or for lack of a backend. -/
def Refused (app : AppState σ γ) (request : ClientRequest) (clock : Clock) : Prop :=
  (∃ error, AuthedKey.fromRequestParts crates.toStr app.keys request.authorization =
      .error error) ∨
    ∃ identity, AuthedKey.fromRequestParts crates.toStr app.keys request.authorization =
        .ok identity ∧
      ((∃ exceeded, (app.limits.checkRpm crates.governor identity.name clock.nanos).1 =
          .error exceeded) ∨
        request.model crates = "" ∨
        ∃ error, (app.router.route (.new (request.model crates))
          identity.enforcePrivate).1 = .error error)

theorem chatCompletions_refused {app : AppState σ γ} {request : ClientRequest} {clock : Clock}
    (refused : Refused crates app request clock) :
    ∃ response, (app.chatCompletions crates request clock).2 = .refused request response := by
  have spec := AppState.admission_spec crates app request clock
  unfold AppState.chatCompletions
  generalize app.admission crates request clock = admission at spec
  cases spec with
  | unauthorized unknown => exact ⟨_, rfl⟩
  | limited known limited => exact ⟨_, rfl⟩
  | noModel known allowed absent => exact ⟨_, rfl⟩
  | unroutable known allowed present unroutable => exact ⟨_, rfl⟩
  | admitted known allowed present routed =>
      exfalso
      rcases refused with ⟨error, unknown⟩ | ⟨identity, known', refused⟩
      · rw [known] at unknown
        cases unknown
      · rw [known, Except.ok.injEq] at known'
        subst known'
        rcases refused with ⟨exceeded, limited⟩ | absent | ⟨error, unroutable⟩
        · rw [allowed] at limited
          cases limited
        · rw [← ClientRequest.model, absent] at present
          cases present
        · rw [← ClientRequest.model] at routed
          rw [routed] at unroutable
          cases unroutable

theorem chatCompletions_admitted {app : AppState σ γ} {request : ClientRequest} {clock : Clock}
    {identity : KeyIdentity} {backend : Backend}
    (known : AuthedKey.fromRequestParts crates.toStr app.keys request.authorization =
      .ok identity)
    (allowed : (app.limits.checkRpm crates.governor identity.name clock.nanos).1 = .ok ())
    (present : request.model crates ≠ "")
    (routed : (app.router.route (.new (request.model crates)) identity.enforcePrivate).1 =
      .ok backend) :
    ∃ admitted : AppState σ γ, admitted.metrics = app.metrics ∧
      app.chatCompletions crates request clock =
        (admitted, .start request {
          keyName := identity.name
          model := request.model crates
          stream := (CompletionRequest.fromSlice crates.json request.body).stream
          backend
          body := request.body }) := by
  have spec := AppState.admission_spec crates app request clock
  unfold AppState.chatCompletions
  generalize app.admission crates request clock = admission at spec
  cases spec with
  | unauthorized unknown =>
      rw [known] at unknown
      cases unknown
  | limited known' limited =>
      rw [known, Except.ok.injEq] at known'
      subst known'
      rw [allowed] at limited
      cases limited
  | noModel known' allowed' absent =>
      rw [← ClientRequest.model, String.isEmpty_iff] at absent
      exact absurd absent present
  | unroutable known' allowed' present' unroutable =>
      rw [known, Except.ok.injEq] at known'
      subst known'
      rw [← ClientRequest.model, routed] at unroutable
      cases unroutable
  | admitted known' allowed' present' routed' =>
      rw [known, Except.ok.injEq] at known'
      subst known'
      rw [← ClientRequest.model, routed, Except.ok.injEq] at routed'
      subst routed'
      refine ⟨_, ?_, rfl⟩
      rfl

/-- **The retry protocol.**  For every state of the gateway, every request and every
infinite sequence of results: a refused request makes no call, and the forwarding loop
of an admitted one concludes as the first settling result says. -/
theorem retry_protocol (gateway : Gateway σ γ) (request : ClientRequest) (clock : Clock)
    (outcomes : Nat → HttpResult) (hashes : Nat → UInt64) (clocks : Nat → Clock)
    (more : Nat) :
    let after := (gateway.step crates (.arrive request clock)).run crates
      (attemptEvents gateway.exchanges.length outcomes hashes clocks (6 + more))
    ∃ exchange, after.exchanges = gateway.exchanges ++ [exchange] ∧
      (Refused crates gateway.app request clock → exchange.calls = []) ∧
      ∀ identity backend,
        AuthedKey.fromRequestParts crates.toStr gateway.app.keys request.authorization =
            .ok identity →
          (gateway.app.limits.checkRpm crates.governor identity.name clock.nanos).1 = .ok () →
            request.model crates ≠ "" →
              (gateway.app.router.route (.new (request.model crates))
                  identity.enforcePrivate).1 = .ok backend →
                Concluded gateway.app.metrics
                  { keyName := identity.name
                    model := request.model crates
                    stream := (CompletionRequest.fromSlice crates.json request.body).stream
                    backend
                    body := request.body }
                  outcomes hashes clocks (after.app, exchange) := by
  intro after
  have afterEq := run_attemptEvents crates
    (gateway.app.chatCompletions crates request clock).1 gateway.exchanges
    (gateway.app.chatCompletions crates request clock).2 outcomes hashes clocks (6 + more)
  refine ⟨_, congrArg Gateway.exchanges afterEq, ?_, ?_⟩
  · intro refused
    rcases chatCompletions_refused crates refused with ⟨response, arrived⟩
    have resting : (AppState.drive outcomes hashes clocks
        (gateway.app.chatCompletions crates request clock) 0).2.phase.resting = true := by
      rw [AppState.drive, arrived]
      rfl
    have still := drive_resting resting (6 + more)
    rw [Nat.zero_add] at still
    rw [still, AppState.drive, arrived]
    rfl
  · intro identity backend known allowed present routed
    rcases chatCompletions_admitted crates known allowed present routed with
      ⟨admitted, metrics, arrived⟩
    have afterApp : after.app = _ := congrArg Gateway.app afterEq
    rw [afterApp, arrived, ← metrics]
    exact drive_concluded admitted request _ outcomes hashes clocks more

end Gateway

namespace Sample

/-- The first call finds nobody, the others a server. -/
def refusedOnce : Nat → HttpResult
  | 0 => .error "connection refused"
  | _ + 1 => .ok success

theorem firstSettled_refusedOnce : firstSettled refusedOnce = 1 := by
  apply le_antisymm
  · exact sInf_le ⟨1, rfl, rfl⟩
  · apply le_sInf
    rintro settled ⟨index, settles, rfl⟩
    cases index with
    | zero => cases settles
    | succ index => exact_mod_cast Nat.succ_le_succ (Nat.zero_le index)

end Sample

/-- The request of the sample key is admitted, and its one failed call is made again after
100 ms and some noise. -/
theorem retry_protocol_refusedOnce :
    ∃ exchange, (((Gateway.start Sample.app).step Sample.crates
        (.arrive Sample.request Sample.clock)).run Sample.crates
          (attemptEvents 0 Sample.refusedOnce (fun _ => 7) (fun _ => Sample.clock) 6)).exchanges =
            [exchange] ∧
      exchange.calls = [Sample.localCall, Sample.localCall] ∧
      ∃ wait, exchange.waits = [wait] ∧ wait.toNat = 107 := by
  rcases retry_protocol Sample.crates (Gateway.start Sample.app) Sample.request Sample.clock
    Sample.refusedOnce (fun _ => 7) (fun _ => Sample.clock) 0 with ⟨exchange, found, -, concludes⟩
  have concluded := concludes ⟨"dev", true⟩ Sample.localBackend rfl rfl (by decide) rfl
  have bounded : min (firstSettled Sample.refusedOnce) 5 = 1 := by
    rw [Sample.firstSettled_refusedOnce]
    rfl
  have calls := concluded.calls
  have waits := concluded.waits
  rw [bounded] at calls waits
  have twoCalls : exchange.calls.length = 2 := by exact_mod_cast calls
  have oneWait : exchange.waits.length = 1 := by exact_mod_cast waits
  refine ⟨exchange, found, ?_, ?_⟩
  · rw [List.eq_replicate_of_mem concluded.sameCall, twoCalls]
    rfl
  · rcases List.length_eq_one_iff.mp oneWait with ⟨wait, single⟩
    exact ⟨wait, single, (concluded.waited 0 wait (by rw [single]; rfl)).1⟩

end Patchbay
