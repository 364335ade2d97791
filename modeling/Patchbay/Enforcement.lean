import Patchbay.Gateway

/-!
# Enforcement at admission

The stores know when a key is above its token budget or its tokens per minute.
This module says when the gateway acts on that knowledge: the budget is never
consulted, and of the rate limits only the one on requests is.
-/

namespace Patchbay

variable {σ γ : Type} (crates : Crates γ)

/-- The key of a request, if it has one that is known. -/
def AppState.Identified (app : AppState σ γ) (request : ClientRequest)
    (identity : KeyIdentity) : Prop :=
  AuthedKey.fromRequestParts crates.toStr app.keys request.authorization = .ok identity

/-- In this state, exchange number `index` was answered without an upstream call. -/
def Gateway.Rejected (gateway : Gateway σ γ) (index : Nat) (status : StatusCode → Prop) :
    Prop :=
  ∃ exchange response, gateway.exchanges[index]? = some exchange ∧
    exchange.phase = .answered response ∧ status response.status ∧ exchange.calls = []

/-! ## Token budgets -/

namespace BudgetLedger

/-- Some limited counter of `key` is above its maximum. -/
def OverBudget (ledger : BudgetLedger) (key : String) : Prop :=
  ∃ dimension max, (ledger.limitFor key).get dimension = some max ∧
    max < (ledger.countersFor key).get dimension

/-- A check that proposes nothing fails exactly when the key is over its budget. -/
theorem overBudget_iff_check (ledger : BudgetLedger) (key : String) :
    ledger.OverBudget key ↔ ∃ exceeded, (ledger.check key .zero).1 = .error exceeded := by
  have zero : ∀ dimension, Usage.zero.get dimension = 0 := by
    intro dimension
    cases dimension <;> rfl
  simp only [check_error_iff, zero, UInt64.add_zero]
  rfl

end BudgetLedger

/-- Over a whole run, each request of a key that is over its budget when it arrives is
rejected without a call, and counted as a budget rejection. -/
def EnforcesBudget (gateway : Gateway σ γ) (events : List (Event σ)) : Prop :=
  ∀ before request clock after identity, events = before ++ .arrive request clock :: after →
    let here := gateway.run crates before
    here.app.Identified crates request identity → here.app.budget.OverBudget identity.name →
      (gateway.run crates events).Rejected here.exchanges.length (·.isSuccess = false) ∧
      (here.step crates (.arrive request clock)).app.metrics.budgetRejectionsOf identity.name =
        here.app.metrics.budgetRejectionsOf identity.name + 1

/-- **Budgets are not enforced.**  A run keeps to the rule only if no request arrives
while its key is over budget: the counter of budget rejections never moves. -/
theorem enforcesBudget_iff_never_over (gateway : Gateway σ γ) (events : List (Event σ)) :
    EnforcesBudget crates gateway events ↔
      ∀ before request clock after identity,
        events = before ++ .arrive request clock :: after →
          (gateway.run crates before).app.Identified crates request identity →
            ¬ (gateway.run crates before).app.budget.OverBudget identity.name := by
  constructor
  · intro enforces before request clock after identity split identified overLimit
    rcases enforces before request clock after identity split identified overLimit with ⟨-, counted⟩
    have unmoved := (Gateway.step_moves crates (gateway.run crates before)
      (.arrive request clock)).frame.budgetRejections
    rw [MetricsHandle.budgetRejectionsOf, unmoved, ← MetricsHandle.budgetRejectionsOf] at counted
    exact absurd counted (by simp)
  · intro never before request clock after identity split here identified overLimit
    exact absurd overLimit (never before request clock after identity split identified)

open Sample in
/-- A key with a budget of 100 tokens uses 150; its next request is forwarded. -/
theorem spent_budget_not_enforced :
    ¬ EnforcesBudget Sample.crates (.start { app with budget := budgetOf100 }) servedTwice := by
  intro enforces
  rcases enforces (servedTwice.take 3) request ⟨0, 1010⟩ []
      { name := "dev", enforcePrivate := true } rfl (by rfl)
      ⟨.total, 100, by decide +kernel, by decide +kernel⟩ with
    ⟨⟨exchange, response, found, -, -, noCalls⟩, -⟩
  have called : ((Gateway.start { app with budget := budgetOf100 }).run Sample.crates
      servedTwice).exchanges[1]?.map Exchange.calls = some [localCall] := by rfl
  change (Gateway.run _ _ _).exchanges[1]? = _ at found
  rw [found, Option.map_some, noCalls] at called
  cases called

/-! ## Tokens per minute -/

namespace RateLimitStore

/-- The tokens of `key` in its current window are above its maximum. -/
def OverTpm (store : RateLimitStore γ) (key : String) (secs : UInt64) : Prop :=
  ∃ maxTpm, (store.limitFor key).maxTpm = some maxTpm ∧ maxTpm < (store.currentTpm key secs).1

/-- The governor of `key` does not allow one more request. -/
def RequestsExhausted (governor : Governor γ) (store : RateLimitStore γ) (key : String)
    (now : Nat) : Prop :=
  ∃ rpm limiter, (store.limitFor key).maxRpm = some rpm ∧
    store.rpmLimiters.lookup key = some limiter ∧
    (governor.checkKey limiter key now).1 = false

theorem requestsExhausted_iff_check (governor : Governor γ) (store : RateLimitStore γ)
    (key : String) (now : Nat) :
    RequestsExhausted governor store key now ↔
      ∃ exceeded, (store.checkRpm governor key now).1 = .error exceeded := by
  unfold RequestsExhausted checkRpm
  cases (store.limitFor key).maxRpm with
  | none => simp
  | some rpm =>
      cases store.rpmLimiters.lookup key with
      | none => simp
      | some limiter => cases allowed : (governor.checkKey limiter key now).1 <;> simp [allowed]

end RateLimitStore

/-- Over a timed run, each request of a key that is above its tokens per minute when it
arrives is rejected with 429 and without a call. -/
def EnforcesTpm (gateway : Gateway σ γ) (events : List (Event σ)) : Prop :=
  ∀ before request clock after identity, events = before ++ .arrive request clock :: after →
    let here := gateway.run crates before
    here.app.Identified crates request identity →
      here.app.limits.OverTpm identity.name clock.secs →
        (gateway.run crates events).Rejected here.exchanges.length (· = .tooManyRequests)

/-- A request is rejected with 429 exactly when its governor refuses it. -/
theorem rejected_tooManyRequests_iff {gateway : Gateway σ γ} {before after : List (Event σ)}
    {request : ClientRequest} {clock : Clock} {identity : KeyIdentity}
    (identified : (gateway.run crates before).app.Identified crates request identity) :
    (gateway.run crates (before ++ .arrive request clock :: after)).Rejected
        (gateway.run crates before).exchanges.length (· = .tooManyRequests) ↔
      RateLimitStore.RequestsExhausted crates.governor (gateway.run crates before).app.limits
        identity.name clock.nanos := by
  rcases Gateway.run_arrival crates gateway before request clock after with ⟨final, found, course⟩
  have spec := AppState.admission_spec crates (gateway.run crates before).app request clock
  rw [AppState.chatCompletions] at course
  generalize AppState.admission crates _ request clock = admission at spec course
  rw [RateLimitStore.requestsExhausted_iff_check]
  unfold Gateway.Rejected
  simp only [found, Option.some.injEq]
  unfold AppState.Identified at identified
  have notRefused : ∀ {response : Response},
      Relation.ReflTransGen Exchange.Evolves (.refused request response) final →
        response.status ≠ .tooManyRequests →
          ¬ ∃ exchange response, final = exchange ∧ exchange.phase = .answered response ∧
            response.status = .tooManyRequests ∧ exchange.calls = [] := by
    rintro response course different ⟨_, other, rfl, answered, status, -⟩
    rw [(Exchange.answered_stays rfl course).1] at answered
    cases answered
    exact different status
  cases spec with
  | unauthorized unknown =>
      rw [identified] at unknown
      cases unknown
  | limited known refused =>
      rw [identified] at known
      cases known
      have answered := Exchange.answered_stays rfl course
      exact iff_of_true ⟨final, _, rfl, answered.1, rfl, answered.2⟩ ⟨_, refused⟩
  | noModel known allowed absent =>
      rw [identified] at known
      cases known
      have different : StatusCode.badRequest ≠ .tooManyRequests := by decide
      exact iff_of_false (notRefused course different) (by simp [allowed])
  | unroutable known allowed present unroutable =>
      rw [identified] at known
      cases known
      have different : StatusCode.badGateway ≠ .tooManyRequests := by decide
      exact iff_of_false (notRefused course different) (by simp [allowed])
  | admitted known allowed present routed =>
      rw [identified] at known
      cases known
      apply iff_of_false _ (by simp [allowed])
      rintro ⟨_, response, rfl, -, -, noCalls⟩
      have called := Exchange.calls_prefix course
      rw [noCalls] at called
      exact absurd (List.prefix_nil.mp called) (by simp [Exchange.start])

/-- **Tokens per minute are not enforced.**  A run keeps to the rule exactly when every
request that arrives over the token limit happens to be over the request limit, too. -/
theorem enforcesTpm_iff_requests_exhausted (gateway : Gateway σ γ)
    (events : List (Event σ)) :
    EnforcesTpm crates gateway events ↔
      ∀ before request clock after identity,
        events = before ++ .arrive request clock :: after →
          (gateway.run crates before).app.Identified crates request identity →
            (gateway.run crates before).app.limits.OverTpm identity.name clock.secs →
              RateLimitStore.RequestsExhausted crates.governor
                (gateway.run crates before).app.limits identity.name clock.nanos := by
  constructor
  · intro enforces before request clock after identity split identified overLimit
    have rejected := enforces before request clock after identity split identified overLimit
    rw [split] at rejected
    exact (rejected_tooManyRequests_iff crates identified).mp rejected
  · intro exhausted before request clock after identity split here identified overLimit
    rw [split]
    exact (rejected_tooManyRequests_iff crates identified).mpr
      (exhausted before request clock after identity split identified overLimit)

open Sample in
/-- A key with 100 tokens per minute uses 150; ten seconds later its next request is
forwarded. -/
theorem spent_minute_not_enforced :
    ¬ EnforcesTpm Sample.crates (.start { app with limits := tpmOf100 }) servedTwice := by
  intro enforces
  rcases enforces (servedTwice.take 3) request ⟨0, 1010⟩ []
      { name := "dev", enforcePrivate := true } rfl (by rfl)
      ⟨100, by decide +kernel, by decide +kernel⟩ with
    ⟨exchange, response, found, -, -, noCalls⟩
  have called : ((Gateway.start { app with limits := tpmOf100 }).run Sample.crates
      servedTwice).exchanges[1]?.map Exchange.calls = some [localCall] := by rfl
  change (Gateway.run _ _ _).exchanges[1]? = _ at found
  rw [found, Option.map_some, noCalls] at called
  cases called

end Patchbay
