import Patchbay.Budget
import Patchbay.Lib.Projection
import Patchbay.RequestCap

/-!
# Keys are isolated

The limits and the budget of a key depend on the operations of that key alone.  A key
has an account: its configured limits, its governor and its counters.  Operations of the
key run on the account as if there were no other key, and operations of other keys leave
it alone.
-/

namespace Patchbay

/-- An operation on one key, with the clock readings that it takes. -/
inductive KeyOp where
  | checkRpm (nanos : Nat)
  | recordTpm (tokens secs : UInt64)
  | currentTpm (secs : UInt64)
  | check (proposed : Usage)
  | record (usage : Usage)
  | usageFor
  deriving DecidableEq, Repr

/-- What an operation returns. -/
inductive KeyResult where
  | checkRpm (result : Except LimitExceeded Unit)
  | recordTpm (result : Except LimitExceeded UInt64)
  | currentTpm (tokens : UInt64)
  | check (result : Except BudgetExceeded Unit)
  | record
  | usageFor (counters : Option KeyCounters)

structure KeyCall where
  key : String
  op : KeyOp
  deriving DecidableEq, Repr

/-- The rate limits and the budgets of all keys. -/
structure KeyStores (γ : Type) where
  limits : RateLimitStore γ
  ledger : BudgetLedger

namespace KeyStores

variable {γ : Type} (governor : Governor γ)

def call (stores : KeyStores γ) (call : KeyCall) : KeyResult × KeyStores γ :=
  match call.op with
  | .checkRpm nanos =>
      let (result, limits) := stores.limits.checkRpm governor call.key nanos
      (.checkRpm result, { stores with limits })
  | .recordTpm tokens secs =>
      let (result, limits) := stores.limits.recordTpm call.key tokens secs
      (.recordTpm result, { stores with limits })
  | .currentTpm secs =>
      let (tokens, limits) := stores.limits.currentTpm call.key secs
      (.currentTpm tokens, { stores with limits })
  | .check proposed =>
      let (result, ledger) := stores.ledger.check call.key proposed
      (.check result, { stores with ledger })
  | .record usage => (.record, { stores with ledger := stores.ledger.record call.key usage })
  | .usageFor => (.usageFor (stores.ledger.usageFor call.key), stores)

end KeyStores

/-! ## The account of one key -/

/-- What one key has in the stores. -/
structure KeyAccount (γ : Type) where
  rateLimit : RateLimit
  limiter : Option γ
  tpmCounter : Option TpmCounter
  budgetLimit : BudgetLimit
  counters : Option KeyCounters

namespace KeyAccount

variable {γ : Type} (governor : Governor γ)

/-- Ask the governor, if there is one. -/
def checkRpm (key : String) (account : KeyAccount γ) (nanos : Nat) :
    Except LimitExceeded Unit × KeyAccount γ :=
  match account.rateLimit.maxRpm, account.limiter with
  | some rpm, some limiter =>
      let (allowed, limiter) := governor.checkKey limiter key nanos
      (if allowed then .ok () else .error (.rpm rpm),
        { account with limiter := some limiter })
  | _, _ => (.ok (), account)

/-- Count tokens, then compare the total with the maximum. -/
def recordTpm (account : KeyAccount γ) (tokens secs : UInt64) :
    Except LimitExceeded UInt64 × KeyAccount γ :=
  let (newTotal, counter) := (account.tpmCounter.getD .default).add tokens secs
  (match account.rateLimit.maxTpm with
    | none => .ok newTotal
    | some maxTpm =>
        if maxTpm < newTotal then .error (.tpm newTotal maxTpm) else .ok newTotal,
    { account with tpmCounter := some counter })

/-- An operation of the key, as if there were no other key. -/
def call (key : String) (account : KeyAccount γ) : KeyOp → KeyResult × KeyAccount γ
  | .checkRpm nanos =>
      let (result, account) := account.checkRpm governor key nanos
      (.checkRpm result, account)
  | .recordTpm tokens secs =>
      let (result, account) := account.recordTpm tokens secs
      (.recordTpm result, account)
  | .currentTpm secs =>
      let counter := account.tpmCounter.getD .default
      (.currentTpm (counter.current secs), { account with tpmCounter := some counter })
  | .check proposed =>
      let counters := account.counters.getD .default
      (.check (match counters.wouldExceed account.budgetLimit proposed with
        | some exceeded => .error exceeded
        | none => .ok ()),
        { account with counters := some counters })
  | .record usage =>
      (.record, { account with
        counters := some ((account.counters.getD .default).addUsage usage) })
  | .usageFor => (.usageFor account.counters, account)

end KeyAccount

namespace KeyStores

variable {γ : Type}

def account (stores : KeyStores γ) (key : String) : KeyAccount γ where
  rateLimit := stores.limits.limitFor key
  limiter := stores.limits.rpmLimiters.lookup key
  tpmCounter := stores.limits.tpmCounters.lookup key
  budgetLimit := stores.ledger.limitFor key
  counters := stores.ledger.counters.lookup key

variable (governor : Governor γ)

/-- The operations of other keys leave an account alone. -/
theorem account_call_of_ne (stores : KeyStores γ) {key : String} {call : KeyCall}
    (other : call.key ≠ key) : (stores.call governor call).2.account key = stores.account key := by
  rcases call with ⟨caller, op⟩
  have different : key ≠ caller := Ne.symm other
  cases op with
  | checkRpm nanos =>
      simp only [KeyStores.call, account, RateLimitStore.limitFor,
        RateLimitStore.checkRpm_limits, RateLimitStore.checkRpm_tpmCounters,
        RateLimitStore.checkRpm_others different]
  | recordTpm tokens secs =>
      simp only [KeyStores.call, account, RateLimitStore.limitFor, RateLimitStore.recordTpm,
        Finmap.lookup_insert_of_ne _ different]
  | currentTpm secs =>
      simp only [KeyStores.call, account, RateLimitStore.limitFor, RateLimitStore.currentTpm,
        Finmap.lookup_insert_of_ne _ different]
  | check proposed =>
      simp only [KeyStores.call, account, BudgetLedger.limitFor, BudgetLedger.check,
        BudgetLedger.withEntry, Table.lookup_update_of_ne _ different]
  | record usage =>
      simp only [KeyStores.call, account, BudgetLedger.limitFor, BudgetLedger.record,
        Table.lookup_update_of_ne _ different]
  | usageFor => rfl

/-- An operation runs on the account of its key. -/
theorem call_account (stores : KeyStores γ) (key : String) (op : KeyOp) :
    (stores.call governor ⟨key, op⟩).1 = ((stores.account key).call governor key op).1 ∧
      (stores.call governor ⟨key, op⟩).2.account key =
        ((stores.account key).call governor key op).2 := by
  cases op with
  | checkRpm nanos =>
      simp only [KeyStores.call, KeyAccount.call, KeyAccount.checkRpm, account,
        RateLimitStore.checkRpm]
      cases limited : (stores.limits.limitFor key).maxRpm with
      | none => exact ⟨rfl, rfl⟩
      | some rpm =>
          cases found : stores.limits.rpmLimiters.lookup key with
          | none => simp [found]
          | some limiter =>
              constructor
              · rfl
              · simp [RateLimitStore.limitFor]
  | recordTpm tokens secs =>
      constructor
      · rfl
      · simp only [KeyStores.call, account, RateLimitStore.recordTpm, Finmap.lookup_insert]
        rfl
  | currentTpm secs =>
      constructor
      · rfl
      · simp only [KeyStores.call, account, RateLimitStore.currentTpm, Finmap.lookup_insert]
        rfl
  | check proposed =>
      constructor
      · rfl
      · simp only [KeyStores.call, account, BudgetLedger.check, BudgetLedger.withEntry,
          Table.lookup_update_self]
        rfl
  | record usage =>
      constructor
      · rfl
      · simp only [KeyStores.call, account, BudgetLedger.record, Table.lookup_update_self]
        rfl
  | usageFor => exact ⟨rfl, rfl⟩

/-- The calls of one key run on its account. -/
theorem projection (key : String) :
    Projection (call governor) (fun call => call.key == key) (account · key)
      (fun account call => account.call governor key call.op) where
  foreign stores call other := stores.account_call_of_ne governor (by simpa using other)
  answer stores call own := by
    rw [← beq_iff_eq.mp own]
    exact (stores.call_account governor call.key call.op).1
  next stores call own := by
    rw [← beq_iff_eq.mp own]
    exact (stores.call_account governor call.key call.op).2

/-- **Isolation.**  Two runs from the same limits and the same ledger answer the calls of
a key alike when the calls of this key are the same, whatever other keys do in between. -/
theorem answers_isolated (limits : Table String RateLimit) (ledger : BudgetLedger)
    (key : String) {left right : List KeyCall}
    (sameCalls : left.filter (fun call => call.key == key) =
      right.filter (fun call => call.key == key)) :
    (answers (call governor) ⟨.new governor limits, ledger⟩ left).filter
        (fun answered => answered.1.key == key) =
      (answers (call governor) ⟨.new governor limits, ledger⟩ right).filter
        (fun answered => answered.1.key == key) :=
  (projection governor key).answers_congr rfl sameCalls

/-- A key limited to two requests a minute asks three times, with and without another key
that uses up its own limit. -/
theorem answers_isolated_busy :
    let limits := Table.collect [("dev", ⟨some 2, some 100⟩), ("ops", ⟨some 1, none⟩)]
    let ledger : BudgetLedger := ⟨0, ∅, Finmap.singleton "dev" ⟨none, none, some 50⟩, none⟩
    (answers (call Governor.gcra) ⟨.new Governor.gcra limits, ledger⟩
        [⟨"dev", .checkRpm 0⟩, ⟨"ops", .checkRpm 0⟩, ⟨"dev", .checkRpm 0⟩,
          ⟨"ops", .record ⟨30, 30, 60⟩⟩, ⟨"ops", .checkRpm 5⟩, ⟨"dev", .checkRpm 7⟩,
          ⟨"dev", .check ⟨0, 0, 50⟩⟩]).filter (fun answered => answered.1.key == "dev") =
      (answers (call Governor.gcra) ⟨.new Governor.gcra limits, ledger⟩
        [⟨"dev", .checkRpm 0⟩, ⟨"dev", .checkRpm 0⟩, ⟨"dev", .checkRpm 7⟩,
          ⟨"ops", .recordTpm 9 3⟩, ⟨"dev", .check ⟨0, 0, 50⟩⟩]).filter
        (fun answered => answered.1.key == "dev") :=
  answers_isolated Governor.gcra _ _ "dev" (by decide)

end KeyStores

end Patchbay
