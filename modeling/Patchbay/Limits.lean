import Mathlib.Order.Basic
import Patchbay.Lib.Table

/-!
# Per-key rate limits

Requests per minute are limited by one governor for each configured key, tokens
per minute are counted over 60-second windows.  The governor is a library, here
any state machine over its calls and the readings of its own clock.
-/

namespace Patchbay

/-- Configuration for one key's rate limits; `none` means unlimited. -/
structure RateLimit where
  maxRpm : Option UInt32
  maxTpm : Option UInt64
  deriving DecidableEq, Repr

def RateLimit.unlimited : RateLimit := ⟨none, none⟩

/-- Reason a rate-limit check was rejected. -/
inductive LimitExceeded where
  | rpm (limit : UInt32)
  | tpm (used limit : UInt64)
  deriving DecidableEq, Repr

namespace LimitExceeded

def message : LimitExceeded → String
  | .rpm limit => "rate limit exceeded (" ++ toString limit ++ " rpm)"
  | .tpm used limit =>
      "token rate limit exceeded (" ++ toString used ++ "/" ++ toString limit ++ " tpm)"

end LimitExceeded

/-- A keyed request limiter.  Its clock counts nanoseconds. -/
structure Governor (γ : Type) where
  /-- A fresh limiter with the given requests per minute. -/
  keyed : UInt32 → γ
  /-- Ask for one more request now. -/
  checkKey : γ → String → Nat → Bool × γ

/-- `u64::saturating_sub` -/
def saturatingSub (minuend subtrahend : UInt64) : UInt64 :=
  if minuend ≤ subtrahend then 0 else minuend - subtrahend

theorem toNat_saturatingSub (minuend subtrahend : UInt64) :
    (saturatingSub minuend subtrahend).toNat = minuend.toNat - subtrahend.toNat := by
  rw [saturatingSub]
  split
  · next notMore =>
      have notMore : minuend.toNat ≤ subtrahend.toNat := notMore
      rw [Nat.sub_eq_zero_of_le notMore]
      rfl
  · next more =>
      exact UInt64.toNat_sub_of_le _ _ (UInt64.le_of_lt (UInt64.not_le.mp more))

/-- Tokens since the start of the current window. -/
structure TpmCounter where
  windowStart : UInt64
  tokens : UInt64
  deriving DecidableEq, Repr

namespace TpmCounter

def default : TpmCounter := ⟨0, 0⟩

/-- Has the window elapsed? -/
def elapsed (counter : TpmCounter) (nowSecs : UInt64) : Bool :=
  60 ≤ saturatingSub nowSecs counter.windowStart

/-- The subtraction may saturate: then the window has not elapsed either. -/
theorem elapsed_iff (counter : TpmCounter) (nowSecs : UInt64) :
    counter.elapsed nowSecs = true ↔ counter.windowStart.toNat + 60 ≤ nowSecs.toNat := by
  rw [elapsed, decide_eq_true_iff, UInt64.le_iff_toNat_le, toNat_saturatingSub]
  have sixty : (60 : UInt64).toNat = 60 := rfl
  omega

/-- Add tokens to the current window, or start a new one.  Returns the total of
the window. -/
def add (counter : TpmCounter) (tokens nowSecs : UInt64) : UInt64 × TpmCounter :=
  if counter.elapsed nowSecs then (tokens, { windowStart := nowSecs, tokens })
  else (counter.tokens + tokens, { counter with tokens := counter.tokens + tokens })

def current (counter : TpmCounter) (nowSecs : UInt64) : UInt64 :=
  if counter.elapsed nowSecs then 0 else counter.tokens

end TpmCounter

/-- All per-key limiters. -/
structure RateLimitStore (γ : Type) where
  limits : Table String RateLimit
  /-- One governor for each key with a request limit. -/
  rpmLimiters : Table String γ
  tpmCounters : Table String TpmCounter

namespace RateLimitStore

variable {γ : Type} (governor : Governor γ)

/-- A request limit of zero gets no governor. -/
def new (limits : Table String RateLimit) : RateLimitStore γ where
  limits
  rpmLimiters := Table.filterMap limits fun limit =>
    limit.maxRpm.bind fun rpm => if rpm = 0 then none else some (governor.keyed rpm)
  tpmCounters := ∅

def limitFor (store : RateLimitStore γ) (key : String) : RateLimit :=
  (store.limits.lookup key).getD .unlimited

/-- Is `key` allowed to make one more request? -/
def checkRpm (store : RateLimitStore γ) (key : String) (now : Nat) :
    Except LimitExceeded Unit × RateLimitStore γ :=
  match (store.limitFor key).maxRpm with
  | none => (.ok (), store)
  | some rpm =>
      match store.rpmLimiters.lookup key with
      | none => (.ok (), store)
      | some limiter =>
          let (allowed, limiter) := governor.checkKey limiter key now
          (if allowed then .ok () else .error (.rpm rpm),
            { store with rpmLimiters := store.rpmLimiters.insert key limiter })

/-- The counter of `key`, as `tpm_counter` finds or creates it. -/
def tpmCounter (store : RateLimitStore γ) (key : String) : TpmCounter :=
  (store.tpmCounters.lookup key).getD .default

/-- Count the tokens of a response.  The total is checked after it was counted. -/
def recordTpm (store : RateLimitStore γ) (key : String) (tokens nowSecs : UInt64) :
    Except LimitExceeded UInt64 × RateLimitStore γ :=
  let (newTotal, counter) := (store.tpmCounter key).add tokens nowSecs
  (match (store.limitFor key).maxTpm with
    | none => .ok newTotal
    | some maxTpm =>
        if maxTpm < newTotal then .error (.tpm newTotal maxTpm) else .ok newTotal,
    { store with tpmCounters := store.tpmCounters.insert key counter })

/-- Tokens of `key` in the active window; creates the counter if need be. -/
def currentTpm (store : RateLimitStore γ) (key : String) (nowSecs : UInt64) :
    UInt64 × RateLimitStore γ :=
  ((store.tpmCounter key).current nowSecs,
    { store with tpmCounters := store.tpmCounters.insert key (store.tpmCounter key) })

/-! ## Small facts -/

@[simp] theorem checkRpm_limits (store : RateLimitStore γ) (key : String) (now : Nat) :
    (store.checkRpm governor key now).2.limits = store.limits := by
  simp only [checkRpm]
  split
  · rfl
  · split <;> rfl

@[simp] theorem checkRpm_tpmCounters (store : RateLimitStore γ) (key : String) (now : Nat) :
    (store.checkRpm governor key now).2.tpmCounters = store.tpmCounters := by
  simp only [checkRpm]
  split
  · rfl
  · split <;> rfl

@[simp] theorem recordTpm_limits (store : RateLimitStore γ) (key : String)
    (tokens nowSecs : UInt64) :
    (store.recordTpm key tokens nowSecs).2.limits = store.limits := rfl

theorem tpmCounter_recordTpm_self (store : RateLimitStore γ) (key : String)
    (tokens nowSecs : UInt64) :
    (store.recordTpm key tokens nowSecs).2.tpmCounter key =
      ((store.tpmCounter key).add tokens nowSecs).2 := by
  simp [recordTpm, tpmCounter]

theorem tpmCounter_recordTpm_of_ne (store : RateLimitStore γ) {key caller : String}
    (different : key ≠ caller) (tokens nowSecs : UInt64) :
    (store.recordTpm caller tokens nowSecs).2.tpmCounter key = store.tpmCounter key := by
  simp [recordTpm, tpmCounter, Finmap.lookup_insert_of_ne _ different]

/-- A call leaves the other keys' governors alone. -/
theorem checkRpm_others {governor : Governor γ} {store : RateLimitStore γ} {key caller : String}
    (different : key ≠ caller) (now : Nat) :
    (store.checkRpm governor caller now).2.rpmLimiters.lookup key =
      store.rpmLimiters.lookup key := by
  simp only [checkRpm]
  split
  · rfl
  · split
    · rfl
    · exact Finmap.lookup_insert_of_ne _ different

end RateLimitStore

end Patchbay
