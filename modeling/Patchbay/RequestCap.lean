import Mathlib.Algebra.Order.Field.Rat
import Mathlib.Tactic.FieldSimp
import Mathlib.Tactic.NormNum
import Patchbay.Lib.Gcra
import Patchbay.Limits

/-!
# Requests per minute

A governor admits a burst of a minute's requests and replenishes them meanwhile, so that
one minute can see almost twice as many.  A limit of zero gets no governor and is no limit.
-/

namespace Patchbay

namespace Governor

variable {γ : Type} (governor : Governor γ)

/-- The times at which a limiter allows a request of one key. -/
def allowed (limiter : γ) (key : String) : List Nat → List Nat
  | [] => []
  | now :: times =>
      let (conforms, limiter) := governor.checkKey limiter key now
      if conforms then now :: allowed limiter key times else allowed limiter key times

/-- `Quota::per_minute`: a burst of a minute's requests, replenished evenly. -/
def perMinute (rpm : UInt32) : Gcra ℚ where
  burst := rpm.toNat
  period := 60 * 10 ^ 9 / rpm.toNat

@[simp] theorem perMinute_burst (rpm : UInt32) : (perMinute rpm).burst = rpm.toNat := rfl

/-- What the gateway relies on: a keyed limiter with this quota answers each key by the
generic cell rate algorithm. -/
def IsGcra (rpm : UInt32) : Prop :=
  ∀ (key : String) (times : List Nat), rpm ≠ 0 →
    (governor.allowed (governor.keyed rpm) key times).map (Nat.cast : Nat → ℚ) =
      (perMinute rpm).admitted none (times.map Nat.cast)

/-- A limiter that keeps the due time of each key. -/
def gcra : Governor (Gcra ℚ × Table String ℚ) where
  keyed rpm := (perMinute rpm, ∅)
  checkKey limiter key now :=
    match limiter.1.conform (limiter.2.lookup key) now with
    | some due => (true, limiter.1, limiter.2.insert key due)
    | none => (false, limiter)

theorem gcra_checkKey_some {quota : Gcra ℚ} {table : Table String ℚ} {key : String}
    {now : Nat} {due : ℚ} (conforms : quota.conform (table.lookup key) now = some due) :
    gcra.checkKey (quota, table) key now = (true, quota, table.insert key due) := by
  simp only [gcra, conforms]

theorem gcra_checkKey_none {quota : Gcra ℚ} {table : Table String ℚ} {key : String}
    {now : Nat} (early : quota.conform (table.lookup key) now = none) :
    gcra.checkKey (quota, table) key now = (false, quota, table) := by
  simp only [gcra, early]

theorem gcra_isGcra (rpm : UInt32) : gcra.IsGcra rpm := by
  intro key times _
  suffices matching : ∀ table : Table String ℚ,
      (gcra.allowed (perMinute rpm, table) key times).map (Nat.cast : Nat → ℚ) =
        (perMinute rpm).admitted (table.lookup key) (times.map Nat.cast) from
    matching ∅
  induction times with
  | nil =>
      intro table
      rfl
  | cons now times ih =>
      intro table
      rw [allowed, List.map_cons, Gcra.admitted]
      cases conforms : (perMinute rpm).conform (table.lookup key) now with
      | none =>
          simp only [gcra_checkKey_none conforms, Bool.false_eq_true, if_false]
          exact ih table
      | some due =>
          have rest := ih (table.insert key due)
          rw [Finmap.lookup_insert] at rest
          simp only [gcra_checkKey_some conforms, if_true, List.map_cons, rest]

end Governor

namespace RateLimitStore

variable {γ : Type} (governor : Governor γ)

/-- The times at which requests of `key` are allowed, in a sequence of calls of `checkRpm`
with their keys and times. -/
def allowed (store : RateLimitStore γ) (key : String) : List (String × Nat) → List Nat
  | [] => []
  | (caller, now) :: calls =>
      let checked := store.checkRpm governor caller now
      if caller = key ∧ checked.1 = .ok () then now :: allowed checked.2 key calls
      else allowed checked.2 key calls

/-- In every minute at most `rpm` requests of `key` are allowed, whichever calls are made. -/
def KeepsCap (limits : Table String RateLimit) (key : String) (rpm : UInt32) : Prop :=
  ∀ calls : List (String × Nat), calls.Pairwise (fun earlier later => earlier.2 ≤ later.2) →
    ∀ start, (((new governor limits).allowed governor key calls).countP fun time =>
      start ≤ time ∧ time < start + 60 * 10 ^ 9) ≤ rpm.toNat

variable {governor} {store : RateLimitStore γ} {key : String} {rpm : UInt32}

/-! ## One key's calls -/

theorem checkRpm_limited {limiter : γ} (limited : (store.limitFor key).maxRpm = some rpm)
    (found : store.rpmLimiters.lookup key = some limiter) (now : Nat) :
    store.checkRpm governor key now =
      (if (governor.checkKey limiter key now).1 then .ok () else .error (.rpm rpm),
        { store with rpmLimiters :=
            store.rpmLimiters.insert key (governor.checkKey limiter key now).2 }) := by
  simp only [checkRpm, limited, found]

/-- A key without a governor is not limited. -/
theorem checkRpm_ungoverned (absent : store.rpmLimiters.lookup key = none) (now : Nat) :
    store.checkRpm governor key now = (.ok (), store) := by
  simp only [checkRpm, absent]
  split <;> rfl

/-- The times of one key's calls. -/
def callsOf (key : String) (calls : List (String × Nat)) : List Nat :=
  (calls.filter fun call => call.1 = key).map Prod.snd

theorem callsOf_cons_self (now : Nat) (calls : List (String × Nat)) :
    callsOf key ((key, now) :: calls) = now :: callsOf key calls := by
  simp [callsOf]

theorem callsOf_cons_of_ne {caller : String} (different : caller ≠ key) (now : Nat)
    (calls : List (String × Nat)) :
    callsOf key ((caller, now) :: calls) = callsOf key calls := by
  simp [callsOf, different]

/-- What is allowed is up to the key's own governor. -/
theorem allowed_limited {limiter : γ} (limited : (store.limitFor key).maxRpm = some rpm)
    (found : store.rpmLimiters.lookup key = some limiter) (calls : List (String × Nat)) :
    store.allowed governor key calls = governor.allowed limiter key (callsOf key calls) := by
  induction calls generalizing store limiter with
  | nil => rfl
  | cons call calls ih =>
      rcases call with ⟨caller, now⟩
      by_cases own : caller = key
      · subst own
        have rest : ((store.checkRpm governor caller now).2).allowed governor caller calls =
            governor.allowed (governor.checkKey limiter caller now).2 caller
              (callsOf caller calls) := by
          apply ih
          · rwa [limitFor, checkRpm_limits]
          · rw [checkRpm_limited limited found]
            exact Finmap.lookup_insert _
        rw [allowed, rest, checkRpm_limited limited found, callsOf_cons_self,
          Governor.allowed]
        rcases governor.checkKey limiter caller now with ⟨conforms, next⟩
        cases conforms with
        | true => simp
        | false => simp
      · have rest : ((store.checkRpm governor caller now).2).allowed governor key calls =
            governor.allowed limiter key (callsOf key calls) := by
          apply ih
          · rwa [limitFor, checkRpm_limits]
          · rwa [checkRpm_others (Ne.symm own)]
        rw [allowed, rest, if_neg (fun both => own both.1), callsOf_cons_of_ne own]

variable {limits : Table String RateLimit} {limit : RateLimit}

theorem limitFor_new (configured : limits.lookup key = some limit) :
    (new governor limits).limitFor key = limit := by
  rw [limitFor, new, configured, Option.getD_some]

/-- Exactly the keys with a positive limit get a governor. -/
theorem rpmLimiters_new (configured : limits.lookup key = some limit)
    (limited : limit.maxRpm = some rpm) :
    (new governor limits).rpmLimiters.lookup key =
      if rpm = 0 then none else some (governor.keyed rpm) := by
  rw [new, Table.lookup_filterMap, configured, Option.bind_some, limited, Option.bind_some]

/-- The governor's answers over a whole sequence of calls. -/
theorem allowed_new (isGcra : governor.IsGcra rpm) (configured : limits.lookup key = some limit)
    (limited : limit.maxRpm = some rpm) (positive : rpm ≠ 0) (calls : List (String × Nat)) :
    ((new governor limits).allowed governor key calls).map (Nat.cast : Nat → ℚ) =
      (Governor.perMinute rpm).admitted none ((callsOf key calls).map Nat.cast) := by
  have ownLimit : ((new governor limits).limitFor key).maxRpm = some rpm := by
    rw [limitFor_new configured, limited]
  have ownGovernor : (new governor limits).rpmLimiters.lookup key =
      some (governor.keyed rpm) := by
    rw [rpmLimiters_new configured limited, if_neg positive]
  rw [allowed_limited ownLimit ownGovernor, isGcra key _ positive]

/-! ## Any minute -/

theorem perMinute_period_pos (positive : rpm ≠ 0) : 0 < (Governor.perMinute rpm).period := by
  have cells : 0 < rpm.toNat := Nat.pos_of_ne_zero fun zero => positive (UInt32.toNat_inj.mp zero)
  have cellsCast : (0 : ℚ) < rpm.toNat := by exact_mod_cast cells
  exact div_pos (by norm_num) cellsCast

/-- The burst takes a minute to be replenished. -/
theorem burst_mul_period (positive : rpm ≠ 0) :
    (rpm.toNat : ℚ) * (Governor.perMinute rpm).period = 60 * 10 ^ 9 := by
  have cells : (rpm.toNat : ℚ) ≠ 0 := by
    intro zero
    exact positive (UInt32.toNat_inj.mp (by exact_mod_cast zero))
  rw [Governor.perMinute, mul_div_cancel₀ _ cells]

/-- A minute sees fewer than twice the configured requests. -/
theorem allowed_minute_lt (isGcra : governor.IsGcra rpm)
    (configured : limits.lookup key = some limit) (limited : limit.maxRpm = some rpm)
    (positive : rpm ≠ 0) (calls : List (String × Nat)) (start : Nat) :
    (((new governor limits).allowed governor key calls).countP fun time =>
      start ≤ time ∧ time < start + 60 * 10 ^ 9) < 2 * rpm.toNat := by
  have cells : 0 < rpm.toNat := Nat.pos_of_ne_zero fun zero => positive (UInt32.toNat_inj.mp zero)
  have bound := Gcra.admitted_window (perMinute_period_pos positive) cells
    (by norm_num : (0 : ℚ) < 60 * 10 ^ 9) none start ((callsOf key calls).map Nat.cast)
  have same : (((callsOf key calls).map Nat.cast |> (Governor.perMinute rpm).admitted none).countP
      fun time : ℚ => start ≤ time ∧ time < start + 60 * 10 ^ 9) =
        ((new governor limits).allowed governor key calls).countP fun time =>
          start ≤ time ∧ time < start + 60 * 10 ^ 9 := by
    rw [← allowed_new isGcra configured limited positive calls, List.countP_map]
    apply List.countP_congr
    intro time _
    simp only [Function.comp_apply, decide_eq_true_eq]
    norm_cast
  rw [same] at bound
  have twice : ((2 * rpm.toNat : Nat) : ℚ) * (Governor.perMinute rpm).period =
      60 * 10 ^ 9 + rpm.toNat * (Governor.perMinute rpm).period := by
    rw [Nat.cast_mul, Nat.cast_ofNat, two_mul, add_mul, burst_mul_period positive]
  rw [Governor.perMinute_burst, ← twice] at bound
  exact_mod_cast lt_of_mul_lt_mul_right bound (perMinute_period_pos positive).le

/-- Two requests a minute or more: the burst, and half a minute later one more. -/
def burstAndOneMore (key : String) (rpm : UInt32) : List (String × Nat) :=
  List.replicate rpm.toNat (key, 0) ++ [(key, 30 * 10 ^ 9)]

theorem allowed_burstAndOneMore (isGcra : governor.IsGcra rpm)
    (configured : limits.lookup key = some limit) (limited : limit.maxRpm = some rpm)
    (several : 2 ≤ rpm.toNat) :
    (new governor limits).allowed governor key (burstAndOneMore key rpm) =
      List.replicate rpm.toNat 0 ++ [30 * 10 ^ 9] := by
  have positive : rpm ≠ 0 := by
    intro zero
    rw [zero] at several
    cases several
  have times : (callsOf key (burstAndOneMore key rpm)).map (Nat.cast : Nat → ℚ) =
      List.replicate rpm.toNat 0 ++ [30 * 10 ^ 9] := by
    norm_num [callsOf, burstAndOneMore]
  have replenished := perMinute_period_pos positive
  -- after the burst the next cell is due in a minute, and may come a period less early
  have late : (Governor.perMinute rpm).admitted
      (some (0 + (rpm.toNat : Nat) * (Governor.perMinute rpm).period)) [30 * 10 ^ 9] =
        [30 * 10 ^ 9] := by
    have severalCast : (2 : ℚ) ≤ rpm.toNat := by exact_mod_cast several
    have minute := burst_mul_period positive
    have half := mul_le_mul_of_nonneg_right severalCast replenished.le
    have early : 0 + (rpm.toNat : ℚ) * (Governor.perMinute rpm).period ≤
        30 * 10 ^ 9 + (rpm.toNat - 1) * (Governor.perMinute rpm).period := by
      linarith
    rw [Gcra.admitted, Gcra.conform, Option.getD_some, Governor.perMinute_burst, if_pos early]
    rfl
  have all : ((new governor limits).allowed governor key (burstAndOneMore key rpm)).map
      (Nat.cast : Nat → ℚ) = (List.replicate rpm.toNat 0 ++ [30 * 10 ^ 9]).map Nat.cast := by
    have burst : 0 < (Governor.perMinute rpm).burst := Nat.zero_lt_of_lt several
    have spent := Gcra.admitted_fresh_burst burst replenished 0 [30 * 10 ^ 9]
    rw [Governor.perMinute_burst, late] at spent
    rw [allowed_new isGcra configured limited positive, times, spent]
    norm_num
  exact List.map_injective_iff.mpr Nat.cast_injective all

/-- **Requests per minute.**  The cap of a key holds in every minute, whichever calls are
made, exactly when it is one request a minute. -/
theorem keepsCap_iff (isGcra : governor.IsGcra rpm)
    (configured : limits.lookup key = some limit) (limited : limit.maxRpm = some rpm) :
    KeepsCap governor limits key rpm ↔ rpm = 1 := by
  constructor
  · intro keeps
    by_contra different
    by_cases zero : rpm = 0
    · have ungoverned : (new governor limits).rpmLimiters.lookup key = none := by
        rw [rpmLimiters_new configured limited, if_pos zero]
      have once := keeps [(key, 0)] (List.pairwise_singleton _ _) 0
      rw [allowed, checkRpm_ungoverned ungoverned, zero] at once
      simp [allowed] at once
    · have several : 2 ≤ rpm.toNat := by
        have notZero : rpm.toNat ≠ 0 := fun same => zero (UInt32.toNat_inj.mp same)
        have notOne : rpm.toNat ≠ 1 := fun same => different (UInt32.toNat_inj.mp same)
        omega
      have sorted : (burstAndOneMore key rpm).Pairwise
          fun earlier later => earlier.2 ≤ later.2 := by
        rw [burstAndOneMore, List.pairwise_append]
        constructor
        · exact List.pairwise_replicate_of_refl
        · simp
      have within := keeps (burstAndOneMore key rpm) sorted 0
      rw [allowed_burstAndOneMore isGcra configured limited several] at within
      simp [List.countP_append, List.countP_replicate] at within
  · intro one calls _ start
    have positive : rpm ≠ 0 := by
      rw [one]
      decide
    have few := allowed_minute_lt isGcra configured limited positive calls start
    rw [one] at few ⊢
    exact Nat.le_of_lt_succ few

/-- One key with a request limit. -/
def onlyKey (rpm : UInt32) : Table String RateLimit := Finmap.singleton "dev" ⟨some rpm, none⟩

theorem keepsCap_one : KeepsCap Governor.gcra (onlyKey 1) "dev" 1 :=
  (keepsCap_iff (Governor.gcra_isGcra 1) Finmap.lookup_singleton_eq rfl).mpr rfl

/-- With two requests a minute, three are allowed within half a minute. -/
theorem two_allows_three : ¬ KeepsCap Governor.gcra (onlyKey 2) "dev" 2 := by
  intro keeps
  have few := keeps [("dev", 0), ("dev", 0), ("dev", 30000000000)] (by decide) 0
  have three : (new Governor.gcra (onlyKey 2)).allowed Governor.gcra "dev"
      [("dev", 0), ("dev", 0), ("dev", 30000000000)] = [0, 0, 30000000000] := by
    decide +kernel
  rw [three] at few
  revert few
  decide

end RateLimitStore

end Patchbay
