import Patchbay.KeyLog
import Patchbay.TpmRace
import Patchbay.TpmWindows

/-!
# Limits in runs

The rate limits of the keys, seen in a run of the gateway.  The governor of a key lets fewer
than two minutes' worth of its requests pass in any minute, however the requests of all
clients are interleaved.  The token counter of a key stands for the last window of the
reports that the run made for it, as long as no two of these reports overlap.
-/

namespace Patchbay

/-! ## Requests that pass -/

/-- The time of a check of a key. -/
def KeyCall.checkTime (key : String) (call : KeyCall) : Option Nat :=
  match call.op with
  | .checkRpm nanos => if call.key = key then some nanos else none
  | _ => none

/-- The time of a check of a key that did not fail. -/
def KeyCall.passTime (key : String) (answered : KeyCall × KeyResult) : Option Nat :=
  match answered.2.refusal with
  | some false => answered.1.checkTime key
  | _ => none

namespace KeyAccount

variable {γ : Type} {governor : Governor γ} {account : KeyAccount γ} {key : String}

theorem rateLimit_call (account : KeyAccount γ) (op : KeyOp) :
    (account.call governor key op).2.rateLimit = account.rateLimit := by
  cases op with
  | checkRpm nanos =>
      simp only [call, checkRpm]
      split <;> rfl
  | _ => rfl

theorem checkRpm_limited {rpm : UInt32} {limiter : γ}
    (limited : account.rateLimit.maxRpm = some rpm) (found : account.limiter = some limiter)
    (nanos : Nat) :
    account.checkRpm governor key nanos =
      (if (governor.checkKey limiter key nanos).1 then .ok () else .error (.rpm rpm),
        { account with limiter := some (governor.checkKey limiter key nanos).2 }) := by
  simp only [checkRpm, limited, found]

end KeyAccount

namespace KeyStores

variable {γ : Type} {governor : Governor γ} {stores : KeyStores γ} {key : String} {rpm : UInt32}
  {limiter : γ}

variable (governor) in
/-- The governor of a key decides which of its checks do not fail, whatever else is called. -/
theorem passTimes_eq (limited : (stores.account key).rateLimit.maxRpm = some rpm)
    (found : (stores.account key).limiter = some limiter) (calls : List KeyCall) :
    (answers (call governor) stores calls).filterMap (KeyCall.passTime key) =
      governor.allowed limiter key (calls.filterMap (KeyCall.checkTime key)) := by
  induction calls generalizing stores limiter with
  | nil => rfl
  | cons next calls ih =>
      rcases next with ⟨caller, op⟩
      by_cases own : caller = key
      · subst own
        rcases stores.call_account governor caller op with ⟨answer, after⟩
        have stillLimited : ((stores.call governor ⟨caller, op⟩).2.account
            caller).rateLimit.maxRpm = some rpm := by
          rw [after, KeyAccount.rateLimit_call, limited]
        cases op with
        | checkRpm nanos =>
            rw [KeyAccount.call, KeyAccount.checkRpm_limited limited found] at answer after
            have rest := ih stillLimited (congrArg KeyAccount.limiter after)
            have asked : KeyCall.checkTime caller ⟨caller, .checkRpm nanos⟩ = some nanos :=
              if_pos rfl
            rw [answers, List.filterMap_cons, rest, answer, List.filterMap_cons, asked,
              Governor.allowed, KeyCall.passTime]
            rcases governor.checkKey limiter caller nanos with ⟨conforms, next⟩
            cases conforms with
            | true =>
                simp only [if_true, KeyResult.refusal]
                rw [asked]
            | false => rfl
        | _ =>
            have kept : ((stores.call governor ⟨caller, _⟩).2.account caller).limiter =
                some limiter := (congrArg KeyAccount.limiter after).trans found
            exact ih stillLimited kept
      · have kept : (stores.call governor ⟨caller, op⟩).2.account key = stores.account key :=
          stores.account_call_of_ne governor own
        have rest := ih (kept ▸ limited) (kept ▸ found)
        have foreign : KeyCall.checkTime key ⟨caller, op⟩ = none := by
          cases op with
          | checkRpm nanos => exact if_neg own
          | _ => rfl
        have silent : KeyCall.passTime key (⟨caller, op⟩, (stores.call governor
            ⟨caller, op⟩).1) = none := by
          rw [KeyCall.passTime]
          split
          · exact foreign
          · rfl
        rw [answers, List.filterMap_cons, silent, rest, List.filterMap_cons, foreign]

end KeyStores

namespace Gateway

variable {σ γ : Type} (crates : Crates γ) (key : String)

/-- When a request of a key gets past the limiter. -/
def passes (gateway : Gateway σ γ) : Event σ → Option Nat
  | .arrive request clock =>
      if request.keyName crates.toStr gateway.app.keys = some key ∧
          (gateway.app.chatCompletions crates request clock).2.status ≠
            some .tooManyRequests then
        some clock.nanos
      else none
  | _ => none

/-- When requests of a key get past the limiter during a run. -/
def passed (app : AppState σ γ) (events : List (Event σ)) : List Nat :=
  sights (step crates) (passes crates key) (start app) events

variable {crates key}

theorem passTime_of_verdict {answered : KeyCall × KeyResult}
    (nothing : KeyCall.verdict answered = none) : KeyCall.passTime key answered = none := by
  rw [KeyCall.verdict, Option.map_eq_none_iff] at nothing
  rw [KeyCall.passTime, nothing]

/-- **Step.**  A request gets past the limiter when its check does not fail. -/
theorem passes_eq (gateway : Gateway σ γ) (event : Event σ) :
    (gateway.passes crates key event).toList =
      (answers (KeyStores.call crates.governor) gateway.app.stores
        (gateway.keyCalls crates event)).filterMap (KeyCall.passTime key) := by
  cases about : event.target with
  | some index =>
      have nothing : gateway.passes crates key event = none := by
        cases event <;> first | rfl | cases about
      rw [keyCalls_of_target about, nothing]
      cases gateway.exchanges[index]? with
      | none => rfl
      | some exchange =>
          have silent : ∀ answered ∈ answers (KeyStores.call crates.governor) gateway.app.stores
              (event.keyCalls crates exchange), KeyCall.passTime key answered = none := by
            intro answered membership
            exact passTime_of_verdict (List.filterMap_eq_nil_iff.mp
              (verdicts_keyCalls event exchange gateway.app.stores) answered membership)
          exact (List.filterMap_eq_nil_iff.mpr silent).symm
  | none =>
      cases event with
      | arrive request clock =>
          rw [keyCalls, answers_arrival, passes]
          cases named : request.keyName crates.toStr gateway.app.keys with
          | none => rfl
          | some name =>
              have decided : (gateway.app.chatCompletions crates request clock).2.status = _ ↔
                _ := limited_iff_refused named clock
              rw [Option.toList_some, List.map_singleton]
              generalize (gateway.app.limits.checkRpm crates.governor name clock.nanos).1
                = checked at decided ⊢
              cases checked with
              | error exceeded =>
                  rw [if_neg fun both => both.2 (decided.mpr fun same => by cases same)]
                  rfl
              | ok allowed =>
                  have passed := mt decided.mp (not_not_intro rfl)
                  by_cases own : name = key
                  · simp [KeyCall.passTime, KeyResult.refusal, KeyCall.checkTime, own, passed]
                  · simp [KeyCall.passTime, KeyResult.refusal, KeyCall.checkTime, own]
      | retune state => rfl
      | _ => cases about

variable {app : AppState σ γ} {limits : Table String RateLimit} {limit : RateLimit}
  {rpm : UInt32}

/-- **Requests per minute.**  In any run, however the requests of the clients are
interleaved, fewer than twice the configured requests of a key get past the limiter in any
minute. -/
theorem passed_minute_lt (isGcra : crates.governor.IsGcra rpm)
    (fresh : app.limits = .new crates.governor limits)
    (configured : limits.lookup key = some limit) (limited : limit.maxRpm = some rpm)
    (positive : rpm ≠ 0) (events : List (Event σ)) (start : Nat) :
    ((passed crates key app events).countP fun time =>
      start ≤ time ∧ time < start + 60 * 10 ^ 9) < 2 * rpm.toNat := by
  have ownLimit : (app.limits.limitFor key).maxRpm = some rpm := by
    rw [fresh, RateLimitStore.limitFor_new configured, limited]
  have ownGovernor : app.limits.rpmLimiters.lookup key = some (crates.governor.keyed rpm) := by
    rw [fresh, RateLimitStore.rpmLimiters_new configured limited, if_neg positive]
  have logged : passed crates key app events = _ :=
    (delegates crates app.keys).sights_eq (passes crates key) (KeyCall.passTime key)
      (fun _ event => passes_eq _ event) (sound_start crates app) events
  have inAccount : (app.stores.account key).rateLimit.maxRpm = some rpm ∧
      (app.stores.account key).limiter = some (crates.governor.keyed rpm) :=
    ⟨ownLimit, ownGovernor⟩
  have governed : passed crates key app events = _ :=
    logged.trans (KeyStores.passTimes_eq crates.governor inAccount.1 inAccount.2 _)
  generalize (callLog (step crates) (keyCalls crates) (.start app) events).filterMap
    (KeyCall.checkTime key) = times at governed
  have alone : RateLimitStore.callsOf key (times.map fun time => (key, time)) = times := by
    simp [RateLimitStore.callsOf, List.filter_map, Function.comp_def]
  have same : app.limits.allowed crates.governor key (times.map fun time => (key, time)) = _ :=
    RateLimitStore.allowed_limited ownLimit ownGovernor _
  rw [alone, ← governed, fresh] at same
  rw [← same]
  exact RateLimitStore.allowed_minute_lt isGcra configured limited positive _ start

end Gateway

namespace Sample

def gcraCrates : Crates (Gcra ℚ × Table String ℚ) where
  json := json
  toStr := headerText
  governor := .gcra
  debug _ := "[]"

/-- The sample key may ask twice a minute. -/
def twiceAMinute : AppState Unit (Gcra ℚ × Table String ℚ) :=
  .ofConfig config .staticPriority () budget (.new .gcra (RateLimitStore.onlyKey 2)) .new

def fourArrivals : List (Event Unit) :=
  [.arrive request ⟨0, 0⟩, .arrive request ⟨0, 0⟩, .arrive request ⟨1000000000, 1⟩,
    .arrive request ⟨30000000000, 30⟩]

end Sample

/-- The third of four arrivals comes too soon. -/
theorem Gateway.passed_minute_lt_two :
    ((passed Sample.gcraCrates "dev" Sample.twiceAMinute Sample.fourArrivals).countP fun time =>
      0 ≤ time ∧ time < 0 + 60 * 10 ^ 9) < 2 * (2 : UInt32).toNat :=
  passed_minute_lt (Governor.gcra_isGcra 2) rfl Finmap.lookup_singleton_eq rfl (by decide)
    Sample.fourArrivals 0

/-! ## Tokens of the last window -/

/-- What reports that do not overlap make of a counter: each goes through its atomic steps
before the next one begins. -/
inductive TpmCounter.AfterReports (old : TpmCounter) : List TpmCall → TpmCounter → Prop
  | none : AfterReports old [] old
  | report {calls : List TpmCall} {counter : TpmCounter}
      (before : AfterReports old calls counter) (call : TpmCall) {schedule : List Unit}
      {race : AddRace Unit}
      (ran : (AddRace.start counter).run (fun _ => call.tokens) call.secs schedule = some race)
      (complete : race.Complete) : AfterReports old (calls ++ [call]) race.counter

/-- Reports that do not overlap are additions one after the other. -/
theorem TpmCounter.AfterReports.eq_foldl {old counter : TpmCounter} {calls : List TpmCall}
    (reported : old.AfterReports calls counter) :
    counter = calls.foldl (fun counter call => (counter.add call.tokens call.secs).2) old := by
  induction reported with
  | none => rfl
  | report before call ran complete ih =>
      rw [List.foldl_append, ← ih]
      exact AddRace.counter_of_alone ran complete

theorem RateLimitStore.tpmCounter_recordAll {γ : Type} (store : RateLimitStore γ) (key : String)
    (calls : List TpmCall) : (store.recordAll calls).tpmCounter key =
      (TpmCall.ofKey key calls).foldl (fun counter call => (counter.add call.tokens call.secs).2)
        (store.tpmCounter key) := by
  induction calls using List.reverseRecOn with
  | nil => rfl
  | append_singleton calls last ih =>
      rw [recordAll_concat, TpmCall.ofKey_append]
      by_cases own : last.key = key
      · subst own
        rw [tpmCounter_recordTpm_self, TpmCall.ofKey_cons_self, List.foldl_append, ← ih]
        rfl
      · rw [tpmCounter_recordTpm_of_ne _ (Ne.symm own), TpmCall.ofKey_cons_of_ne own]
        simpa [TpmCall.ofKey] using ih

/-- The record of tokens in a report. -/
def KeyCall.tpmCall (call : KeyCall) : Option TpmCall :=
  match call.op with
  | .recordTpm tokens secs => some ⟨call.key, tokens, secs⟩
  | _ => none

namespace KeyStores

variable {γ : Type}

/-- Only the records of tokens touch the token counters. -/
theorem tpmCounters_calling (governor : Governor γ) {calls : List KeyCall}
    (known : ∀ call ∈ calls, call.CheckOrReport) {stores : KeyStores γ}
    {store : RateLimitStore γ} (same : stores.limits.tpmCounters = store.tpmCounters) :
    (calling (call governor) stores calls).limits.tpmCounters =
      (store.recordAll (calls.filterMap KeyCall.tpmCall)).tpmCounters := by
  induction calls generalizing stores store with
  | nil => exact same
  | cons next calls ih =>
      rw [List.forall_mem_cons] at known
      cases known.1 with
      | checkRpm key nanos =>
          apply ih known.2
          rw [← same]
          exact RateLimitStore.checkRpm_tpmCounters ..
      | record key usage => exact ih known.2 same
      | recordTpm key tokens secs =>
          apply ih known.2
          simp only [call, RateLimitStore.recordTpm, RateLimitStore.tpmCounter, same]

end KeyStores

namespace Gateway

variable {σ γ : Type} (crates : Crates γ) (app : AppState σ γ) (key : String)

/-- The tokens that a run reported, in order. -/
def reports (events : List (Event σ)) : List TpmCall :=
  (keyLog crates app events).filterMap KeyCall.tpmCall

/-- **Tokens per minute.**  After any run in which the reports of a key do not overlap, the
current total of the key is that of the last window of the reports that the run made for it,
until this window is over. -/
theorem current_tpm_of_run (fresh : app.limits.tpmCounters = ∅) (events : List (Event σ))
    (ordered : (TpmCall.ofKey key (reports crates app events)).Pairwise fun earlier later =>
      earlier.secs ≤ later.secs) {counter : TpmCounter}
    (apart : TpmCounter.default.AfterReports (TpmCall.ofKey key (reports crates app events))
      counter) :
    ((start app).run crates events).app.limits.tpmCounter key = counter ∧
      ∃ last, (TpmCall.windows (TpmCall.ofKey key (reports crates app events))).all.getLast? =
          some last ∧
        ∀ nowSecs, counter.current nowSecs =
            (if nowSecs.toNat < last.start + 60 then TpmCall.total last.entries else 0) ∧
          (nowSecs.toNat < last.start + 60 →
            ∀ entry ∈ last.entries, nowSecs.toNat < entry.secs.toNat + 60) := by
  have stores : ((start app).run crates events).app.stores = _ :=
    (delegates crates app.keys).run (sound_start crates app) events
  have counters : ((start app).run crates events).app.limits.tpmCounters =
      (app.limits.recordAll (reports crates app events)).tpmCounters :=
    (congrArg (fun stores => stores.limits.tpmCounters) stores).trans
      (KeyStores.tpmCounters_calling crates.governor
        (forall_callLog checkOrReport_keyCalls (start app) events) rfl)
  have sameCounter : ((start app).run crates events).app.limits.tpmCounter key =
      (app.limits.recordAll (reports crates app events)).tpmCounter key := by
    rw [RateLimitStore.tpmCounter, RateLimitStore.tpmCounter, counters]
  have unused : app.limits.tpmCounter key = .default := by
    rw [RateLimitStore.tpmCounter, fresh, Finmap.lookup_empty]
    rfl
  have reached : (app.limits.recordAll (reports crates app events)).tpmCounter key = counter := by
    rw [RateLimitStore.tpmCounter_recordAll, unused, apart.eq_foldl]
  have counts := RateLimitStore.counts_recordAll unused (reports crates app events)
  rw [reached] at counts
  refine ⟨sameCounter.trans reached, _, List.getLast?_concat, ?_⟩
  refine fun nowSecs => ⟨counts.current nowSecs, ?_⟩
  intro lasts entry membership
  exact TpmCall.recent_of_mem ordered lasts membership

end Gateway

/-- The one report of a served request is counted for a minute. -/
theorem Gateway.current_tpm_of_run_servedTwice :
    ((start Sample.app).run Sample.crates Sample.servedTwice).app.limits.tpmCounter "dev" =
        ⟨1000, 150⟩ ∧
      TpmCounter.current ⟨1000, 150⟩ 1059 = 150 ∧ TpmCounter.current ⟨1000, 150⟩ 1060 = 0 := by
  have reported : TpmCall.ofKey "dev" (reports Sample.crates Sample.app Sample.servedTwice) =
      [⟨"dev", 150, 1000⟩] := by
    decide +kernel
  have ordered : (TpmCall.ofKey "dev" (reports Sample.crates Sample.app
      Sample.servedTwice)).Pairwise fun earlier later => earlier.secs ≤ later.secs := by
    rw [reported]
    exact List.pairwise_singleton _ _
  have ran : (AddRace.start .default).run (fun _ => 150) 1000 [(), (), ()] =
      some (⟨⟨1000, 150⟩, fun _ => .done 150⟩ : AddRace Unit) := by
    rw [AddRace.run_alone_elapsed rfl (by decide), AddRace.update_unit]
  have apart : TpmCounter.default.AfterReports
      (TpmCall.ofKey "dev" (reports Sample.crates Sample.app Sample.servedTwice))
        ⟨1000, 150⟩ := by
    rw [reported]
    exact .report .none ⟨"dev", 150, 1000⟩ ran fun _ => rfl
  rcases current_tpm_of_run Sample.crates Sample.app "dev" rfl Sample.servedTwice ordered apart
    with ⟨same, last, found, current⟩
  rw [reported] at found
  cases found
  exact ⟨same, (current 1059).1, (current 1060).1⟩

end Patchbay
