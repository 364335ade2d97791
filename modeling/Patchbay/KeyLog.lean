import Patchbay.ClientIsolation
import Patchbay.Conservation
import Patchbay.Lib.Delegation

/-!
# The calls that the gateway makes

All that requests do to the rate limits and the budgets of the keys are calls of the two
stores: a check when a request arrives, and two records when its usage is known.  After any
run the stores are what the log of these calls makes of them, and the clients that came too
soon are those whose checks failed.  What is known about sequences of calls holds of runs.
A call is one step here, as it is in the code for a governor and, in effect, for the sums of
a budget; a record of tokens per minute is one step only while no other interrupts it.
-/

namespace Patchbay

namespace KeyCall

/-- A check of the request limit, or a record of tokens. -/
inductive CheckOrReport : KeyCall → Prop
  | checkRpm (key : String) (nanos : Nat) : CheckOrReport ⟨key, .checkRpm nanos⟩
  | record (key : String) (usage : Usage) : CheckOrReport ⟨key, .record usage⟩
  | recordTpm (key : String) (tokens secs : UInt64) : CheckOrReport ⟨key, .recordTpm tokens secs⟩

/-- The calls that account for a usage. -/
def report (key : String) (usage : Usage) (secs : UInt64) : List KeyCall :=
  [⟨key, .record usage⟩, ⟨key, .recordTpm usage.totalTokens secs⟩]

end KeyCall

/-- The stores but for the token counters. -/
def KeyStores.withoutTpm {γ : Type} (stores : KeyStores γ) : KeyStores γ :=
  { stores with limits := { stores.limits with tpmCounters := ∅ } }

/-! ## The log -/

/-- What one event about an exchange makes of the stores. -/
def Event.keyCalls {σ γ : Type} (crates : Crates γ) (event : Event σ) (exchange : Exchange) :
    List KeyCall :=
  match event with
  | .read _ (.ok body) secs =>
      match exchange.phase with
      | .reading job _ =>
          (bufferedUsage crates.json body).elim [] fun usage =>
            KeyCall.report job.keyName usage secs
      | _ => []
  | .settle _ secs =>
      match exchange.relay with
      | some task =>
          if task.settled then []
          else (task.relay.summaries.head?.bind RelaySummary.usage).elim [] fun usage =>
            KeyCall.report task.keyName usage secs
      | none => []
  | _ => []

namespace Gateway

variable {σ γ : Type} (crates : Crates γ)

def keyCalls (gateway : Gateway σ γ) (event : Event σ) : List KeyCall :=
  match event with
  | .arrive request clock =>
      (request.keyName crates.toStr gateway.app.keys).toList.map fun name =>
        ⟨name, .checkRpm clock.nanos⟩
  | _ => (event.target.bind fun index => gateway.exchanges[index]?).elim [] (event.keyCalls crates)

/-- The calls of a run. -/
def keyLog (app : AppState σ γ) (events : List (Event σ)) : List KeyCall :=
  callLog (step crates) (keyCalls crates) (start app) events

end Gateway

namespace AppState

variable {σ γ : Type} (crates : Crates γ) (app : AppState σ γ) (exchange : Exchange)

theorem stores_sent (result : HttpResult) (hash : UInt64) (clock : Clock) :
    (app.sent exchange result hash clock).1.stores = app.stores := by
  rw [sent]
  cases exchange.phase with
  | calling job attempt =>
      dsimp only
      cases UpstreamClient.receive job.backend result with
      | error error =>
          dsimp only
          split
          · rfl
          · rw [retry]
            split <;> rfl
      | ok response =>
          dsimp only
          rw [handOver]
          split <;> rfl
  | _ => rfl

/-- An action makes the calls of its event. -/
theorem stores_act (event : Event σ) :
    (event.act crates app exchange).1.stores =
      calling (KeyStores.call crates.governor) app.stores (event.keyCalls crates exchange) := by
  cases event with
  | sent index result hash clock => exact app.stores_sent exchange result hash clock
  | read index body secs =>
      rw [Event.act, read, Event.keyCalls.eq_def]
      cases exchange.phase with
      | reading job response =>
          cases body with
          | error message => rfl
          | ok body =>
              dsimp only
              cases bufferedUsage crates.json body with
              | none => rfl
              | some usage => exact app.stores_account crates.governor job.keyName usage secs
      | _ => cases body <;> rfl
  | settle index secs =>
      rw [Event.act, settle, Event.keyCalls.eq_def]
      cases exchange.relay with
      | none => rfl
      | some task =>
          dsimp only
          split
          · rfl
          · cases task.relay.summaries with
            | nil => rfl
            | cons summary later =>
                dsimp only [List.head?_cons, Option.bind_some]
                rw [accountStream]
                cases summary.usage with
                | none => cases summary.outcome <;> rfl
                | some usage =>
                    have accounted := app.stores_account crates.governor task.keyName usage secs
                    cases summary.outcome <;> exact accounted
  | woke index =>
      rw [Event.act, woke]
      cases exchange.phase <;> rfl
  | poll index context =>
      rw [Event.act, poll]
      cases exchange.relay with
      | none => rfl
      | some task =>
          dsimp only
          split <;> rfl
  | _ => rfl

/-- An arrival makes the one call of its key, if it has one. -/
theorem stores_chatCompletions (request : ClientRequest) (clock : Clock) :
    (app.chatCompletions crates request clock).1.stores =
      calling (KeyStores.call crates.governor) app.stores
        ((request.keyName crates.toStr app.keys).toList.map fun name =>
          ⟨name, .checkRpm clock.nanos⟩) := by
  have spec := admission_spec crates app request clock
  rw [chatCompletions]
  generalize app.admission crates request clock = admission at spec
  cases spec with
  | unauthorized refused =>
      simp only [ClientRequest.keyName, refused]
      rfl
  | limited known refused =>
      simp only [ClientRequest.keyName, known]
      rfl
  | noModel known allowed refused =>
      simp only [ClientRequest.keyName, known]
      rfl
  | unroutable known allowed present refused =>
      simp only [ClientRequest.keyName, known]
      rfl
  | admitted known allowed present routed =>
      simp only [ClientRequest.keyName, known]
      rfl

end AppState

namespace KeyResult

/-- Whether a check failed, if the call was one. -/
def refusal : KeyResult → Option Bool
  | .checkRpm (.error _) => some true
  | .checkRpm (.ok ()) => some false
  | _ => none

end KeyResult

/-- The key of a request and whether it was turned away for coming too soon, unless nobody
knows the key. -/
def Exchange.verdict (toStr : Bytes → Option String) (keys : KeyStore) (exchange : Exchange) :
    Option (String × Bool) :=
  (exchange.keyName toStr keys).map fun name =>
    (name, decide (exchange.status = some .tooManyRequests))

/-- The key of a check and whether it failed. -/
def KeyCall.verdict (answered : KeyCall × KeyResult) : Option (String × Bool) :=
  answered.2.refusal.map fun refused => (answered.1.key, refused)

namespace Gateway

variable {σ γ : Type} {crates : Crates γ} {keys : KeyStore} {gateway : Gateway σ γ}

/-- Reports are no checks. -/
theorem verdicts_keyCalls (event : Event σ) (exchange : Exchange) (stores : KeyStores γ) :
    (answers (KeyStores.call crates.governor) stores
      (event.keyCalls crates exchange)).filterMap KeyCall.verdict = [] := by
  have silent : ∀ (name : String) (usage : Option Usage) (secs : UInt64),
      (answers (KeyStores.call crates.governor) stores (usage.elim [] fun usage =>
        KeyCall.report name usage secs)).filterMap KeyCall.verdict = [] := by
    intro name usage secs
    cases usage <;> rfl
  rw [Event.keyCalls.eq_def]
  split
  · split
    · exact silent _ _ _
    · rfl
  · split
    · split
      · rfl
      · exact silent _ _ _
    · rfl
  · rfl

/-- An arrival asks for the check of its key. -/
theorem answers_arrival (app : AppState σ γ) (request : ClientRequest) (clock : Clock) :
    answers (KeyStores.call crates.governor) app.stores
        ((request.keyName crates.toStr app.keys).toList.map fun name =>
          ⟨name, .checkRpm clock.nanos⟩) =
      (request.keyName crates.toStr app.keys).toList.map fun name =>
        (⟨name, .checkRpm clock.nanos⟩,
          .checkRpm (app.limits.checkRpm crates.governor name clock.nanos).1) := by
  cases request.keyName crates.toStr app.keys <;> rfl

/-- The check decides whether a request is turned away for coming too soon. -/
theorem limited_iff_refused {app : AppState σ γ} {request : ClientRequest} {name : String}
    (named : request.keyName crates.toStr app.keys = some name) (clock : Clock) :
    (app.chatCompletions crates request clock).2.status = some .tooManyRequests ↔
      (app.limits.checkRpm crates.governor name clock.nanos).1 ≠ .ok () := by
  have spec := AppState.admission_spec crates app request clock
  rw [AppState.chatCompletions]
  generalize app.admission crates request clock = admission at spec
  rw [ClientRequest.keyName] at named
  cases spec with
  | unauthorized refused =>
      rw [refused] at named
      cases named
  | limited known refused =>
      rw [known] at named
      cases named
      rw [refused]
      refine iff_of_true rfl (fun same => ?_)
      cases same
  | noModel known allowed refused =>
      rw [known] at named
      cases named
      rw [allowed]
      refine iff_of_false (fun same => ?_) (not_not_intro rfl)
      have same : StatusCode.badRequest = .tooManyRequests := Option.some.inj same
      exact absurd same (by decide)
  | unroutable known allowed present refused =>
      rw [known] at named
      cases named
      rw [allowed]
      refine iff_of_false (fun same => ?_) (not_not_intro rfl)
      exact StatusCode.badGateway_ne_tooManyRequests (Option.some.inj same)
  | admitted known allowed present routed =>
      rw [known] at named
      cases named
      rw [allowed]
      refine iff_of_false (fun same => ?_) (not_not_intro rfl)
      cases same

theorem verdicts_arrival (app : AppState σ γ) (request : ClientRequest) (clock : Clock) :
    (answers (KeyStores.call crates.governor) app.stores
        ((request.keyName crates.toStr app.keys).toList.map fun name =>
          ⟨name, .checkRpm clock.nanos⟩)).filterMap KeyCall.verdict =
      ((app.chatCompletions crates request clock).2.verdict crates.toStr app.keys).toList := by
  have sameRequest : (app.chatCompletions crates request clock).2.request = request := by
    rw [AppState.chatCompletions]
    rcases app.admission crates request clock with ⟨result, after⟩
    cases result <;> rfl
  rw [answers_arrival, Exchange.verdict, Exchange.keyName, sameRequest]
  cases named : request.keyName crates.toStr app.keys with
  | none => rfl
  | some name =>
      have decided : (app.chatCompletions crates request clock).2.status = _ ↔ _ :=
        limited_iff_refused named clock
      rw [Option.toList_some, List.map_singleton]
      generalize (app.limits.checkRpm crates.governor name clock.nanos).1 = checked at decided ⊢
      cases checked with
      | error exceeded =>
          have limited := decided.mpr fun same => by cases same
          simp [KeyCall.verdict, KeyResult.refusal, limited]
      | ok allowed =>
          have passed := mt decided.mp (not_not_intro rfl)
          simp [KeyCall.verdict, KeyResult.refusal, passed]

theorem keyCalls_of_target {event : Event σ} {index : Nat} (about : event.target = some index) :
    gateway.keyCalls crates event =
      gateway.exchanges[index]?.elim [] (event.keyCalls crates) := by
  cases event <;> cases about <;> rfl

/-- The gateway makes no other calls. -/
theorem checkOrReport_keyCalls (gateway : Gateway σ γ) (event : Event σ) :
    ∀ call ∈ gateway.keyCalls crates event, call.CheckOrReport := by
  have reported : ∀ (name : String) (usage : Option Usage) (secs : UInt64),
      ∀ call ∈ usage.elim [] fun usage => KeyCall.report name usage secs, call.CheckOrReport := by
    intro name usage secs call membership
    cases usage with
    | none => cases membership
    | some usage =>
        rw [Option.elim_some, KeyCall.report, List.mem_pair] at membership
        rcases membership with rfl | rfl
        · exact .record name usage
        · exact .recordTpm name usage.totalTokens secs
  cases about : event.target with
  | some index =>
      rw [keyCalls_of_target about]
      cases gateway.exchanges[index]? with
      | none => exact List.forall_mem_nil _
      | some exchange =>
          rw [Option.elim_some, Event.keyCalls.eq_def]
          split
          · split
            · exact reported _ _ _
            · exact List.forall_mem_nil _
          · split
            · split
              · exact List.forall_mem_nil _
              · exact reported _ _ _
            · exact List.forall_mem_nil _
          · exact List.forall_mem_nil _
  | none =>
      cases event with
      | arrive request clock =>
          intro call membership
          rcases List.mem_map.mp membership with ⟨name, -, rfl⟩
          exact .checkRpm name clock.nanos
      | retune state => exact List.forall_mem_nil _
      | _ => cases about

/-- **Step.**  The gateway touches its stores by calls only. -/
theorem delegates (crates : Crates γ) (keys : KeyStore) :
    Delegates (step crates) (Sound (σ := σ) crates keys) (fun gateway => gateway.app.stores)
      (KeyStores.call crates.governor) (keyCalls crates) where
  keeps sound event := sound.step event
  calls := by
    intro gateway sound event
    cases about : event.target with
    | some index =>
        rw [Event.step_of_target crates about, advance, keyCalls_of_target about]
        cases found : gateway.exchanges[index]? with
        | none => rfl
        | some exchange => exact gateway.app.stores_act crates exchange event
    | none =>
        cases event with
        | arrive request clock => exact gateway.app.stores_chatCompletions crates request clock
        | retune state => rfl
        | _ => cases about

/-- What the clients are told of the checks. -/
theorem verdicts_step (sound : gateway.Sound crates keys) (event : Event σ) :
    (gateway.step crates event).exchanges.filterMap (Exchange.verdict crates.toStr keys) =
      gateway.exchanges.filterMap (Exchange.verdict crates.toStr keys) ++
        (answers (KeyStores.call crates.governor) gateway.app.stores
          (gateway.keyCalls crates event)).filterMap KeyCall.verdict := by
  cases about : event.target with
  | some index =>
      rw [Event.step_of_target crates about, advance, keyCalls_of_target about]
      cases found : gateway.exchanges[index]? with
      | none => simp [answers]
      | some exchange =>
          have coherent := sound.coherent exchange (List.mem_of_getElem? found)
          have outcome := gateway.app.act_outcome crates coherent event
          have same : (event.act crates gateway.app exchange).2.verdict crates.toStr keys =
              exchange.verdict crates.toStr keys := by
            rw [Exchange.verdict, Exchange.verdict, Exchange.keyName, Exchange.keyName,
              outcome.request]
            simp only [outcome.limited_iff coherent]
          rw [Option.elim_some, verdicts_keyCalls, List.append_nil]
          exact Parts.filterMap_set found same
  | none =>
      cases event with
      | arrive request clock =>
          rw [keyCalls, verdicts_arrival, sound.sameKeys, step, List.filterMap_append]
          rw [List.filterMap_cons, List.filterMap_nil]
          cases Exchange.verdict crates.toStr keys _ <;> rfl
      | retune state => exact (List.append_nil _).symm
      | _ => cases about

/-- **Refinement.**  A run of the gateway is, for the request limits and the budgets of the
keys, a run of the stores.  The calls are checks and reports, the budget is never asked, and
exactly the requests whose checks failed are turned away for coming too soon.  The token
counters are left out: a report to them is several steps, which may interleave. -/
theorem stores_refined (crates : Crates γ) (app : AppState σ γ) (events : List (Event σ)) :
    let gateway := (start app).run crates events
    let log := keyLog crates app events
    gateway.app.stores.withoutTpm =
        (calling (KeyStores.call crates.governor) app.stores log).withoutTpm ∧
      gateway.exchanges.filterMap (Exchange.verdict crates.toStr app.keys) =
        (answers (KeyStores.call crates.governor) app.stores log).filterMap KeyCall.verdict ∧
      ∀ call ∈ log, call.CheckOrReport := by
  intro gateway log
  have sound := sound_start crates app
  refine ⟨?_, ?_, ?_⟩
  · exact congrArg KeyStores.withoutTpm ((delegates crates app.keys).run sound events)
  · exact (delegates crates app.keys).shows
      (fun gateway => gateway.exchanges.filterMap (Exchange.verdict crates.toStr app.keys))
      KeyCall.verdict verdicts_step sound events
  · exact forall_callLog checkOrReport_keyCalls (start app) events

end Gateway

end Patchbay
