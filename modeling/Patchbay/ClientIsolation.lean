import Patchbay.KeyIsolation
import Patchbay.Lib.Parts
import Patchbay.Lib.Shadow
import Patchbay.Outcomes

/-!
# Clients are isolated

The requests of many clients share the limits, the ledger, the metrics and the router of
one gateway.  An observer of some keys sees the arrivals of their requests and what happens
to these, and counts them in order of arrival.  A gateway that only ever had what this
observer sees makes the same upstream calls for these requests, waits as long, answers them
alike and accounts alike for their keys.
-/

namespace Patchbay

/-! ## What is observed -/

/-- A policy whose choices leave no trace. -/
def Policy.Steady {σ : Type} (policy : Policy σ) : Prop :=
  ∀ state candidates, (policy.choose state candidates).2 = state

theorem Policy.staticPriority_steady : Policy.staticPriority.Steady := fun _ _ => rfl

/-- A steady policy leaves the router as it was. -/
theorem Router.route_steady {σ : Type} {router : Router σ} (steady : router.policy.Steady)
    (query : RouteQuery) (markPrivate : Bool) : (router.route query markPrivate).2 = router := by
  have resolved : ∀ {P : PrivacyClass} (typed : TypedQuery P),
      (router.resolve typed).2 = router := by
    intro P typed
    have kept : ((Candidates.gather typed router.backends).select router.policy
        router.state).2 = router.state := steady _ _
    rw [resolve]
    dsimp only
    rw [kept]
  cases markPrivate with
  | true => exact resolved _
  | false => exact resolved _

/-- A request that goes by one of these names. -/
def ClientRequest.ownedBy (toStr : Bytes → Option String) (keys : KeyStore)
    (observed : String → Bool) (request : ClientRequest) : Bool :=
  (request.keyName toStr keys).any observed

def Exchange.ownedBy (toStr : Bytes → Option String) (keys : KeyStore)
    (observed : String → Bool) (exchange : Exchange) : Bool :=
  exchange.request.ownedBy toStr keys observed

namespace Event

variable {σ γ : Type}

/-- The same event for the exchange at another index. -/
def aim (event : Event σ) (index : Nat) : Event σ :=
  match event with
  | .arrive request clock => .arrive request clock
  | .sent _ result hash clock => .sent index result hash clock
  | .woke _ => .woke index
  | .read _ body secs => .read index body secs
  | .poll _ context => .poll index context
  | .close _ => .close index
  | .settle _ secs => .settle index secs
  | .retune state => .retune state

theorem target_aim {event : Event σ} {old : Nat} (about : event.target = some old)
    (index : Nat) : (event.aim index).target = some index := by
  cases event <;> first | rfl | cases about

theorem act_aim (crates : Crates γ) (event : Event σ) (index : Nat) :
    (event.aim index).act crates = event.act crates := by
  cases event <;> rfl

end Event

namespace Gateway

variable {σ γ : Type} (crates : Crates γ) (keys : KeyStore) (observed : String → Bool)

/-- What the observer sees of an event, by the index among the exchanges it sees. -/
def view (gateway : Gateway σ γ) (event : Event σ) : Option (Event σ) :=
  match event.target with
  | some index =>
      (gateway.exchanges[index]?.filter (Exchange.ownedBy crates.toStr keys observed)).map
        fun _ => event.aim
          (Parts.rank (Exchange.ownedBy crates.toStr keys observed) gateway.exchanges index)
  | none =>
      match event with
      | .arrive request _ =>
          if request.ownedBy crates.toStr keys observed then some event else none
      | _ => some event

end Gateway

/-! ## States that agree -/

namespace AppState

variable {σ γ : Type}

/-- Two results show the same exchange, and states that agree. -/
def SameResult (agrees : AppState σ γ → AppState σ γ → Prop)
    (left right : AppState σ γ × Exchange) : Prop :=
  left.2 = right.2 ∧ agrees left.1 right.1

/-- The stores of the state. -/
def stores (app : AppState σ γ) : KeyStores γ := ⟨app.limits, app.budget⟩

/-- The states route alike, by a steady policy, and have the same accounts for the keys that
are observed. -/
structure AgreeOn (observed : String → Bool) (left right : AppState σ γ) : Prop where
  steady : left.router.policy.Steady
  router : left.router = right.router
  keys : left.keys = right.keys
  account : ∀ key, observed key = true → left.stores.account key = right.stores.account key

namespace AgreeOn

variable {observed : String → Bool} {left right : AppState σ γ}

theorem refl (observed : String → Bool) {app : AppState σ γ}
    (steady : app.router.policy.Steady) : AgreeOn observed app app :=
  ⟨steady, rfl, rfl, fun _ _ => rfl⟩

theorem trans {middle : AppState σ γ} (first : AgreeOn observed left middle)
    (second : AgreeOn observed middle right) : AgreeOn observed left right :=
  ⟨first.steady, first.router.trans second.router, first.keys.trans second.keys,
    fun key membership => (first.account key membership).trans (second.account key membership)⟩

end AgreeOn

variable (app : AppState σ γ) (observed : String → Bool)

/-- Accounting makes two calls of the key. -/
theorem stores_account (governor : Governor γ) (keyName : String) (usage : Usage)
    (secs : UInt64) :
    (app.account keyName usage secs).stores =
      ((app.stores.call governor ⟨keyName, .record usage⟩).2.call governor
        ⟨keyName, .recordTpm usage.totalTokens secs⟩).2 := rfl

variable {app observed} {left right : AppState σ γ}

theorem AgreeOn.account_hidden (governor : Governor γ) (steady : app.router.policy.Steady)
    {keyName : String} (hidden : observed keyName = false) (usage : Usage) (secs : UInt64) :
    AgreeOn observed (app.account keyName usage secs) app where
  steady := steady
  router := rfl
  keys := rfl
  account key membership := by
    have different : keyName ≠ key := by
      rintro rfl
      exact absurd membership (by simp [hidden])
    rw [stores_account app governor, KeyStores.account_call_of_ne, KeyStores.account_call_of_ne]
    · exact different
    · exact different

theorem AgreeOn.accounted (governor : Governor γ) (agree : AgreeOn observed left right)
    (keyName : String) (usage : Usage) (secs : UInt64) :
    AgreeOn observed (left.account keyName usage secs) (right.account keyName usage secs) where
  steady := agree.steady
  router := agree.router
  keys := agree.keys
  account key membership := by
    rw [stores_account left governor, stores_account right governor]
    by_cases same : keyName = key
    · subst same
      rw [(KeyStores.call_account ..).2, (KeyStores.call_account ..).2,
        (KeyStores.call_account ..).2, (KeyStores.call_account ..).2,
        agree.account keyName membership]
    · rw [KeyStores.account_call_of_ne _ _ same, KeyStores.account_call_of_ne _ _ same,
        KeyStores.account_call_of_ne _ _ same, KeyStores.account_call_of_ne _ _ same,
        agree.account key membership]

/-! ## One action -/

theorem AgreeOn.metrics (agree : AgreeOn observed left right) (first second : MetricsHandle) :
    AgreeOn observed { left with metrics := first } { right with metrics := second } :=
  ⟨agree.steady, agree.router, agree.keys, agree.account⟩

variable (crates : Crates γ) {exchange : Exchange}

theorem AgreeOn.sent (agree : AgreeOn observed left right) (result : HttpResult)
    (hash : UInt64) (clock : Clock) :
    SameResult (AgreeOn observed) (left.sent exchange result hash clock)
      (right.sent exchange result hash clock) := by
  unfold AppState.sent
  cases exchange.phase with
  | calling job attempt =>
      dsimp only
      cases UpstreamClient.receive job.backend result with
      | error error =>
          dsimp only
          cases error.isRetryable with
          | false => exact ⟨rfl, agree.metrics _ _⟩
          | true =>
              simp only [Bool.not_true, Bool.false_eq_true, if_false, retry]
              split
              · exact ⟨rfl, agree.metrics _ _⟩
              · exact ⟨rfl, agree.metrics _ _⟩
      | ok response =>
          simp only [handOver]
          split
          · exact ⟨rfl, agree.metrics _ _⟩
          · exact ⟨rfl, agree.metrics _ _⟩
  | sleeping job attempt => exact ⟨rfl, agree⟩
  | reading job response => exact ⟨rfl, agree⟩
  | answered response => exact ⟨rfl, agree⟩
  | cancelled => exact ⟨rfl, agree⟩

theorem AgreeOn.woke (agree : AgreeOn observed left right) :
    SameResult (AgreeOn observed) (left.woke exchange) (right.woke exchange) := by
  unfold AppState.woke
  cases exchange.phase with
  | sleeping job attempt => exact ⟨rfl, agree⟩
  | calling job attempt => exact ⟨rfl, agree⟩
  | reading job response => exact ⟨rfl, agree⟩
  | answered response => exact ⟨rfl, agree⟩
  | cancelled => exact ⟨rfl, agree⟩

theorem AgreeOn.read (agree : AgreeOn observed left right) (body : Except String Bytes)
    (secs : UInt64) :
    SameResult (AgreeOn observed) (left.read crates exchange body secs)
      (right.read crates exchange body secs) := by
  unfold AppState.read
  cases exchange.phase with
  | reading job response =>
      cases body with
      | error message => exact ⟨rfl, agree.metrics _ _⟩
      | ok body =>
          dsimp only
          cases bufferedUsage crates.json body with
          | none => exact ⟨rfl, agree⟩
          | some usage => exact ⟨rfl, agree.accounted crates.governor job.keyName usage secs⟩
  | calling job attempt => exact ⟨rfl, agree⟩
  | sleeping job attempt => exact ⟨rfl, agree⟩
  | answered response => exact ⟨rfl, agree⟩
  | cancelled => exact ⟨rfl, agree⟩

theorem AgreeOn.poll (agree : AgreeOn observed left right) (context : PollContext) :
    SameResult (AgreeOn observed) (left.poll crates exchange context)
      (right.poll crates exchange context) := by
  unfold AppState.poll
  cases exchange.relay with
  | none => exact ⟨rfl, agree⟩
  | some task =>
      dsimp only
      split
      · exact ⟨rfl, agree⟩
      · exact ⟨rfl, agree⟩

theorem AgreeOn.accountStream (governor : Governor γ) (agree : AgreeOn observed left right)
    (task : RelayTask) (summary : RelaySummary) (secs : UInt64) :
    AgreeOn observed (left.accountStream task summary secs)
      (right.accountStream task summary secs) := by
  rw [AppState.accountStream, AppState.accountStream]
  cases summary.usage with
  | none => cases summary.outcome <;> exact agree.metrics _ _
  | some usage =>
      have accounted := agree.accounted governor task.keyName usage secs
      cases summary.outcome <;> exact accounted.metrics _ _

theorem AgreeOn.settle (governor : Governor γ) (agree : AgreeOn observed left right)
    (secs : UInt64) :
    SameResult (AgreeOn observed) (left.settle exchange secs) (right.settle exchange secs) := by
  unfold AppState.settle
  cases exchange.relay with
  | none => exact ⟨rfl, agree⟩
  | some task =>
      dsimp only
      split
      · exact ⟨rfl, agree⟩
      · split
        · exact ⟨rfl, agree⟩
        · exact ⟨rfl, agree.accountStream governor task _ secs⟩

/-- An action does not look at the state, apart from what agrees. -/
theorem AgreeOn.act (agree : AgreeOn observed left right) (event : Event σ)
    (exchange : Exchange) :
    SameResult (AgreeOn observed) (event.act crates left exchange) (event.act crates right exchange) := by
  cases event with
  | arrive request clock => exact ⟨rfl, agree⟩
  | sent index result hash clock => exact agree.sent result hash clock
  | woke index => exact agree.woke
  | read index body secs => exact agree.read crates body secs
  | poll index context => exact agree.poll crates context
  | close index => exact ⟨rfl, agree⟩
  | settle index secs => exact agree.settle crates.governor secs
  | retune state => exact ⟨rfl, agree⟩

/-- An action on an exchange that is not observed leaves what agrees as it was. -/
theorem Outcome.agree_hidden {keys : KeyStore} (steady : app.router.policy.Steady)
    (coherent : exchange.Coherent crates.toStr keys)
    (hidden : exchange.ownedBy crates.toStr keys observed = false)
    {result : AppState σ γ × Exchange} (outcome : app.Outcome crates exchange result) :
    AgreeOn observed result.1 app := by
  have unobserved : ∀ {name}, exchange.keyName crates.toStr keys = some name →
      observed name = false := by
    intro name named
    have same := hidden
    rw [Exchange.ownedBy, ClientRequest.ownedBy,
      show exchange.request.keyName crates.toStr keys = some name from named] at same
    exact same
  have kept := AgreeOn.refl observed steady
  cases outcome with
  | idle => exact kept
  | retried ms calling => exact kept.metrics _ _
  | gaveUp message calling => exact kept.metrics _ _
  | passedThrough message calling other => exact kept.metrics _ _
  | streamed response clock calling => exact kept.metrics _ _
  | reads calling success => exact kept.metrics _ _
  | called sleeping => exact kept
  | unreadable message reading => exact kept.metrics _ _
  | @served job response headers body secs reading =>
      cases bufferedUsage crates.json body with
      | none => exact kept
      | some usage =>
          have named := (coherent.job job (Exchange.job_of_reading reading)).1
          exact AgreeOn.account_hidden crates.governor steady (unobserved named) usage secs
  | polled context relayed => exact kept
  | cancelled running => exact kept
  | released relayed => exact kept
  | @settled task summary later secs relayed unsettled reported =>
      have named := (coherent.relay task relayed).1
      dsimp only
      rw [AppState.accountStream]
      cases summary.usage with
      | none => cases summary.outcome <;> exact kept.metrics _ _
      | some usage =>
          have accounted : AgreeOn observed (app.account task.keyName usage secs) app :=
            AgreeOn.account_hidden crates.governor steady (unobserved named) usage secs
          cases summary.outcome <;> exact accounted.metrics _ _

end AppState

/-! ## An arrival -/

namespace AppState

variable {σ γ : Type} (crates : Crates γ) {observed : String → Bool} {left right : AppState σ γ}

/-- The request limit of a key that is observed. -/
theorem AgreeOn.checkRpm (agree : AgreeOn observed left right) {key : String}
    (membership : observed key = true) (now : Nat) :
    (left.limits.checkRpm crates.governor key now).1 =
        (right.limits.checkRpm crates.governor key now).1 ∧
      AgreeOn observed
        { left with limits := (left.limits.checkRpm crates.governor key now).2 }
        { right with limits := (right.limits.checkRpm crates.governor key now).2 } := by
  have ofLeft := left.stores.call_account crates.governor key (.checkRpm now)
  have ofRight := right.stores.call_account crates.governor key (.checkRpm now)
  rw [← agree.account key membership] at ofRight
  constructor
  · exact KeyResult.checkRpm.inj (ofLeft.1.trans ofRight.1.symm)
  · constructor
    · exact agree.steady
    · exact agree.router
    · exact agree.keys
    · intro other otherMembership
      by_cases same : key = other
      · subst same
        exact ofLeft.2.trans ofRight.2.symm
      · have kept : ∀ app : AppState σ γ, (app.stores.call crates.governor
            ⟨key, .checkRpm now⟩).2.account other = app.stores.account other := fun app =>
          app.stores.account_call_of_ne crates.governor same
        have keptLeft := kept left
        have keptRight := kept right
        exact keptLeft.trans ((agree.account other otherMembership).trans keptRight.symm)

/-- A request of a key that is observed is treated alike. -/
theorem AgreeOn.chatCompletions (agree : AgreeOn observed left right) {request : ClientRequest}
    (owned : request.ownedBy crates.toStr left.keys observed = true) (clock : Clock) :
    SameResult (AgreeOn observed) (left.chatCompletions crates request clock)
      (right.chatCompletions crates request clock) := by
  rw [ClientRequest.ownedBy, ClientRequest.keyName] at owned
  rw [AppState.chatCompletions, AppState.chatCompletions, admission, admission]
  cases known : AuthedKey.fromRequestParts crates.toStr left.keys request.authorization with
  | error error =>
      rw [known] at owned
      cases owned
  | ok identity =>
      have knownRight : AuthedKey.fromRequestParts crates.toStr right.keys
          request.authorization = .ok identity := by rw [← agree.keys, known]
      rw [known] at owned
      rw [knownRight]
      rcases agree.checkRpm crates owned clock.nanos with ⟨sameChecked, agreed⟩
      dsimp only
      rw [← sameChecked]
      cases (left.limits.checkRpm crates.governor identity.name clock.nanos).1 with
      | error exceeded =>
          dsimp only
          exact ⟨rfl, agreed.metrics _ _⟩
      | ok allowed =>
          have routed : ∀ router : Router σ, router.policy.Steady → AgreeOn observed
              { left with
                limits := (left.limits.checkRpm crates.governor identity.name clock.nanos).2
                router }
              { right with
                limits := (right.limits.checkRpm crates.governor identity.name clock.nanos).2
                router } := fun router steady => ⟨steady, rfl, agreed.keys, agreed.account⟩
          cases empty : (CompletionRequest.fromSlice crates.json request.body).model.isEmpty with
          | true =>
              simp only [if_true]
              exact ⟨rfl, agreed⟩
          | false =>
              simp only [Bool.false_eq_true, if_false, ← agree.router]
              have steady := agree.steady
              rw [← left.router.route_steady steady
                (.new (CompletionRequest.fromSlice crates.json request.body).model)
                identity.enforcePrivate] at steady
              cases (left.router.route
                (.new (CompletionRequest.fromSlice crates.json request.body).model)
                identity.enforcePrivate).1 with
              | error error => exact ⟨rfl, routed _ steady⟩
              | ok backend => exact ⟨rfl, routed _ steady⟩

/-- A request of another key, or of no key, leaves what agrees as it was. -/
theorem chatCompletions_hidden {app : AppState σ γ} (steady : app.router.policy.Steady)
    {request : ClientRequest} (hidden : request.ownedBy crates.toStr app.keys observed = false)
    (clock : Clock) : AgreeOn observed (app.chatCompletions crates request clock).1 app := by
  have limited : ∀ {identity : KeyIdentity} {router : Router σ} {metrics : MetricsHandle},
      AuthedKey.fromRequestParts crates.toStr app.keys request.authorization = .ok identity →
        router = app.router →
          AgreeOn observed
            { app with
              limits := (app.limits.checkRpm crates.governor identity.name clock.nanos).2
              router, metrics } app := by
    intro identity router metrics known same
    rw [ClientRequest.ownedBy, ClientRequest.keyName, known] at hidden
    refine ⟨same ▸ steady, same, rfl, fun key membership => ?_⟩
    have different : identity.name ≠ key := by
      rintro rfl
      exact absurd membership (Bool.eq_false_iff.mp hidden)
    exact app.stores.account_call_of_ne crates.governor
      (show (⟨identity.name, .checkRpm clock.nanos⟩ : KeyCall).key ≠ key from different)
  have spec := admission_spec crates app request clock
  rw [AppState.chatCompletions]
  generalize app.admission crates request clock = admission at spec
  cases spec with
  | unauthorized refused => exact .refl observed steady
  | limited known refused => exact limited known rfl
  | noModel known allowed refused => exact limited known rfl
  | unroutable known allowed present refused => exact limited known (Router.route_steady steady _ _)
  | admitted known allowed present routed => exact limited known (Router.route_steady steady _ _)

end AppState

/-! ## Runs -/

namespace Gateway

variable {σ γ : Type} {crates : Crates γ} {keys : KeyStore} {observed : String → Bool}

/-- The observer cannot tell states that agree apart, and requests that it does not see leave
them in agreement. -/
structure Confined (crates : Crates γ) (keys : KeyStore) (observed : String → Bool)
    (agrees : AppState σ γ → AppState σ γ → Prop) : Prop where
  hiddenArrival : ∀ {left right : AppState σ γ} {request : ClientRequest},
    left.keys = keys → agrees left right →
      request.ownedBy crates.toStr keys observed = false → ∀ clock,
        agrees (left.chatCompletions crates request clock).1 right
  hiddenAction : ∀ {left right : AppState σ γ} {exchange : Exchange}
    {result : AppState σ γ × Exchange}, agrees left right →
      exchange.Coherent crates.toStr keys →
        exchange.ownedBy crates.toStr keys observed = false →
          left.Outcome crates exchange result → agrees result.1 right
  arrival : ∀ {left right : AppState σ γ} {request : ClientRequest},
    left.keys = keys → agrees left right →
      request.ownedBy crates.toStr keys observed = true → ∀ clock,
        AppState.SameResult agrees (left.chatCompletions crates request clock)
          (right.chatCompletions crates request clock)
  action : ∀ {left right : AppState σ γ}, agrees left right →
    ∀ (event : Event σ) (exchange : Exchange),
      AppState.SameResult agrees (event.act crates left exchange)
        (event.act crates right exchange)
  retuned : ∀ {left right : AppState σ γ}, agrees left right → ∀ state : σ,
    agrees { left with router := { left.router with state } }
      { right with router := { right.router with state } }

variable {agrees : AppState σ γ → AppState σ γ → Prop}

/-- A gateway with the exchanges that the observer sees in another one. -/
structure Follows (crates : Crates γ) (keys : KeyStore) (observed : String → Bool)
    (agrees : AppState σ γ → AppState σ γ → Prop) (whole own : Gateway σ γ) : Prop where
  sound : whole.Sound crates keys
  agree : agrees whole.app own.app
  exchanges : own.exchanges = whole.exchanges.filter (Exchange.ownedBy crates.toStr keys observed)

/-- An exchange keeps its request. -/
theorem act_evolves (crates : Crates γ) (app : AppState σ γ) (event : Event σ)
    (exchange : Exchange) : Exchange.Evolves exchange (event.act crates app exchange).2 := by
  cases event with
  | arrive request clock => exact .refl exchange
  | sent index result hash clock => exact (app.sent_spec exchange result hash clock).2
  | woke index => exact (app.woke_spec exchange).2
  | read index body secs => exact (app.read_spec crates exchange body secs).2
  | poll index context => exact (app.poll_spec crates exchange context).2
  | close index => exact (app.close_spec exchange).2
  | settle index secs => exact (app.settle_spec exchange secs).2
  | retune state => exact .refl exchange

theorem ownedBy_act (crates : Crates γ) (app : AppState σ γ) (event : Event σ)
    (exchange : Exchange) (observed : String → Bool) :
    (event.act crates app exchange).2.ownedBy crates.toStr keys observed =
      exchange.ownedBy crates.toStr keys observed := by
  rw [Exchange.ownedBy, (act_evolves crates app event exchange).request, Exchange.ownedBy]

/-- A request begins as an exchange of its owner. -/
theorem ownedBy_chatCompletions (crates : Crates γ) (app : AppState σ γ)
    (request : ClientRequest) (clock : Clock) :
    (app.chatCompletions crates request clock).2.ownedBy crates.toStr keys observed =
      request.ownedBy crates.toStr keys observed := by
  have spec := AppState.admission_spec crates app request clock
  rw [AppState.chatCompletions]
  generalize app.admission crates request clock = admission at spec
  cases spec <;> rfl

variable {whole own : Gateway σ γ} {event : Event σ}

/-- What is not seen changes nothing that is. -/
theorem Confined.hidden (confined : Confined crates keys observed agrees)
    (follows : whole.Follows crates keys observed agrees own)
    (unseen : whole.view crates keys observed event = none) :
    (whole.step crates event).Follows crates keys observed agrees own := by
  have sound := follows.sound.step event
  cases about : event.target with
  | none =>
      simp only [view, about] at unseen
      cases event with
      | arrive request clock =>
          have foreign : request.ownedBy crates.toStr keys observed = false := by
            simpa using unseen
          have arrived := confined.hiddenArrival follows.sound.sameKeys follows.agree foreign
            clock
          refine ⟨sound, arrived, ?_⟩
          rw [follows.exchanges, step, List.filter_append, List.filter_singleton,
            ownedBy_chatCompletions, foreign]
          exact (List.append_nil _).symm
      | retune state => cases unseen
      | _ => cases about
  | some index =>
      simp only [view, about, Option.map_eq_none_iff] at unseen
      rw [Event.step_of_target crates about, advance] at sound ⊢
      cases found : whole.exchanges[index]? with
      | none => exact follows
      | some exchange =>
          rw [found] at unseen sound
          have foreign : exchange.ownedBy crates.toStr keys observed = false := by
            simpa [Option.filter] using unseen
          have coherent := follows.sound.coherent exchange (List.mem_of_getElem? found)
          have outcome := whole.app.act_outcome crates coherent event
          refine ⟨sound, confined.hiddenAction follows.agree coherent foreign outcome, ?_⟩
          rw [follows.exchanges]
          symm
          apply Parts.filter_set_of_hidden found foreign
          rw [ownedBy_act, foreign]

/-- What is seen happens alike. -/
theorem Confined.seen (confined : Confined crates keys observed agrees)
    (follows : whole.Follows crates keys observed agrees own) {sight : Event σ}
    (visible : whole.view crates keys observed event = some sight) :
    (whole.step crates event).Follows crates keys observed agrees (own.step crates sight) := by
  have sound := follows.sound.step event
  cases about : event.target with
  | none =>
      simp only [view, about] at visible
      cases event with
      | arrive request clock =>
          rw [Option.ite_none_right_eq_some] at visible
          rcases visible with ⟨owned, same⟩
          cases same
          have arrived := confined.arrival follows.sound.sameKeys follows.agree owned clock
          refine ⟨sound, arrived.2, ?_⟩
          simp only [step, List.filter_append, List.filter_singleton, ownedBy_chatCompletions,
            owned, follows.exchanges, ← arrived.1, cond_true]
      | retune state =>
          cases visible
          exact ⟨sound, confined.retuned follows.agree state, follows.exchanges⟩
      | _ => cases about
  | some index =>
      simp only [view, about, Option.map_eq_some_iff] at visible
      rcases visible with ⟨exchange, found, rfl⟩
      rw [Option.filter_eq_some_iff] at found
      rcases found with ⟨found, owned⟩
      have foundOwn : own.exchanges[Parts.rank
          (Exchange.ownedBy crates.toStr keys observed) whole.exchanges index]? =
            some exchange := by
        rw [follows.exchanges]
        exact Parts.getElem?_rank found owned
      have acted := confined.action follows.agree event exchange
      rw [Event.step_of_target crates (Event.target_aim about _), Event.act_aim, advance,
        foundOwn]
      rw [Event.step_of_target crates about, advance, found] at sound ⊢
      refine ⟨sound, acted.2, ?_⟩
      dsimp only
      rw [← acted.1, follows.exchanges]
      symm
      apply Parts.filter_set_of_seen found owned
      rw [ownedBy_act, owned]

theorem Confined.shadow (confined : Confined crates keys observed agrees) :
    Shadow (step (σ := σ) crates) (view crates keys observed) (step crates)
      (Follows crates keys observed agrees) where
  hidden follows unseen := confined.hidden follows unseen
  seen follows visible := confined.seen follows visible

/-- The run of what is seen follows the run. -/
theorem Confined.run {app : AppState σ γ} (confined : Confined crates app.keys observed agrees)
    (initially : agrees app app) (events : List (Event σ)) :
    ((start app).run crates events).Follows crates app.keys observed agrees
      ((start app).run crates
        (sights (step crates) (view crates app.keys observed) (start app) events)) := by
  have atStart : (start app).Follows crates app.keys observed agrees (start app) :=
    ⟨sound_start crates app, initially, rfl⟩
  exact confined.shadow.run atStart events

/-! ### Other keys -/

theorem confined_agreeOn (crates : Crates γ) (keys : KeyStore) (observed : String → Bool) :
    Confined (σ := σ) crates keys observed (AppState.AgreeOn observed) where
  hiddenArrival := by
    intro left right request sameKeys agree hidden clock
    subst sameKeys
    exact (AppState.chatCompletions_hidden crates agree.steady hidden clock).trans agree
  hiddenAction agree coherent hidden outcome :=
    (outcome.agree_hidden crates agree.steady coherent hidden).trans agree
  arrival := by
    intro left right request sameKeys agree owned clock
    subst sameKeys
    exact agree.chatCompletions crates owned clock
  action agree event exchange := agree.act crates event exchange
  retuned agree state :=
    ⟨agree.steady, by rw [agree.router], agree.keys, agree.account⟩

/-- **Isolation.**  Over a policy whose choices leave no trace, a gateway that only has
the events that an observer of some keys sees goes through the same exchanges for these
keys, one by one, and ends with the same limits and counters for them, whatever the other
clients do. -/
theorem run_isolated (crates : Crates γ) (app : AppState σ γ)
    (steady : app.router.policy.Steady) (observed : String → Bool) (events : List (Event σ)) :
    let seen := sights (step crates) (view crates app.keys observed) (start app) events
    let whole := (start app).run crates events
    let own := (start app).run crates seen
    own.exchanges = whole.exchanges.filter (Exchange.ownedBy crates.toStr app.keys observed) ∧
      ∀ key, observed key = true →
        own.app.stores.account key = whole.app.stores.account key := by
  intro seen whole own
  have follows := (confined_agreeOn crates app.keys observed).run (.refl observed steady) events
  constructor
  · exact follows.exchanges
  · intro key membership
    exact (follows.agree.account key membership).symm

end Gateway

namespace Sample

/-- The sample server with a second key, which may leave. -/
def twoKeys : AppState Unit Unit :=
  .ofConfig { config with
    virtualKeys := [devKey, { name := "ops", key := ⟨"sk-ops"⟩, enforcePrivate := false }] }
    .staticPriority () budget limits .new

/-- Requests of both keys are served at once, and one without a key comes before them. -/
def neighbours : List (Event Unit) :=
  [.arrive { request with authorization := none } clock,
    .arrive { request with authorization := some (fromStatic "Bearer sk-ops") } clock,
    .arrive request clock, .sent 1 (.ok success) 7 clock, .sent 2 (.ok success) 7 clock,
    .read 1 (.ok completion) 1000, .read 2 (.ok completion) 1000]

end Sample

namespace Gateway

variable {σ γ : Type} {crates : Crates γ} {keys : KeyStore}

theorem run_isolated_neighbours :
    let seen := sights (step Sample.crates) (view Sample.crates Sample.twoKeys.keys (· == "dev"))
      (start Sample.twoKeys) Sample.neighbours
    let whole := (start Sample.twoKeys).run Sample.crates Sample.neighbours
    let own := (start Sample.twoKeys).run Sample.crates seen
    own.exchanges = whole.exchanges.filter
        (Exchange.ownedBy Sample.crates.toStr Sample.twoKeys.keys (· == "dev")) ∧
      ∀ key, (key == "dev") = true →
        own.app.stores.account key = whole.app.stores.account key :=
  run_isolated Sample.crates Sample.twoKeys Policy.staticPriority_steady (· == "dev") _

example : sights (step Sample.crates)
      (view Sample.crates Sample.twoKeys.keys (· == "dev")) (start Sample.twoKeys)
      Sample.neighbours =
    [.arrive Sample.request Sample.clock, .sent 0 (.ok Sample.success) 7 Sample.clock,
      .read 0 (.ok Sample.completion) 1000] := by
  rfl

/-! ### Strangers -/

/-- Nothing comes of a request without a known key. -/
theorem outcome_of_stranger {app : AppState σ γ} {exchange : Exchange}
    (coherent : exchange.Coherent crates.toStr keys)
    (stranger : exchange.keyName crates.toStr keys = none) {result : AppState σ γ × Exchange}
    (outcome : app.Outcome crates exchange result) : result = (app, exchange) := by
  have noJob : ∀ {job}, exchange.phase.job ≠ some job := by
    intro job running
    rw [(coherent.job job running).1] at stranger
    cases stranger
  have noRelay : ∀ {task}, exchange.relay ≠ some task := by
    intro task relayed
    rw [(coherent.relay task relayed).1] at stranger
    cases stranger
  cases outcome with
  | idle => rfl
  | retried ms calling => exact absurd (Exchange.job_of_calling calling) noJob
  | gaveUp message calling => exact absurd (Exchange.job_of_calling calling) noJob
  | passedThrough message calling other => exact absurd (Exchange.job_of_calling calling) noJob
  | streamed response clock calling => exact absurd (Exchange.job_of_calling calling) noJob
  | reads calling success => exact absurd (Exchange.job_of_calling calling) noJob
  | called sleeping => exact absurd (Exchange.job_of_sleeping sleeping) noJob
  | unreadable message reading => exact absurd (Exchange.job_of_reading reading) noJob
  | served headers body secs reading => exact absurd (Exchange.job_of_reading reading) noJob
  | polled context relayed => exact absurd relayed noRelay
  | cancelled running => exact absurd running noJob
  | released relayed => exact absurd relayed noRelay
  | settled secs relayed unsettled reported => exact absurd relayed noRelay

theorem confined_eq (crates : Crates γ) (keys : KeyStore) :
    Confined (σ := σ) crates keys (fun _ => true) Eq where
  hiddenArrival := by
    intro left right request sameKeys agree hidden clock
    subst sameKeys agree
    have stranger : request.keyName crates.toStr left.keys = none := by
      simpa [ClientRequest.ownedBy] using hidden
    have spec := AppState.admission_spec crates left request clock
    rw [AppState.chatCompletions]
    rw [ClientRequest.keyName] at stranger
    generalize left.admission crates request clock = admission at spec
    cases spec with
    | unauthorized refused => rfl
    | limited known refused => simp [known] at stranger
    | noModel known allowed refused => simp [known] at stranger
    | unroutable known allowed present refused => simp [known] at stranger
    | admitted known allowed present routed => simp [known] at stranger
  hiddenAction := by
    intro left right exchange result agree coherent hidden outcome
    have stranger : exchange.request.keyName crates.toStr keys = none := by
      simpa [Exchange.ownedBy, ClientRequest.ownedBy] using hidden
    rw [outcome_of_stranger coherent stranger outcome]
    exact agree
  arrival := by
    intro left right request sameKeys agree owned clock
    subst agree
    exact ⟨rfl, rfl⟩
  action := by
    intro left right agree event exchange
    subst agree
    exact ⟨rfl, rfl⟩
  retuned agree state := by rw [agree]

/-- **Strangers.**  Requests without a known key, and whatever happens to them, can be left
out of a run: the shared state, with all stores, metrics and latencies, ends up the same,
and so do all other exchanges. -/
theorem run_without_strangers (crates : Crates γ) (app : AppState σ γ)
    (events : List (Event σ)) :
    let seen := sights (step crates) (view crates app.keys fun _ => true) (start app) events
    let whole := (start app).run crates events
    let own := (start app).run crates seen
    own.app = whole.app ∧
      own.exchanges = whole.exchanges.filter fun exchange =>
        (exchange.keyName crates.toStr app.keys).isSome := by
  intro seen whole own
  have follows := (confined_eq crates app.keys).run rfl events
  constructor
  · exact follows.agree.symm
  · rw [follows.exchanges]
    apply List.filter_congr
    intro exchange _
    rw [Exchange.ownedBy, ClientRequest.ownedBy, Exchange.keyName]
    cases exchange.request.keyName crates.toStr app.keys <;> rfl

end Gateway

end Patchbay
