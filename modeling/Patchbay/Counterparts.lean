import Patchbay.Ewma
import Patchbay.Outcomes

/-!
# Counterparts

Two gateways over tables that list the same backends, apart from where they are and which
keys open them, with policies that choose alike and clients that are told apart alike, go
through the same runs.  What clients see, what is recorded and how long is waited is the
same; only the calls go elsewhere.
-/

namespace Patchbay

/-! ## Moving backends -/

/-- A change of backends that routing cannot notice. -/
structure Backend.Moves (move : Backend → Backend) : Prop where
  name : ∀ backend, (move backend).name = backend.name
  models : ∀ backend, (move backend).models = backend.models
  capabilityTags : ∀ backend, (move backend).capabilityTags = backend.capabilityTags
  privacy : ∀ backend, (move backend).privacy = backend.privacy

theorem Backend.moves_id : Backend.Moves id :=
  ⟨fun _ => rfl, fun _ => rfl, fun _ => rfl, fun _ => rfl⟩

/-- How a gateway is told in terms of another: its backends are moved, and its clients
identify themselves in another way. -/
structure Translation where
  backend : Backend → Backend
  request : ClientRequest → ClientRequest
  moves : Backend.Moves backend
  body : ∀ original, (request original).body = original.body

/-- Only backends are moved. -/
def Translation.ofMoves {move : Backend → Backend} (moves : Backend.Moves move) :
    Translation where
  backend := move
  request := id
  moves := moves
  body _ := rfl

section

variable (t : Translation)

def Call.moved (call : Call) : Call := { call with backend := t.backend call.backend }

def Job.moved (job : Job) : Job := { job with backend := t.backend job.backend }

def Phase.moved : Phase → Phase
  | .calling job attempt => .calling (job.moved t) attempt
  | .sleeping job attempt => .sleeping (job.moved t) attempt
  | .reading job response => .reading (job.moved t) response
  | .answered response => .answered response
  | .cancelled => .cancelled

/-- The same exchange with another request and other backends. -/
def Exchange.moved (exchange : Exchange) : Exchange :=
  { exchange with
    request := t.request exchange.request
    phase := exchange.phase.moved t
    calls := exchange.calls.map (Call.moved t) }

end

namespace Exchange

variable {t : Translation} (exchange : Exchange) (job : Job)

theorem moved_call (attempt : Nat) :
    (exchange.moved t).call (job.moved t) attempt = (exchange.call job attempt).moved t := by
  simp only [call, moved, Phase.moved, List.map_append, List.map_singleton]
  rfl

end Exchange

/-! ## Policies that choose alike -/

variable {σ τ γ : Type}

/-- Whenever the states correspond, the second policy chooses among moved candidates as the
first one chooses among the original ones. -/
def Policy.ChoosesAs (move : Backend → Backend) (matched : σ → τ → Prop) (first : Policy σ)
    (second : Policy τ) : Prop :=
  ∀ left right, matched left right → ∀ candidates,
    (second.choose right (candidates.map move)).1 = (first.choose left candidates).1 ∧
      matched (first.choose left candidates).2 (second.choose right (candidates.map move)).2

/-- Routers with the same backends, moved, and policies that choose alike. -/
structure Router.Counterpart (move : Backend → Backend) (matched : σ → τ → Prop)
    (left : Router σ) (right : Router τ) : Prop where
  backends : right.backends = left.backends.map move
  policy : left.policy.ChoosesAs move matched right.policy
  state : matched left.state right.state

namespace Router

variable {move : Backend → Backend} {matched : σ → τ → Prop} {left : Router σ}
  {right : Router τ}

theorem gather_map (moves : Backend.Moves move) {P : PrivacyClass} (query : TypedQuery P)
    (backends : List Backend) :
    (Candidates.gather query (backends.map move)).items =
      (Candidates.gather query backends).items.map move := by
  have eligible : query.eligible ∘ move = query.eligible := by
    funext backend
    simp only [Function.comp_apply, TypedQuery.eligible, Backend.servesModel,
      Backend.hasCapabilityTags, moves.models, moves.capabilityTags, moves.privacy]
  change (backends.map move).filter query.eligible = (backends.filter query.eligible).map move
  rw [List.filter_map, eligible]

theorem Counterpart.resolve (counterpart : left.Counterpart move matched right)
    (moves : Backend.Moves move) {P : PrivacyClass} (query : TypedQuery P) :
    (right.resolve query).1 = (left.resolve query).1.map move ∧
      (left.resolve query).2.Counterpart move matched (right.resolve query).2 := by
  have items := gather_map moves query left.backends
  rcases counterpart.policy left.state right.state counterpart.state
    (Candidates.gather query left.backends).items with ⟨sameChoice, sameState⟩
  rw [← items] at sameChoice sameState
  constructor
  · simp only [Router.resolve, Candidates.select, counterpart.backends, sameChoice]
    cases (left.policy.choose left.state (Candidates.gather query left.backends).items).1 with
    | none => rfl
    | some index =>
        by_cases inBounds : index < (Candidates.gather query left.backends).items.length
        · have inBoundsRight :
              index < (Candidates.gather query (left.backends.map move)).items.length := by
            rw [items, List.length_map]
            exact inBounds
          have chosen : (Candidates.gather query (left.backends.map move)).items[index] =
              move (Candidates.gather query left.backends).items[index] := by
            simp only [items, List.getElem_map]
          simp only [Option.bind_some, inBounds, inBoundsRight, dif_pos, chosen]
          rfl
        · have outside :
              ¬ index < (Candidates.gather query (left.backends.map move)).items.length := by
            rw [items, List.length_map]
            exact inBounds
          simp only [Option.bind_some, inBounds, outside, dif_neg, not_false_eq_true]
          rfl
  · constructor
    · exact counterpart.backends
    · exact counterpart.policy
    · simp only [Router.resolve, Candidates.select, counterpart.backends]
      exact sameState

theorem Counterpart.route (counterpart : left.Counterpart move matched right)
    (moves : Backend.Moves move) (query : RouteQuery) (markPrivate : Bool) :
    (right.route query markPrivate).1 = (left.route query markPrivate).1.map move ∧
      (left.route query markPrivate).2.Counterpart move matched
        (right.route query markPrivate).2 := by
  cases markPrivate with
  | true => exact counterpart.resolve moves (P := .Private) { query }
  | false => exact counterpart.resolve moves (P := .Shareable) { query }

end Router

/-! ## States -/

/-- The same stores, with routers that are counterparts. -/
structure AppState.Counterpart (toStr : Bytes → Option String) (t : Translation)
    (matched : σ → τ → Prop) (left : AppState σ γ) (right : AppState τ γ) : Prop where
  router : left.router.Counterpart t.backend matched right.router
  upstream : right.upstream = left.upstream
  identified : ∀ request : ClientRequest,
    AuthedKey.fromRequestParts toStr right.keys (t.request request).authorization =
      AuthedKey.fromRequestParts toStr left.keys request.authorization
  budget : right.budget = left.budget
  limits : right.limits = left.limits
  metrics : right.metrics = left.metrics

namespace AppState

variable {toStr : Bytes → Option String} {t : Translation} {matched : σ → τ → Prop}
  {left : AppState σ γ} {right : AppState τ γ} {crates : Crates γ} {exchange : Exchange}

/-- Results of one action on an exchange and on its counterpart. -/
def MovedResult (toStr : Bytes → Option String) (t : Translation) (matched : σ → τ → Prop)
    (left : AppState σ γ × Exchange) (right : AppState τ γ × Exchange) : Prop :=
  left.1.Counterpart toStr t matched right.1 ∧ right.2 = left.2.moved t

namespace Counterpart

theorem record (counterpart : left.Counterpart toStr t matched right)
    (change : MetricsHandle → MetricsHandle) :
    Counterpart toStr t matched { left with metrics := change left.metrics }
      { right with metrics := change right.metrics } :=
  { counterpart with metrics := congrArg change counterpart.metrics }

theorem account (counterpart : left.Counterpart toStr t matched right) (keyName : String)
    (usage : Usage) (secs : UInt64) :
    (left.account keyName usage secs).Counterpart toStr t matched
      (right.account keyName usage secs) :=
  { counterpart with
    budget := congrArg (fun ledger => ledger.record keyName usage) counterpart.budget
    limits := congrArg (fun limits => (limits.recordTpm keyName usage.totalTokens secs).2)
      counterpart.limits
    metrics := congrArg (fun metrics => metrics.recordTokens keyName usage)
      counterpart.metrics }

theorem accountStream (counterpart : left.Counterpart toStr t matched right) (task : RelayTask)
    (summary : RelaySummary) (secs : UInt64) :
    (left.accountStream task summary secs).Counterpart toStr t matched
      (right.accountStream task summary secs) := by
  have counted : ∀ {first : AppState σ γ} {second : AppState τ γ},
      first.Counterpart toStr t matched second →
        Counterpart toStr t matched
          { first with metrics := first.metrics.recordUpstreamError task.backendName }
          { second with metrics := second.metrics.recordUpstreamError task.backendName } :=
    fun same => same.record fun metrics => metrics.recordUpstreamError task.backendName
  rw [AppState.accountStream, AppState.accountStream]
  cases summary.usage with
  | none =>
      cases summary.outcome with
      | completed => exact counterpart
      | upstreamError message => exact counted counterpart
      | stalled => exact counted counterpart
      | clientDisconnected => exact counterpart
  | some usage =>
      have accounted := counterpart.account task.keyName usage secs
      cases summary.outcome with
      | completed => exact accounted
      | upstreamError message => exact counted accounted
      | stalled => exact counted accounted
      | clientDisconnected => exact accounted

theorem sent (counterpart : left.Counterpart toStr t matched right)
    (result : HttpResult) (hash : UInt64) (clock : Clock) :
    MovedResult toStr t matched (left.sent exchange result hash clock)
      (right.sent (exchange.moved t) result hash clock) := by
  have errors : ∀ backend, Counterpart toStr t matched
      { left with metrics := left.metrics.recordUpstreamError backend }
      { right with metrics := right.metrics.recordUpstreamError backend } :=
    fun backend => counterpart.record fun metrics => metrics.recordUpstreamError backend
  have requests : ∀ {first : AppState σ γ} {second : AppState τ γ},
      first.Counterpart toStr t matched second → ∀ backend model status,
        Counterpart toStr t matched
          { first with metrics := first.metrics.recordRequest backend model status }
          { second with metrics := second.metrics.recordRequest backend model status } :=
    fun same backend model status =>
      same.record fun metrics => metrics.recordRequest backend model status
  unfold AppState.sent
  rcases exchange with ⟨request, phase, calls, waits, relay⟩
  cases phase with
  | calling job attempt =>
      have received : UpstreamClient.receive (t.backend job.backend) result =
          UpstreamClient.receive job.backend result := by
        cases result with
        | error message => rfl
        | ok response => rw [UpstreamClient.receive, t.moves.name, UpstreamClient.receive]
      simp only [Exchange.moved, Phase.moved, Job.moved, received, t.moves.name]
      cases UpstreamClient.receive job.backend result with
      | error error =>
          dsimp only
          cases error.isRetryable with
          | false => exact ⟨errors _, rfl⟩
          | true =>
              simp only [Bool.not_true, Bool.false_eq_true, if_false, retry]
              split
              · exact ⟨errors _, rfl⟩
              · rw [t.moves.name]
                exact ⟨requests (errors _) _ _ _, rfl⟩
      | ok response =>
          simp only [handOver]
          split
          · refine ⟨requests counterpart _ _ _, ?_⟩
            simp only [streamResponse, t.moves.name]
            rfl
          · exact ⟨requests counterpart _ _ _, rfl⟩
  | sleeping job attempt => exact ⟨counterpart, rfl⟩
  | reading job response => exact ⟨counterpart, rfl⟩
  | answered response => exact ⟨counterpart, rfl⟩
  | cancelled => exact ⟨counterpart, rfl⟩

theorem woke (counterpart : left.Counterpart toStr t matched right) :
    MovedResult toStr t matched (left.woke exchange) (right.woke (exchange.moved t)) := by
  unfold AppState.woke
  rcases exchange with ⟨request, phase, calls, waits, relay⟩
  cases phase with
  | sleeping job attempt =>
      exact ⟨counterpart, Exchange.moved_call ⟨request, _, calls, waits, relay⟩ job attempt⟩
  | calling job attempt => exact ⟨counterpart, rfl⟩
  | reading job response => exact ⟨counterpart, rfl⟩
  | answered response => exact ⟨counterpart, rfl⟩
  | cancelled => exact ⟨counterpart, rfl⟩

theorem read (counterpart : left.Counterpart toStr t matched right)
    (crates : Crates γ) (body : Except String Bytes) (secs : UInt64) :
    MovedResult toStr t matched (left.read crates exchange body secs)
      (right.read crates (exchange.moved t) body secs) := by
  unfold AppState.read
  rcases exchange with ⟨request, phase, calls, waits, relay⟩
  cases phase with
  | reading job response =>
      cases body with
      | error message =>
          simp only [Exchange.moved, Phase.moved, Job.moved, t.moves.name]
          exact ⟨counterpart.record fun metrics => metrics.recordUpstreamError job.backend.name,
            rfl⟩
      | ok body =>
          simp only [Exchange.moved, Phase.moved, Job.moved]
          cases bufferedUsage crates.json body with
          | none => exact ⟨counterpart, rfl⟩
          | some usage => exact ⟨counterpart.account job.keyName usage secs, rfl⟩
  | calling job attempt => exact ⟨counterpart, rfl⟩
  | sleeping job attempt => exact ⟨counterpart, rfl⟩
  | answered response => exact ⟨counterpart, rfl⟩
  | cancelled => exact ⟨counterpart, rfl⟩

theorem poll (counterpart : left.Counterpart toStr t matched right) (crates : Crates γ)
    (context : PollContext) :
    MovedResult toStr t matched (left.poll crates exchange context)
      (right.poll crates (exchange.moved t) context) := by
  unfold AppState.poll
  rcases exchange with ⟨request, phase, calls, waits, relay⟩
  cases relay with
  | none => exact ⟨counterpart, rfl⟩
  | some task =>
      dsimp only [Exchange.moved]
      split
      · exact ⟨counterpart, rfl⟩
      · exact ⟨counterpart, rfl⟩

theorem close (counterpart : left.Counterpart toStr t matched right) :
    MovedResult toStr t matched (left.close exchange) (right.close (exchange.moved t)) := by
  refine ⟨counterpart, ?_⟩
  rcases exchange with ⟨request, phase, calls, waits, relay⟩
  cases phase <;> rfl

theorem settle (counterpart : left.Counterpart toStr t matched right) (secs : UInt64) :
    MovedResult toStr t matched (left.settle exchange secs)
      (right.settle (exchange.moved t) secs) := by
  unfold AppState.settle
  rcases exchange with ⟨request, phase, calls, waits, relay⟩
  cases relay with
  | none => exact ⟨counterpart, rfl⟩
  | some task =>
      dsimp only [Exchange.moved]
      split
      · exact ⟨counterpart, rfl⟩
      · split
        · exact ⟨counterpart, rfl⟩
        · exact ⟨counterpart.accountStream task _ secs, rfl⟩

/-- Admission sends both requests on to corresponding backends, or refuses both. -/
theorem chatCompletions (counterpart : left.Counterpart crates.toStr t matched right)
    (request : ClientRequest) (clock : Clock) :
    MovedResult crates.toStr t matched (left.chatCompletions crates request clock)
      (right.chatCompletions crates (t.request request) clock) := by
  have known := counterpart.identified request
  have checked : ∀ key, right.limits.checkRpm crates.governor key clock.nanos =
      left.limits.checkRpm crates.governor key clock.nanos := by
    intro key
    rw [counterpart.limits]
  rw [AppState.chatCompletions, AppState.chatCompletions, admission, admission, known, t.body]
  cases AuthedKey.fromRequestParts crates.toStr left.keys request.authorization with
  | error error => exact ⟨counterpart, rfl⟩
  | ok identity =>
      have limited : Counterpart crates.toStr t matched
          { left with
            limits := (left.limits.checkRpm crates.governor identity.name clock.nanos).2 }
          { right with
            limits := (left.limits.checkRpm crates.governor identity.name clock.nanos).2 } :=
        { counterpart with limits := rfl }
      dsimp only
      rw [checked]
      cases (left.limits.checkRpm crates.governor identity.name clock.nanos).1 with
      | error exceeded =>
          dsimp only
          exact ⟨limited.record fun metrics => metrics.recordRateLimitRejection identity.name,
            rfl⟩
      | ok allowed =>
          dsimp only
          cases (CompletionRequest.fromSlice crates.json request.body).model.isEmpty with
          | true => exact ⟨limited, rfl⟩
          | false =>
              rcases counterpart.router.route t.moves
                (.new (CompletionRequest.fromSlice crates.json request.body).model)
                identity.enforcePrivate with ⟨sameRoute, sameRouter⟩
              simp only [Bool.false_eq_true, if_false, sameRoute]
              cases (left.router.route
                (.new (CompletionRequest.fromSlice crates.json request.body).model)
                identity.enforcePrivate).1 with
              | error error => exact ⟨{ limited with router := sameRouter }, rfl⟩
              | ok backend => exact ⟨{ limited with router := sameRouter }, rfl⟩

end Counterpart

end AppState

/-! ## Runs -/

namespace Event

variable (rewrite : ClientRequest → ClientRequest) (retuned : σ → τ)

/-- The same event for a gateway with other clients over another policy. -/
def map : Event σ → Event τ
  | .arrive request clock => .arrive (rewrite request) clock
  | .sent index result hash clock => .sent index result hash clock
  | .woke index => .woke index
  | .read index body secs => .read index body secs
  | .poll index context => .poll index context
  | .close index => .close index
  | .settle index secs => .settle index secs
  | .retune state => .retune (retuned state)

theorem target_map (event : Event σ) :
    (event.map rewrite retuned).target = event.target := by
  cases event <;> rfl

theorem map_id (events : List (Event σ)) : events.map (Event.map id id) = events := by
  rw [List.map_congr_left (g := id), List.map_id]
  intro event _
  cases event <;> rfl

end Event

/-- Gateways with the same stores and the same exchanges, apart from where backends are. -/
structure Gateway.Counterpart (toStr : Bytes → Option String) (t : Translation)
    (matched : σ → τ → Prop) (left : Gateway σ γ) (right : Gateway τ γ) : Prop where
  app : left.app.Counterpart toStr t matched right.app
  exchanges : right.exchanges = left.exchanges.map (Exchange.moved t)

namespace Gateway

variable {toStr : Bytes → Option String} {t : Translation} {matched : σ → τ → Prop}
  {retuned : σ → τ} {left : Gateway σ γ} {right : Gateway τ γ} {crates : Crates γ}

/-- Counterparts act alike on an exchange. -/
theorem act_counterpart (crates : Crates γ) (retuned : σ → τ) {left : AppState σ γ}
    {right : AppState τ γ} (counterpart : left.Counterpart toStr t matched right)
    (event : Event σ) (exchange : Exchange) :
    AppState.MovedResult toStr t matched (event.act crates left exchange)
      ((event.map t.request retuned).act crates right (exchange.moved t)) := by
  cases event with
  | arrive request clock => exact ⟨counterpart, rfl⟩
  | sent index result hash clock => exact counterpart.sent result hash clock
  | woke index => exact counterpart.woke
  | read index body secs => exact counterpart.read crates body secs
  | poll index context => exact counterpart.poll crates context
  | close index => exact counterpart.close
  | settle index secs => exact counterpart.settle secs
  | retune state => exact ⟨counterpart, rfl⟩

/-- **Step.** -/
theorem Counterpart.step (counterpart : left.Counterpart crates.toStr t matched right)
    {event : Event σ}
    (tuned : ∀ state, event = .retune state → matched state (retuned state)) :
    (left.step crates event).Counterpart crates.toStr t matched
      (right.step crates (event.map t.request retuned)) := by
  cases about : event.target with
  | none =>
      cases event with
      | arrive request clock =>
          rcases counterpart.app.chatCompletions request clock with ⟨app, exchange⟩
          constructor
          · exact app
          · simp only [Gateway.step, Event.map, counterpart.exchanges, exchange, List.map_append,
              List.map_singleton]
      | retune state =>
          constructor
          · have router := counterpart.app.router
            exact { counterpart.app with
              router := ⟨router.backends, router.policy, tuned state rfl⟩ }
          · exact counterpart.exchanges
      | _ => cases about
  | some index =>
      have aboutRight := (event.target_map t.request retuned).trans about
      rw [Event.step_of_target crates about, Event.step_of_target crates aboutRight, advance,
        advance, counterpart.exchanges, List.getElem?_map]
      cases found : left.exchanges[index]? with
      | none => exact counterpart
      | some exchange =>
          rcases act_counterpart crates retuned counterpart.app event exchange with
            ⟨app, exchange⟩
          constructor
          · exact app
          · simp only [Option.map_some, exchange, List.map_set]

/-- **Run.** -/
theorem Counterpart.run (counterpart : left.Counterpart crates.toStr t matched right)
    {events : List (Event σ)}
    (tuned : ∀ state, .retune state ∈ events → matched state (retuned state)) :
    (left.run crates events).Counterpart crates.toStr t matched
      (right.run crates (events.map (Event.map t.request retuned))) := by
  induction events generalizing left right with
  | nil => exact counterpart
  | cons event events ih =>
      have stepped : (left.step crates event).Counterpart crates.toStr t matched
          (right.step crates (event.map t.request retuned)) := by
        apply counterpart.step
        rintro state rfl
        exact tuned state List.mem_cons_self
      exact ih stepped fun state membership => tuned state (List.mem_cons_of_mem _ membership)

end Gateway

/-! ## What opens backends -/

/-- A policy that knows backends by their names only. -/
def Policy.ByName (policy : Policy σ) : Prop :=
  ∀ state {left right : List Backend}, left.map Backend.name = right.map Backend.name →
    policy.choose state left = policy.choose state right

theorem Policy.staticPriority_byName : Policy.staticPriority.ByName := by
  intro state left right sameNames
  have sameEmpty : left.isEmpty = right.isEmpty := by
    rw [← List.isEmpty_map (f := Backend.name), sameNames, List.isEmpty_map]
  simp only [staticPriority, sameEmpty]

theorem Policy.ewmaLatency_byName : Policy.ewmaLatency.ByName := by
  intro ewma left right sameNames
  have scores : ∀ backends : List Backend, backends.map ewma.score =
      (backends.map Backend.name).map fun name => (ewma.latencyMs name).getD 0 := by
    intro backends
    rw [List.map_map]
    rfl
  simp only [ewmaLatency, EwmaLatency.choose, scores, sameNames]

/-- A policy that goes by names chooses among moved backends as before. -/
theorem Policy.ByName.choosesAs {policy : Policy σ} (byName : policy.ByName)
    {move : Backend → Backend} (moves : Backend.Moves move) :
    policy.ChoosesAs move Eq policy := by
  intro left right same candidates
  subst same
  have sameNames : (candidates.map move).map Backend.name = candidates.map Backend.name := by
    rw [List.map_map]
    apply List.map_congr_left
    intro backend _
    exact moves.name backend
  rw [byName left sameNames]
  exact ⟨rfl, rfl⟩

/-- A backend opened by another key. -/
def Backend.rekeyed (apiKey : Backend → Option Secret) (backend : Backend) : Backend :=
  { backend with apiKey := apiKey backend }

theorem Backend.moves_rekeyed (apiKey : Backend → Option Secret) :
    Backend.Moves (Backend.rekeyed apiKey) :=
  ⟨fun _ => rfl, fun _ => rfl, fun _ => rfl, fun _ => rfl⟩

/-- The same server over backends that other keys open. -/
def AppState.rekeyed (apiKey : Backend → Option Secret) (app : AppState σ γ) : AppState σ γ :=
  { app with
    router := { app.router with
      backends := app.router.backends.map (Backend.rekeyed apiKey) } }

/-- What the client of an exchange gets to know of it: the answer and the delays, and the
stream with its end. -/
structure Exchange.SameForClient (rewrite : ClientRequest → ClientRequest)
    (left right : Exchange) : Prop where
  request : right.request = rewrite left.request
  answer : ∀ response, right.phase = .answered response ↔ left.phase = .answered response
  waits : right.waits = left.waits
  relay : right.relay = left.relay

theorem Exchange.sameForClient_moved (t : Translation) (exchange : Exchange) :
    exchange.SameForClient t.request (exchange.moved t) where
  request := rfl
  answer response := by
    rcases exchange with ⟨request, phase, calls, waits, relay⟩
    cases phase with
    | answered other => exact Iff.rfl
    | calling job attempt => exact iff_of_false nofun nofun
    | sleeping job attempt => exact iff_of_false nofun nofun
    | reading job response => exact iff_of_false nofun nofun
    | cancelled => exact iff_of_false nofun nofun
  waits := rfl
  relay := rfl

/-- **Confinement.**  The API keys of the backends have no effect but on the calls
themselves: over a policy that goes by names, servers that differ in nothing else and whose
upstreams give the same results answer every request alike, after the same delays, make
calls to the same backends with the same payloads, and keep the same ledger, limits and
metrics.  Addresses are no secrets in this sense: the text of a transport error names the
URL that was called, and the client gets to see it. -/
theorem Gateway.secrets_confined (crates : Crates γ) (app : AppState σ γ)
    (byName : app.router.policy.ByName) (apiKey : Backend → Option Secret)
    (events : List (Event σ)) :
    let left := (start app).run crates events
    let right := (start (app.rekeyed apiKey)).run crates events
    List.Forall₂ (Exchange.SameForClient id) left.exchanges right.exchanges ∧
      right.exchanges.map Exchange.calls = left.exchanges.map (fun exchange =>
        exchange.calls.map fun call => { call with backend := call.backend.rekeyed apiKey }) ∧
      right.app.budget = left.app.budget ∧ right.app.limits = left.app.limits ∧
      right.app.metrics = left.app.metrics := by
  intro left right
  have moves := Backend.moves_rekeyed apiKey
  have atStart : (start app).Counterpart crates.toStr (.ofMoves moves) Eq
      (start (app.rekeyed apiKey)) :=
    ⟨⟨⟨rfl, byName.choosesAs moves, rfl⟩, rfl, fun _ => rfl, rfl, rfl, rfl⟩, rfl⟩
  have counterpart : left.Counterpart crates.toStr (.ofMoves moves) Eq right := by
    have ran : left.Counterpart crates.toStr (.ofMoves moves) Eq
        ((start (app.rekeyed apiKey)).run crates (events.map (Event.map id id))) :=
      atStart.run fun state _ => rfl
    rwa [Event.map_id] at ran
  refine ⟨?_, ?_, counterpart.app.budget, counterpart.app.limits, counterpart.app.metrics⟩
  · rw [show right.exchanges = _ from counterpart.exchanges, List.forall₂_map_right_iff]
    exact List.forall₂_same.mpr fun exchange _ =>
      exchange.sameForClient_moved (.ofMoves moves)
  · rw [show right.exchanges = _ from counterpart.exchanges, List.map_map]
    rfl

/-- The sample server, once with a key for its backends and once without. -/
theorem Gateway.secrets_confined_servedTwice :
    let apiKey : Backend → Option Secret := fun _ => some ⟨"sk-upstream"⟩
    let left := (start Sample.app).run Sample.crates Sample.servedTwice
    let right := (start (Sample.app.rekeyed apiKey)).run Sample.crates Sample.servedTwice
    List.Forall₂ (Exchange.SameForClient id) left.exchanges right.exchanges ∧
      right.exchanges.map Exchange.calls = left.exchanges.map (fun exchange =>
        exchange.calls.map fun call => { call with backend := call.backend.rekeyed apiKey }) ∧
      right.app.budget = left.app.budget ∧ right.app.limits = left.app.limits ∧
      right.app.metrics = left.app.metrics :=
  secrets_confined Sample.crates Sample.app Policy.staticPriority_byName _ _

end Patchbay
