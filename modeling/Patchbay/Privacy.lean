import Patchbay.Gateway

/-!
# End-to-end privacy

A configuration that was accepted decides where the requests of each of its keys
may go.  Every call the gateway makes keeps to that placement, whatever the
policy, the requests and the upstreams do.
-/

namespace Patchbay

variable {σ γ : Type} (crates : Crates γ)

/-- May this request be forwarded to this backend? -/
structure Placed (keys : KeyStore) (backends : List Backend) (request : ClientRequest)
    (backend : Backend) : Prop where
  configured : backend ∈ backends
  serves : request.model crates ∈ backend.models
  known : ∃ identity,
    AuthedKey.fromRequestParts crates.toStr keys request.authorization = .ok identity ∧
      (identity.enforcePrivate = true → backend.privacy = .Local)

/-- The job of an exchange and the calls it made are placed, and are about the
request's own body. -/
structure Exchange.WellPlaced (keys : KeyStore) (backends : List Backend)
    (exchange : Exchange) : Prop where
  job : ∀ job, exchange.phase.job = some job →
    Placed crates keys backends exchange.request job.backend ∧ job.body = exchange.request.body
  calls : ∀ call ∈ exchange.calls,
    Placed crates keys backends exchange.request call.backend ∧
      call.body = exchange.request.body

namespace Exchange

variable {crates} {keys : KeyStore} {backends : List Backend}

theorem WellPlaced.evolves {before after : Exchange} (evolves : Evolves before after)
    (placed : WellPlaced crates keys backends before) :
    WellPlaced crates keys backends after := by
  constructor
  · intro job found
    rw [evolves.request]
    exact placed.job job (evolves.job job found)
  · rw [evolves.request]
    rcases evolves.calls with same | ⟨job, running, another⟩
    · rw [same]
      exact placed.calls
    · rw [another]
      intro call membership
      rw [List.mem_append, List.mem_singleton] at membership
      rcases membership with earlier | rfl
      · exact placed.calls call earlier
      · exact placed.job job running

variable (crates) in
/-- A new exchange is placed: the router saw its key's privacy and its model. -/
theorem WellPlaced.arrives (app : AppState σ γ) (request : ClientRequest) (clock : Clock) :
    WellPlaced crates app.keys app.router.backends
      (app.chatCompletions crates request clock).2 := by
  have spec := AppState.admission_spec crates app request clock
  unfold AppState.chatCompletions
  generalize app.admission crates request clock = admission at spec
  have refused : ∀ response,
      WellPlaced crates app.keys app.router.backends (.refused request response) := by
    intro response
    constructor
    · intro job found
      cases found
    · intro call membership
      cases membership
  cases spec with
  | unauthorized unknown => exact refused _
  | limited known limited => exact refused _
  | noModel known allowed absent => exact refused _
  | unroutable known allowed present unroutable => exact refused _
  | @admitted identity backend known allowed present routed =>
      have placed : Placed crates app.keys app.router.backends request backend :=
        { configured := (Router.route_ok routed).1
          serves := (Router.route_ok routed).2
          known := ⟨identity, known, fun enforced => by
            rw [enforced] at routed
            exact Router.route_private routed⟩ }
      constructor
      · intro job found
        cases found
        exact ⟨placed, rfl⟩
      · intro call membership
        rw [List.mem_singleton.mp membership]
        exact ⟨placed, rfl⟩

end Exchange

/-- In every run, all exchanges are placed. -/
theorem Gateway.run_wellPlaced (app : AppState σ γ) (events : List (Event σ)) :
    ∀ exchange ∈ ((Gateway.start app).run crates events).exchanges,
      Exchange.WellPlaced crates app.keys app.router.backends exchange := by
  refine Gateway.run_forall crates events ?_ ?_ ?_
  · intro before after evolves
    exact .evolves evolves
  · intro later request clock frame
    have arrives := Exchange.WellPlaced.arrives crates later request clock
    rw [frame.keys, frame.backends] at arrives
    exact arrives
  · intro exchange membership
    cases membership

/-- A request with the secret of a private key is placed on local backends. -/
theorem Placed.isLocal {crates : Crates γ} {keys : List VirtualKey} {backends : List Backend}
    {request : ClientRequest} {backend : Backend}
    (placed : Placed crates (.fromVirtualKeys keys) backends request backend)
    (distinct : (keys.map (·.key.expose)).Nodup) {vk : VirtualKey} (membership : vk ∈ keys)
    (enforced : vk.enforcePrivate = true)
    (presented : request.token crates = some vk.key.expose) : backend.privacy = .Local := by
  rcases placed.known with ⟨identity, known, isLocal⟩
  have ownKey := AuthedKey.fromRequestParts_of_token presented
    (KeyStore.authenticate_fromVirtualKeys distinct membership)
  rw [ownKey] at known
  cases known
  exact isLocal enforced

/-- **End-to-end privacy.**  In every run over an accepted configuration, each call
made for a request with the secret of a private key goes to a configured local
backend that lists the request's model, and without such a backend no call is
made. -/
theorem private_calls_stay_local {reader : ConfigReader} {text : String} {env : Environment}
    {cfg : GatewayConfig} (accepted : GatewayConfig.fromTomlStr reader text env = .ok cfg)
    (policy : Policy σ) (state : σ) (budget : BudgetLedger) (limits : RateLimitStore γ)
    (metrics : MetricsHandle) (events : List (Event σ)) :
    ∀ exchange ∈ ((Gateway.start
        (.ofConfig cfg policy state budget limits metrics)).run crates events).exchanges,
      ∀ vk ∈ cfg.virtualKeys, vk.enforcePrivate = true →
        exchange.request.token crates = some vk.key.expose →
          (∀ call ∈ exchange.calls, call.backend ∈ cfg.backends ∧
            call.backend.privacy = .Local ∧
            exchange.request.model crates ∈ call.backend.models) ∧
          ((∀ backend ∈ cfg.backends, backend.privacy = .Local →
              exchange.request.model crates ∉ backend.models) →
            exchange.calls = []) := by
  intro exchange membership vk vkMembership enforced presented
  have placed := Gateway.run_wellPlaced crates
    (.ofConfig cfg policy state budget limits metrics) events exchange membership
  have distinct := fromTomlStr_secrets_nodup accepted
  have isLocal : ∀ call ∈ exchange.calls, call.backend ∈ cfg.backends ∧
      call.backend.privacy = .Local ∧
      exchange.request.model crates ∈ call.backend.models := by
    intro call callMembership
    have placement := (placed.calls call callMembership).1
    exact ⟨placement.configured, placement.isLocal distinct vkMembership enforced presented,
      placement.serves⟩
  constructor
  · exact isLocal
  · intro noBackend
    apply List.eq_nil_iff_forall_not_mem.mpr
    intro call callMembership
    have placement := isLocal call callMembership
    exact noBackend call.backend placement.1 placement.2.1 placement.2.2

open Sample in
/-- The retried request of the small gateway. -/
theorem private_calls_stay_local_of_dev :
    localCall.backend ∈ config.backends ∧ localCall.backend.privacy = .Local ∧
      request.model Sample.crates ∈ localCall.backend.models :=
  (private_calls_stay_local Sample.crates accepted .staticPriority () budget limits .new retriedOnce
    retriedExchange (retriedOnce_exchanges ▸ List.mem_singleton_self _) devKey (by decide) rfl
    (by decide +kernel)).1 localCall (by simp [retriedExchange])

/-! ## On the wire -/

/-- **Private bytes on the wire.**  The body of a private request is posted to the
URL of the selected local backend, and goes nowhere else exactly when the
backend's answers, as far as redirects are followed, pass it on to no other URL. -/
theorem private_body_stays_home_iff {reader : ConfigReader} {text : String}
    {env : Environment} {cfg : GatewayConfig}
    (accepted : GatewayConfig.fromTomlStr reader text env = .ok cfg)
    (policy : Policy σ) (state : σ) (budget : BudgetLedger) (limits : RateLimitStore γ)
    (metrics : MetricsHandle) (events : List (Event σ)) :
    let gateway := (Gateway.start
      (.ofConfig cfg policy state budget limits metrics)).run crates events
    ∀ exchange ∈ gateway.exchanges, ∀ vk ∈ cfg.virtualKeys, vk.enforcePrivate = true →
      exchange.request.token crates = some vk.key.expose →
        ∀ call ∈ exchange.calls, call.backend.privacy = .Local ∧
          call.body = exchange.request.body ∧
          ∀ answers : List HttpResult,
            ((∀ sent ∈ (gateway.app.upstream.openSse call answers).1,
                sent.body.isSome = true →
                  sent.target = call.backend.baseUrl ++ call.path) ↔
              Redirect.StaysAt (call.backend.baseUrl ++ call.path) 10
                (answers.map UpstreamClient.interpret)) := by
  intro gateway exchange membership vk vkMembership enforced presented call callMembership
  have placed := Gateway.run_wellPlaced crates
    (.ofConfig cfg policy state budget limits metrics) events exchange membership
  rcases placed.calls call callMembership with ⟨placement, sameBody⟩
  have isLocal := placement.isLocal (fromTomlStr_secrets_nodup accepted) vkMembership
    enforced presented
  have client : gateway.app.upstream = UpstreamClient.new :=
    (Gateway.run_frame crates (Gateway.start
      (.ofConfig cfg policy state budget limits metrics)) events).upstream
  refine ⟨isLocal, sameBody, ?_⟩
  intro answers
  rw [client]
  exact UpstreamClient.body_home_iff .new call answers

/-- A local backend that answers with a redirect to another host. -/
def redirecting : List HttpResult :=
  [.ok {
    status := ⟨307, by decide⟩
    location := some "https://collector.example.com/v1/chat/completions"
    contentType := none
    text := none
    stream := fun _ => .ready none }]

open Sample in
/-- For the retried request of the private key, the client follows a redirect of the
local backend and posts the payload to another host. -/
theorem private_body_leaves_home_on_redirect :
    ¬ ∀ exchange ∈ ((Gateway.start app).run Sample.crates retriedOnce).exchanges,
      ∀ vk ∈ config.virtualKeys, vk.enforcePrivate = true →
        exchange.request.token Sample.crates = some vk.key.expose →
          ∀ call ∈ exchange.calls, ∀ sent ∈ (app.upstream.openSse call redirecting).1,
            sent.body.isSome = true → sent.target = call.backend.baseUrl ++ call.path := by
  intro staysHome
  rw [retriedOnce_exchanges] at staysHome
  have target := staysHome retriedExchange (List.mem_singleton_self _) devKey (by decide) rfl
    (by decide +kernel) localCall (by simp [retriedExchange])
    { target := "https://collector.example.com/v1/chat/completions", body := some payload }
    (List.mem_cons_of_mem _ (List.mem_singleton_self _)) rfl
  exact absurd target (by decide)

open Sample in
/-- Without redirects the payload of the retried request stays home. -/
theorem private_body_stays_home_iff_of_dev :
    localCall.backend.privacy = .Local ∧
      ∀ sent ∈ (UpstreamClient.new.openSse localCall []).1, sent.body.isSome = true →
        sent.target = "http://127.0.0.1:8000/v1/chat/completions" := by
  have home := private_body_stays_home_iff Sample.crates accepted .staticPriority () budget
    limits .new retriedOnce retriedExchange
    (retriedOnce_exchanges ▸ List.mem_singleton_self _) devKey (by decide) rfl
    (by decide +kernel) localCall (by simp [retriedExchange])
  exact ⟨home.1, (home.2.2 []).mpr (Redirect.staysAt_nil _ _)⟩

end Patchbay
