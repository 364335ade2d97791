import Patchbay.BoundedTables
import Patchbay.ClientIsolation
import Patchbay.ConfigValidation
import Patchbay.Counterparts

/-!
# The server as it is deployed

The binary loads a configuration and builds the shared state from it.  The policy it
selects is internal: nobody records latencies with it.  What such a server does with a
request is decided by the configuration alone, from the first request to the last.
-/

namespace Patchbay

/-! ## Starting up -/

/-- The policies that a configuration can select, as one type with their states. -/
inductive BuiltinPolicy where
  | staticPriority
  | ewmaLatency (ewma : EwmaLatency)

def Policy.builtin : Policy BuiltinPolicy where
  choose
    | .staticPriority, candidates =>
        ((Policy.staticPriority.choose () candidates).1, .staticPriority)
    | .ewmaLatency ewma, candidates =>
        let (choice, ewma) := Policy.ewmaLatency.choose ewma candidates
        (choice, .ewmaLatency ewma)

/-- `none` where `EwmaLatency::new` panics. -/
def BuiltinPolicy.ofSelection : PolicySelection → Option BuiltinPolicy
  | .staticPriority => some .staticPriority
  | .ewmaLatency (.finite alpha) => (EwmaLatency.new alpha).map .ewmaLatency
  | .ewmaLatency _ => none

/-- Build from validated config. -/
def Router.fromConfig (cfg : GatewayConfig) : Option (Router BuiltinPolicy) :=
  (BuiltinPolicy.ofSelection cfg.policy).map (Router.withPolicy cfg.backends .builtin)

/-- `AppState::from_config` -/
def AppState.boot {γ : Type} (crates : Crates γ) (codec : SnapshotCodec) (files : FileSystem)
    (secs : UInt64) (cfg : GatewayConfig) : Option (AppState BuiltinPolicy γ) :=
  (Router.fromConfig cfg).map fun router =>
    { AppState.fromConfig crates codec files secs cfg router.policy router.state with router }

/-- Why the binary does not come up. -/
inductive LoadError where
  | notFound (path : String)
  | io (path source : String)
  | config (error : ConfigError)

/-- Load from the path in `PATCHBAY_CONFIG`.  A path of `disk` exists or does not, and a
file can be read or cannot. -/
def GatewayConfig.load (reader : ConfigReader) (env : Environment)
    (disk : String → Option (Except String String)) : Except LoadError GatewayConfig :=
  let path := (env "PATCHBAY_CONFIG").getD "patchbay.toml"
  match disk path with
  | none => .error (.notFound path)
  | some (.error source) => .error (.io path source)
  | some (.ok raw) => (GatewayConfig.fromTomlStr reader raw env).mapError .config

/-- A selection that was resolved is one that can be built. -/
theorem BuiltinPolicy.exists_ofSelection {policy : RawPolicy} {selection : PolicySelection}
    (resolved : policy.resolve = .ok selection) :
    ∃ state, BuiltinPolicy.ofSelection selection = some state := by
  rcases RawPolicy.resolve_ok resolved with ⟨inRange, resolvesTo⟩
  cases resolvesTo with
  | staticPriority => exact ⟨.staticPriority, rfl⟩
  | ewmaLatency alpha =>
      rcases inRange alpha rfl with ⟨value, rfl, inside⟩
      exact ⟨.ewmaLatency ⟨value, ∅⟩, by simp [ofSelection, EwmaLatency.new, inside]⟩

/-- The binary never comes to panic in `EwmaLatency::new`. -/
theorem AppState.exists_boot {γ : Type} (crates : Crates γ) (codec : SnapshotCodec)
    (files : FileSystem) (secs : UInt64) {reader : ConfigReader} {env : Environment}
    {disk : String → Option (Except String String)} {cfg : GatewayConfig}
    (loaded : GatewayConfig.load reader env disk = .ok cfg) :
    ∃ app, AppState.boot crates codec files secs cfg = some app := by
  rw [GatewayConfig.load] at loaded
  cases found : disk ((env "PATCHBAY_CONFIG").getD "patchbay.toml") with
  | none => simp [found] at loaded
  | some content =>
      cases content with
      | error source => simp [found] at loaded
      | ok raw =>
          simp only [found] at loaded
          rcases fromTomlStr_stages (mapError_eq_ok loaded) with ⟨raw, -, -, -, -, -, resolved⟩
          rcases BuiltinPolicy.exists_ofSelection resolved with ⟨state, selected⟩
          simp [boot, Router.fromConfig, selected]

/-! ## What the configuration decides -/

namespace GatewayConfig

variable {γ : Type}

/-- The first backend, in config order, that may serve a model to a caller. -/
def firstFor (cfg : GatewayConfig) (model : String) (markPrivate : Bool) : Option Backend :=
  cfg.backends.find? fun backend =>
    (!markPrivate || backend.privacy == .Local) && backend.servesModel model

/-- What becomes of a request. -/
def respond (crates : Crates γ) (cfg : GatewayConfig) (request : ClientRequest) :
    Except Response Job :=
  match AuthedKey.fromRequestParts crates.toStr (.fromVirtualKeys cfg.virtualKeys)
      request.authorization with
  | .error error => .error error.intoResponse
  | .ok identity =>
      let req := CompletionRequest.fromSlice crates.json request.body
      if req.model.isEmpty then
        .error (errorResponse .badRequest "invalid_request_error" "field `model` is required")
      else
        match cfg.firstFor req.model identity.enforcePrivate with
        | none =>
            let label := if identity.enforcePrivate then "private" else "shareable"
            .error (errorResponse .badGateway "no_eligible_backend"
              ((RouteError.noEligibleBackend req.model [] label).message crates.debug))
        | some backend =>
            .ok {
              keyName := identity.name
              model := req.model
              stream := req.stream
              backend
              body := request.body }

end GatewayConfig

/-- The exchange that an admission begins. -/
def Exchange.ofAdmission (request : ClientRequest) : Except Response Job → Exchange
  | .error response => .refused request response
  | .ok job => .start request job

/-! ## A policy that was never told anything -/

namespace BuiltinPolicy

/-- No latency was recorded. -/
def Fresh : BuiltinPolicy → Prop
  | .staticPriority => True
  | .ewmaLatency ewma => ewma.stats = ∅

theorem fresh_ofSelection {selection : PolicySelection} {state : BuiltinPolicy}
    (selected : ofSelection selection = some state) : state.Fresh := by
  cases selection with
  | staticPriority =>
      cases selected
      trivial
  | ewmaLatency alpha =>
      cases alpha with
      | finite value =>
          simp only [ofSelection, EwmaLatency.new] at selected
          split at selected
          · cases selected
            rfl
          · cases selected
      | infinite negative => cases selected
      | nan => cases selected

end BuiltinPolicy

/-- Without samples the first candidate has the lowest average. -/
theorem EwmaLatency.choose_of_noStats {ewma : EwmaLatency} (noStats : ewma.stats = ∅)
    (candidates : List Backend) :
    ewma.choose candidates = if candidates.isEmpty then none else some 0 := by
  have zero : ∀ backend, ewma.score backend = 0 := by
    intro backend
    rw [score, latencyMs, noStats, Finmap.lookup_empty]
    rfl
  cases candidates with
  | nil => rfl
  | cons first rest =>
      cases chosen : ewma.choose (first :: rest) with
      | none => simp [choose] at chosen
      | some index =>
          rcases choose_spec chosen with ⟨backend, -, lowest⟩
          cases index with
          | zero => rfl
          | succ index =>
              have strictly := (lowest 0 first rfl).2 (Nat.succ_pos index)
              rw [zero, zero] at strictly
              exact absurd strictly (lt_irrefl 0)

namespace Policy

theorem builtin_steady : Policy.builtin.Steady := by
  intro state candidates
  cases state <;> rfl

theorem builtin_choose_of_fresh {state : BuiltinPolicy} (fresh : state.Fresh)
    (candidates : List Backend) :
    (Policy.builtin.choose state candidates).1 =
      if candidates.isEmpty then none else some 0 := by
  cases state with
  | staticPriority => rfl
  | ewmaLatency ewma => exact EwmaLatency.choose_of_noStats fresh candidates

end Policy

namespace Router

variable {router : Router BuiltinPolicy} {cfg : GatewayConfig}

theorem resolve_of_fresh {P : PrivacyClass} (policy : router.policy = .builtin)
    (fresh : router.state.Fresh) (query : TypedQuery P) :
    (router.resolve query).1 =
      match router.backends.find? query.eligible with
      | some backend => .ok backend
      | none => .error (.noEligibleBackend query.query.model query.query.requiredTags P.label) := by
  have head : (Candidates.gather query router.backends).items.head? =
      router.backends.find? query.eligible := List.head?_filter
  rw [← head]
  simp only [resolve, Candidates.select, policy, Policy.builtin_choose_of_fresh fresh]
  generalize Candidates.gather query router.backends = candidates
  rcases candidates with ⟨items, admitted⟩
  cases items with
  | nil => rfl
  | cons first rest => rfl

/-- Without samples, routing takes the first backend that may serve the request. -/
theorem route_of_fresh (backends : router.backends = cfg.backends)
    (policy : router.policy = .builtin) (fresh : router.state.Fresh) (model : String)
    (markPrivate : Bool) :
    (router.route (.new model) markPrivate).1 =
      match cfg.firstFor model markPrivate with
      | some backend => .ok backend
      | none => .error (.noEligibleBackend model []
          (if markPrivate then "private" else "shareable")) := by
  have eligible : ∀ {P : PrivacyClass} (backend : Backend),
      TypedQuery.eligible (P := P) { query := .new model } backend =
        (P.admits backend.privacy && backend.servesModel model) := by
    intro P backend
    simp [TypedQuery.eligible, RouteQuery.new, Backend.hasCapabilityTags]
  cases markPrivate with
  | true =>
      have resolved := resolve_of_fresh (P := .Private) policy fresh { query := .new model }
      rw [funext (eligible (P := .Private)), backends] at resolved
      exact resolved
  | false =>
      have resolved := resolve_of_fresh (P := .Shareable) policy fresh { query := .new model }
      rw [funext (eligible (P := .Shareable)), backends] at resolved
      exact resolved

end Router

/-! ## Any number of requests -/

/-- A server over a configuration, with a policy that was never told anything. -/
structure AppState.Deployed {γ : Type} (cfg : GatewayConfig) (app : AppState BuiltinPolicy γ) :
    Prop where
  backends : app.router.backends = cfg.backends
  policy : app.router.policy = .builtin
  fresh : app.router.state.Fresh
  keys : app.keys = .fromVirtualKeys cfg.virtualKeys
  limits : app.limits.limits = ∅

namespace AppState

variable {γ : Type} {crates : Crates γ} {cfg : GatewayConfig} {app : AppState BuiltinPolicy γ}

theorem deployed_boot {codec : SnapshotCodec} {files : FileSystem} {secs : UInt64}
    (booted : AppState.boot crates codec files secs cfg = some app) : app.Deployed cfg := by
  simp only [boot, Router.fromConfig, Option.map_map, Option.map_eq_some_iff] at booted
  rcases booted with ⟨state, selected, rfl⟩
  exact ⟨rfl, rfl, BuiltinPolicy.fresh_ofSelection selected, rfl, rfl⟩

/-- No request is turned away for coming too soon. -/
theorem Deployed.checkRpm (deployed : app.Deployed cfg) (key : String) (now : Nat) :
    (app.limits.checkRpm crates.governor key now).1 = .ok () := by
  have unlimited : app.limits.limitFor key = .unlimited := by
    rw [RateLimitStore.limitFor, deployed.limits, Finmap.lookup_empty]
    rfl
  rw [RateLimitStore.checkRpm, unlimited]
  rfl

/-- The configuration decides. -/
theorem Deployed.admission (deployed : app.Deployed cfg) (request : ClientRequest)
    (clock : Clock) : (app.admission crates request clock).1 = cfg.respond crates request := by
  have routed := fun model markPrivate =>
    Router.route_of_fresh deployed.backends deployed.policy deployed.fresh model markPrivate
  have spec := admission_spec crates app request clock
  rw [GatewayConfig.respond, ← deployed.keys]
  generalize app.admission crates request clock = admission at spec
  cases spec with
  | unauthorized refused => rw [refused]
  | limited known refused =>
      rw [deployed.checkRpm] at refused
      cases refused
  | noModel known allowed refused =>
      rw [known]
      simp only [refused, if_true]
  | @unroutable identity error known allowed present refused =>
      rw [routed] at refused
      rw [known]
      simp only [present, Bool.false_eq_true, if_false]
      cases found : cfg.firstFor (CompletionRequest.fromSlice crates.json request.body).model
          identity.enforcePrivate with
      | none =>
          rw [found] at refused
          cases refused
          rfl
      | some backend =>
          rw [found] at refused
          cases refused
  | @admitted identity backend known allowed present routedTo =>
      rw [routed] at routedTo
      rw [known]
      simp only [present, Bool.false_eq_true, if_false]
      cases found : cfg.firstFor (CompletionRequest.fromSlice crates.json request.body).model
          identity.enforcePrivate with
      | none =>
          rw [found] at routedTo
          cases routedTo
      | some other =>
          rw [found] at routedTo
          cases routedTo
          rfl

theorem chatCompletions_snd {σ : Type} (app : AppState σ γ) (request : ClientRequest)
    (clock : Clock) : (app.chatCompletions crates request clock).2 =
      .ofAdmission request (app.admission crates request clock).1 := by
  rw [chatCompletions]
  rcases app.admission crates request clock with ⟨result, after⟩
  cases result <;> rfl

/-- Admission leaves the router of a steady policy as it was. -/
theorem router_chatCompletions {σ : Type} {app : AppState σ γ}
    (steady : app.router.policy.Steady) (request : ClientRequest) (clock : Clock) :
    (app.chatCompletions crates request clock).1.router = app.router := by
  have spec := admission_spec crates app request clock
  rw [chatCompletions]
  generalize app.admission crates request clock = admission at spec
  cases spec with
  | unroutable known allowed present refused => exact Router.route_steady steady _ _
  | admitted known allowed present routed => exact Router.route_steady steady _ _
  | _ => rfl

end AppState

namespace Gateway

variable {σ γ : Type} {crates : Crates γ} {keys : KeyStore} {gateway : Gateway σ γ}

/-- Nobody changes the state of the policy from outside. -/
def Quiet (events : List (Event σ)) : Prop := ∀ state, .retune state ∉ events

/-- A steady policy that is left alone leaves the router as it was. -/
theorem Sound.router_run (sound : gateway.Sound crates keys)
    (steady : gateway.app.router.policy.Steady) {events : List (Event σ)}
    (quiet : Quiet events) : (gateway.run crates events).app.router = gateway.app.router := by
  induction events generalizing gateway with
  | nil => rfl
  | cons event events ih =>
      have same : (gateway.step crates event).app.router = gateway.app.router := by
        cases about : event.target with
        | some index =>
            rw [Event.step_of_target crates about, advance]
            cases found : gateway.exchanges[index]? with
            | none => rfl
            | some exchange =>
                have coherent := sound.coherent exchange (List.mem_of_getElem? found)
                exact (gateway.app.act_outcome crates coherent event).router
        | none =>
            cases event with
            | arrive request clock => exact AppState.router_chatCompletions steady request clock
            | retune state => exact absurd List.mem_cons_self (quiet state)
            | _ => cases about
      have rest : Quiet events := fun state membership =>
        quiet state (List.mem_cons_of_mem event membership)
      rw [Gateway.run, List.foldl_cons, ← Gateway.run, ih (sound.step event) (same ▸ steady) rest,
        same]

/-- The server stays as it was deployed. -/
theorem deployed_run {cfg : GatewayConfig} {app : AppState BuiltinPolicy γ}
    (deployed : app.Deployed cfg) {events : List (Event BuiltinPolicy)}
    (quiet : Quiet events) : ((start app).run crates events).app.Deployed cfg := by
  have steady : app.router.policy.Steady := by
    rw [deployed.policy]
    exact Policy.builtin_steady
  have router := (sound_start crates app).router_run steady quiet
  have frame := run_frame crates (start app) events
  constructor
  · rw [router]
    exact deployed.backends
  · rw [router]
    exact deployed.policy
  · rw [router]
    exact deployed.fresh
  · exact frame.keys.trans deployed.keys
  · exact frame.rateLimits.trans deployed.limits

/-- **Independence.**  A deployed server treats each request as if it were the only one: the
configuration alone decides what its exchange begins with, and the events about it decide
the rest. -/
theorem deployed_exchange {cfg : GatewayConfig} {app : AppState BuiltinPolicy γ}
    {codec : SnapshotCodec} {files : FileSystem} {secs : UInt64}
    (booted : AppState.boot crates codec files secs cfg = some app)
    {events : List (Event BuiltinPolicy)} (quiet : Quiet events) {index : Nat}
    {exchange : Exchange}
    (found : ((start app).run crates events).exchanges[index]? = some exchange) :
    ∃ before request clock after, events = before ++ .arrive request clock :: after ∧
      ((start app).run crates before).exchanges.length = index ∧
      exchange = (Exchange.ofAdmission request (cfg.respond crates request)).course crates app
        (Event.about index after) := by
  rcases exists_arrival (Nat.zero_le index) found with
    ⟨before, request, clock, after, rfl, length⟩
  refine ⟨before, request, clock, after, rfl, length, ?_⟩
  have quietBefore : Quiet before := fun state membership =>
    quiet state (List.mem_append_left _ membership)
  have deployed : ((start app).run crates before).app.Deployed cfg :=
    deployed_run (AppState.deployed_boot booted) quietBefore
  have arrived : (((start app).run crates before).step crates
      (.arrive request clock)).exchanges[index]? =
        some (Exchange.ofAdmission request (cfg.respond crates request)) := by
    have decided : (((start app).run crates before).app.admission crates request clock).1 = _ :=
      deployed.admission request clock
    rw [← decided, ← AppState.chatCompletions_snd, ← length]
    simp [step]
  have ran : ((((start app).run crates before).step crates (.arrive request clock)).run crates
      after).exchanges[index]? = _ := getElem?_run arrived app after
  rw [run_append] at found
  exact Option.some.inj (found.symm.trans ran)

end Gateway

namespace Sample

/-- Never asked: a server over a configuration keeps no snapshots. -/
def noSnapshots : SnapshotCodec := ⟨fun _ => .error "unsupported", fun _ => none⟩

/-- The binary over the sample configuration. -/
def booted : AppState BuiltinPolicy Unit :=
  .fromConfig crates noSnapshots (fun _ => none) 0 config .builtin .staticPriority

theorem boot_config : AppState.boot crates noSnapshots (fun _ => none) 0 config = some booted :=
  rfl

def bootedEvents : List (Event BuiltinPolicy) :=
  servedTwice.map (Event.map id fun _ => .staticPriority)

theorem quiet_bootedEvents : Gateway.Quiet bootedEvents := by
  intro state
  simp [bootedEvents, servedTwice, Event.map]

end Sample

/-- The second request of the sample key. -/
theorem Gateway.deployed_exchange_second :
    ∃ before request clock after,
      Sample.bootedEvents = before ++ .arrive request clock :: after ∧
      ((start Sample.booted).run Sample.crates before).exchanges.length = 1 ∧
      Exchange.start Sample.request
          { keyName := "dev", model := "m", stream := false, backend := Sample.localBackend
            body := Sample.payload } =
        (Exchange.ofAdmission request (Sample.config.respond Sample.crates request)).course
          Sample.crates Sample.booted (Event.about 1 after) :=
  deployed_exchange Sample.boot_config Sample.quiet_bootedEvents rfl

/-! ## The policy -/

namespace Policy

/-- Nothing was recorded with either policy. -/
def BothFresh (left right : BuiltinPolicy) : Prop := left.Fresh ∧ right.Fresh

theorem builtin_choosesAs : Policy.builtin.ChoosesAs id BothFresh Policy.builtin := by
  rintro left right ⟨leftFresh, rightFresh⟩ candidates
  rw [List.map_id, builtin_choose_of_fresh leftFresh, builtin_choose_of_fresh rightFresh,
    builtin_steady, builtin_steady]
  exact ⟨rfl, leftFresh, rightFresh⟩

end Policy

theorem Exchange.moved_id (exchange : Exchange) :
    exchange.moved (.ofMoves Backend.moves_id) = exchange := by
  rcases exchange with ⟨request, phase, calls, waits, relay⟩
  have sameCalls : calls.map (Call.moved (.ofMoves Backend.moves_id)) = calls :=
    List.map_id calls
  cases phase <;> simp only [moved, Phase.moved, sameCalls] <;> rfl

namespace Gateway

variable {γ : Type} {crates : Crates γ} {cfg : GatewayConfig}
  {app other : AppState BuiltinPolicy γ}

/-- **The policy is moot.**  As nobody records latencies, servers over configurations that
differ in the policy alone go through the same runs. -/
theorem policy_irrelevant {codec : SnapshotCodec} {files : FileSystem} {secs : UInt64}
    (booted : AppState.boot crates codec files secs cfg = some app) {policy : PolicySelection}
    (otherwise : AppState.boot crates codec files secs { cfg with policy } = some other)
    {events : List (Event BuiltinPolicy)} (quiet : Quiet events) :
    let left := (start app).run crates events
    let right := (start other).run crates events
    right.exchanges = left.exchanges ∧ right.app.budget = left.app.budget ∧
      right.app.limits = left.app.limits ∧ right.app.metrics = left.app.metrics := by
  intro left right
  have deployed := AppState.deployed_boot booted
  have deployedOther := AppState.deployed_boot otherwise
  have router : app.router.Counterpart id Policy.BothFresh other.router := by
    constructor
    · rw [deployedOther.backends, deployed.backends, List.map_id]
    · rw [deployedOther.policy, deployed.policy]
      exact Policy.builtin_choosesAs
    · exact ⟨deployed.fresh, deployedOther.fresh⟩
  have atStart : (start app).Counterpart crates.toStr (.ofMoves Backend.moves_id)
      Policy.BothFresh (start other) := by
    simp only [AppState.boot, Option.map_eq_some_iff] at booted otherwise
    rcases booted with ⟨leftRouter, -, rfl⟩
    rcases otherwise with ⟨rightRouter, -, rfl⟩
    exact ⟨⟨router, rfl, fun _ => rfl, rfl, rfl, rfl⟩, rfl⟩
  have counterpart : left.Counterpart crates.toStr (.ofMoves Backend.moves_id)
      Policy.BothFresh right := by
    have ran : left.Counterpart crates.toStr (.ofMoves Backend.moves_id) Policy.BothFresh
        ((start other).run crates (events.map (Event.map id id))) :=
      atStart.run fun state membership => absurd membership (quiet state)
    rwa [Event.map_id] at ran
  refine ⟨?_, counterpart.app.budget, counterpart.app.limits, counterpart.app.metrics⟩
  rw [show right.exchanges = _ from counterpart.exchanges, funext Exchange.moved_id, List.map_id']

end Gateway

namespace Sample

/-- The binary with the other policy. -/
def bootedEwma : AppState BuiltinPolicy Unit :=
  .fromConfig crates noSnapshots (fun _ => none) 0 config .builtin (.ewmaLatency ⟨1, ∅⟩)

theorem boot_ewma :
    AppState.boot crates noSnapshots (fun _ => none) 0
      { config with policy := .ewmaLatency (.finite 1) } = some bootedEwma :=
  rfl

end Sample

/-- The sample configuration with each of the policies. -/
theorem Gateway.policy_irrelevant_ewma :
    let left := (start Sample.booted).run Sample.crates Sample.bootedEvents
    let right := (start Sample.bootedEwma).run Sample.crates Sample.bootedEvents
    right.exchanges = left.exchanges ∧ right.app.budget = left.app.budget ∧
      right.app.limits = left.app.limits ∧ right.app.metrics = left.app.metrics :=
  policy_irrelevant Sample.boot_config Sample.boot_ewma Sample.quiet_bootedEvents

end Patchbay
