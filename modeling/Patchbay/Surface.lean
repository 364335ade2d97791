import Patchbay.Deployment
import Patchbay.Exposition

/-!
# The HTTP surface

Four routes lead to the server.  A completion begins an exchange, unless its body is above
the framework's limit; the list of models, the health check and the metrics are answered at
once, from the state as it is.  What the list promises is what completions are forwarded
for, at any other time.
-/

namespace Patchbay

open Json (SyntaxTree)

/-! ## Requests and replies -/

inductive Method where
  | get
  | head
  | post
  | other (name : String)
  deriving DecidableEq

/-- A request as it comes in; its body has been received. -/
structure Incoming where
  method : Method
  path : String
  authorization : Option Bytes
  body : Bytes

/-- What the handler of completions gets of it. -/
def Incoming.toClient (request : Incoming) : ClientRequest :=
  ⟨request.authorization, request.body⟩

/-- An order in which sets are iterated. -/
structure SetOrder where
  iterate : Finset String → List String
  nodup : ∀ ids, (iterate ids).Nodup
  mem_iff : ∀ ids id, id ∈ iterate ids ↔ id ∈ ids

/-- What is answered at once. -/
inductive Reply where
  | response (response : Response)
  | json (body : SyntaxTree)
  | text (status : StatusCode) (contentType body : String)
  | bare (status : StatusCode) (allow : Option String)

/-- An answer to a `HEAD` request has no body. -/
def Reply.withoutBody : Reply → Reply
  | .response full => .bare full.status none
  | .json _ => .bare .ok none
  | .text status _ _ => .bare status none
  | .bare status allow => .bare status allow

/-! ## Routes -/

inductive Route where
  | chatCompletions
  | listModels
  | healthz
  | metrics
  deriving DecidableEq

namespace Route

/-- Only completions are posted; a route for `GET` takes `HEAD` as well. -/
def takes : Route → Method → Bool
  | .chatCompletions, method => method == .post
  | _, method => method == .get || method == .head

def allow : Route → String
  | .chatCompletions => "POST"
  | _ => "GET,HEAD"

end Route

/-- The routes by their paths. -/
def routeOf : String → Option Route
  | "/v1/chat/completions" => some .chatCompletions
  | "/v1/models" => some .listModels
  | "/healthz" => some .healthz
  | "/metrics" => some .metrics
  | _ => none

namespace StatusCode

theorem notFound_valid : 100 ≤ (404 : UInt16) ∧ (404 : UInt16) < 1000 := by decide

def notFound : StatusCode := ⟨404, notFound_valid⟩

theorem methodNotAllowed_valid : 100 ≤ (405 : UInt16) ∧ (405 : UInt16) < 1000 := by decide

def methodNotAllowed : StatusCode := ⟨405, methodNotAllowed_valid⟩

theorem payloadTooLarge_valid : 100 ≤ (413 : UInt16) ∧ (413 : UInt16) < 1000 := by decide

def payloadTooLarge : StatusCode := ⟨413, payloadTooLarge_valid⟩

end StatusCode

/-- Where a request goes, or how it is turned away. -/
def buildRouter (request : Incoming) : Except Reply Route :=
  match routeOf request.path with
  | none => .error (.bare .notFound none)
  | some route =>
      if route.takes request.method then .ok route
      else .error (.bare .methodNotAllowed (some route.allow))

/-! ## Handlers -/

def modelObject (id : String) : SyntaxTree :=
  .object [(some "id", .string (some id)), (some "object", .string (some "model")),
    (some "owned_by", .string (some "patchbay"))]

def modelList (ids : List String) : SyntaxTree :=
  .object [(some "data", .array (ids.map modelObject)), (some "object", .string (some "list"))]

/-- The ids that a client finds in a list of models. -/
def modelIds (body : SyntaxTree) : List String :=
  match body.get "data" with
  | some (.array items) =>
      items.filterMap fun item =>
        match item.get "id" with
        | some (.string id) => id
        | _ => none
  | _ => []

theorem modelIds_modelList (ids : List String) : modelIds (modelList ids) = ids := by
  have data : (modelList ids).get "data" = some (.array (ids.map modelObject)) := rfl
  have id : ∀ id, (modelObject id).get "id" = some (.string (some id)) := fun _ => rfl
  simp [modelIds, data, List.filterMap_map, id]

/-- The models of all backends, each of them once. -/
def AppState.models {σ γ : Type} (app : AppState σ γ) : Finset String :=
  (app.router.backends.flatMap Backend.models).toFinset

/-- The bytes of a body that the framework reads at most: two mebibytes. -/
def defaultBodyLimit : Nat := 2097152

namespace Server

variable {σ γ : Type} (crates : Crates γ) (app : AppState σ γ)

def listModels (order : SetOrder) (authorization : Option Bytes) : Reply :=
  match AuthedKey.fromRequestParts crates.toStr app.keys authorization with
  | .error error => .response error.intoResponse
  | .ok _ => .json (modelList (order.iterate app.models))

def healthz : Reply := .bare .ok none

def metrics : Reply :=
  let body := app.metrics.render
  if body.isEmpty then .text .ok "text/plain; version=0.0.4; charset=utf-8" ""
  else .text .ok "text/plain; version=0.0.4; charset=utf-8" body

/-- The handler of completions takes the caller's key first, and then a body within the
framework's limit. -/
def bodyRejected (keys : KeyStore) (request : Incoming) : Bool :=
  match AuthedKey.fromRequestParts crates.toStr keys request.authorization with
  | .error _ => false
  | .ok _ => defaultBodyLimit < request.body.length

def bodyTooLarge : Reply :=
  .text .payloadTooLarge "text/plain; charset=utf-8"
    "Failed to buffer the request body: length limit exceeded"

/-- What a route answers at once. -/
def reply (order : SetOrder) (request : Incoming) : Route → Option Reply
  | .chatCompletions => if bodyRejected crates app.keys request then some bodyTooLarge else none
  | .listModels => some (listModels crates app order request.authorization)
  | .healthz => some healthz
  | .metrics => some (metrics app)

end Server

/-! ## The server -/

/-- The gateway, and what was answered at once so far. -/
structure Surface (σ γ : Type) where
  gateway : Gateway σ γ
  replies : List (Incoming × Reply)

/-- A request comes in, or an exchange goes on. -/
inductive SurfaceEvent (σ : Type) where
  | incoming (request : Incoming) (clock : Clock) (order : SetOrder)
  | goesOn (event : Event σ) (ongoing : event.target.isSome = true)

namespace SurfaceEvent

variable {σ γ : Type} (crates : Crates γ) (keys : KeyStore)

/-- What the gateway sees of it. -/
def gatewayEvent : SurfaceEvent σ → Option (Event σ)
  | .incoming request clock _ =>
      match buildRouter request with
      | .ok .chatCompletions =>
          if Server.bodyRejected crates keys request then none
          else some (.arrive request.toClient clock)
      | _ => none
  | .goesOn event _ => some event

/-- No request writes latencies. -/
theorem quiet_gatewayEvents (events : List (SurfaceEvent σ)) :
    Gateway.Quiet (events.filterMap (gatewayEvent crates keys)) := by
  intro state seen
  rcases List.mem_filterMap.mp seen with ⟨event, -, same⟩
  cases event with
  | goesOn event ongoing =>
      cases same
      cases ongoing
  | incoming request clock order =>
      rw [gatewayEvent] at same
      split at same
      · split at same <;> cases same
      · cases same

end SurfaceEvent

namespace Surface

variable {σ γ : Type} (crates : Crates γ)

def start (app : AppState σ γ) : Surface σ γ := { gateway := .start app, replies := [] }

def answer (surface : Surface σ γ) (request : Incoming) (reply : Reply) : Surface σ γ :=
  let reply := if request.method = .head then reply.withoutBody else reply
  { surface with replies := surface.replies ++ [(request, reply)] }

def step (surface : Surface σ γ) : SurfaceEvent σ → Surface σ γ
  | .incoming request clock order =>
      match buildRouter request with
      | .error reply => surface.answer request reply
      | .ok route =>
          match Server.reply crates surface.gateway.app order request route with
          | some reply => surface.answer request reply
          | none =>
              { surface with
                gateway := surface.gateway.step crates (.arrive request.toClient clock) }
  | .goesOn event _ => { surface with gateway := surface.gateway.step crates event }

def run (surface : Surface σ γ) (events : List (SurfaceEvent σ)) : Surface σ γ :=
  events.foldl (step crates) surface

/-- Under the surface, the gateway runs by itself. -/
theorem gateway_step (surface : Surface σ γ) (event : SurfaceEvent σ) :
    (surface.step crates event).gateway = surface.gateway.run crates
      (event.gatewayEvent crates surface.gateway.app.keys).toList := by
  cases event with
  | goesOn event ongoing => rfl
  | incoming request clock order =>
      rw [step, SurfaceEvent.gatewayEvent]
      cases buildRouter request with
      | error reply => rfl
      | ok route =>
          cases route with
          | chatCompletions =>
              dsimp only [Server.reply]
              cases Server.bodyRejected crates surface.gateway.app.keys request <;> rfl
          | _ => rfl

theorem keys_step (surface : Surface σ γ) (event : SurfaceEvent σ) :
    (surface.step crates event).gateway.app.keys = surface.gateway.app.keys := by
  rw [gateway_step]
  exact (Gateway.run_frame crates surface.gateway _).keys

theorem gateway_run (surface : Surface σ γ) (events : List (SurfaceEvent σ)) :
    (surface.run crates events).gateway = surface.gateway.run crates
      (events.filterMap (SurfaceEvent.gatewayEvent crates surface.gateway.app.keys)) := by
  induction events generalizing surface with
  | nil => rfl
  | cons event events ih =>
      rw [run, List.foldl_cons, ← run, ih, keys_step, gateway_step]
      cases found : event.gatewayEvent crates surface.gateway.app.keys with
      | none => rw [List.filterMap_cons_none found]; rfl
      | some seen => rw [List.filterMap_cons_some found]; rfl

/-- The request begins an exchange, and calls are made for it in the events that follow. -/
def Forwards (surface : Surface σ γ) (arrival : SurfaceEvent σ)
    (after : List (SurfaceEvent σ)) : Prop :=
  let began := surface.step crates arrival
  surface.gateway.exchanges.length < began.gateway.exchanges.length ∧
    ∃ exchange, (began.run crates after).gateway.exchanges[
        surface.gateway.exchanges.length]? = some exchange ∧ exchange.calls ≠ []

end Surface

/-! ## What is forwarded -/

namespace GatewayConfig

variable {γ : Type} {crates : Crates γ} {cfg : GatewayConfig}

/-- Some backend lists the model and may serve it to the caller. -/
def Serves (cfg : GatewayConfig) (model : String) (markPrivate : Bool) : Prop :=
  ∃ backend ∈ cfg.backends,
    (markPrivate = true → backend.privacy = .Local) ∧ model ∈ backend.models

theorem firstFor_isSome {model : String} {markPrivate : Bool} :
    (cfg.firstFor model markPrivate).isSome = true ↔ cfg.Serves model markPrivate := by
  rw [firstFor, List.find?_isSome]
  apply exists_congr
  intro backend
  cases markPrivate <;> simp [Backend.servesModel]

/-- An accepted configuration lists no empty model. -/
theorem models_nonempty {reader : ConfigReader} {text : String} {env : Environment}
    (accepted : fromTomlStr reader text env = .ok cfg) :
    ∀ backend ∈ cfg.backends, "" ∉ backend.models := by
  rcases fromTomlStr_stages accepted with ⟨raw, parsed, -⟩
  rcases fromTomlStr_ok parsed accepted with ⟨coherent, resolves⟩
  intro backend membership
  rcases List.getElem_of_mem membership with ⟨index, inBounds, rfl⟩
  have sameLength := resolves.backends.length_eq
  have resolved := resolves.backends.get (by omega) inBounds
  have wellFormed := coherent.backends _ (List.getElem_mem (by omega : index < raw.backends.length))
  simp only [List.get_eq_getElem] at resolved
  rw [resolved.models]
  exact wellFormed.models

/-- A known caller gets through exactly with a model that is served. -/
theorem respond_ok_iff (nonempty : ∀ backend ∈ cfg.backends, "" ∉ backend.models)
    {request : ClientRequest} {identity : KeyIdentity}
    (known : AuthedKey.fromRequestParts crates.toStr (.fromVirtualKeys cfg.virtualKeys)
      request.authorization = .ok identity) :
    (∃ job, cfg.respond crates request = .ok job) ↔
      cfg.Serves (request.model crates) identity.enforcePrivate := by
  rw [respond, known]
  dsimp only
  split
  · next empty =>
      have noModel : request.model crates = "" := String.isEmpty_iff.mp empty
      refine iff_of_false (by simp) ?_
      rintro ⟨backend, membership, -, listed⟩
      rw [noModel] at listed
      exact nonempty backend membership listed
  · rw [← firstFor_isSome, ClientRequest.model]
    cases cfg.firstFor (CompletionRequest.fromSlice crates.json request.body).model
        identity.enforcePrivate with
    | none => simp
    | some backend => simp

end GatewayConfig

namespace Gateway

variable {γ : Type} {crates : Crates γ} {cfg : GatewayConfig} {app : AppState BuiltinPolicy γ}

/-- The exchange of a request makes calls exactly if the request got through. -/
theorem forwarded_iff (deployed : app.Deployed cfg) {before : List (Event BuiltinPolicy)}
    (quiet : Quiet before) (request : ClientRequest) (clock : Clock)
    (after : List (Event BuiltinPolicy)) :
    (∃ exchange, ((start app).run crates (before ++ .arrive request clock :: after)).exchanges[
        ((start app).run crates before).exchanges.length]? = some exchange ∧
          exchange.calls ≠ []) ↔
      ∃ job, cfg.respond crates request = .ok job := by
  rcases (start app).run_arrival crates before request clock after with ⟨exchange, found, course⟩
  have began : ((start app).run crates before).app.Deployed cfg := deployed_run deployed quiet
  rw [AppState.chatCompletions_snd, began.admission] at course
  simp only [found, Option.some.injEq, exists_eq_left']
  cases responded : cfg.respond crates request with
  | error response =>
      rw [responded] at course
      have silent := (Exchange.answered_stays rfl course).2
      simp [silent, Exchange.ofAdmission, Exchange.refused]
  | ok job =>
      rw [responded] at course
      have first := Exchange.calls_prefix course
      simp only [Except.ok.injEq, exists_eq', iff_true]
      rintro nothing
      rw [nothing] at first
      simp [Exchange.ofAdmission, Exchange.start] at first

end Gateway

/-! ## What the list promises -/

namespace Surface

variable {σ γ : Type} {crates : Crates γ} {cfg : GatewayConfig}

/-- Every list of models that was answered names the models of the configuration. -/
structure Lists (cfg : GatewayConfig) (surface : Surface σ γ) : Prop where
  backends : surface.gateway.app.router.backends = cfg.backends
  replies : ∀ request body, (request, Reply.json body) ∈ surface.replies →
    (modelIds body).Nodup ∧ ∀ id, id ∈ modelIds body ↔ cfg.Serves id false

variable {surface : Surface σ γ}

/-- Only the list of models is answered in JSON. -/
theorem Lists.answer (lists : surface.Lists cfg) {request : Incoming} {reply : Reply}
    (promise : ∀ body, reply = .json body →
      (modelIds body).Nodup ∧ ∀ id, id ∈ modelIds body ↔ cfg.Serves id false) :
    (surface.answer request reply).Lists cfg := by
  refine ⟨lists.backends, fun other body membership => ?_⟩
  rw [Surface.answer, List.mem_append, List.mem_singleton, Prod.mk.injEq] at membership
  rcases membership with old | ⟨-, new⟩
  · exact lists.replies other body old
  · split at new
    · cases reply <;> cases new
    · exact promise body new.symm

theorem Lists.step (lists : surface.Lists cfg) (event : SurfaceEvent σ) :
    (surface.step crates event).Lists cfg := by
  have went : ∀ event : Event σ,
      Lists cfg { surface with gateway := surface.gateway.step crates event } := by
    intro event
    have frame := (Gateway.step_moves crates surface.gateway event).frame
    exact ⟨frame.backends.trans lists.backends, lists.replies⟩
  cases event with
  | goesOn event ongoing => exact went event
  | incoming request clock order =>
      rw [Surface.step]
      cases routed : buildRouter request with
      | error reply =>
          refine lists.answer fun body isJson => ?_
          rw [buildRouter] at routed
          subst isJson
          split at routed
          · cases routed
          · split at routed <;> cases routed
      | ok route =>
          cases route with
          | chatCompletions =>
              dsimp only [Server.reply]
              cases Server.bodyRejected crates surface.gateway.app.keys request with
              | true => exact lists.answer fun body isJson => by cases isJson
              | false => exact went _
          | healthz => exact lists.answer fun body isJson => by cases isJson
          | metrics =>
              refine lists.answer fun body isJson => ?_
              rw [Server.metrics] at isJson
              split at isJson <;> cases isJson
          | listModels =>
              refine lists.answer fun body isJson => ?_
              rw [Server.listModels] at isJson
              split at isJson
              · cases isJson
              · cases isJson
                rw [modelIds_modelList]
                refine ⟨order.nodup _, fun id => ?_⟩
                rw [order.mem_iff, AppState.models, lists.backends, List.mem_toFinset,
                  List.mem_flatMap]
                simp [GatewayConfig.Serves]

theorem Lists.run (lists : surface.Lists cfg) (events : List (SurfaceEvent σ)) :
    (surface.run crates events).Lists cfg := by
  induction events generalizing surface with
  | nil => exact lists
  | cons event events ih => exact ih (lists.step event)

/-- The completion of a known caller is forwarded exactly if its body is read and some
backend may serve it. -/
theorem forwards_iff {cfg : GatewayConfig} {app : AppState BuiltinPolicy γ}
    (deployed : app.Deployed cfg) (nonempty : ∀ backend ∈ cfg.backends, "" ∉ backend.models)
    (before : List (SurfaceEvent BuiltinPolicy)) {request : Incoming}
    (posted : buildRouter request = .ok .chatCompletions) {identity : KeyIdentity}
    (known : AuthedKey.fromRequestParts crates.toStr app.keys request.authorization =
      .ok identity) (clock : Clock) (order : SetOrder)
    (after : List (SurfaceEvent BuiltinPolicy)) :
    ((start app).run crates before).Forwards crates (.incoming request clock order) after ↔
      request.body.length ≤ defaultBodyLimit ∧
        cfg.Serves (request.toClient.model crates) identity.enforcePrivate := by
  have keys : ((start app).run crates before).gateway.app.keys = app.keys := by
    rw [gateway_run]
    exact (Gateway.run_frame crates (.start app) _).keys
  have rejected : Server.bodyRejected crates app.keys request =
      decide (defaultBodyLimit < request.body.length) := by
    rw [Server.bodyRejected, known]
  have seen : (.incoming request clock order : SurfaceEvent BuiltinPolicy).gatewayEvent
      crates app.keys = if defaultBodyLimit < request.body.length then none
        else some (.arrive request.toClient clock) := by
    simp only [SurfaceEvent.gatewayEvent, posted, rejected, decide_eq_true_eq]
  unfold Forwards
  dsimp only
  rw [gateway_run crates (step crates _ _), keys_step, keys, gateway_step, keys, seen]
  by_cases small : request.body.length ≤ defaultBodyLimit
  · have known' := known
    rw [deployed.keys] at known'
    have served : (∃ job, cfg.respond crates request.toClient = .ok job) ↔ _ :=
      GatewayConfig.respond_ok_iff nonempty known'
    rw [if_neg (by omega), Option.toList_some, gateway_run, ← served,
      ← Gateway.forwarded_iff deployed (SurfaceEvent.quiet_gatewayEvents crates app.keys before)
        request.toClient clock (after.filterMap (SurfaceEvent.gatewayEvent crates app.keys)),
      Gateway.run_append]
    have grows : ∀ gateway : Gateway BuiltinPolicy γ, gateway.exchanges.length <
        (gateway.run crates [.arrive request.toClient clock]).exchanges.length := by
      intro gateway
      simp [Gateway.run, Gateway.step]
    exact ⟨fun forwarded => ⟨small, forwarded.2⟩, fun both => ⟨grows _, both.2⟩⟩
  · rw [if_pos (by omega)]
    exact iff_of_false (fun forwarded => Nat.lt_irrefl _ forwarded.1) fun both => small both.1

/-- **Agreement.**  A list of models that a server over an accepted configuration answers
with, at any time, names each model once, and those that completions of known callers are
forwarded for at any time, where their bodies are within the limit: all of them for callers
whose traffic may leave, and for the others those that some local backend lists. -/
theorem models_agree {reader : ConfigReader} {text : String} {env : Environment}
    (accepted : GatewayConfig.fromTomlStr reader text env = .ok cfg)
    {codec : SnapshotCodec} {files : FileSystem} {secs : UInt64}
    {app : AppState BuiltinPolicy γ}
    (booted : AppState.boot crates codec files secs cfg = some app)
    {events : List (SurfaceEvent BuiltinPolicy)} {request : Incoming} {body : SyntaxTree}
    (listed : (request, .json body) ∈ ((start app).run crates events).replies) :
    (modelIds body).Nodup ∧
      ∀ before completion clock order after,
        events = before ++ .incoming completion clock order :: after →
        buildRouter completion = .ok .chatCompletions →
        ∀ identity, AuthedKey.fromRequestParts crates.toStr app.keys
            completion.authorization = .ok identity →
          (((start app).run crates before).Forwards crates (.incoming completion clock order)
              after ↔
            completion.body.length ≤ defaultBodyLimit ∧
              completion.toClient.model crates ∈ modelIds body ∧
              (identity.enforcePrivate = true →
                cfg.Serves (completion.toClient.model crates) true)) := by
  have deployed := AppState.deployed_boot booted
  have lists : (start app).Lists cfg := ⟨deployed.backends, nofun⟩
  have kept : ((start app).run crates events).Lists cfg := lists.run events
  rcases kept.replies request body listed with ⟨nodup, ids⟩
  refine ⟨nodup, fun before completion clock order after _ posted identity known => ?_⟩
  rw [forwards_iff deployed (GatewayConfig.models_nonempty accepted) before posted known, ids]
  apply and_congr_right
  intro _
  cases identity.enforcePrivate with
  | false => simp
  | true =>
      have wider : cfg.Serves (completion.toClient.model crates) true →
          cfg.Serves (completion.toClient.model crates) false := by
        rintro ⟨backend, configured, -, lists⟩
        exact ⟨backend, configured, nofun, lists⟩
      constructor
      · exact fun serves => ⟨wider serves, fun _ => serves⟩
      · exact fun both => both.2 rfl

end Surface

namespace Sample

def backwards : SetOrder where
  iterate ids := ids.sort (· ≥ ·)
  nodup ids := ids.sort_nodup (· ≥ ·)
  mem_iff _ _ := Finset.mem_sort (· ≥ ·)

/-- The models are asked for, and a completion comes in. -/
def listing : Incoming where
  method := .get
  path := "/v1/models"
  authorization := request.authorization
  body := []

def listedThenAsked : List (SurfaceEvent BuiltinPolicy) :=
  [.incoming listing clock backwards,
    .incoming ⟨.post, "/v1/chat/completions", request.authorization, payload⟩ clock
      backwards,
    .goesOn (.sent 0 (.ok success) 7 clock) rfl]

end Sample

theorem Surface.models_agree_listedThenAsked :
    let body := modelList (Sample.backwards.iterate Sample.booted.models)
    (modelIds body).Nodup ∧
      ∀ before completion clock order after,
        Sample.listedThenAsked = before ++ .incoming completion clock order :: after →
        buildRouter completion = .ok .chatCompletions →
        ∀ identity, AuthedKey.fromRequestParts Sample.crates.toStr Sample.booted.keys
            completion.authorization = .ok identity →
          (((start Sample.booted).run Sample.crates before).Forwards Sample.crates
              (.incoming completion clock order) after ↔
            completion.body.length ≤ defaultBodyLimit ∧
              completion.toClient.model Sample.crates ∈ modelIds body ∧
              (identity.enforcePrivate = true →
                Sample.config.Serves (completion.toClient.model Sample.crates) true)) := by
  have listed : (Sample.listing,
      .json (modelList (Sample.backwards.iterate Sample.booted.models))) ∈
        ((start Sample.booted).run Sample.crates Sample.listedThenAsked).replies :=
    List.mem_singleton_self _
  exact models_agree Sample.accepted Sample.boot_config listed

end Patchbay
