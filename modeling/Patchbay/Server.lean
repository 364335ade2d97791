import Patchbay.Auth
import Patchbay.Budget
import Patchbay.Limits
import Patchbay.Metrics
import Patchbay.Router
import Patchbay.Upstream.Client

/-!
# The completion handler

One chat-completion request from its arrival to the end of its response.  The
handler runs from one suspension point to the next: it waits for an upstream
response head, for a backoff sleep, or for a buffered body.  A streamed body is
polled by the client, and its usage is accounted by a task of its own.
-/

namespace Patchbay

/-- What the server takes from its libraries. -/
structure Crates (γ : Type) where
  json : Json.Reader
  /-- `HeaderValue::to_str` -/
  toStr : Bytes → Option String
  governor : Governor γ
  /-- Debug output of a list of tags. -/
  debug : List String → String

/-- All shared objects injected into every handler. -/
structure AppState (σ γ : Type) where
  router : Router σ
  upstream : UpstreamClient
  keys : KeyStore
  budget : BudgetLedger
  limits : RateLimitStore γ
  metrics : MetricsHandle

/-- Readings of the monotonic clock in nanoseconds and of the wall clock in
seconds. -/
structure Clock where
  nanos : Nat
  secs : UInt64

/-! ## Retry policy -/

def maxRetries : Nat := 5

def baseBackoffMs : UInt64 := 100

def maxBackoffMs : UInt64 := 2000

/-- In nanoseconds. -/
def stallTimeout : Nat := 30 * 1000000000

/-- Truncated exponential backoff. -/
def backoffMs (attempt : Nat) : UInt64 :=
  let ms := baseBackoffMs * (1 <<< UInt64.ofNat (min attempt 10))
  min ms maxBackoffMs

/-- Add up to a quarter of noise, drawn from a hash of the current time. -/
def jitter (ms hash : UInt64) : UInt64 :=
  let noise := hash % (ms / 4 + 1)
  ms + noise

/-! ## Requests and responses -/

structure ClientRequest where
  authorization : Option Bytes
  body : Bytes

/-- The part of the client's payload the handler looks at. -/
structure CompletionRequest where
  model : String
  stream : Bool
  deriving DecidableEq, Repr

namespace CompletionRequest

open Json

def default : CompletionRequest := ⟨"", false⟩

def modelField : Option SyntaxTree → Option String
  | none => some ""
  | some (.string text) => text
  | some _ => none

def streamField : Option SyntaxTree → Option Bool
  | none => some false
  | some (.bool stream) => some stream
  | some _ => none

def ofFields (model stream : Option SyntaxTree) : Option CompletionRequest := do
  let model ← modelField model
  let stream ← streamField stream
  return { model, stream }

/-- Derived deserialization; both fields default. -/
def deserialize : SyntaxTree → Option CompletionRequest
  | .object members =>
      if Members.keysDecode members then do
        let model ← Members.field members "model"
        let stream ← Members.field members "stream"
        ofFields model stream
      else none
  | .array items => if items.length ≤ 2 then ofFields items[0]? items[1]? else none
  | _ => none

/-- A payload that does not deserialize is taken as the default. -/
def fromSlice (json : Reader) (body : Bytes) : CompletionRequest :=
  ((json.tree body).bind deserialize).getD default

end CompletionRequest

namespace ClientRequest

variable {γ : Type} (crates : Crates γ) (request : ClientRequest)

/-- The model a request asks for. -/
def model : String := (CompletionRequest.fromSlice crates.json request.body).model

/-- The token a request presents. -/
def token : Option String := AuthedKey.bearerToken crates.toStr request.authorization

end ClientRequest

/-- A header value given as text. -/
def fromStatic (text : String) : Bytes := text.toList.map fun char => UInt8.ofNat char.toNat

/-- The `code` member of an error body. -/
inductive ErrorCode where
  | status (code : UInt16)
  | text (code : String)
  deriving DecidableEq

/-- The JSON object of an error response. -/
structure ErrorBody where
  message : String
  type : String
  code : ErrorCode
  deriving DecidableEq

/-- The body of a response; a relayed one comes from the upstream stream. -/
inductive ResponseBody where
  | error (body : ErrorBody)
  | bytes (body : Bytes)
  | relayed
  deriving DecidableEq

structure Response where
  status : StatusCode
  headers : List (String × Bytes)
  body : ResponseBody
  deriving DecidableEq

def jsonResponse (status : StatusCode) (body : ErrorBody) : Response where
  status := status
  headers := [("content-type", fromStatic "application/json")]
  body := .error body

def errorResponse (status : StatusCode) (errType message : String) : Response :=
  jsonResponse status { message, type := errType, code := .status status.code }

def AuthError.intoResponse (error : AuthError) : Response :=
  jsonResponse .unauthorized
    { message := error.message, type := "invalid_request_error", code := .text "invalid_api_key" }

/-! ## Handlers in progress -/

/-- What the handler carries once a request was admitted and routed. -/
structure Job where
  keyName : String
  model : String
  stream : Bool
  backend : Backend
  body : Bytes

def Job.call (job : Job) : Call where
  backend := job.backend
  path := "/v1/chat/completions"
  body := job.body

/-- A streamed response body and the task that accounts for it. -/
structure RelayTask where
  keyName : String
  backendName : String
  relay : SseRelay
  /-- The body was released, which drops the relay. -/
  released : Bool
  /-- The accounting task has run. -/
  settled : Bool

/-- Where the handler of a request stands. -/
inductive Phase where
  /-- Waiting for the response head of an attempt. -/
  | calling (job : Job) (attempt : Nat)
  /-- Waiting to make the attempt, after the error of the one before. -/
  | sleeping (job : Job) (attempt : Nat)
  /-- Reading the body of a response to be returned at once. -/
  | reading (job : Job) (response : HttpResponse)
  | answered (response : Response)
  /-- The client went away and the handler was dropped. -/
  | cancelled

/-- One request with the upstream calls and the waits it has caused so far. -/
structure Exchange where
  request : ClientRequest
  phase : Phase
  calls : List Call
  waits : List UInt64
  relay : Option RelayTask

namespace Exchange

def refused (request : ClientRequest) (response : Response) : Exchange where
  request := request
  phase := .answered response
  calls := []
  waits := []
  relay := none

/-- Make the call of an attempt. -/
def call (exchange : Exchange) (job : Job) (attempt : Nat) : Exchange :=
  { exchange with phase := .calling job attempt, calls := exchange.calls ++ [job.call] }

/-- Enter the forwarding loop with the first call. -/
def start (request : ClientRequest) (job : Job) : Exchange where
  request := request
  phase := .calling job 0
  calls := [job.call]
  waits := []
  relay := none

/-- Wait before a retry. -/
def sleep (exchange : Exchange) (job : Job) (attempt : Nat) (ms : UInt64) : Exchange :=
  { exchange with phase := .sleeping job attempt, waits := exchange.waits ++ [ms] }

def answer (exchange : Exchange) (response : Response) : Exchange :=
  { exchange with phase := .answered response }

end Exchange

/-! ## Usage of a buffered body -/

/-- The usage that `buffered_response` finds in a body. -/
def bufferedUsage (json : Json.Reader) (body : Bytes) : Option Usage :=
  ((json.value body).bind fun value => value.get "usage").bind Usage.fromValue

namespace AppState

variable {σ γ : Type} (crates : Crates γ) (app : AppState σ γ)

/-- The application state over a configuration, with any policy and stores. -/
def ofConfig (cfg : GatewayConfig) (policy : Policy σ) (state : σ)
    (budget : BudgetLedger) (limits : RateLimitStore γ) (metrics : MetricsHandle) :
    AppState σ γ where
  router := Router.withPolicy cfg.backends policy state
  upstream := UpstreamClient.new
  keys := KeyStore.fromVirtualKeys cfg.virtualKeys
  budget := budget
  limits := limits
  metrics := metrics

/-- Account the usage of a response; a token limit it exceeds is ignored.  This is one step:
reports to one token counter do not overlap here. -/
def account (keyName : String) (usage : Usage) (secs : UInt64) : AppState σ γ :=
  { app with
    budget := app.budget.record keyName usage
    metrics := app.metrics.recordTokens keyName usage
    limits := (app.limits.recordTpm keyName usage.totalTokens secs).2 }

/-! ## From arrival to the first call -/

/-- Check the key, the request limit, the payload and the route, in this order. -/
def admission (request : ClientRequest) (clock : Clock) :
    Except Response Job × AppState σ γ :=
  match AuthedKey.fromRequestParts crates.toStr app.keys request.authorization with
  | .error error => (.error error.intoResponse, app)
  | .ok identity =>
      let (checked, limits) := app.limits.checkRpm crates.governor identity.name clock.nanos
      let app := { app with limits }
      match checked with
      | .error exceeded =>
          (.error (errorResponse .tooManyRequests "rate_limit_exceeded" exceeded.message),
            { app with metrics := app.metrics.recordRateLimitRejection identity.name })
      | .ok () =>
          let req := CompletionRequest.fromSlice crates.json request.body
          if req.model.isEmpty then
            (.error (errorResponse .badRequest "invalid_request_error"
              "field `model` is required"), app)
          else
            let (routed, router) :=
              app.router.route (RouteQuery.new req.model) identity.enforcePrivate
            let app := { app with router }
            match routed with
            | .error error =>
                (.error (errorResponse .badGateway "no_eligible_backend"
                  (error.message crates.debug)), app)
            | .ok backend =>
                (.ok {
                  keyName := identity.name
                  model := req.model
                  stream := req.stream
                  backend
                  body := request.body }, app)

/-- The handler up to its first suspension. -/
def chatCompletions (request : ClientRequest) (clock : Clock) : AppState σ γ × Exchange :=
  match app.admission crates request clock with
  | (.error response, app) => (app, .refused request response)
  | (.ok job, app) => (app, .start request job)

/-- The five ways through admission, with what each leaves behind. -/
inductive Admission (request : ClientRequest) (clock : Clock) :
    Except Response Job × AppState σ γ → Prop where
  | unauthorized {error : AuthError}
      (refused : AuthedKey.fromRequestParts crates.toStr app.keys request.authorization =
        .error error) :
      Admission request clock (.error error.intoResponse, app)
  | limited {identity : KeyIdentity} {exceeded : LimitExceeded}
      (known : AuthedKey.fromRequestParts crates.toStr app.keys request.authorization =
        .ok identity)
      (refused : (app.limits.checkRpm crates.governor identity.name clock.nanos).1 =
        .error exceeded) :
      Admission request clock
        (.error (errorResponse .tooManyRequests "rate_limit_exceeded" exceeded.message),
          { app with
            limits := (app.limits.checkRpm crates.governor identity.name clock.nanos).2
            metrics := app.metrics.recordRateLimitRejection identity.name })
  | noModel {identity : KeyIdentity}
      (known : AuthedKey.fromRequestParts crates.toStr app.keys request.authorization =
        .ok identity)
      (allowed : (app.limits.checkRpm crates.governor identity.name clock.nanos).1 = .ok ())
      (refused : (CompletionRequest.fromSlice crates.json request.body).model.isEmpty = true) :
      Admission request clock
        (.error (errorResponse .badRequest "invalid_request_error"
            "field `model` is required"),
          { app with
            limits := (app.limits.checkRpm crates.governor identity.name clock.nanos).2 })
  | unroutable {identity : KeyIdentity} {error : RouteError}
      (known : AuthedKey.fromRequestParts crates.toStr app.keys request.authorization =
        .ok identity)
      (allowed : (app.limits.checkRpm crates.governor identity.name clock.nanos).1 = .ok ())
      (present : (CompletionRequest.fromSlice crates.json request.body).model.isEmpty = false)
      (refused : (app.router.route
          (.new (CompletionRequest.fromSlice crates.json request.body).model)
          identity.enforcePrivate).1 = .error error) :
      Admission request clock
        (.error (errorResponse .badGateway "no_eligible_backend"
            (error.message crates.debug)),
          { app with
            limits := (app.limits.checkRpm crates.governor identity.name clock.nanos).2
            router := (app.router.route
              (.new (CompletionRequest.fromSlice crates.json request.body).model)
              identity.enforcePrivate).2 })
  | admitted {identity : KeyIdentity} {backend : Backend}
      (known : AuthedKey.fromRequestParts crates.toStr app.keys request.authorization =
        .ok identity)
      (allowed : (app.limits.checkRpm crates.governor identity.name clock.nanos).1 = .ok ())
      (present : (CompletionRequest.fromSlice crates.json request.body).model.isEmpty = false)
      (routed : (app.router.route
          (.new (CompletionRequest.fromSlice crates.json request.body).model)
          identity.enforcePrivate).1 = .ok backend) :
      Admission request clock
        (.ok {
            keyName := identity.name
            model := (CompletionRequest.fromSlice crates.json request.body).model
            stream := (CompletionRequest.fromSlice crates.json request.body).stream
            backend
            body := request.body },
          { app with
            limits := (app.limits.checkRpm crates.governor identity.name clock.nanos).2
            router := (app.router.route
              (.new (CompletionRequest.fromSlice crates.json request.body).model)
              identity.enforcePrivate).2 })

theorem admission_spec (request : ClientRequest) (clock : Clock) :
    Admission crates app request clock (app.admission crates request clock) := by
  unfold admission
  cases known : AuthedKey.fromRequestParts crates.toStr app.keys request.authorization with
  | error error => exact .unauthorized known
  | ok identity =>
      cases checked : (app.limits.checkRpm crates.governor identity.name clock.nanos).1 with
      | error exceeded =>
          simp only [checked]
          exact .limited known checked
      | ok allowed =>
          simp only [checked]
          split
          · next empty => exact .noModel known checked empty
          · next present =>
              rw [Bool.not_eq_true] at present
              split
              · next error refused => exact .unroutable known checked present refused
              · next backend routed => exact .admitted known checked present routed

/-! ## The forwarding loop -/

/-- The head of the loop after a retryable error: back off, or give up. -/
def retry (exchange : Exchange) (job : Job) (attempt : Nat) (lastErr : UpstreamError)
    (hash : UInt64) : AppState σ γ × Exchange :=
  if attempt ≤ maxRetries then
    (app, exchange.sleep job attempt (jitter (backoffMs (attempt - 1)) hash))
  else
    ({ app with metrics := app.metrics.recordRequest job.backend.name job.model "5xx" },
      exchange.answer (errorResponse .badGateway "upstream_error" lastErr.message))

/-- Answer with the stream of a response, and start the task that accounts for it. -/
def streamResponse (exchange : Exchange) (job : Job) (response : HttpResponse)
    (clock : Clock) : AppState σ γ × Exchange :=
  let contentType := response.contentType.getD (fromStatic "text/event-stream")
  (app, {
    exchange with
    phase := .answered {
      status := .ok
      headers := [("content-type", contentType), ("x-accel-buffering", fromStatic "no"),
        ("cache-control", fromStatic "no-cache")]
      body := .relayed }
    relay := some {
      keyName := job.keyName
      backendName := job.backend.name
      relay := SseRelay.new response.stream stallTimeout clock.nanos
      released := false
      settled := false } })

/-- Start to read the body of a response that is returned as a whole. -/
def bufferedResponse (exchange : Exchange) (job : Job) (response : HttpResponse) :
    AppState σ γ × Exchange :=
  (app, { exchange with phase := .reading job response })

/-- A response is relayed if the client asked for a stream. -/
def handOver (exchange : Exchange) (job : Job) (response : HttpResponse) (clock : Clock) :
    AppState σ γ × Exchange :=
  if job.stream then app.streamResponse exchange job response clock
  else app.bufferedResponse exchange job response

/-- The result of `send` has come in for the current attempt. -/
def sent (exchange : Exchange) (result : HttpResult) (hash : UInt64) (clock : Clock) :
    AppState σ γ × Exchange :=
  match exchange.phase with
  | .calling job attempt =>
      match UpstreamClient.receive job.backend result with
      | .error error =>
          let app :=
            { app with metrics := app.metrics.recordUpstreamError job.backend.name }
          if !error.isRetryable then
            let httpStatus := (error.upstreamStatus.bind StatusCode.fromU16).getD .badGateway
            (app, exchange.answer (errorResponse httpStatus "upstream_error" error.message))
          else app.retry exchange job (attempt + 1) error hash
      | .ok response =>
          let app :=
            { app with metrics := app.metrics.recordRequest job.backend.name job.model "2xx" }
          app.handOver exchange job response clock
  | _ => (app, exchange)

/-- A backoff sleep is over. -/
def woke (exchange : Exchange) : AppState σ γ × Exchange :=
  match exchange.phase with
  | .sleeping job attempt => (app, exchange.call job attempt)
  | _ => (app, exchange)

/-- The buffered body has been read, or reading it failed. -/
def read (exchange : Exchange) (body : Except String Bytes) (secs : UInt64) :
    AppState σ γ × Exchange :=
  match exchange.phase with
  | .reading job response =>
      match body with
      | .error message =>
          ({ app with metrics := app.metrics.recordUpstreamError job.backend.name },
            exchange.answer (errorResponse .badGateway "upstream_error" message))
      | .ok body =>
          let app :=
            match bufferedUsage crates.json body with
            | some usage => app.account job.keyName usage secs
            | none => app
          let contentType := response.contentType.getD (fromStatic "application/json")
          (app, exchange.answer {
            status := response.status
            headers := [("content-type", contentType)]
            body := .bytes body })
  | _ => (app, exchange)

/-! ## The streamed body and its accounting -/

/-- The client polls the body. -/
def poll (exchange : Exchange) (context : PollContext) : AppState σ γ × Exchange :=
  match exchange.relay with
  | some task =>
      if task.released then (app, exchange)
      else
        let (_, relay) :=
          task.relay.pollNext (UsageEnvelope.fromSlice crates.json) context
        (app, { exchange with relay := some { task with relay } })
  | none => (app, exchange)

/-- The client goes away or is done: a handler in progress is dropped, and so is
the relay of a streamed body. -/
def close (exchange : Exchange) : AppState σ γ × Exchange :=
  let phase :=
    match exchange.phase with
    | .answered response => .answered response
    | _ => .cancelled
  let relay := exchange.relay.map fun task =>
    if task.released then task else { task with relay := task.relay.drop, released := true }
  (app, { exchange with phase, relay })

/-- What the accounting task does with the summary of a stream. -/
def accountStream (task : RelayTask) (summary : RelaySummary) (secs : UInt64) :
    AppState σ γ :=
  let app :=
    match summary.usage with
    | some usage => app.account task.keyName usage secs
    | none => app
  match summary.outcome with
  | .completed => app
  | .stalled | .upstreamError _ =>
      { app with metrics := app.metrics.recordUpstreamError task.backendName }
  | .clientDisconnected => app

/-- The accounting task runs once, after the summary was sent. -/
def settle (exchange : Exchange) (secs : UInt64) : AppState σ γ × Exchange :=
  match exchange.relay with
  | some task =>
      if task.settled then (app, exchange)
      else
        match task.relay.summaries with
        | [] => (app, exchange)
        | summary :: _ =>
            (app.accountStream task summary secs,
              { exchange with relay := some { task with settled := true } })
  | none => (app, exchange)

end AppState

end Patchbay
