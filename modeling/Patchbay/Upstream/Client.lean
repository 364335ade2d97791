import Patchbay.Config
import Patchbay.Lib.Redirect
import Patchbay.Upstream.Relay

/-!
# The upstream client

Opening a stream posts the client's payload to the backend and waits for a
response head.  The HTTP client follows redirects on its own, by its default
policy; what the network answers to each request is arbitrary.
-/

namespace Patchbay

structure StatusCode where
  code : UInt16
  valid : 100 ≤ code ∧ code < 1000
  deriving DecidableEq

namespace StatusCode

def fromU16 (code : UInt16) : Option StatusCode :=
  if valid : 100 ≤ code ∧ code < 1000 then some ⟨code, valid⟩ else none

def ok : StatusCode := ⟨200, by decide⟩

def badRequest : StatusCode := ⟨400, by decide⟩

def unauthorized : StatusCode := ⟨401, by decide⟩

def tooManyRequests : StatusCode := ⟨429, by decide⟩

def badGateway : StatusCode := ⟨502, by decide⟩

def isSuccess (status : StatusCode) : Bool := 200 ≤ status.code && status.code < 300

@[simp] theorem fromU16_code (status : StatusCode) : fromU16 status.code = some status := by
  simp [fromU16, status.valid]

end StatusCode

inductive UpstreamError where
  | http (message : String)
  | badStatus (backend : String) (status : UInt16) (body : String)
  deriving DecidableEq, Repr

namespace UpstreamError

def message : UpstreamError → String
  | .http message => "http client error: " ++ message
  | .badStatus backend status body =>
      "upstream `" ++ backend ++ "` returned " ++ toString status ++ ": " ++ body

/-- Server errors, 429 and connection failures are transient. -/
def isRetryable : UpstreamError → Bool
  | .http _ => true
  | .badStatus _ status _ => status == 429 || 500 ≤ status

def upstreamStatus : UpstreamError → Option UInt16
  | .badStatus _ status _ => some status
  | .http _ => none

end UpstreamError

/-- A response head with the ways its body can be read: as text, if that succeeds,
or as a stream. -/
structure HttpResponse where
  status : StatusCode
  /-- The URL of the `Location` header, if there is a valid one. -/
  location : Option String
  contentType : Option Bytes
  text : Option String
  stream : Nat → UpstreamPoll

/-- The answer to a request, or the client's error. -/
abbrev HttpResult := Except String HttpResponse

abbrev HttpRequest := Redirect.Request String Bytes

/-- The arguments of `open_sse`. -/
structure Call where
  backend : Backend
  path : String
  body : Bytes
  deriving DecidableEq

namespace Call

def url (call : Call) : String := call.backend.baseUrl ++ call.path

def headers (call : Call) : List (String × String) :=
  [("content-type", "application/json"), ("accept", "text/event-stream")] ++
    (call.backend.apiKey.map fun key => ("authorization", "Bearer " ++ key.expose)).toList

def request (call : Call) : HttpRequest := { target := call.url, body := some call.body }

end Call

/-- The HTTP client, as far as its configuration shows: how many redirects it
follows. -/
structure UpstreamClient where
  redirectLimit : Nat

namespace UpstreamClient

/-- No redirect policy is configured, so the default one applies. -/
def new : UpstreamClient := { redirectLimit := 10 }

/-- How the client takes an answer.  301, 302 and 303 turn the request into one
without a body, 307 and 308 repeat it. -/
def interpret : HttpResult → Redirect.Answer String HttpResult
  | .error message => .final (.error message)
  | .ok response =>
      match response.location with
      | none => .final (.ok response)
      | some target =>
          if [301, 302, 303].contains response.status.code then .redirect target false
          else if [307, 308].contains response.status.code then .redirect target true
          else .final (.ok response)

/-- The text of the client's error about one redirect too many: it ends in the URL that
answered with it. -/
def redirectError (sent : List HttpRequest) : String :=
  "error following redirect" ++
    (sent.getLast?.elim "" fun last => " for url (" ++ last.target ++ ")")

/-- Send a request to a network that gave `answers` so far: the requests that went
out, and the result once there is one. -/
def send (client : UpstreamClient) (request : HttpRequest) (answers : List HttpResult) :
    List HttpRequest × Option HttpResult :=
  let (sent, outcome) :=
    Redirect.follow client.redirectLimit request (answers.map interpret)
  (sent,
    match outcome with
    | .pending => none
    | .tooManyRedirects => some (.error (redirectError sent))
    | .answered result => some result)

/-- What `open_sse` makes of the result of `send`. -/
def receive (backend : Backend) : HttpResult → Except UpstreamError HttpResponse
  | .error message => .error (.http message)
  | .ok response =>
      if !response.status.isSuccess then
        .error (.badStatus backend.name response.status.code
          (Text.takeChars (response.text.getD "") 2048))
      else .ok response

/-- Post the payload of a call and read the response head. -/
def openSse (client : UpstreamClient) (call : Call) (answers : List HttpResult) :
    List HttpRequest × Option (Except UpstreamError HttpResponse) :=
  let (sent, result) := client.send call.request answers
  (sent, result.map (receive call.backend))

/-- The body of a call goes to its own URL only, exactly when the network passes
it on to nowhere else. -/
theorem body_home_iff (client : UpstreamClient) (call : Call) (answers : List HttpResult) :
    (∀ sent ∈ (client.openSse call answers).1, sent.body.isSome = true →
        sent.target = call.url) ↔
      Redirect.StaysAt call.url client.redirectLimit (answers.map interpret) := by
  have carried : call.request.body.isSome = true := rfl
  simp only [openSse, send]
  rw [Redirect.body_only_to_iff carried]
  exact and_iff_right rfl

end UpstreamClient

end Patchbay
