import Patchbay.Gateway

/-!
# The answer to a missing model

One derived decoding covers the model and the stream flag, and a payload that it refuses is
taken as the default one, whose model is missing.  A request that names its model is
therefore answered as if it did not when another part of its payload is refused.
-/

namespace Patchbay

open Json

/-- The answer to a request without a model. -/
def modelRequired : Response :=
  errorResponse .badRequest "invalid_request_error" "field `model` is required"

namespace CompletionRequest

/-- Of an object with one `model` member, a string, nothing keeps the payload from being
decoded: the string and all keys denote text, and `stream` is absent or written once, as a
boolean. -/
structure Decodes (members : Members) (model : Option String) : Prop where
  model : model.isSome = true
  keys : Members.keysDecode members = true
  stream : members.named "stream" = [] ∨ ∃ stream, members.named "stream" = [.bool stream]

theorem streamField_isSome {members : Members} :
    ((members.field "stream").bind streamField).isSome = true ↔
      members.named "stream" = [] ∨ ∃ stream, members.named "stream" = [.bool stream] := by
  rw [Members.field]
  cases members.named "stream" with
  | nil => simp [streamField]
  | cons value rest =>
      cases rest with
      | nil => cases value <;> simp [streamField]
      | cons second rest => simp

theorem deserialize_object {members : Members} {model : Option String}
    (single : members.named "model" = [.string model]) :
    deserialize (.object members) =
      if Members.keysDecode members then
        model.bind fun text =>
          ((members.field "stream").bind streamField).map (CompletionRequest.mk text)
      else none := by
  have field : members.field "model" = some (some (.string model)) := by
    rw [Members.field, single]
  simp only [deserialize, field, Option.bind_eq_bind, Option.bind_some]
  congr 1
  cases members.field "stream" with
  | none => cases model <;> rfl
  | some stream =>
      cases model with
      | none => rfl
      | some text =>
          simp only [Option.bind_some, ofFields, modelField, Option.bind_eq_bind]
          cases streamField stream <;> rfl

/-- Such an object is decoded with its model, or not at all. -/
theorem deserialize_model {members : Members} {model : Option String}
    (single : members.named "model" = [.string model]) :
    (∃ request, deserialize (.object members) = some request ∧ model = some request.model) ∧
        Decodes members model ∨
      deserialize (.object members) = none ∧ ¬ Decodes members model := by
  have decodes_iff : Decodes members model ↔ model.isSome = true ∧
      Members.keysDecode members = true ∧
        ((members.field "stream").bind streamField).isSome = true := by
    rw [streamField_isSome]
    exact ⟨fun decodes => ⟨decodes.model, decodes.keys, decodes.stream⟩,
      fun all => ⟨all.1, all.2.1, all.2.2⟩⟩
  rw [decodes_iff, deserialize_object single]
  cases Members.keysDecode members with
  | false => simp
  | true =>
      cases model with
      | none => simp
      | some text => cases (members.field "stream").bind streamField <;> simp

/-- A model that is present reads as missing exactly when something keeps the payload from
being decoded. -/
theorem fromSlice_model_iff {json : Reader} {body : Bytes} {members : Members}
    (object : json.tree body = some (.object members)) {model : Option String}
    (single : members.named "model" = [.string model]) (nonempty : model ≠ some "") :
    (fromSlice json body).model ≠ "" ↔ Decodes members model := by
  rw [fromSlice, object, Option.bind_some]
  rcases deserialize_model single with ⟨⟨request, decoded, rfl⟩, decodes⟩ | ⟨failed, refused⟩
  · rw [decoded]
    exact iff_of_true (fun empty => nonempty (congrArg some empty)) decodes
  · rw [failed]
    exact iff_of_false (fun present => present rfl) refused

end CompletionRequest

/-! ## Answers of the handler -/

/-- The request was not answered for lack of a model. -/
def Exchange.HasModel (exchange : Exchange) : Prop := exchange.phase ≠ .answered modelRequired

namespace AppState

variable {σ γ : Type} {crates : Crates γ}

theorem errorResponse_ne_modelRequired {errType : String}
    (other : errType ≠ "invalid_request_error") (status : StatusCode) (message : String) :
    errorResponse status errType message ≠ modelRequired := by
  intro same
  rw [errorResponse, modelRequired, errorResponse, jsonResponse, jsonResponse] at same
  simp only [Response.mk.injEq, ResponseBody.error.injEq, ErrorBody.mk.injEq] at same
  exact other same.2.2.2.1

theorem upstreamError_ne_modelRequired (status : StatusCode) (message : String) :
    errorResponse status "upstream_error" message ≠ modelRequired :=
  errorResponse_ne_modelRequired (by decide) status message

theorem hasModel_of_answered {exchange : Exchange} {response : Response}
    (answered : exchange.phase = .answered response) (other : response ≠ modelRequired) :
    exchange.HasModel := by
  intro same
  rw [answered, Phase.answered.injEq] at same
  exact other same

theorem hasModel_of_job {exchange : Exchange} (job : Job)
    (running : exchange.phase.job = some job) : exchange.HasModel := by
  intro answered
  rw [answered] at running
  cases running

theorem hasModel_sent (app : AppState σ γ) {exchange : Exchange}
    (hasModel : exchange.HasModel) (result : HttpResult) (hash : UInt64) (clock : Clock) :
    (app.sent exchange result hash clock).2.HasModel := by
  unfold sent
  split
  · next job attempt calling =>
      split
      · next error failed =>
          dsimp only
          split
          · exact hasModel_of_answered rfl (upstreamError_ne_modelRequired _ _)
          · unfold retry
            split
            · exact hasModel_of_job job rfl
            · exact hasModel_of_answered rfl (upstreamError_ne_modelRequired _ _)
      · next response received =>
          dsimp only [handOver]
          split
          · exact hasModel_of_answered rfl (fun same => by cases congrArg Response.body same)
          · exact hasModel_of_job job rfl
  · exact hasModel

theorem hasModel_read (app : AppState σ γ) {exchange : Exchange}
    (hasModel : exchange.HasModel) (body : Except String Bytes) (secs : UInt64) :
    (app.read crates exchange body secs).2.HasModel := by
  unfold read
  split
  · split
    · exact hasModel_of_answered rfl (upstreamError_ne_modelRequired _ _)
    · exact hasModel_of_answered rfl (fun same => by cases congrArg Response.body same)
  · exact hasModel

theorem hasModel_poll (app : AppState σ γ) {exchange : Exchange}
    (hasModel : exchange.HasModel) (context : PollContext) :
    (app.poll crates exchange context).2.HasModel := by
  unfold poll
  split
  · split
    · exact hasModel
    · exact hasModel
  · exact hasModel

theorem hasModel_close (app : AppState σ γ) {exchange : Exchange}
    (hasModel : exchange.HasModel) : (app.close exchange).2.HasModel := by
  intro answered
  simp only [close] at answered
  split at answered
  · next response already =>
      rw [Phase.answered.injEq] at answered
      rw [answered] at already
      exact hasModel already
  · cases answered

theorem hasModel_settle (app : AppState σ γ) {exchange : Exchange}
    (hasModel : exchange.HasModel) (secs : UInt64) :
    (app.settle exchange secs).2.HasModel := by
  unfold settle
  split
  · split
    · exact hasModel
    · split
      · exact hasModel
      · exact hasModel
  · exact hasModel

/-- A request that was admitted is not answered for lack of a model later. -/
theorem Acted.hasModel {app : AppState σ γ} {before after : Exchange}
    (acted : app.Acted crates before after) (hasModel : before.HasModel) :
    after.HasModel := by
  cases acted with
  | sent result hash clock => exact hasModel_sent app hasModel result hash clock
  | woke =>
      unfold AppState.woke
      split
      · next job attempt sleeping => exact hasModel_of_job job rfl
      · exact hasModel
  | read body secs => exact hasModel_read app hasModel body secs
  | poll context => exact hasModel_poll app hasModel context
  | close => exact hasModel_close app hasModel
  | settle secs => exact hasModel_settle app hasModel secs

/-- Within its rate limit, a known caller is answered for lack of a model exactly when the
payload reads as one without a model. -/
theorem chatCompletions_hasModel_iff {app : AppState σ γ} {request : ClientRequest}
    {clock : Clock} {identity : KeyIdentity}
    (known : AuthedKey.fromRequestParts crates.toStr app.keys request.authorization =
      .ok identity)
    (allowed : (app.limits.checkRpm crates.governor identity.name clock.nanos).1 = .ok ()) :
    (app.chatCompletions crates request clock).2.HasModel ↔ request.model crates ≠ "" := by
  have spec := admission_spec crates app request clock
  unfold chatCompletions
  generalize app.admission crates request clock = admission at spec
  cases spec with
  | unauthorized refused =>
      rw [known] at refused
      cases refused
  | limited known' refused =>
      rw [known, Except.ok.injEq] at known'
      subst known'
      rw [allowed] at refused
      cases refused
  | noModel _ _ empty =>
      rw [String.isEmpty_iff] at empty
      exact iff_of_false (fun hasModel => hasModel rfl) (fun present => present empty)
  | unroutable _ _ present _ =>
      rw [← Bool.not_eq_true, String.isEmpty_iff] at present
      exact iff_of_true (hasModel_of_answered rfl (errorResponse_ne_modelRequired (by decide) _ _))
        present
  | admitted _ _ present _ =>
      rw [← Bool.not_eq_true, String.isEmpty_iff] at present
      exact iff_of_true (hasModel_of_job _ rfl) present

end AppState

namespace Gateway

variable {σ γ : Type} {crates : Crates γ}

/-- **The missing model.**  A known caller within its rate limit who sends one model, which is
not empty, is never told that the model is missing exactly when nothing else keeps the
payload from being decoded. -/
theorem model_required_iff (gateway : Gateway σ γ) {request : ClientRequest} {clock : Clock}
    {identity : KeyIdentity}
    (known : AuthedKey.fromRequestParts crates.toStr gateway.app.keys request.authorization =
      .ok identity)
    (allowed : (gateway.app.limits.checkRpm crates.governor identity.name clock.nanos).1 =
      .ok ())
    {members : Members} (object : crates.json.tree request.body = some (.object members))
    {model : Option String} (single : members.named "model" = [.string model])
    (nonempty : model ≠ some "") :
    (∀ events exchange,
        ((gateway.step crates (.arrive request clock)).run crates events).exchanges[
            gateway.exchanges.length]? = some exchange →
          exchange.phase ≠ .answered modelRequired) ↔
      CompletionRequest.Decodes members model := by
  have arrived : (gateway.step crates (.arrive request clock)).exchanges[
      gateway.exchanges.length]? =
        some (gateway.app.chatCompletions crates request clock).2 := by
    simp [step]
  rw [← CompletionRequest.fromSlice_model_iff object single nonempty]
  rw [← ClientRequest.model, ← AppState.chatCompletions_hasModel_iff known allowed]
  constructor
  · intro never
    exact never [] _ arrived
  · intro hasModel events exchange found
    rcases run_keeps crates AppState.Acted.hasModel arrived hasModel events
      with ⟨after, foundAfter, kept⟩
    rw [found, Option.some.injEq] at foundAfter
    rwa [foundAfter]

end Gateway

open Sample in
theorem model_required_payload :
    (∀ events exchange,
        (((Gateway.start app).step crates (.arrive request clock)).run crates events).exchanges[
            (Gateway.start app).exchanges.length]? = some exchange →
          exchange.phase ≠ .answered modelRequired) ↔
      CompletionRequest.Decodes [(some "model", .string (some "m"))] (some "m") := by
  have known : AuthedKey.fromRequestParts crates.toStr app.keys request.authorization =
      .ok { name := "dev", enforcePrivate := true } := rfl
  exact Gateway.model_required_iff (Gateway.start app) known rfl rfl rfl (by decide)

namespace Sample

/-- A payload whose stream flag is `null`. -/
def nullStream : Bytes := fromStatic "\x7b\"model\":\"m\",\"stream\":null\x7d"

def nullStreamMembers : Members := [(some "model", .string (some "m")), (some "stream", .null)]

def nullStreamCrates : Crates Unit :=
  { crates with
    json := {
      tree text := if text = nullStream then some (.object nullStreamMembers) else none
      untyped text := text == nullStream } }

def nullStreamRequest : ClientRequest := { request with body := nullStream }

end Sample

open Sample in
/-- Its model counts as missing. -/
theorem model_required_nullStream :
    ¬ ∀ (request : ClientRequest) (identity : KeyIdentity),
      AuthedKey.fromRequestParts nullStreamCrates.toStr app.keys request.authorization =
          .ok identity →
        (app.limits.checkRpm governor identity.name clock.nanos).1 = .ok () →
          ∀ members model, nullStreamCrates.json.tree request.body = some (.object members) →
            Members.named members "model" = [.string (some model)] → model ≠ "" →
              (app.chatCompletions nullStreamCrates request clock).2.phase ≠
                .answered modelRequired := by
  intro never
  exact never nullStreamRequest { name := "dev", enforcePrivate := true } rfl rfl
    nullStreamMembers "m" rfl rfl (by decide) rfl

end Patchbay
