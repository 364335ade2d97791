import Patchbay.Billing

/-!
# Where answers come from

The gateway answers in the name of its upstreams.  What a client is given as a success is
what an upstream sent for its own request, byte for byte: the head that came in for the
exchange, with the body that was read after it or with the chunks of its stream.  A failure
is one that this exchange met with, or its request never left the gateway.
-/

namespace Patchbay

/-- The answer to a client whose request failed for good. -/
def UpstreamError.answer (error : UpstreamError) : Response :=
  let status :=
    if error.isRetryable then .badGateway
    else (error.upstreamStatus.bind StatusCode.fromU16).getD .badGateway
  errorResponse status "upstream_error" error.message

namespace HttpResponse

/-- The response that hands a stream over. -/
def streamed (head : HttpResponse) : Response where
  status := .ok
  headers := [("content-type", head.contentType.getD (fromStatic "text/event-stream")),
    ("x-accel-buffering", fromStatic "no"), ("cache-control", fromStatic "no-cache")]
  body := .relayed

/-- The response that returns a body as a whole. -/
def buffered (head : HttpResponse) (body : Bytes) : Response where
  status := head.status
  headers := [("content-type", head.contentType.getD (fromStatic "application/json"))]
  body := .bytes body

end HttpResponse

/-! ## What an upstream takes and gives -/

namespace UpstreamClient

theorem receive_eq_ok {backend : Backend} {result : HttpResult} {head : HttpResponse}
    (received : receive backend result = .ok head) :
    result = .ok head ∧ head.status.isSuccess = true := by
  cases result with
  | error message => cases received
  | ok response =>
      rw [receive] at received
      split at received
      · cases received
      · next success =>
          cases received
          simpa using success

end UpstreamClient

namespace AppState

variable {σ γ : Type} (app : AppState σ γ) (exchange : Exchange)

/-- What a response head, or the failure to get one, makes of an exchange. -/
inductive Sent (result : HttpResult) (clock : Clock) : Exchange → Prop
  | idle (idle : ∀ job attempt, exchange.phase ≠ .calling job attempt) :
      Sent result clock exchange
  | retried {job : Job} {attempt : Nat} (calling : exchange.phase = .calling job attempt)
      (ms : UInt64) : Sent result clock (exchange.sleep job (attempt + 1) ms)
  | failed {job : Job} {attempt : Nat} {error : UpstreamError}
      (calling : exchange.phase = .calling job attempt)
      (received : UpstreamClient.receive job.backend result = .error error) :
      Sent result clock (exchange.answer error.answer)
  | streamed {job : Job} {attempt : Nat} {head : HttpResponse}
      (calling : exchange.phase = .calling job attempt)
      (received : UpstreamClient.receive job.backend result = .ok head)
      (asked : job.stream = true) :
      Sent result clock { exchange with
        phase := .answered head.streamed
        relay := some {
          keyName := job.keyName
          backendName := job.backend.name
          relay := SseRelay.new head.stream stallTimeout clock.nanos
          released := false
          settled := false } }
  | reads {job : Job} {attempt : Nat} {head : HttpResponse}
      (calling : exchange.phase = .calling job attempt)
      (received : UpstreamClient.receive job.backend result = .ok head)
      (whole : job.stream = false) :
      Sent result clock { exchange with phase := .reading job head }

theorem sent_course (result : HttpResult) (hash : UInt64) (clock : Clock) :
    Sent exchange result clock (app.sent exchange result hash clock).2 := by
  rw [sent]
  cases phase : exchange.phase with
  | calling job attempt =>
      dsimp only
      cases received : UpstreamClient.receive job.backend result with
      | error error =>
          have failed : Sent exchange result clock (exchange.answer error.answer) :=
            .failed phase received
          dsimp only
          cases retryable : error.isRetryable with
          | false =>
              simp only [UpstreamError.answer, retryable, Bool.false_eq_true, if_false] at failed
              exact failed
          | true =>
              simp only [UpstreamError.answer, retryable, if_true] at failed
              simp only [Bool.not_true, Bool.false_eq_true, if_false, retry]
              split
              · exact .retried phase _
              · exact failed
      | ok head =>
          dsimp only
          rw [handOver]
          split
          · next asked => exact .streamed phase received asked
          · next whole => exact .reads phase received (Bool.eq_false_iff.mpr whole)
  | _ => exact .idle (by simp [phase])

end AppState

/-! ## Genuine answers -/

section Genuine

variable {σ γ : Type} (crates : Crates γ) (app : AppState σ γ) (index : Nat)
  (past : List (Event σ))

/-- A response to a request, with the chunks that its client was given of a stream, as the
events of a run account for it. -/
inductive Genuine (request : ClientRequest) (calls : List Call) :
    Response → List Bytes → Prop
  /-- The request was turned away when it arrived. -/
  | refused {before : List (Event σ)} {clock : Clock} {response : Response}
      (arrived : (before ++ [Event.arrive request clock]).IsPrefix past)
      (own : ((Gateway.start app).run crates before).exchanges.length = index)
      (refused : (((Gateway.start app).run crates before).app.admission crates request
        clock).1 = .error response)
      (uncalled : calls = []) : Genuine request calls response []
  | failed {call : Call} {result : HttpResult} {hash : UInt64} {clock : Clock}
      {error : UpstreamError} (called : call ∈ calls)
      (came : .sent index result hash clock ∈ past)
      (received : UpstreamClient.receive call.backend result = .error error) :
      Genuine request calls error.answer []
  | unreadable {head : HttpResponse} {hash : UInt64} {clock : Clock} {message : String}
      {secs : UInt64}
      (came : [.sent index (.ok head) hash clock, .read index (.error message) secs].Sublist
        past) :
      Genuine request calls (errorResponse .badGateway "upstream_error" message) []
  | buffered {head : HttpResponse} {hash : UInt64} {clock : Clock} {body : Bytes}
      {secs : UInt64}
      (came : [.sent index (.ok head) hash clock, .read index (.ok body) secs].Sublist past)
      (success : head.status.isSuccess = true)
      (whole : (CompletionRequest.fromSlice crates.json request.body).stream = false) :
      Genuine request calls (head.buffered body) []
  | streamed {head : HttpResponse} {hash : UInt64} {clock : Clock}
      (came : .sent index (.ok head) hash clock ∈ past)
      (success : head.status.isSuccess = true)
      (asked : (CompletionRequest.fromSlice crates.json request.body).stream = true)
      (polled : Nat) :
      Genuine request calls head.streamed (SseRelay.produced head.stream polled)

variable {crates app index past} {request : ClientRequest} {calls : List Call}
  {response : Response} {chunks : List Bytes}

/-- What happens later takes nothing back. -/
theorem Genuine.later (genuine : Genuine crates app index past request calls response chunks)
    (event : Event σ) :
    Genuine crates app index (past ++ [event]) request calls response chunks := by
  have kept : past.Sublist (past ++ [event]) := List.sublist_append_left past [event]
  cases genuine with
  | refused arrived own refused uncalled =>
      exact .refused (arrived.trans (List.prefix_append past [event])) own refused uncalled
  | failed called came received => exact .failed called (kept.mem came) received
  | unreadable came => exact .unreadable (came.trans kept)
  | buffered came success whole => exact .buffered (came.trans kept) success whole
  | streamed came success asked polled => exact .streamed (kept.mem came) success asked polled

theorem UpstreamError.unsuccessful_answer {backend : Backend} {result : HttpResult}
    {error : UpstreamError} (received : UpstreamClient.receive backend result = .error error) :
    error.answer.status.isSuccess = false := by
  cases result with
  | error message =>
      cases received
      rfl
  | ok head =>
      rw [UpstreamClient.receive] at received
      split at received
      · next unsuccessful =>
          cases received
          rw [UpstreamError.answer]
          split
          · rfl
          · simpa [UpstreamError.upstreamStatus, errorResponse, jsonResponse] using unsuccessful
      · cases received

theorem AppState.unsuccessful_admission {crates : Crates γ} {state : AppState σ γ}
    {request : ClientRequest} {clock : Clock} {response : Response}
    (refused : (state.admission crates request clock).1 = .error response) :
    response.status.isSuccess = false := by
  have spec := admission_spec crates state request clock
  generalize state.admission crates request clock = admission at spec refused
  cases spec with
  | admitted known allowed present routed => cases refused
  | _ =>
      cases refused
      rfl

/-- Only an upstream succeeds. -/
theorem Genuine.upstream_of_success
    (genuine : Genuine crates app index past request calls response chunks)
    (success : response.status.isSuccess = true) :
    ∃ head hash clock, .sent index (.ok head) hash clock ∈ past ∧
      head.status.isSuccess = true := by
  cases genuine with
  | refused arrived own refused uncalled =>
      rw [AppState.unsuccessful_admission refused] at success
      cases success
  | failed called came received =>
      rw [UpstreamError.unsuccessful_answer received] at success
      cases success
  | unreadable came => cases success
  | buffered came succeeded whole => exact ⟨_, _, _, came.mem List.mem_cons_self, succeeded⟩
  | streamed came succeeded asked polled => exact ⟨_, _, _, came, succeeded⟩

end Genuine

/-! ## Along a run -/

namespace SseRelay

theorem script_report (relay : SseRelay) (outcome : RelayOutcome) :
    (relay.report outcome).upstream.script = relay.upstream.script := by
  rw [report]
  split <;> rfl

theorem script_pollNext (parse : Bytes → Option UsageEnvelope) (relay : SseRelay)
    (context : PollContext) :
    (relay.pollNext parse context).2.upstream.script = relay.upstream.script := by
  rw [pollNext]
  split
  · rfl
  · dsimp only
    split
    · rfl
    · exact script_report _ _
    · exact script_report _ _
    · split
      · exact script_report _ _
      · rfl

end SseRelay

/-- The upstream stream of an exchange, if it relays one. -/
def Exchange.script (exchange : Exchange) : Option (Nat → UpstreamPoll) :=
  exchange.relay.map fun task => task.relay.upstream.script

/-- What the events of a run explain about an exchange. -/
structure Exchange.Explained {σ γ : Type} (crates : Crates γ) (app : AppState σ γ)
    (index : Nat) (past : List (Event σ)) (exchange : Exchange) : Prop where
  /-- Only the client's own bytes go out, to one backend. -/
  calls : ∀ call ∈ exchange.calls, exchange.backend = some call.backend ∧
    call.path = "/v1/chat/completions" ∧ call.body = exchange.request.body
  job : ∀ job, exchange.phase.job = some job → job.body = exchange.request.body ∧
    job.stream = (CompletionRequest.fromSlice crates.json exchange.request.body).stream
  reading : ∀ job head, exchange.phase = .reading job head → job.stream = false ∧
    head.status.isSuccess = true ∧ ∃ hash clock, .sent index (.ok head) hash clock ∈ past
  answered : ∀ response, exchange.phase = .answered response →
    exchange.script.elim
      (Genuine crates app index past exchange.request exchange.calls response [])
      fun script => ∀ polled, Genuine crates app index past exchange.request exchange.calls
        response (SseRelay.produced script polled)

namespace Exchange

variable {σ γ : Type} {crates : Crates γ} {app : AppState σ γ} {index : Nat}
  {past : List (Event σ)} {exchange : Exchange} {keys : KeyStore}

theorem Explained.later (explained : exchange.Explained crates app index past)
    (event : Event σ) : exchange.Explained crates app index (past ++ [event]) where
  calls := explained.calls
  job := explained.job
  reading job head found := by
    rcases explained.reading job head found with ⟨whole, success, hash, clock, came⟩
    exact ⟨whole, success, hash, clock, List.mem_append_left _ came⟩
  answered response found := by
    have genuine := explained.answered response found
    cases relayed : exchange.script with
    | none =>
        rw [relayed] at genuine
        exact Genuine.later genuine event
    | some script =>
        rw [relayed] at genuine
        exact fun polled => (genuine polled).later event

/-- Reading a stream and accounting for it changes nothing that is to be explained. -/
theorem Explained.congr (explained : exchange.Explained crates app index past)
    {after : Exchange} (request : after.request = exchange.request)
    (calls : after.calls = exchange.calls) (phase : after.phase = exchange.phase)
    (script : after.script = exchange.script) : after.Explained crates app index past where
  calls := by
    rw [Exchange.backend, calls, request]
    exact explained.calls
  job := by
    rw [phase, request]
    exact explained.job
  reading := by
    rw [phase]
    exact explained.reading
  answered := by
    rw [phase, script, request, calls]
    exact explained.answered

/-- An answer without a stream. -/
theorem Explained.answer (explained : exchange.Explained crates app index past)
    (coherent : exchange.Coherent crates.toStr keys) {job : Job}
    (running : exchange.phase.job = some job) {response : Response}
    (genuine : Genuine crates app index past exchange.request exchange.calls response []) :
    (exchange.answer response).Explained crates app index past where
  calls := explained.calls
  job next found := by simp [Exchange.answer, Phase.job] at found
  reading next head found := by simp [Exchange.answer] at found
  answered other found := by
    have noRelay := (coherent.job job running).2.2
    cases found
    rw [script, Exchange.answer, noRelay]
    exact genuine

/-- The call that is waited for went to the backend of the job. -/
theorem exists_call {backend : Backend} (routed : exchange.backend = some backend) :
    ∃ call ∈ exchange.calls, call.backend = backend := by
  rw [Exchange.backend, Option.map_eq_some_iff] at routed
  rcases routed with ⟨call, first, same⟩
  exact ⟨call, List.mem_of_head? first, same⟩

/-- A further call is like those before. -/
theorem Explained.call (explained : exchange.Explained crates app index past) {job : Job}
    (routed : exchange.backend = some job.backend) (body : job.body = exchange.request.body)
    (attempt : Nat) : ∀ call ∈ (exchange.call job attempt).calls,
      (exchange.call job attempt).backend = some call.backend ∧
        call.path = "/v1/chat/completions" ∧ call.body = exchange.request.body := by
  intro call made
  have sameBackend := backend_call routed attempt
  rcases List.mem_append.mp made with earlier | another
  · have known := explained.calls call earlier
    exact ⟨sameBackend.trans (routed.symm.trans known.1), known.2⟩
  · rw [List.mem_singleton] at another
    subst another
    exact ⟨sameBackend, rfl, body⟩

section

variable (explained : exchange.Explained crates app index past)
  (coherent : exchange.Coherent crates.toStr keys) (state : AppState σ γ)

include explained coherent in
/-- A response head leads on, or the failure to get one does. -/
theorem Explained.sent (result : HttpResult) (hash : UInt64) (clock : Clock) :
    (state.sent exchange result hash clock).2.Explained crates app index
      (past ++ [.sent index result hash clock]) := by
  have later := explained.later (.sent index result hash clock)
  have happened : Event.sent index result hash clock ∈
      past ++ [.sent index result hash clock] :=
    List.mem_append_right past (List.mem_singleton_self _)
  have course := state.sent_course exchange result hash clock
  generalize (state.sent exchange result hash clock).2 = after at course
  cases course with
  | idle => exact later
  | @retried job attempt calling ms =>
      constructor
      · exact later.calls
      · intro next found
        cases found
        exact later.job job (job_of_calling calling)
      · intro next head found
        cases found
      · intro response found
        cases found
  | @failed job attempt error calling received =>
      have running := job_of_calling calling
      rcases exists_call (coherent.job job running).2.1 with ⟨call, called, same⟩
      rw [← same] at received
      exact later.answer coherent running (.failed called happened received)
  | @streamed job attempt head calling received asked =>
      have known := later.job job (job_of_calling calling)
      rcases UpstreamClient.receive_eq_ok received with ⟨rfl, success⟩
      constructor
      · exact later.calls
      · intro next found
        cases found
      · intro next other found
        cases found
      · intro response found
        cases found
        intro polled
        exact .streamed happened success (known.2.symm.trans asked) polled
  | @reads job attempt head calling received whole =>
      rcases UpstreamClient.receive_eq_ok received with ⟨rfl, success⟩
      constructor
      · exact later.calls
      · intro next found
        cases found
        exact later.job job (job_of_calling calling)
      · intro next other found
        cases found
        exact ⟨whole, success, hash, clock, happened⟩
      · intro response found
        cases found

include explained coherent in
/-- A sleep ends with a call like those before. -/
theorem Explained.woke :
    (state.woke exchange).2.Explained crates app index (past ++ [.woke index]) := by
  have later := explained.later (.woke index)
  rw [AppState.woke]
  cases phase : exchange.phase with
  | sleeping job attempt =>
      have running := job_of_sleeping phase
      constructor
      · exact later.call (coherent.job job running).2.1 (later.job job running).1 attempt
      · intro next found
        cases found
        exact later.job job running
      · intro next head found
        cases found
      · intro response found
        cases found
  | _ => exact later

include explained coherent in
/-- The body that was waited for is returned. -/
theorem Explained.read (body : Except String Bytes) (secs : UInt64) :
    (state.read crates exchange body secs).2.Explained crates app index
      (past ++ [.read index body secs]) := by
  have later := explained.later (.read index body secs)
  rw [AppState.read]
  cases phase : exchange.phase with
  | reading job head =>
      have running := job_of_reading phase
      have known := later.job job running
      rcases explained.reading job head phase with ⟨whole, success, hash, clock, came⟩
      have both := (List.singleton_sublist.mpr came).append_right [Event.read index body secs]
      cases body with
      | error message => exact later.answer coherent running (.unreadable both)
      | ok body =>
          exact later.answer coherent running
            (.buffered both success (known.2.symm.trans whole))
  | _ => exact later

include explained in
/-- A stream keeps the script that it was begun with. -/
theorem Explained.poll (context : PollContext) :
    (state.poll crates exchange context).2.Explained crates app index
      (past ++ [.poll index context]) := by
  have later := explained.later (.poll index context)
  rw [AppState.poll]
  cases relayed : exchange.relay with
  | none => exact later
  | some task =>
      dsimp only
      split
      · exact later
      · refine later.congr rfl rfl rfl ?_
        rw [script, script, relayed]
        exact congrArg some (SseRelay.script_pollNext _ task.relay context)

include explained in
theorem Explained.settle (secs : UInt64) :
    (state.settle exchange secs).2.Explained crates app index (past ++ [.settle index secs]) := by
  have later := explained.later (.settle index secs)
  rw [AppState.settle]
  cases relayed : exchange.relay with
  | none => exact later
  | some task =>
      dsimp only
      split
      · exact later
      · split
        · exact later
        · refine later.congr rfl rfl rfl ?_
          rw [script, script, relayed]
          rfl

include explained in
/-- A client that leaves keeps an answer, or does without one. -/
theorem Explained.close :
    (state.close exchange).2.Explained crates app index (past ++ [.close index]) := by
  have later := explained.later (.close index)
  have dropped : (state.close exchange).2.script = exchange.script := by
    rw [script, script, AppState.close, Option.map_map]
    congr 1
    funext task
    rw [Function.comp_apply]
    split
    · rfl
    · exact SseRelay.script_report task.relay .clientDisconnected
  cases phase : exchange.phase with
  | answered response =>
      refine later.congr rfl rfl ?_ dropped
      rw [AppState.close, phase]
  | _ =>
      have cancelled : (state.close exchange).2.phase = .cancelled := by
        rw [AppState.close, phase]
      constructor
      · exact later.calls
      · intro job found
        rw [cancelled] at found
        cases found
      · intro job head found
        rw [cancelled] at found
        cases found
      · intro response found
        rw [cancelled] at found
        cases found

include explained coherent in
/-- **Step.**  What happens to an exchange explains what becomes of it. -/
theorem Explained.act {event : Event σ} (about : event.target = some index) :
    (event.act crates state exchange).2.Explained crates app index (past ++ [event]) := by
  cases event with
  | arrive request clock => cases about
  | retune router => cases about
  | sent target result hash clock =>
      cases about
      exact explained.sent coherent state result hash clock
  | woke target =>
      cases about
      exact explained.woke coherent state
  | read target body secs =>
      cases about
      exact explained.read coherent state body secs
  | poll target context =>
      cases about
      exact explained.poll state context
  | settle target secs =>
      cases about
      exact explained.settle state secs
  | close target =>
      cases about
      exact explained.close state

end

end Exchange

namespace AppState

variable {σ γ : Type} {crates : Crates γ}

/-- An exchange begins with an answer, or with its first call. -/
theorem explained_chatCompletions (app : AppState σ γ) {index : Nat} {before : List (Event σ)}
    (own : ((Gateway.start app).run crates before).exchanges.length = index)
    (request : ClientRequest) (clock : Clock) :
    (((Gateway.start app).run crates before).app.chatCompletions crates request
      clock).2.Explained crates app index (before ++ [.arrive request clock]) := by
  have turnedAway : ∀ response,
      (((Gateway.start app).run crates before).app.admission crates request clock).1 =
        .error response →
      (Exchange.refused request response).Explained crates app index
        (before ++ [.arrive request clock]) := by
    intro response refused
    constructor
    · intro call made
      cases made
    · intro job found
      cases found
    · intro job head found
      cases found
    · intro other found
      cases found
      exact .refused List.prefix_rfl own refused rfl
  have spec := admission_spec crates ((Gateway.start app).run crates before).app request clock
  rw [chatCompletions]
  generalize ((Gateway.start app).run crates before).app.admission crates request clock
    = admission at spec turnedAway
  cases spec with
  | unauthorized refused => exact turnedAway _ rfl
  | limited known refused => exact turnedAway _ rfl
  | noModel known allowed refused => exact turnedAway _ rfl
  | unroutable known allowed present refused => exact turnedAway _ rfl
  | admitted known allowed present routed =>
      constructor
      · intro call made
        cases List.mem_singleton.mp made
        exact ⟨rfl, rfl, rfl⟩
      · intro job found
        cases found
        exact ⟨rfl, rfl⟩
      · intro job head found
        cases found
      · intro response found
        cases found

end AppState

namespace Gateway

variable {σ γ : Type} {crates : Crates γ} {app : AppState σ γ}

/-- **Run.**  The events of a run explain its exchanges. -/
theorem explained_run (events : List (Event σ)) {index : Nat} {exchange : Exchange}
    (found : ((start app).run crates events).exchanges[index]? = some exchange) :
    exchange.Explained crates app index events := by
  induction events using List.reverseRecOn generalizing exchange with
  | nil => cases found
  | append_singleton before event ih =>
      have sound := (sound_start crates app).run before
      rw [run_append] at found
      cases previous : ((start app).run crates before).exchanges[index]? with
      | some earlier =>
          have stepped := (getElem?_step previous ((start app).run crates before).app
            event).symm.trans found
          have coherent := sound.coherent earlier (List.mem_of_getElem? previous)
          by_cases about : event.target = some index
          · rw [if_pos about, Option.some.injEq] at stepped
            rw [← stepped]
            exact (ih previous).act coherent _ about
          · rw [if_neg about, Option.some.injEq] at stepped
            rw [← stepped]
            exact (ih previous).later event
      | none =>
          rcases exists_fresh previous found with ⟨request, clock, rfl, fresh⟩
          have own : ((start app).run crates before).exchanges.length = index := by
            have beyond := List.getElem?_eq_none_iff.mp previous
            have inBounds : index < (((start app).run crates before).step crates
              (.arrive request clock)).exchanges.length := (List.getElem?_eq_some_iff.mp found).1
            rw [step, List.length_append, List.length_singleton] at inBounds
            omega
          rw [fresh]
          exact AppState.explained_chatCompletions app own request clock

/-- **Provenance.**  In any run, the answer to a request and the chunks that its client was
given come from what the upstreams sent for this very exchange, or it is the error that
ended it; a success is always an upstream's.  The calls carry the client's own bytes. -/
theorem answers_genuine (events : List (Event σ)) {index : Nat} {exchange : Exchange}
    (found : ((start app).run crates events).exchanges[index]? = some exchange)
    {response : Response} (answered : exchange.phase = .answered response) :
    Genuine crates app index events exchange.request exchange.calls response
        (SseRelay.okChunks (received crates index app events)) ∧
      (response.status.isSuccess = true → ∃ head hash clock,
        .sent index (.ok head) hash clock ∈ events ∧ head.status.isSuccess = true) ∧
      ∀ call ∈ exchange.calls, exchange.backend = some call.backend ∧
        call.path = "/v1/chat/completions" ∧ call.body = exchange.request.body := by
  have explained := explained_run events found
  have genuine : Genuine crates app index events exchange.request exchange.calls response
      (SseRelay.okChunks (received crates index app events)) := by
    have known := explained.answered response answered
    cases delivers_run events found with
    | nothing noRelay silent =>
        rw [Exchange.script, noRelay] at known
        rw [silent]
        exact known
    | @stream task script contexts relay relayed course same =>
        have sameScript : task.relay.upstream.script = script := by
          rw [same]
          split
          · exact (SseRelay.script_report relay .clientDisconnected).trans course.sameScript
          · exact course.sameScript
        rw [Exchange.script, relayed, Option.map_some, sameScript] at known
        rw [course.faithful]
        exact known relay.upstream.polled
  exact ⟨genuine, genuine.upstream_of_success, explained.calls⟩

end Gateway

/-- The sample key and its streamed completion. -/
theorem Gateway.answers_genuine_streamed :
    let crates := { Sample.crates with json := Sample.streamJson }
    ∃ exchange, ((start Sample.app).run crates Sample.streamed).exchanges[0]? = some exchange ∧
      ∃ response, exchange.phase = .answered response ∧
        Genuine crates Sample.app 0 Sample.streamed exchange.request exchange.calls response
          (SseRelay.okChunks (received crates 0 Sample.app Sample.streamed)) ∧
        (response.status.isSuccess = true → ∃ head hash clock,
          .sent 0 (.ok head) hash clock ∈ Sample.streamed ∧ head.status.isSuccess = true) ∧
        ∀ call ∈ exchange.calls, exchange.backend = some call.backend ∧
          call.path = "/v1/chat/completions" ∧ call.body = exchange.request.body :=
  ⟨_, rfl, _, rfl, answers_genuine Sample.streamed rfl rfl⟩

end Patchbay
