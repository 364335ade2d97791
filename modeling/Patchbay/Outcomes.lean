import Patchbay.Counting

/-!
# What an action can do

The handler, the client and the accounting task act on one exchange at a time.  An exchange
of a run is coherent: its job or its stream belongs to the key of the request and to the
backend of its calls.  One lemma lists what an action makes of a coherent exchange and of
the shared state; invariants of whole runs are read off that list.
-/

namespace Patchbay

/-- The name that an authorized request goes by. -/
def ClientRequest.keyName (toStr : Bytes → Option String) (keys : KeyStore)
    (request : ClientRequest) : Option String :=
  match AuthedKey.fromRequestParts toStr keys request.authorization with
  | .error _ => none
  | .ok identity => some identity.name

namespace Exchange

variable (toStr : Bytes → Option String) (keys : KeyStore)

def keyName (exchange : Exchange) : Option String := exchange.request.keyName toStr keys

/-- The backend that an exchange was routed to. -/
def backend (exchange : Exchange) : Option Backend := exchange.calls.head?.map Call.backend

/-- Some response was handed to the client as a stream. -/
def IsRelayed (exchange : Exchange) : Prop :=
  ∃ response, exchange.phase = .answered response ∧ response.status = .ok ∧
    response.body = .relayed

/-- A job, or a stream, belongs to the exchange that carries it. -/
structure Coherent (exchange : Exchange) : Prop where
  job : ∀ job, exchange.phase.job = some job →
    exchange.keyName toStr keys = some job.keyName ∧ exchange.backend = some job.backend ∧
      exchange.relay = none
  reading : ∀ job response, exchange.phase = .reading job response →
    response.status.isSuccess = true
  relay : ∀ task, exchange.relay = some task →
    exchange.keyName toStr keys = some task.keyName ∧
      exchange.backend.map Backend.name = some task.backendName ∧ exchange.IsRelayed ∧
      (task.settled = true → task.relay.summaries ≠ [])

variable {exchange : Exchange} {job : Job}

theorem job_of_calling {attempt : Nat} (calling : exchange.phase = .calling job attempt) :
    exchange.phase.job = some job := by
  rw [calling]
  rfl

theorem job_of_sleeping {attempt : Nat} (sleeping : exchange.phase = .sleeping job attempt) :
    exchange.phase.job = some job := by
  rw [sleeping]
  rfl

theorem job_of_reading {response : HttpResponse}
    (reading : exchange.phase = .reading job response) : exchange.phase.job = some job := by
  rw [reading]
  rfl

/-- A further call goes to the same backend. -/
theorem backend_call (routed : exchange.backend = some job.backend) (attempt : Nat) :
    (exchange.call job attempt).backend = some job.backend := by
  rw [backend, Option.map_eq_some_iff] at routed
  rcases routed with ⟨first, found, same⟩
  rw [backend, call, List.head?_append, found]
  exact congrArg some same

end Exchange

/-! ## The list -/

namespace AppState

variable {σ γ : Type} (crates : Crates γ) (app : AppState σ γ) (exchange : Exchange)

/-- A failed call is counted against the backend. -/
def countError (job : Job) : AppState σ γ :=
  { app with metrics := app.metrics.recordUpstreamError job.backend.name }

/-- An answered request is counted with its status. -/
def countRequest (job : Job) (statusClass : String) : AppState σ γ :=
  { app with metrics := app.metrics.recordRequest job.backend.name job.model statusClass }

/-- What becomes of the shared state and of an exchange in one action. -/
inductive Outcome : AppState σ γ × Exchange → Prop
  | idle : Outcome (app, exchange)
  | retried {job : Job} {attempt : Nat} (ms : UInt64)
      (calling : exchange.phase = .calling job attempt) :
      Outcome (app.countError job, exchange.sleep job (attempt + 1) ms)
  | gaveUp {job : Job} {attempt : Nat} (message : String)
      (calling : exchange.phase = .calling job attempt) :
      Outcome ((app.countError job).countRequest job "5xx",
        exchange.answer (errorResponse .badGateway "upstream_error" message))
  | passedThrough {job : Job} {attempt : Nat} {status : StatusCode} (message : String)
      (calling : exchange.phase = .calling job attempt) (other : status ≠ .tooManyRequests) :
      Outcome (app.countError job,
        exchange.answer (errorResponse status "upstream_error" message))
  | streamed {job : Job} {attempt : Nat} (response : HttpResponse) (clock : Clock)
      (calling : exchange.phase = .calling job attempt) :
      Outcome ((app.countRequest job "2xx").streamResponse exchange job response clock)
  | reads {job : Job} {attempt : Nat} {response : HttpResponse}
      (calling : exchange.phase = .calling job attempt)
      (success : response.status.isSuccess = true) :
      Outcome ((app.countRequest job "2xx").bufferedResponse exchange job response)
  | called {job : Job} {attempt : Nat} (sleeping : exchange.phase = .sleeping job attempt) :
      Outcome (app, exchange.call job attempt)
  | unreadable {job : Job} {response : HttpResponse} (message : String)
      (reading : exchange.phase = .reading job response) :
      Outcome (app.countError job,
        exchange.answer (errorResponse .badGateway "upstream_error" message))
  | served {job : Job} {response : HttpResponse} (headers : List (String × Bytes))
      (body : Bytes) (secs : UInt64) (reading : exchange.phase = .reading job response) :
      Outcome ((bufferedUsage crates.json body).elim app
          fun usage => app.account job.keyName usage secs,
        exchange.answer { status := response.status, headers, body := .bytes body })
  | polled {task : RelayTask} (context : PollContext) (relayed : exchange.relay = some task) :
      Outcome (app, { exchange with
        relay := some { task with
          relay := (task.relay.pollNext (UsageEnvelope.fromSlice crates.json) context).2 } })
  | cancelled {job : Job} (running : exchange.phase.job = some job) :
      Outcome (app, { exchange with phase := .cancelled })
  | released {task : RelayTask} (relayed : exchange.relay = some task) :
      Outcome (app, { exchange with
        relay := some { task with relay := task.relay.drop, released := true } })
  | settled {task : RelayTask} {summary : RelaySummary} {later : List RelaySummary}
      (secs : UInt64) (relayed : exchange.relay = some task) (unsettled : task.settled = false)
      (reported : task.relay.summaries = summary :: later) :
      Outcome (app.accountStream task summary secs,
        { exchange with relay := some { task with settled := true } })

variable {exchange} {toStr : Bytes → Option String} {keys : KeyStore}

theorem sent_outcome (result : HttpResult) (hash : UInt64) (clock : Clock) :
    Outcome crates app exchange (app.sent exchange result hash clock) := by
  rw [sent]
  cases phase : exchange.phase with
  | calling job attempt =>
      dsimp only
      cases settled : settles result with
      | false =>
          rcases receive_of_not_settles settled job.backend with ⟨error, received, retryable⟩
          rw [received]
          simp only [retryable, Bool.not_true, Bool.false_eq_true, if_false, retry]
          split
          · exact .retried _ phase
          · exact .gaveUp _ phase
      | true =>
          cases success : succeeded result with
          | false =>
              rcases receive_of_settles settled success job.backend with
                ⟨response, error, same, received, final, status⟩
              rw [received]
              simp only [final, Bool.not_false, if_true, status, Option.getD_some]
              apply Outcome.passedThrough _ phase
              rintro limited
              rw [same, settles, limited] at settled
              exact absurd settled (by decide)
          | true =>
              cases result with
              | error message => cases success
              | ok response =>
                  rw [receive_of_success job.backend success]
                  simp only [handOver]
                  split
                  · exact .streamed response clock phase
                  · exact .reads phase success
  | sleeping job attempt => exact .idle
  | reading job response => exact .idle
  | answered response => exact .idle
  | cancelled => exact .idle

theorem woke_outcome : Outcome crates app exchange (app.woke exchange) := by
  rw [woke]
  cases phase : exchange.phase with
  | sleeping job attempt => exact .called phase
  | calling job attempt => exact .idle
  | reading job response => exact .idle
  | answered response => exact .idle
  | cancelled => exact .idle

theorem read_outcome (body : Except String Bytes) (secs : UInt64) :
    Outcome crates app exchange (app.read crates exchange body secs) := by
  rw [read]
  cases phase : exchange.phase with
  | reading job response =>
      cases body with
      | error message => exact .unreadable message phase
      | ok body =>
          have served : Outcome crates app exchange _ := .served
            [("content-type", response.contentType.getD (fromStatic "application/json"))]
            body secs phase
          dsimp only
          cases usage : bufferedUsage crates.json body with
          | none =>
              rw [usage] at served
              exact served
          | some usage =>
              rw [‹bufferedUsage _ _ = _›] at served
              exact served
  | calling job attempt => exact .idle
  | sleeping job attempt => exact .idle
  | answered response => exact .idle
  | cancelled => exact .idle

theorem poll_outcome (context : PollContext) :
    Outcome crates app exchange (app.poll crates exchange context) := by
  rw [poll]
  cases relayed : exchange.relay with
  | none => exact .idle
  | some task =>
      dsimp only
      split
      · exact .idle
      · exact .polled context relayed

/-- A client that goes away cancels a running handler, or releases its stream. -/
theorem close_outcome (coherent : exchange.Coherent toStr keys) :
    Outcome crates app exchange (app.close exchange) := by
  rcases exchange with ⟨request, phase, calls, waits, relay⟩
  have ended : ∀ phase, phase.job = none → Outcome crates app ⟨request, phase, calls, waits, relay⟩
      (app, ⟨request, phase, calls, waits, relay.map fun task =>
        if task.released then task
        else { task with relay := task.relay.drop, released := true }⟩) := by
    intro phase _
    cases relay with
    | none => exact .idle
    | some task =>
        rw [Option.map_some]
        split
        · exact .idle
        · exact .released rfl
  have running : ∀ job, phase.job = some job →
      Outcome crates app ⟨request, phase, calls, waits, relay⟩
        (app, ⟨request, .cancelled, calls, waits, relay.map fun task =>
          if task.released then task
          else { task with relay := task.relay.drop, released := true }⟩) := by
    intro job found
    have noRelay : relay = none := (coherent.job job found).2.2
    subst noRelay
    exact .cancelled found
  cases phase with
  | answered response => exact ended _ rfl
  | cancelled => exact ended _ rfl
  | calling job attempt => exact running job rfl
  | sleeping job attempt => exact running job rfl
  | reading job response => exact running job rfl

theorem settle_outcome (secs : UInt64) :
    Outcome crates app exchange (app.settle exchange secs) := by
  rw [settle]
  cases relayed : exchange.relay with
  | none => exact .idle
  | some task =>
      dsimp only
      split
      · exact .idle
      · next unsettled =>
          split
          · exact .idle
          · next summary later reported =>
              exact .settled secs relayed (Bool.eq_false_iff.mpr unsettled) reported

/-- **What an action can do.** -/
theorem act_outcome (coherent : exchange.Coherent toStr keys) (event : Event σ) :
    Outcome crates app exchange (event.act crates app exchange) := by
  cases event with
  | arrive request clock => exact .idle
  | sent index result hash clock => exact app.sent_outcome crates result hash clock
  | woke index => exact app.woke_outcome crates
  | read index body secs => exact app.read_outcome crates body secs
  | poll index context => exact app.poll_outcome crates context
  | close index => exact app.close_outcome crates coherent
  | settle index secs => exact app.settle_outcome crates secs
  | retune state => exact .idle

/-- No action touches the router. -/
theorem Outcome.router {result : AppState σ γ × Exchange}
    (outcome : app.Outcome crates exchange result) : result.1.router = app.router := by
  cases outcome with
  | served headers body secs reading => cases bufferedUsage crates.json body <;> rfl
  | @settled task summary later secs relayed unsettled reported =>
      dsimp only
      rw [accountStream]
      cases summary.usage <;> cases summary.outcome <;> rfl
  | _ => rfl

end AppState

/-! ## Coherence is kept -/

namespace SseRelay

/-- The first summary stays the first. -/
theorem summaries_report {relay : SseRelay} {summary : RelaySummary}
    {later : List RelaySummary} (reported : relay.summaries = summary :: later)
    (outcome : RelayOutcome) :
    ∃ rest, (relay.report outcome).summaries = summary :: rest := by
  rw [report]
  split
  · exact ⟨later ++ [relay.summary outcome], by rw [reported]; rfl⟩
  · exact ⟨later, reported⟩

theorem summaries_pollNext (parse : Bytes → Option UsageEnvelope) {relay : SseRelay}
    {summary : RelaySummary} {later : List RelaySummary}
    (reported : relay.summaries = summary :: later) (context : PollContext) :
    ∃ rest, (relay.pollNext parse context).2.summaries = summary :: rest := by
  rw [pollNext]
  split
  · exact ⟨later, reported⟩
  · dsimp only
    split
    · exact ⟨later, reported⟩
    · apply summaries_report
      exact reported
    · apply summaries_report
      exact reported
    · split
      · apply summaries_report
        exact reported
      · exact ⟨later, reported⟩

theorem head?_pollNext (parse : Bytes → Option UsageEnvelope) {relay : SseRelay}
    (reported : relay.summaries ≠ []) (context : PollContext) :
    (relay.pollNext parse context).2.summaries.head? = relay.summaries.head? := by
  rcases List.exists_cons_of_ne_nil reported with ⟨summary, later, same⟩
  rcases summaries_pollNext parse same context with ⟨rest, after⟩
  rw [after, same, List.head?_cons, List.head?_cons]

theorem head?_drop {relay : SseRelay} (reported : relay.summaries ≠ []) :
    relay.drop.summaries.head? = relay.summaries.head? := by
  rcases List.exists_cons_of_ne_nil reported with ⟨summary, later, same⟩
  rcases summaries_report same .clientDisconnected with ⟨rest, after⟩
  rw [drop, after, same, List.head?_cons, List.head?_cons]

/-- A relay that has reported keeps having reported. -/
theorem reported_of_head? {before after : SseRelay} (reported : before.summaries ≠ [])
    (same : after.summaries.head? = before.summaries.head?) : after.summaries ≠ [] := by
  rw [ne_eq, ← List.head?_eq_none_iff, same, List.head?_eq_none_iff]
  exact reported

end SseRelay

namespace Exchange

variable {σ γ : Type} {crates : Crates γ} {app : AppState σ γ} {exchange : Exchange}
  {toStr : Bytes → Option String} {keys : KeyStore}

/-- A streamed answer, whatever becomes of its stream. -/
theorem IsRelayed.coherent (answered : exchange.IsRelayed) {task : RelayTask}
    (owned : exchange.keyName toStr keys = some task.keyName ∧
      exchange.backend.map Backend.name = some task.backendName)
    (reported : task.settled = true → task.relay.summaries ≠ []) :
    Coherent toStr keys { exchange with relay := some task } := by
  rcases answered with ⟨response, phase, isOk, relayed⟩
  constructor
  · intro job found
    simp [phase, Phase.job] at found
  · intro job head found
    simp [phase] at found
  · intro next found
    cases found
    exact ⟨owned.1, owned.2, ⟨response, phase, isOk, relayed⟩, reported⟩

/-- An answer without a stream. -/
theorem Coherent.answer (coherent : exchange.Coherent toStr keys) {job : Job}
    (running : exchange.phase.job = some job) (response : Response) :
    (exchange.answer response).Coherent toStr keys where
  job next found := by simp [Exchange.answer, Phase.job] at found
  reading next head found := by simp [Exchange.answer] at found
  relay task found := by
    have noRelay := (coherent.job job running).2.2
    simp [Exchange.answer, noRelay] at found

/-- Whatever an action does, the exchange stays coherent. -/
theorem Coherent.outcome (coherent : exchange.Coherent toStr keys)
    {result : AppState σ γ × Exchange} (outcome : app.Outcome crates exchange result) :
    result.2.Coherent toStr keys := by
  cases outcome with
  | idle => exact coherent
  | @retried job attempt ms calling =>
      have owned := coherent.job job (job_of_calling calling)
      constructor
      · intro next found
        cases found
        exact owned
      · intro next head found
        cases found
      · intro task found
        exact absurd (owned.2.2.symm.trans found) (by simp)
  | gaveUp message calling => exact coherent.answer (job_of_calling calling) _
  | passedThrough message calling other => exact coherent.answer (job_of_calling calling) _
  | @streamed job attempt response clock calling =>
      have owned := coherent.job job (job_of_calling calling)
      constructor
      · intro next found
        cases found
      · intro next head found
        cases found
      · intro task found
        cases found
        refine ⟨owned.1, ?_, ⟨_, rfl, rfl, rfl⟩, ?_⟩
        · exact congrArg (Option.map Backend.name) owned.2.1
        · intro settled
          cases settled
  | @reads job attempt response calling success =>
      have owned := coherent.job job (job_of_calling calling)
      constructor
      · intro next found
        cases found
        exact owned
      · intro next head found
        cases found
        exact success
      · intro task found
        exact absurd (owned.2.2.symm.trans found) (by simp)
  | @called job attempt sleeping =>
      have owned := coherent.job job (job_of_sleeping sleeping)
      constructor
      · intro next found
        cases found
        exact ⟨owned.1, backend_call owned.2.1 attempt, owned.2.2⟩
      · intro next head found
        cases found
      · intro task found
        exact absurd (owned.2.2.symm.trans found) (by simp)
  | unreadable message reading => exact coherent.answer (job_of_reading reading) _
  | served headers body secs reading => exact coherent.answer (job_of_reading reading) _
  | @polled task context relayed =>
      rcases coherent.relay task relayed with ⟨name, routed, answered, reported⟩
      refine answered.coherent ⟨name, routed⟩ fun settled => ?_
      exact SseRelay.reported_of_head? (reported settled)
        (SseRelay.head?_pollNext _ (reported settled) context)
  | cancelled running =>
      constructor
      · intro next found
        cases found
      · intro next head found
        cases found
      · intro task found
        exact absurd ((coherent.job _ running).2.2.symm.trans found) (by simp)
  | @released task relayed =>
      rcases coherent.relay task relayed with ⟨name, routed, answered, reported⟩
      refine answered.coherent ⟨name, routed⟩ fun settled => ?_
      exact SseRelay.reported_of_head? (reported settled)
        (SseRelay.head?_drop (reported settled))
  | @settled task summary later secs relayed unsettled reported =>
      rcases coherent.relay task relayed with ⟨name, routed, answered, -⟩
      exact answered.coherent ⟨name, routed⟩ fun _ => by simp [reported]

end Exchange

/-! ## Runs -/

namespace AppState

variable {σ γ : Type} (crates : Crates γ) (app : AppState σ γ)

/-- An exchange begins with a job of the key and the backend of its request, or with an
answer. -/
theorem chatCompletions_coherent (request : ClientRequest) (clock : Clock) :
    (app.chatCompletions crates request clock).2.Coherent crates.toStr app.keys := by
  have answered : ∀ response, (Exchange.refused request response).Coherent crates.toStr
      app.keys := by
    intro response
    constructor
    · intro job found
      cases found
    · intro job head found
      cases found
    · intro task found
      cases found
  have spec := admission_spec crates app request clock
  rw [chatCompletions]
  generalize app.admission crates request clock = admission at spec
  cases spec with
  | unauthorized refused => exact answered _
  | limited known refused => exact answered _
  | noModel known allowed refused => exact answered _
  | unroutable known allowed present refused => exact answered _
  | admitted known allowed present routed =>
      constructor
      · intro job found
        cases found
        refine ⟨?_, rfl, rfl⟩
        simp only [Exchange.keyName, ClientRequest.keyName, Exchange.start, known]
      · intro job head found
        cases found
      · intro task found
        cases found

end AppState

namespace Gateway

variable {σ γ : Type}

/-- The keys are those of the start, and all exchanges are coherent. -/
structure Sound (crates : Crates γ) (keys : KeyStore) (gateway : Gateway σ γ) : Prop where
  sameKeys : gateway.app.keys = keys
  coherent : ∀ exchange ∈ gateway.exchanges, exchange.Coherent crates.toStr keys

/-- What a step can do. -/
inductive Stepped (crates : Crates γ) (gateway : Gateway σ γ) : Gateway σ γ → Prop
  | idle : Stepped crates gateway gateway
  | arrived (request : ClientRequest) (clock : Clock) :
      Stepped crates gateway {
        app := (gateway.app.chatCompletions crates request clock).1
        exchanges :=
          gateway.exchanges ++ [(gateway.app.chatCompletions crates request clock).2] }
  | retuned (router : Router σ) (backends : router.backends = gateway.app.router.backends)
      (policy : router.policy = gateway.app.router.policy) :
      Stepped crates gateway { gateway with app := { gateway.app with router } }
  | acted {index : Nat} {exchange : Exchange} {result : AppState σ γ × Exchange}
      (found : gateway.exchanges[index]? = some exchange)
      (outcome : gateway.app.Outcome crates exchange result) :
      Stepped crates gateway
        { app := result.1, exchanges := gateway.exchanges.set index result.2 }

variable {crates : Crates γ} {keys : KeyStore} {gateway : Gateway σ γ}

theorem Sound.stepped (sound : gateway.Sound crates keys) (event : Event σ) :
    gateway.Stepped crates (gateway.step crates event) := by
  cases about : event.target with
  | none =>
      cases event with
      | arrive request clock => exact .arrived request clock
      | retune state => exact .retuned _ rfl rfl
      | _ => cases about
  | some index =>
      rw [Event.step_of_target crates about, advance]
      cases found : gateway.exchanges[index]? with
      | none => exact .idle
      | some exchange =>
          have coherent := sound.coherent exchange (List.mem_of_getElem? found)
          exact .acted found (gateway.app.act_outcome crates coherent event)

theorem Sound.step (sound : gateway.Sound crates keys) (event : Event σ) :
    (gateway.step crates event).Sound crates keys := by
  constructor
  · exact (step_moves crates gateway event).frame.keys.trans sound.sameKeys
  · have stepped := sound.stepped event
    generalize gateway.step crates event = after at stepped
    cases stepped with
    | idle => exact sound.coherent
    | arrived request clock =>
        have coherent := gateway.app.chatCompletions_coherent crates request clock
        rw [sound.sameKeys] at coherent
        rw [List.forall_mem_append, List.forall_mem_singleton]
        exact ⟨sound.coherent, coherent⟩
    | retuned router backends policy => exact sound.coherent
    | acted found outcome =>
        intro other membership
        rcases List.mem_or_eq_of_mem_set membership with old | rfl
        · exact sound.coherent other old
        · exact (sound.coherent _ (List.mem_of_getElem? found)).outcome outcome

theorem sound_start (crates : Crates γ) (app : AppState σ γ) :
    (start app).Sound crates app.keys where
  sameKeys := rfl
  coherent := by
    intro exchange membership
    cases membership

/-- What every step of a sound gateway preserves holds along its runs. -/
theorem Sound.induct {P : Gateway σ γ → Prop}
    (step : ∀ {gateway after : Gateway σ γ}, gateway.Sound crates keys →
      gateway.Stepped crates after → P gateway → P after)
    (sound : gateway.Sound crates keys) (initially : P gateway) (events : List (Event σ)) :
    P (gateway.run crates events) := by
  induction events generalizing gateway with
  | nil => exact initially
  | cons event events ih =>
      exact ih (sound.step event) (step sound (sound.stepped event) initially)

theorem Sound.run (sound : gateway.Sound crates keys) (events : List (Event σ)) :
    (gateway.run crates events).Sound crates keys := by
  induction events generalizing gateway with
  | nil => exact sound
  | cons event events ih => exact ih (sound.step event)

/-! ## One exchange at a time -/

/-- The state says nothing about what an action makes of an exchange. -/
theorem act_exchange (left right : AppState σ γ) (event : Event σ) (exchange : Exchange) :
    (event.act crates left exchange).2 = (event.act crates right exchange).2 := by
  cases event with
  | arrive request clock => rfl
  | sent index result hash clock =>
      simp only [Event.act, AppState.sent]
      cases exchange.phase with
      | calling job attempt =>
          dsimp only
          split
          · next error received =>
              cases error.isRetryable with
              | false => rfl
              | true =>
                  simp only [Bool.not_true, Bool.false_eq_true, if_false, AppState.retry]
                  split <;> rfl
          · simp only [AppState.handOver]
            split <;> rfl
      | _ => rfl
  | woke index =>
      simp only [Event.act, AppState.woke]
      cases exchange.phase <;> rfl
  | read index body secs =>
      simp only [Event.act, AppState.read]
      cases exchange.phase with
      | reading job response => cases body <;> rfl
      | _ => rfl
  | poll index context =>
      simp only [Event.act, AppState.poll]
      cases exchange.relay with
      | none => rfl
      | some task =>
          dsimp only
          split <;> rfl
  | close index => rfl
  | settle index secs =>
      simp only [Event.act, AppState.settle]
      cases exchange.relay with
      | none => rfl
      | some task =>
          dsimp only
          split
          · rfl
          · split <;> rfl
  | retune state => rfl

end Gateway

/-- What becomes of an exchange, given what happens to it. -/
def Exchange.course {σ γ : Type} (crates : Crates γ) (app : AppState σ γ)
    (exchange : Exchange) (events : List (Event σ)) : Exchange :=
  events.foldl (fun exchange event => (event.act crates app exchange).2) exchange

/-- The events about one exchange. -/
def Event.about {σ : Type} (index : Nat) (events : List (Event σ)) : List (Event σ) :=
  events.filter fun event => event.target = some index

namespace Gateway

variable {σ γ : Type} {crates : Crates γ} {gateway : Gateway σ γ}

theorem getElem?_step {index : Nat} {exchange : Exchange}
    (found : gateway.exchanges[index]? = some exchange) (app : AppState σ γ)
    (event : Event σ) :
    (gateway.step crates event).exchanges[index]? =
      some (if event.target = some index then (event.act crates app exchange).2
        else exchange) := by
  cases about : event.target with
  | none =>
      cases event with
      | arrive request clock =>
          have inBounds := (List.getElem?_eq_some_iff.mp found).1
          simp only [step, List.getElem?_append_left inBounds, found]
          rfl
      | retune state => exact found
      | _ => cases about
  | some other =>
      rw [Event.step_of_target crates about, getElem?_advance, found]
      simp only [Option.some.injEq, Option.map_some]
      split
      · rw [act_exchange gateway.app app]
      · rfl

/-- Only an arrival begins an exchange. -/
theorem exists_fresh {index : Nat} {exchange : Exchange} {event : Event σ}
    (absent : gateway.exchanges[index]? = none)
    (found : (gateway.step crates event).exchanges[index]? = some exchange) :
    ∃ request clock, event = .arrive request clock ∧
      exchange = (gateway.app.chatCompletions crates request clock).2 := by
  cases about : event.target with
  | some other =>
      rw [Event.step_of_target crates about, getElem?_advance, absent] at found
      simp at found
  | none =>
      cases event with
      | arrive request clock =>
          have beyond := List.getElem?_eq_none_iff.mp absent
          have arrived := (List.getElem?_append_right beyond).symm.trans found
          exact ⟨request, clock, rfl, List.mem_singleton.mp (List.mem_of_getElem? arrived)⟩
      | retune state => exact absurd (absent.symm.trans found) (by simp)
      | _ => cases about

/-- An exchange takes its own course. -/
theorem getElem?_run {index : Nat} {exchange : Exchange}
    (found : gateway.exchanges[index]? = some exchange) (app : AppState σ γ)
    (events : List (Event σ)) :
    (gateway.run crates events).exchanges[index]? =
      some (exchange.course crates app (Event.about index events)) := by
  induction events generalizing gateway exchange with
  | nil => exact found
  | cons event events ih =>
      have stepped : (gateway.step crates event).exchanges[index]? = _ :=
        getElem?_step found app event
      rw [run, List.foldl_cons, ← run, ih stepped]
      by_cases own : event.target = some index
      · simp [Event.about, Exchange.course, own]
      · simp [Event.about, own]

/-- Every exchange arrived at some time. -/
theorem exists_arrival {index : Nat} {exchange : Exchange} {events : List (Event σ)}
    (absent : gateway.exchanges.length ≤ index)
    (found : (gateway.run crates events).exchanges[index]? = some exchange) :
    ∃ before request clock after, events = before ++ .arrive request clock :: after ∧
      (gateway.run crates before).exchanges.length = index := by
  induction events generalizing gateway with
  | nil =>
      rw [run, List.foldl_nil, List.getElem?_eq_none absent] at found
      cases found
  | cons event events ih =>
      by_cases still : (gateway.step crates event).exchanges.length ≤ index
      · rcases ih still found with ⟨before, request, clock, after, split, length⟩
        exact ⟨event :: before, request, clock, after, by rw [split]; rfl, length⟩
      · have grown : gateway.exchanges.length <
            (gateway.step crates event).exchanges.length := by omega
        cases about : event.target with
        | some other =>
            rw [Event.step_of_target crates about, advance] at grown
            split at grown <;> simp at grown
        | none =>
            cases event with
            | arrive request clock =>
                refine ⟨[], request, clock, events, rfl, ?_⟩
                simp only [step, List.length_append, List.length_singleton] at still
                rw [run, List.foldl_nil]
                omega
            | retune state => simp [step] at grown
            | _ => cases about

end Gateway

end Patchbay
