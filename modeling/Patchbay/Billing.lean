import Patchbay.Conservation
import Patchbay.Lib.Shadow
import Patchbay.Upstream.StreamEnd
import Patchbay.UsageAgreement

/-!
# What clients are billed

The usage of a streamed response is picked up on its way to the client, chunk by chunk, and
accounted by a task that sees the summary only.  Seen from outside, the ledger holds what
the bytes say that the clients received, to a reader that takes the stream for ended and
parses every event, as long as such a reader sees no more than the scanner.
-/

namespace Patchbay

/-! ## What a client receives -/

/-- What the relay answers when the client polls the body of its response. -/
def Event.answer {σ γ : Type} (crates : Crates γ) (event : Event σ) (exchange : Exchange) :
    Option RelayPoll :=
  match event with
  | .poll _ context =>
      exchange.relay.bind fun task =>
        if task.released then none
        else some (task.relay.pollNext (UsageEnvelope.fromSlice crates.json) context).1
  | _ => none

namespace Gateway

variable {σ γ : Type} (crates : Crates γ) (index : Nat)

/-- What the client of an exchange gets from the relay in one step. -/
def answer (gateway : Gateway σ γ) (event : Event σ) : Option RelayPoll :=
  if event.target = some index then gateway.exchanges[index]?.bind (event.answer crates)
  else none

/-- What the client of an exchange gets from the relay during a run. -/
def received (app : AppState σ γ) (events : List (Event σ)) : List RelayPoll :=
  sights (step crates) (answer crates index) (start app) events

theorem received_concat (app : AppState σ γ) (events : List (Event σ)) (event : Event σ) :
    received crates index app (events ++ [event]) =
      received crates index app events ++
        (((start app).run crates events).answer crates index event).toList :=
  sights_concat _ _ _ _ _

end Gateway

namespace Exchange

/-- What holds of an exchange and of what its client received so far. -/
inductive Delivers (parse : Bytes → Option UsageEnvelope) (exchange : Exchange)
    (answers : List RelayPoll) : Prop
  | nothing (noRelay : exchange.relay = none) (silent : answers = [])
  | stream {task : RelayTask} {script : Nat → UpstreamPoll} {contexts : List PollContext}
      {relay : SseRelay} (relayed : exchange.relay = some task)
      (course : SseRelay.Course parse script contexts answers relay)
      (same : task.relay = if task.released then relay.drop else relay)

variable {parse : Bytes → Option UsageEnvelope} {exchange : Exchange} {answers : List RelayPoll}

/-- The relay decides. -/
theorem Delivers.congr (delivers : exchange.Delivers parse answers) {after : Exchange}
    (same : after.relay = exchange.relay) : after.Delivers parse answers := by
  cases delivers with
  | nothing noRelay silent => exact .nothing (same.trans noRelay) silent
  | stream relayed course released => exact .stream (same.trans relayed) course released

/-- A summary that was sent is about the chunks that the client received. -/
theorem Delivers.summary (delivers : exchange.Delivers parse answers) {task : RelayTask}
    (relayed : exchange.relay = some task) (reported : task.relay.summaries ≠ []) :
    ∃ script polled outcome,
      task.relay.summaries.head? = some (SseRelay.summaryOf parse script polled outcome) ∧
        SseRelay.produced script polled = SseRelay.okChunks answers := by
  cases delivers with
  | nothing noRelay silent => simp [noRelay] at relayed
  | @stream task script contexts relay found course same =>
      cases found.symm.trans relayed
      cases released : task.released with
      | true =>
          simp only [released, if_true] at same
          rw [same, course.dropped]
          exact ⟨script, _, _, rfl, course.faithful.symm⟩
      | false =>
          simp only [released, Bool.false_eq_true, if_false] at same
          subst same
          rw [course.reported] at reported ⊢
          cases ending : SseRelay.firstEnd script 0 contexts with
          | none => simp [ending] at reported
          | some outcome => exact ⟨script, _, outcome, rfl, course.faithful.symm⟩

end Exchange

/-! ## Along a run -/

namespace AppState

variable {σ γ : Type} (crates : Crates γ) (app : AppState σ γ) {exchange : Exchange}

/-- A response head opens a stream or leaves the relay alone. -/
theorem relay_sent (result : HttpResult) (hash : UInt64) (clock : Clock) :
    (app.sent exchange result hash clock).2.relay = exchange.relay ∨
      ∃ job attempt, ∃ response : HttpResponse, exchange.phase = .calling job attempt ∧
        (app.sent exchange result hash clock).2.relay = some {
          keyName := job.keyName
          backendName := job.backend.name
          relay := SseRelay.new response.stream stallTimeout clock.nanos
          released := false
          settled := false } := by
  rw [sent]
  cases phase : exchange.phase with
  | calling job attempt =>
      dsimp only
      cases UpstreamClient.receive job.backend result with
      | error error =>
          dsimp only
          split
          · exact .inl rfl
          · rw [retry]
            split
            · exact .inl rfl
            · exact .inl rfl
      | ok response =>
          dsimp only
          rw [handOver]
          split
          · exact .inr ⟨job, attempt, response, rfl, rfl⟩
          · exact .inl rfl
  | _ => exact .inl rfl

theorem relay_woke : (app.woke exchange).2.relay = exchange.relay := by
  rw [woke]
  cases exchange.phase <;> rfl

theorem relay_read (body : Except String Bytes) (secs : UInt64) :
    (app.read crates exchange body secs).2.relay = exchange.relay := by
  rw [read]
  cases exchange.phase with
  | reading job response => cases body <;> rfl
  | _ => rfl

theorem relay_chatCompletions (request : ClientRequest) (clock : Clock) :
    (app.chatCompletions crates request clock).2.relay = none := by
  rw [chatCompletions]
  rcases app.admission crates request clock with ⟨result, after⟩
  cases result <;> rfl

end AppState

namespace Exchange

variable {σ γ : Type} {crates : Crates γ} {keys : KeyStore} {exchange : Exchange}
  {answers : List RelayPoll}

/-- **Step.**  The client receives what the relay answers. -/
theorem Delivers.act (delivers : exchange.Delivers (UsageEnvelope.fromSlice crates.json) answers)
    (coherent : exchange.Coherent crates.toStr keys) (app : AppState σ γ) (event : Event σ) :
    (event.act crates app exchange).2.Delivers (UsageEnvelope.fromSlice crates.json)
      (answers ++ (event.answer crates exchange).toList) := by
  cases event with
  | poll index context =>
      simp only [Event.act, AppState.poll, Event.answer]
      cases delivers with
      | nothing noRelay silent =>
          rw [noRelay, silent]
          exact .nothing noRelay rfl
      | @stream task script contexts relay relayed course same =>
          rw [relayed]
          cases released : task.released with
          | true =>
              simp only [Option.bind_some, released, if_true, Option.toList_none, List.append_nil]
              exact .stream relayed course same
          | false =>
              simp only [Option.bind_some, released, Bool.false_eq_true, if_false] at same ⊢
              rw [same]
              refine .stream rfl (course.step context) ?_
              simp
  | sent index result hash clock =>
      simp only [Event.answer, Option.toList_none, List.append_nil]
      rcases app.relay_sent result hash clock with same | ⟨job, attempt, response, calling, opened⟩
      · exact delivers.congr same
      · have noRelay := (coherent.job job (job_of_calling calling)).2.2
        cases delivers with
        | nothing _ silent =>
            rw [silent]
            exact .stream opened (SseRelay.Course.start _ response.stream stallTimeout clock.nanos) rfl
        | stream relayed course same => simp [noRelay] at relayed
  | close index =>
      simp only [Event.answer, Option.toList_none, List.append_nil]
      cases delivers with
      | nothing noRelay silent =>
          refine .nothing ?_ silent
          simp [Event.act, AppState.close, noRelay]
      | @stream task script contexts relay relayed course same =>
          cases released : task.released with
          | true =>
              have kept : (app.close exchange).2.relay = some task := by
                simp [AppState.close, relayed, released]
              exact .stream kept course same
          | false =>
              simp only [released, Bool.false_eq_true, if_false] at same
              have dropped : (app.close exchange).2.relay =
                  some { task with relay := task.relay.drop, released := true } := by
                simp [AppState.close, relayed, released]
              refine .stream dropped course ?_
              simp [same]
  | settle index secs =>
      simp only [Event.answer, Option.toList_none, List.append_nil]
      simp only [Event.act, AppState.settle]
      cases delivers with
      | nothing noRelay silent =>
          rw [noRelay]
          exact .nothing noRelay silent
      | @stream task script contexts relay relayed course same =>
          rw [relayed]
          dsimp only
          split
          · exact .stream relayed course same
          · split
            · exact .stream relayed course same
            · exact .stream rfl course same
  | woke index =>
      simp only [Event.answer, Option.toList_none, List.append_nil]
      exact delivers.congr app.relay_woke
  | read index body secs =>
      simp only [Event.answer, Option.toList_none, List.append_nil]
      exact delivers.congr (app.relay_read crates body secs)
  | arrive request clock =>
      simp only [Event.answer, Option.toList_none, List.append_nil]
      exact delivers
  | retune state =>
      simp only [Event.answer, Option.toList_none, List.append_nil]
      exact delivers

end Exchange

namespace Gateway

variable {σ γ : Type} {crates : Crates γ} {app : AppState σ γ}

/-- An exchange that has not begun received nothing. -/
theorem received_of_absent {index : Nat} {events : List (Event σ)}
    (absent : ((start app).run crates events).exchanges[index]? = none) :
    received crates index app events = [] := by
  induction events using List.reverseRecOn with
  | nil => rfl
  | append_singleton before event ih =>
      have absentBefore : ((start app).run crates before).exchanges[index]? = none := by
        cases found : ((start app).run crates before).exchanges[index]? with
        | none => rfl
        | some exchange =>
            rw [run_append] at absent
            exact absurd ((getElem?_step found app event).symm.trans absent) (by simp)
      rw [received_concat, ih absentBefore, answer, absentBefore]
      simp

/-- **Run.**  Every exchange delivers what its client receives. -/
theorem delivers_run (events : List (Event σ)) {index : Nat} {exchange : Exchange}
    (found : ((start app).run crates events).exchanges[index]? = some exchange) :
    exchange.Delivers (UsageEnvelope.fromSlice crates.json)
      (received crates index app events) := by
  induction events using List.reverseRecOn generalizing exchange with
  | nil => cases found
  | append_singleton before event ih =>
      have sound := (sound_start crates app).run before
      rw [run_append] at found
      rw [received_concat, answer]
      cases previous : ((start app).run crates before).exchanges[index]? with
      | some earlier =>
          have stepped := (getElem?_step previous ((start app).run crates before).app
            event).symm.trans found
          have coherent := sound.coherent earlier (List.mem_of_getElem? previous)
          by_cases about : event.target = some index
          · simp only [about, if_true, Option.some.injEq, Option.bind_some] at stepped ⊢
            rw [← stepped]
            exact (ih previous).act coherent _ event
          · simp only [about, if_false, Option.some.injEq] at stepped ⊢
            rw [← stepped, Option.toList_none, List.append_nil]
            exact ih previous
      | none =>
          rcases exists_fresh previous found with ⟨request, clock, -, fresh⟩
          have noRelay : exchange.relay = none := by
            rw [fresh]
            exact AppState.relay_chatCompletions crates _ request clock
          rw [received_of_absent previous]
          apply Exchange.Delivers.nothing noRelay
          simp

end Gateway

/-! ## What clients were shown -/

/-- The usage in the payload of an event. -/
def usageShown (json : Json.Reader) (data : Bytes) : Option Usage :=
  (UsageEnvelope.fromSlice json data).bind UsageEnvelope.usage

/-- The last usage in the events of a stream that ended. -/
def lastUsageShown (json : Json.Reader) (stream : Bytes) : Option Usage :=
  ((EventStream.endedPayloads stream).filterMap (usageShown json)).getLast?

/-- A stream that hides no usage from the scanner: payloads with a usage spell its key out,
and none is completed only by a CR at the end. -/
structure PlainlyShown (json : Json.Reader) (stream : Bytes) : Prop where
  spelled : ∀ data ∈ EventStream.payloads stream, (usageShown json data).isSome = true →
    mentionsUsage data = true
  decided : ∀ data, EventStream.undecidedPayload stream = some data → usageShown json data = none

theorem plainlyShown_nil (json : Json.Reader) : PlainlyShown json [] where
  spelled data membership := by
    simp [EventStream.payloads, EventStream.dispatched] at membership
  decided data undecided := by
    rw [EventStream.undecidedPayload, EventStream.lastLine_of_cut_none rfl] at undecided
    simp at undecided

/-- A stream that hides nothing shows what the scanner finds. -/
theorem PlainlyShown.lastUsageShown {json : Json.Reader} {stream : Bytes}
    (plainly : PlainlyShown json stream) : lastUsageShown json stream =
      ((EventStream.payloads stream).filterMap
        (UsageScanner.usageIn (UsageEnvelope.fromSlice json))).getLast? := by
  have found : ∀ data ∈ EventStream.payloads stream,
      usageShown json data = UsageScanner.usageIn (UsageEnvelope.fromSlice json) data := by
    intro data membership
    rw [UsageScanner.usageIn]
    split
    · rfl
    · next silent =>
        rw [← Option.not_isSome_iff_eq_none]
        exact fun shows => silent (plainly.spelled data membership shows)
  have nothingLate : (EventStream.undecidedPayload stream).toList.filterMap (usageShown json) =
      [] := by
    cases undecided : EventStream.undecidedPayload stream with
    | none => rfl
    | some data => simp [plainly.decided data undecided]
  rw [Patchbay.lastUsageShown, EventStream.endedPayloads_eq, List.filterMap_append, nothingLate,
    List.append_nil, List.filterMap_congr found]

namespace Exchange

/-- The usage that a client was shown: the last one in the events of its stream, once the
stream was accounted for, or that of the body it was answered with. -/
def shown (json : Json.Reader) (answers : List RelayPoll) (exchange : Exchange) :
    Option Usage :=
  match exchange.relay with
  | some task =>
      if task.settled then lastUsageShown json (SseRelay.okChunks answers).flatten else none
  | none =>
      match exchange.phase with
      | .answered { body := .bytes body, .. } => bufferedUsage json body
      | _ => none

variable {γ : Type} (crates : Crates γ) (keys : KeyStore) (key : String)
  (dimension : Dimension)

/-- The tokens of a key that the client of an exchange was shown. -/
def tokensShown (answers : List RelayPoll) (exchange : Exchange) : UInt64 :=
  if exchange.keyName crates.toStr keys = some key then
    (exchange.shown crates.json answers).elim 0 fun usage => usage.get dimension
  else 0

variable {crates keys} {exchange : Exchange} {answers : List RelayPoll}

/-- What is accounted for a stream is what a scanner sees in the chunks that came through. -/
theorem Delivers.scanned
    (delivers : exchange.Delivers (UsageEnvelope.fromSlice crates.json) answers)
    (coherent : exchange.Coherent crates.toStr keys) {task : RelayTask}
    (relayed : exchange.relay = some task) (settled : task.settled = true) :
    exchange.accounted crates.json = (UsageScanner.feedAll (UsageEnvelope.fromSlice crates.json)
      .default (SseRelay.okChunks answers)).lastUsage := by
  have reported := (coherent.relay task relayed).2.2.2 settled
  rcases delivers.summary relayed reported with ⟨script, polled, outcome, first, chunks⟩
  rw [Exchange.accounted, relayed, ← chunks]
  simp only [settled, if_true, first, Option.bind_some]
  rfl

/-- What is accounted is what was shown, unless the buffer overflowed or the stream hid it. -/
theorem Delivers.accounted
    (delivers : exchange.Delivers (UsageEnvelope.fromSlice crates.json) answers)
    (coherent : exchange.Coherent crates.toStr keys)
    (inCap : (UsageScanner.feedAll (UsageEnvelope.fromSlice crates.json) .default
      (SseRelay.okChunks answers)).overflowed = false)
    (plainly : PlainlyShown crates.json (SseRelay.okChunks answers).flatten) :
    exchange.accounted crates.json = exchange.shown crates.json answers := by
  rw [Exchange.accounted, shown]
  cases relayed : exchange.relay with
  | none => rfl
  | some task =>
      dsimp only
      cases settled : task.settled with
      | false => rfl
      | true =>
          have reported := (coherent.relay task relayed).2.2.2 settled
          rcases delivers.summary relayed reported with ⟨script, polled, outcome, first, chunks⟩
          rw [if_pos rfl, plainly.lastUsageShown]
          rw [← chunks] at inCap ⊢
          have accounts := SseRelay.summaryOf_accounts _ inCap outcome
          rw [first, if_pos rfl, Option.bind_some, accounts.usage]

end Exchange

/-- **Billing.**  As long as no event overflows a scanner and no stream hides a usage from
it, the ledger gains for a key, in each dimension, exactly what the bytes say that the
clients of the key received, however the upstreams cut them. -/
theorem Gateway.ledger_of_deliveries {σ γ : Type} (crates : Crates γ) (app : AppState σ γ)
    (events : List (Event σ))
    (inCap : ∀ index, (UsageScanner.feedAll (UsageEnvelope.fromSlice crates.json) .default
      (SseRelay.okChunks (received crates index app events))).overflowed = false)
    (plainly : ∀ index,
      PlainlyShown crates.json (SseRelay.okChunks (received crates index app events)).flatten)
    (key : String) (dimension : Dimension) :
    (((start app).run crates events).app.budget.countersFor key).get dimension =
      (app.budget.countersFor key).get dimension +
        (((start app).run crates events).exchanges.zipIdx.map fun (exchange, index) =>
          exchange.tokensShown crates app.keys key dimension
            (received crates index app events)).sum := by
  have books := ((TokenBook.ledger key dimension).balance crates app.keys).run app events
  have sound := (sound_start crates app).run events
  refine books.trans (congrArg _ (congrArg List.sum ?_))
  rw [← List.zipIdx_map_fst 0 ((start app).run crates events).exchanges, List.map_map,
    List.zipIdx_map_fst]
  apply List.map_congr_left
  rintro ⟨exchange, index⟩ numbered
  have found := List.mem_zipIdx_iff_getElem?.mp numbered
  have accounted := (delivers_run events found).accounted
    (sound.coherent exchange (List.mem_of_getElem? found)) (inCap index) (plainly index)
  simp only [Function.comp_apply, Exchange.tokensOf, Exchange.tokensShown, accounted]

/-! ### A streamed response -/

namespace Sample

def streamPayload : Bytes := fromStatic "\x7b\"model\":\"m\",\"stream\":true\x7d"

/-- Reads the payload and the completion, and nothing else. -/
def streamJson : Json.Reader where
  tree text :=
    if text = streamPayload then
      some (.object [(some "model", .string (some "m")), (some "stream", .bool true)])
    else json.tree text
  untyped text := text == streamPayload || json.untyped text

/-- The completion as an event, cut inside the key of its usage. -/
def cutCompletion : Nat → UpstreamPoll
  | 0 => .ready (some (.ok (fromStatic "data: \x7b\"us")))
  | 1 => .ready (some (.ok (fromStatic "age\":\x7b\"total_tokens\":150\x7d\x7d\n\n")))
  | _ => .ready none

def streamed : List (Event Unit) :=
  [.arrive { request with body := streamPayload } clock,
    .sent 0 (.ok { success with stream := cutCompletion }) 7 clock,
    .poll 0 ⟨1, false⟩, .poll 0 ⟨2, false⟩, .poll 0 ⟨3, false⟩, .settle 0 1000]

theorem received_streamed :
    (SseRelay.okChunks (Gateway.received { crates with json := streamJson } 0 app
      streamed)).flatten = oneEvent completion := by
  decide +kernel

theorem streamed_plainly (index : Nat) :
    PlainlyShown streamJson (SseRelay.okChunks (Gateway.received
      { crates with json := streamJson } index app streamed)).flatten := by
  cases index with
  | zero =>
      have oneLine : ∀ byte ∈ completion, ¬ EventStream.IsTerminator byte := by decide +kernel
      rw [received_streamed]
      constructor
      · intro data membership _
        rw [payloads_oneEvent oneLine, List.mem_singleton] at membership
        rw [membership]
        decide +kernel
      · intro data undecided
        rw [undecidedPayload_oneEvent oneLine] at undecided
        cases undecided
  | succ index =>
      rw [Gateway.received_of_absent (by rfl)]
      exact plainlyShown_nil _

theorem streamed_inCap (index : Nat) :
    (UsageScanner.feedAll (UsageEnvelope.fromSlice streamJson) .default
      (SseRelay.okChunks (Gateway.received { crates with json := streamJson } index app
        streamed))).overflowed = false := by
  have short : (SseRelay.okChunks (Gateway.received { crates with json := streamJson } index app
      streamed)).flatten.length ≤ maxEventBuffer := by
    cases index with
    | zero => decide +kernel
    | succ index =>
        rw [Gateway.received_of_absent (by rfl)]
        exact Nat.zero_le _
  rw [UsageScanner.feedAll_eq_absorb _ (UsageScanner.bounded_of_length _ short),
    UsageScanner.absorb_overflowed]
  rfl

end Sample

/-- The sample key and its streamed completion. -/
theorem Gateway.ledger_of_deliveries_streamed :
    let crates := { Sample.crates with json := Sample.streamJson }
    let gateway := (start Sample.app).run crates Sample.streamed
    (gateway.app.budget.countersFor "dev").get .total =
      (Sample.app.budget.countersFor "dev").get .total +
        (gateway.exchanges.zipIdx.map fun (exchange, index) =>
          exchange.tokensShown crates Sample.app.keys "dev" .total
            (received crates index Sample.app Sample.streamed)).sum :=
  ledger_of_deliveries _ Sample.app Sample.streamed Sample.streamed_inCap
    Sample.streamed_plainly "dev" .total

end Patchbay
