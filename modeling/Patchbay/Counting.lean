import Patchbay.Retry

/-!
# Counting requests

A forwarded request is meant to be counted once, under the class of the status the
client saw.  A request that is answered with a success or after all retries is counted
that way.  A failure that is passed through is not counted at all, and a buffered body
that cannot be read leaves its request counted as a success.
-/

namespace Patchbay

/-- The class of a status: `2xx`, `4xx` and so on. -/
def statusClass (status : StatusCode) : String := toString (status.code / 100) ++ "xx"

theorem statusClass_of_isSuccess {status : StatusCode} (success : status.isSuccess = true) :
    statusClass status = "2xx" := by
  simp only [StatusCode.isSuccess, Bool.and_eq_true, decide_eq_true_eq, UInt16.le_iff_toNat_le,
    UInt16.lt_iff_toNat_lt] at success
  have two : status.code / 100 = 2 := by
    apply UInt16.toNat_inj.mp
    rw [UInt16.toNat_div]
    have lower : 200 ≤ status.code.toNat := success.1
    have upper : status.code.toNat < 300 := success.2
    change status.code.toNat / 100 = 2
    omega
  rw [statusClass, two]
  rfl

theorem statusClass_ok : statusClass .ok = "2xx" := rfl

theorem statusClass_badGateway : statusClass .badGateway = "5xx" := rfl

/-- One more in a single series. -/
def once (label other : String) : UInt64 := if other = label then 1 else 0

namespace AppState

variable {σ γ : Type}

/-- What a series of requests has gained between two states. -/
def counted (before after : AppState σ γ) (label : String) : UInt64 :=
  after.metrics.requests.value label - before.metrics.requests.value label

theorem counted_same {before after : AppState σ γ}
    (same : after.metrics.requests = before.metrics.requests) (label : String) :
    counted before after label = 0 := by
  rw [counted, same, UInt64.sub_self]

theorem counted_recordRequest {before after : AppState σ γ} {backend model status : String}
    (recorded : after.metrics.requests =
      before.metrics.requests.inc (MetricsHandle.requestLabel backend model status))
    (label : String) :
    counted before after label =
      once (MetricsHandle.requestLabel backend model status) label := by
  rw [counted, once, recorded]
  by_cases same : label = MetricsHandle.requestLabel backend model status
  · subst same
    rw [LabeledCounters.value_inc_self, if_pos rfl, UInt64.add_comm, UInt64.add_sub_cancel]
  · rw [if_neg same, LabeledCounters.inc, LabeledCounters.value_add_of_ne _ same,
      UInt64.sub_self]

end AppState

namespace Event

variable {σ γ : Type}

/-- The exchange an event is about; an arrival makes a new one. -/
def target : Event σ → Option Nat
  | .arrive _ _ | .retune _ => none
  | .sent index _ _ _ | .woke index | .read index _ _ | .poll index _ | .close index
  | .settle index _ => some index

/-- What an event does with its exchange. -/
def act (crates : Crates γ) (event : Event σ) (app : AppState σ γ) (exchange : Exchange) :
    AppState σ γ × Exchange :=
  match event with
  | .arrive _ _ | .retune _ => (app, exchange)
  | .sent _ result hash clock => app.sent exchange result hash clock
  | .woke _ => app.woke exchange
  | .read _ body secs => app.read crates exchange body secs
  | .poll _ context => app.poll crates exchange context
  | .close _ => app.close exchange
  | .settle _ secs => app.settle exchange secs

theorem step_of_target (crates : Crates γ) {event : Event σ} {index : Nat}
    (about : event.target = some index) (gateway : Gateway σ γ) :
    gateway.step crates event = gateway.advance index (event.act crates) := by
  cases event <;> cases about <;> rfl

end Event

namespace Gateway

variable {σ γ : Type} (crates : Crates γ)

/-- What the steps of one exchange have added to a series of requests. -/
def growth (gateway : Gateway σ γ) (index : Nat) (label : String) : List (Event σ) → UInt64
  | [] => 0
  | event :: events =>
      (if event.target = some index then
          AppState.counted gateway.app (gateway.step crates event).app label
        else 0) +
        growth (gateway.step crates event) index label events

end Gateway

/-- A request was counted once: in the series of its backend, its model and the class of
the status it was answered with.  This says something once it made a call and got its
answer. -/
def Exchange.CountedOnce {γ : Type} (crates : Crates γ) (exchange : Exchange)
    (growth : String → UInt64) : Prop :=
  ∀ response, exchange.phase = .answered response → ∀ call ∈ exchange.calls, ∀ label,
    growth label = once (MetricsHandle.requestLabel call.backend.name
      (exchange.request.model crates) (statusClass response.status)) label

/-- The steps after which a request is not counted as it was answered: a failure is
passed through, or a buffered body cannot be read. -/
inductive Exchange.Slips {σ : Type} (exchange : Exchange) : Event σ → Prop
  | passedThrough {job : Job} {attempt index : Nat} {result : HttpResult} {hash : UInt64}
      {clock : Clock} (calling : exchange.phase = .calling job attempt)
      (settled : settles result = true) (failed : succeeded result = false) :
      Slips exchange (.sent index result hash clock)
  | unreadable {job : Job} {response : HttpResponse} {index : Nat} {message : String}
      {secs : UInt64} (reading : exchange.phase = .reading job response) :
      Slips exchange (.read index (.error message) secs)

namespace Exchange

variable {σ : Type} {exchange : Exchange}

theorem slips_sent_iff {index : Nat} {result : HttpResult} {hash : UInt64} {clock : Clock} :
    exchange.Slips (.sent index result hash clock : Event σ) ↔
      (∃ job attempt, exchange.phase = .calling job attempt) ∧ settles result = true ∧
        succeeded result = false := by
  constructor
  · rintro ⟨calling, settled, failed⟩
    exact ⟨⟨_, _, calling⟩, settled, failed⟩
  · rintro ⟨⟨job, attempt, calling⟩, settled, failed⟩
    exact .passedThrough calling settled failed

theorem slips_read_iff {index : Nat} {body : Except String Bytes} {secs : UInt64} :
    exchange.Slips (.read index body secs : Event σ) ↔
      (∃ job response, exchange.phase = .reading job response) ∧
        ∃ message, body = .error message := by
  constructor
  · intro slips
    cases slips with
    | unreadable reading => exact ⟨⟨_, _, reading⟩, _, rfl⟩
  · rintro ⟨⟨job, response, reading⟩, message, rfl⟩
    exact .unreadable reading

end Exchange

/-- Does an exchange go through such a step in a run? -/
def Gateway.Slips {σ γ : Type} (crates : Crates γ) (gateway : Gateway σ γ) (index : Nat) :
    List (Event σ) → Prop
  | [] => False
  | event :: events =>
      (event.target = some index ∧
        ∃ exchange, gateway.exchanges[index]? = some exchange ∧ exchange.Slips event) ∨
      Slips crates (gateway.step crates event) index events

/-! ## One exchange along a run -/

/-- What is known of an exchange that has been counted `growth`: a running handler has
counted nothing until it has a success, and an answered one was counted once exactly
when no step slipped. -/
structure Exchange.Tally {γ : Type} (crates : Crates γ) (exchange : Exchange)
    (growth : String → UInt64) (slipped : Prop) : Prop where
  routed : ∀ job, exchange.phase.job = some job →
    job.model = exchange.request.model crates ∧ exchange.calls ≠ [] ∧
      ∀ call ∈ exchange.calls, call.backend = job.backend
  running : ∀ job, exchange.phase.job = some job → ¬ slipped
  waiting : ∀ job attempt,
    exchange.phase = .calling job attempt ∨ exchange.phase = .sleeping job attempt →
      ∀ label, growth label = 0
  reading : ∀ job response, exchange.phase = .reading job response →
    response.status.isSuccess = true ∧ ∀ label,
      growth label = once (MetricsHandle.requestLabel job.backend.name job.model "2xx") label
  answered : ∀ response, exchange.phase = .answered response →
    (exchange.CountedOnce crates growth ↔ ¬ slipped)
  cancelled : exchange.phase = .cancelled → ¬ slipped

namespace Exchange

variable {σ γ : Type} {crates : Crates γ} {exchange after : Exchange}
  {growth : String → UInt64} {slipped : Prop}

theorem Tally.same (tally : exchange.Tally crates growth slipped) {other : String → UInt64}
    {slips : Prop} (sameGrowth : ∀ label, other label = growth label)
    (sameSlips : slips ↔ slipped) : exchange.Tally crates other slips := by
  cases funext sameGrowth
  cases propext sameSlips
  exact tally

theorem Tally.congr (tally : exchange.Tally crates growth slipped)
    {more : String → UInt64} {slips : Prop} (phase : after.phase = exchange.phase)
    (calls : after.calls = exchange.calls) (request : after.request = exchange.request)
    (nothing : ∀ label, more label = 0) (safe : ¬ slips) :
    after.Tally crates (fun label => growth label + more label) (slipped ∨ slips) := by
  rcases after with ⟨_, _, _, waits, relay⟩
  cases phase
  cases calls
  cases request
  have moved : Exchange.Tally crates
      ⟨exchange.request, exchange.phase, exchange.calls, waits, relay⟩ growth slipped :=
    ⟨tally.routed, tally.running, tally.waiting, tally.reading, tally.answered,
      tally.cancelled⟩
  apply moved.same _ (or_iff_left safe)
  intro label
  rw [nothing, UInt64.add_zero]

/-- A handler that ends with an answer: it was counted right if it did not slip, and
wrong if it did. -/
theorem Tally.answer (tally : exchange.Tally crates growth slipped) (status : String)
    {job : Job} (running : exchange.phase.job = some job) {response : Response}
    {more : String → UInt64} {slips : Prop} (phase : after.phase = .answered response)
    (seen : statusClass response.status = status)
    (calls : after.calls = exchange.calls) (request : after.request = exchange.request)
    (counted : (∀ label, growth label + more label =
        once (MetricsHandle.requestLabel job.backend.name job.model status) label) ↔
      ¬ slips) :
    after.Tally crates (fun label => growth label + more label) (slipped ∨ slips) := by
  subst seen
  rcases tally.routed job running with ⟨model, called, routed⟩
  have notSlipped := tally.running job running
  have countedOnce : after.CountedOnce crates (fun label => growth label + more label) ↔
      ∀ label, growth label + more label =
        once (MetricsHandle.requestLabel job.backend.name job.model
          (statusClass response.status)) label := by
    rw [CountedOnce, calls, request, ← model]
    constructor
    · intro all
      rcases List.exists_mem_of_ne_nil _ called with ⟨call, membership⟩
      rw [← routed call membership]
      exact all response phase call membership
    · intro all other otherPhase call membership
      rw [phase] at otherPhase
      cases otherPhase
      rw [routed call membership]
      exact all
  constructor
  · intro next found
    simp [phase, Phase.job] at found
  · intro next found
    simp [phase, Phase.job] at found
  · rintro next attempt (found | found)
    · simp [phase] at found
    · simp [phase] at found
  · intro next other found
    simp [phase] at found
  · intro other _
    rw [countedOnce, counted, or_iff_right notSlipped]
  · intro found
    simp [phase] at found

/-- A handler that ends with an answer to the call under way, and counts it now. -/
theorem Tally.answerCounted (tally : exchange.Tally crates growth slipped) (status : String)
    {job : Job} {attempt : Nat} (before : exchange.phase = .calling job attempt)
    {response : Response} {more : String → UInt64} {slips : Prop}
    (phase : after.phase = .answered response)
    (seen : statusClass response.status = status)
    (calls : after.calls = exchange.calls) (request : after.request = exchange.request)
    (counted : ∀ label, more label =
      once (MetricsHandle.requestLabel job.backend.name job.model status) label)
    (safe : ¬ slips) :
    after.Tally crates (fun label => growth label + more label) (slipped ∨ slips) := by
  have running : exchange.phase.job = some job := by rw [before]; rfl
  apply tally.answer status running phase seen calls request
  apply iff_of_true _ safe
  intro label
  rw [tally.waiting job attempt (.inl before), UInt64.zero_add]
  exact counted label

/-- A handler that goes on with the same job, without having counted anything. -/
theorem Tally.goesOn (tally : exchange.Tally crates growth slipped) {job : Job}
    {attempt : Nat}
    (before : exchange.phase = .calling job attempt ∨ exchange.phase = .sleeping job attempt)
    {more : String → UInt64} {slips : Prop} {next : Nat}
    (phase : after.phase = .calling job next ∨ after.phase = .sleeping job next)
    (calls : ∀ call ∈ after.calls, call ∈ exchange.calls ∨ call = job.call)
    (called : after.calls ≠ []) (request : after.request = exchange.request)
    (nothing : ∀ label, more label = 0) (safe : ¬ slips) :
    after.Tally crates (fun label => growth label + more label) (slipped ∨ slips) := by
  have running : exchange.phase.job = some job := by
    rcases before with found | found <;> rw [found] <;> rfl
  have runningAfter : after.phase.job = some job := by
    rcases phase with found | found <;> rw [found] <;> rfl
  have notSlipped : ¬ (slipped ∨ slips) := not_or.mpr ⟨tally.running job running, safe⟩
  rcases tally.routed job running with ⟨model, -, routed⟩
  constructor
  · intro other found
    rw [runningAfter, Option.some.injEq] at found
    subst found
    rw [request]
    constructor
    · exact model
    constructor
    · exact called
    · intro call membership
      rcases calls call membership with earlier | rfl
      · exact routed call earlier
      · rfl
  · intro other _
    exact notSlipped
  · intro other otherAttempt _ label
    rw [nothing, UInt64.add_zero]
    exact tally.waiting job attempt before label
  · intro other response found
    rcases phase with same | same <;> rw [same] at found <;> cases found
  · intro response found
    rcases phase with same | same <;> rw [same] at found <;> cases found
  · intro _
    exact notSlipped

/-- A handler with a success whose body it reads. -/
theorem Tally.reads (tally : exchange.Tally crates growth slipped) {job : Job} {attempt : Nat}
    (before : exchange.phase = .calling job attempt) {response : HttpResponse}
    (success : response.status.isSuccess = true) {more : String → UInt64} {slips : Prop}
    (phase : after.phase = .reading job response) (calls : after.calls = exchange.calls)
    (request : after.request = exchange.request)
    (counted : ∀ label, more label =
      once (MetricsHandle.requestLabel job.backend.name job.model "2xx") label)
    (safe : ¬ slips) :
    after.Tally crates (fun label => growth label + more label) (slipped ∨ slips) := by
  have running : exchange.phase.job = some job := by rw [before]; rfl
  have notSlipped : ¬ (slipped ∨ slips) := not_or.mpr ⟨tally.running job running, safe⟩
  constructor
  · intro other found
    simp only [phase, Phase.job, Option.some.injEq] at found
    subst found
    rw [calls, request]
    exact tally.routed job running
  · intro other _
    exact notSlipped
  · rintro other otherAttempt (found | found)
    · simp [phase] at found
    · simp [phase] at found
  · intro other otherResponse found
    rw [phase] at found
    cases found
    constructor
    · exact success
    · intro label
      rw [tally.waiting job attempt (.inl before), counted, UInt64.zero_add]
  · intro other found
    simp [phase] at found
  · intro _
    exact notSlipped

end Exchange

namespace AppState

open Exchange (Tally Slips)

variable {σ γ : Type} {crates : Crates γ} {exchange : Exchange} {growth : String → UInt64}
  {slipped : Prop} (app : AppState σ γ)

/-- The exchange and its tally after one of its handlers ran. -/
def Tallied (crates : Crates γ) (growth : String → UInt64) (slipped : Prop)
    (app : AppState σ γ) (after : AppState σ γ × Exchange) : Prop :=
  after.2.Tally crates (fun label => growth label + counted app after.1 label) slipped

theorem not_once_zero (label : String) : ¬ ∀ other, (0 : UInt64) = once label other := by
  intro same
  have one := same label
  rw [once, if_pos rfl] at one
  cases one

theorem requestLabel_status_ne (backend model : String) :
    MetricsHandle.requestLabel backend model "2xx" ≠
      MetricsHandle.requestLabel backend model "5xx" := by
  intro same
  have sameChars := congrArg String.toList same
  simp [MetricsHandle.requestLabel, escape, Text.replaceChar] at sameChars

/-- A phase in which an event does nothing. -/
theorem idle_tallied (tally : exchange.Tally crates growth slipped) {slips : Prop}
    (safe : ¬ slips) : Tallied crates growth (slipped ∨ slips) app (app, exchange) :=
  tally.congr rfl rfl rfl (counted_same rfl) safe

section

variable {job : Job} {attempt : Nat} {result : HttpResult}

/-- A success is counted with its head. -/
theorem sent_success_tallied (tally : exchange.Tally crates growth slipped)
    (phase : exchange.phase = .calling job attempt) (success : succeeded result = true)
    (hash : UInt64) (clock : Clock) {slips : Prop} (safe : ¬ slips) :
    Tallied crates growth (slipped ∨ slips) app (app.sent exchange result hash clock) := by
  cases result with
  | error message => cases success
  | ok response =>
      have received := receive_of_success job.backend success
      simp only [sent, phase, received, handOver]
      split
      · apply tally.answerCounted "2xx" phase (by rfl) _ (by rfl) (by rfl) _ safe
        · exact statusClass_ok
        · exact counted_recordRequest rfl
      · exact tally.reads phase success (by rfl) (by rfl) (by rfl)
          (counted_recordRequest (by rfl)) safe

/-- A failure that is passed through is not counted at all. -/
theorem sent_passedThrough_tallied (tally : exchange.Tally crates growth slipped)
    (phase : exchange.phase = .calling job attempt) (settled : settles result = true)
    (failed : succeeded result = false) (hash : UInt64) (clock : Clock) {slips : Prop}
    (slip : slips) :
    Tallied crates growth (slipped ∨ slips) app (app.sent exchange result hash clock) := by
  have running : exchange.phase.job = some job := by rw [phase]; rfl
  have noGrowth := tally.waiting job attempt (.inl phase)
  rcases receive_of_settles settled failed job.backend with
    ⟨response, error, -, received, final, status⟩
  simp only [sent, phase, received, final, status, Bool.not_false, if_true, Option.getD_some]
  apply tally.answer (statusClass response.status) running (by rfl) _ (by rfl) (by rfl)
  · apply iff_of_false
    · intro counted
      apply not_once_zero
      intro label
      rw [← counted label, noGrowth, counted_same, UInt64.zero_add]
      rfl
    · exact not_not.mpr slip
  · rfl

/-- A failure worth a retry is counted when no attempt is left. -/
theorem sent_retried_tallied (tally : exchange.Tally crates growth slipped)
    (phase : exchange.phase = .calling job attempt) (unsettled : settles result = false)
    (hash : UInt64) (clock : Clock) {slips : Prop} (safe : ¬ slips) :
    Tallied crates growth (slipped ∨ slips) app (app.sent exchange result hash clock) := by
  have called := (tally.routed job (by rw [phase]; rfl)).2.1
  rcases receive_of_not_settles unsettled job.backend with ⟨error, received, retryable⟩
  simp only [sent, phase, received, retryable, Bool.not_true, Bool.false_eq_true, if_false,
    retry]
  split
  · exact tally.goesOn (.inl phase) (.inr rfl) (fun call => .inl) called (by rfl)
      (counted_same rfl) safe
  · apply tally.answerCounted "5xx" phase (by rfl) _ (by rfl) (by rfl) _ safe
    · exact statusClass_badGateway
    · exact counted_recordRequest rfl

end

theorem sent_tallied (tally : exchange.Tally crates growth slipped) (index : Nat)
    (result : HttpResult) (hash : UInt64) (clock : Clock) :
    Tallied crates growth
      (slipped ∨ exchange.Slips (.sent index result hash clock : Event σ)) app
      (app.sent exchange result hash clock) := by
  cases phase : exchange.phase with
  | calling job attempt =>
      cases success : succeeded result with
      | true =>
          apply app.sent_success_tallied tally phase success
          simp [Exchange.slips_sent_iff, success]
      | false =>
          cases settled : settles result with
          | true =>
              apply app.sent_passedThrough_tallied tally phase settled success
              exact .passedThrough phase settled success
          | false =>
              apply app.sent_retried_tallied tally phase settled
              simp [Exchange.slips_sent_iff, settled]
  | sleeping job attempt =>
      simp only [sent, phase]
      exact app.idle_tallied tally (by simp [Exchange.slips_sent_iff, phase])
  | reading job response =>
      simp only [sent, phase]
      exact app.idle_tallied tally (by simp [Exchange.slips_sent_iff, phase])
  | answered response =>
      simp only [sent, phase]
      exact app.idle_tallied tally (by simp [Exchange.slips_sent_iff, phase])
  | cancelled =>
      simp only [sent, phase]
      exact app.idle_tallied tally (by simp [Exchange.slips_sent_iff, phase])

theorem woke_tallied (tally : exchange.Tally crates growth slipped) {slips : Prop}
    (safe : ¬ slips) :
    Tallied crates growth (slipped ∨ slips) app (app.woke exchange) := by
  cases phase : exchange.phase with
  | sleeping job attempt =>
      simp only [woke, phase]
      apply tally.goesOn (.inr phase) (.inl rfl) _ _ (by rfl) (counted_same rfl) safe
      · intro call membership
        rcases List.mem_append.mp membership with earlier | another
        · exact .inl earlier
        · exact .inr (List.mem_singleton.mp another)
      · simp [Exchange.call]
  | calling job attempt =>
      simp only [woke, phase]
      exact app.idle_tallied tally safe
  | reading job response =>
      simp only [woke, phase]
      exact app.idle_tallied tally safe
  | answered response =>
      simp only [woke, phase]
      exact app.idle_tallied tally safe
  | cancelled =>
      simp only [woke, phase]
      exact app.idle_tallied tally safe

theorem read_tallied (tally : exchange.Tally crates growth slipped) (index : Nat)
    (body : Except String Bytes) (secs : UInt64) :
    Tallied crates growth (slipped ∨ exchange.Slips (.read index body secs : Event σ)) app
      (app.read crates exchange body secs) := by
  cases phase : exchange.phase with
  | reading job response =>
      have running : exchange.phase.job = some job := by rw [phase]; rfl
      rcases tally.reading job response phase with ⟨success, growing⟩
      cases body with
      | error message =>
          simp only [read, phase]
          apply tally.answer "5xx" running (by rfl) _ (by rfl) (by rfl)
          · apply iff_of_false
            · intro counted
              have atSuccess := counted
                (MetricsHandle.requestLabel job.backend.name job.model "2xx")
              rw [growing, counted_same, UInt64.add_zero, once, if_pos rfl, once,
                if_neg (requestLabel_status_ne _ _)] at atSuccess
              · cases atSuccess
              · rfl
            · exact not_not.mpr (Slips.unreadable phase)
          · exact statusClass_badGateway
      | ok body =>
          have safe : ¬ exchange.Slips (.read index (.ok body) secs : Event σ) := by
            simp [Exchange.slips_read_iff]
          simp only [read, phase]
          apply tally.answer "2xx" running (by rfl) _ (by rfl) (by rfl)
          · apply iff_of_true _ safe
            intro label
            rw [counted_same, UInt64.add_zero, growing]
            cases bufferedUsage crates.json body <;> rfl
          · exact statusClass_of_isSuccess success
  | calling job attempt =>
      simp only [read, phase]
      exact app.idle_tallied tally (by simp [Exchange.slips_read_iff, phase])
  | sleeping job attempt =>
      simp only [read, phase]
      exact app.idle_tallied tally (by simp [Exchange.slips_read_iff, phase])
  | answered response =>
      simp only [read, phase]
      exact app.idle_tallied tally (by simp [Exchange.slips_read_iff, phase])
  | cancelled =>
      simp only [read, phase]
      exact app.idle_tallied tally (by simp [Exchange.slips_read_iff, phase])

theorem poll_tallied (tally : exchange.Tally crates growth slipped) (context : PollContext)
    {slips : Prop} (safe : ¬ slips) :
    Tallied crates growth (slipped ∨ slips) app (app.poll crates exchange context) := by
  unfold poll
  cases exchange.relay with
  | none => exact app.idle_tallied tally safe
  | some task =>
      dsimp only
      split
      · exact app.idle_tallied tally safe
      · exact tally.congr rfl rfl rfl (counted_same rfl) safe

theorem close_tallied (tally : exchange.Tally crates growth slipped) {slips : Prop}
    (safe : ¬ slips) :
    Tallied crates growth (slipped ∨ slips) app (app.close exchange) := by
  have dropped : ∀ phase, (∀ response, phase ≠ .answered response) → exchange.phase = phase →
      ¬ slipped → Tallied crates growth (slipped ∨ slips) app (app.close exchange) := by
    intro phase notAnswered found notSlipped
    have cancelled : (app.close exchange).2.phase = .cancelled := by
      cases phase with
      | answered response => exact (notAnswered response rfl).elim
      | calling job attempt => simp only [close, found]
      | sleeping job attempt => simp only [close, found]
      | reading job response => simp only [close, found]
      | cancelled => simp only [close, found]
    have notSlippedNow : ¬ (slipped ∨ slips) := not_or.mpr ⟨notSlipped, safe⟩
    constructor
    · intro job running
      simp [cancelled, Phase.job] at running
    · intro job running
      simp [cancelled, Phase.job] at running
    · rintro job attempt (waiting | waiting)
      · simp [cancelled] at waiting
      · simp [cancelled] at waiting
    · intro job response reading
      simp [cancelled] at reading
    · intro response answered
      simp [cancelled] at answered
    · intro _
      exact notSlippedNow
  cases phase : exchange.phase with
  | answered response =>
      have answered : (app.close exchange).2.phase = exchange.phase := by
        simp only [close, phase]
      exact tally.congr answered rfl rfl (counted_same rfl) safe
  | calling job attempt =>
      exact dropped _ (by simp) phase (tally.running job (by rw [phase]; rfl))
  | sleeping job attempt =>
      exact dropped _ (by simp) phase (tally.running job (by rw [phase]; rfl))
  | reading job response =>
      exact dropped _ (by simp) phase (tally.running job (by rw [phase]; rfl))
  | cancelled => exact dropped _ (by simp) phase (tally.cancelled phase)

theorem requests_accountStream (task : RelayTask) (summary : RelaySummary) (secs : UInt64) :
    (app.accountStream task summary secs).metrics.requests = app.metrics.requests := by
  unfold accountStream
  cases summary.usage with
  | none => cases summary.outcome <;> rfl
  | some usage => cases summary.outcome <;> rfl

theorem settle_tallied (tally : exchange.Tally crates growth slipped) (secs : UInt64)
    {slips : Prop} (safe : ¬ slips) :
    Tallied crates growth (slipped ∨ slips) app (app.settle exchange secs) := by
  unfold settle
  cases exchange.relay with
  | none => exact app.idle_tallied tally safe
  | some task =>
      dsimp only
      split
      · exact app.idle_tallied tally safe
      · split
        · exact app.idle_tallied tally safe
        · exact tally.congr rfl rfl rfl
            (counted_same (app.requests_accountStream task _ secs)) safe

/-- The step lemma. -/
theorem act_tallied (tally : exchange.Tally crates growth slipped) (event : Event σ) :
    Tallied crates growth (slipped ∨ exchange.Slips event) app
      (event.act crates app exchange) := by
  cases event with
  | arrive request clock => exact app.idle_tallied tally nofun
  | retune state => exact app.idle_tallied tally nofun
  | sent index result hash clock => exact app.sent_tallied tally index result hash clock
  | woke index => exact app.woke_tallied tally nofun
  | read index body secs => exact app.read_tallied tally index body secs
  | poll index context => exact app.poll_tallied tally context nofun
  | close index => exact app.close_tallied tally nofun
  | settle index secs => exact app.settle_tallied tally secs nofun

/-- A new exchange has counted nothing. -/
theorem chatCompletions_tally (request : ClientRequest) (clock : Clock) :
    (app.chatCompletions crates request clock).2.Tally crates (fun _ => 0) False := by
  have refused : ∀ response, (Exchange.refused request response).Tally crates (fun _ => 0)
      False := by
    intro response
    constructor
    · intro job running
      cases running
    · intro job running
      cases running
    · rintro job attempt (waiting | waiting) <;> cases waiting
    · intro job reading found
      cases found
    · intro other _
      exact iff_of_true (fun _ _ call called => by cases called) not_false
    · intro cancelled
      cases cancelled
  have spec := admission_spec crates app request clock
  unfold chatCompletions
  generalize app.admission crates request clock = admission at spec
  cases spec with
  | unauthorized known => exact refused _
  | limited known exceeded => exact refused _
  | noModel known allowed empty => exact refused _
  | unroutable known allowed present failed => exact refused _
  | admitted known allowed present routed =>
      constructor
      · intro job running
        cases running
        simp [Exchange.start, ClientRequest.model, Job.call]
      · intro job _
        exact not_false
      · intro job attempt _ label
        rfl
      · intro job reading found
        cases found
      · intro response answered
        cases answered
      · intro cancelled
        cases cancelled

end AppState

/-! ## All runs -/

namespace Gateway

variable {σ γ : Type} (crates : Crates γ)

/-- The tally of an exchange, which may not have arrived yet. -/
def TallyAt (gateway : Gateway σ γ) (index : Nat) (growth : String → UInt64)
    (slipped : Prop) : Prop :=
  match gateway.exchanges[index]? with
  | none => (∀ label, growth label = 0) ∧ ¬ slipped
  | some exchange => exchange.Tally crates growth slipped

theorem TallyAt.congr {gateway after : Gateway σ γ} {index : Nat} {growth : String → UInt64}
    {slipped : Prop} (tally : gateway.TallyAt crates index growth slipped)
    (same : after.exchanges[index]? = gateway.exchanges[index]?) {more : String → UInt64}
    {slips : Prop} (nothing : ∀ label, more label = 0) (safe : ¬ slips) :
    after.TallyAt crates index (fun label => growth label + more label) (slipped ∨ slips) := by
  rw [TallyAt, same]
  rw [TallyAt] at tally
  cases found : gateway.exchanges[index]? with
  | none =>
      rw [found] at tally
      constructor
      · intro label
        rw [tally.1, nothing, UInt64.add_zero]
      · exact not_or.mpr ⟨tally.2, safe⟩
  | some exchange =>
      rw [found] at tally
      exact tally.congr rfl rfl rfl nothing safe

/-- An exchange is tallied from its arrival on, and the arrival of another leaves it alone. -/
theorem arrive_tallyAt {gateway : Gateway σ γ} {index : Nat} {growth : String → UInt64}
    {slipped : Prop} (tally : gateway.TallyAt crates index growth slipped)
    (request : ClientRequest) (clock : Clock) {more : String → UInt64}
    (nothing : ∀ label, more label = 0) {slips : Prop} (safe : ¬ slips) :
    (gateway.step crates (.arrive request clock)).TallyAt crates index
      (fun label => growth label + more label) (slipped ∨ slips) := by
  cases found : gateway.exchanges[index]? with
  | some exchange =>
      have inBounds := (List.getElem?_eq_some_iff.mp found).1
      exact tally.congr crates (List.getElem?_append_left inBounds) nothing safe
  | none =>
      by_cases new : index = gateway.exchanges.length
      · have arrived : (gateway.step crates (.arrive request clock)).exchanges[index]? =
            some (gateway.app.chatCompletions crates request clock).2 := by
          subst new
          simp [step]
        rw [TallyAt, found] at tally
        rw [TallyAt, arrived]
        apply (gateway.app.chatCompletions_tally request clock).same
        · intro label
          rw [tally.1, nothing, UInt64.add_zero]
        · exact iff_of_false (not_or.mpr ⟨tally.2, safe⟩) not_false
      · apply tally.congr crates _ nothing safe
        have late := List.getElem?_eq_none_iff.mp found
        rw [found, List.getElem?_eq_none_iff]
        simp only [step, List.length_append, List.length_singleton]
        omega

/-- A step adds to the tally of an exchange what it counted for it. -/
theorem step_tallyAt {gateway : Gateway σ γ} {index : Nat} {growth : String → UInt64}
    {slipped : Prop} (tally : gateway.TallyAt crates index growth slipped)
    (event : Event σ) :
    (gateway.step crates event).TallyAt crates index
      (fun label => growth label + if event.target = some index then
          AppState.counted gateway.app (gateway.step crates event).app label
        else 0)
      (slipped ∨ event.target = some index ∧
        ∃ exchange, gateway.exchanges[index]? = some exchange ∧ exchange.Slips event) := by
  by_cases about : event.target = some index
  · simp only [about, if_true, true_and]
    rw [Event.step_of_target crates about, advance]
    cases found : gateway.exchanges[index]? with
    | none => exact tally.congr crates rfl (AppState.counted_same rfl) (by simp)
    | some exchange =>
        rw [TallyAt, found] at tally
        have inBounds := (List.getElem?_eq_some_iff.mp found).1
        have acted := gateway.app.act_tallied tally event
        rw [AppState.Tallied] at acted
        rw [TallyAt, List.getElem?_set_self inBounds]
        simpa using acted
  · have safe : ¬ (event.target = some index ∧
        ∃ exchange, gateway.exchanges[index]? = some exchange ∧ exchange.Slips event) :=
      fun both => about both.1
    have nothing : ∀ label, (if event.target = some index then
        AppState.counted gateway.app (gateway.step crates event).app label else 0) = 0 :=
      fun label => if_neg about
    cases target : event.target with
    | some other =>
        have different : other ≠ index := fun same => about (same ▸ target)
        rw [target] at safe nothing
        apply tally.congr crates _ nothing safe
        rw [Event.step_of_target crates target, advance]
        cases gateway.exchanges[other]? with
        | none => rfl
        | some exchange => exact List.getElem?_set_ne different
    | none =>
        rw [target] at safe nothing
        cases event with
        | arrive request clock => exact arrive_tallyAt crates tally request clock nothing safe
        | retune state => exact tally.congr crates rfl nothing safe
        | _ => cases target

/-- The run lemma. -/
theorem run_tallyAt {gateway : Gateway σ γ} {index : Nat} {growth : String → UInt64}
    {slipped : Prop} (tally : gateway.TallyAt crates index growth slipped)
    (events : List (Event σ)) :
    (gateway.run crates events).TallyAt crates index
      (fun label => growth label + gateway.growth crates index label events)
      (slipped ∨ gateway.Slips crates index events) := by
  induction events generalizing gateway growth slipped with
  | nil =>
      rw [run, List.foldl_nil]
      simpa only [Gateway.growth, Gateway.Slips, UInt64.add_zero, or_false] using tally
  | cons event events ih =>
      have after := ih (step_tallyAt crates tally event)
      rw [run, List.foldl_cons, ← run]
      simpa only [Gateway.growth, Gateway.Slips, UInt64.add_assoc, or_assoc] using after

/-- **Counting.**  In any run, what the steps of a request that was forwarded and answered
have added to the requests family is one in its own series and nothing else, exactly when
none of them passed a failure through or failed to read a buffered body. -/
theorem countedOnce_iff (app : AppState σ γ) (events : List (Event σ)) {index : Nat}
    {exchange : Exchange}
    (found : ((start app).run crates events).exchanges[index]? = some exchange) :
    exchange.CountedOnce crates
        (fun label => (start app).growth crates index label events) ↔
      ¬ (start app).Slips crates index events := by
  have nothing : (start app).TallyAt crates index (fun _ => 0) False :=
    ⟨fun _ => rfl, not_false⟩
  have counted := run_tallyAt crates nothing events
  rw [TallyAt, found] at counted
  have tally : exchange.Tally crates
      (fun label => (start app).growth crates index label events)
      ((start app).Slips crates index events) := by
    apply counted.same
    · intro label
      rw [UInt64.zero_add]
    · exact (or_iff_right not_false).symm
  cases phase : exchange.phase with
  | answered response => exact tally.answered response phase
  | calling job attempt =>
      exact iff_of_true (fun response answered => by simp [phase] at answered)
        (tally.running job (by rw [phase]; rfl))
  | sleeping job attempt =>
      exact iff_of_true (fun response answered => by simp [phase] at answered)
        (tally.running job (by rw [phase]; rfl))
  | reading job response =>
      exact iff_of_true (fun response answered => by simp [phase] at answered)
        (tally.running job (by rw [phase]; rfl))
  | cancelled =>
      exact iff_of_true (fun response answered => by simp [phase] at answered)
        (tally.cancelled phase)

end Gateway

/-! ### A missing model -/

namespace Sample

/-- The local backend does not have the model after all. -/
def notFound : HttpResponse where
  status := ⟨404, by decide⟩
  location := none
  contentType := none
  text := some "model not found"
  stream _ := .ready none

def passedThrough : List (Event Unit) :=
  [.arrive request clock, .sent 0 (.ok notFound) 7 clock]

def passedThroughExchange : Exchange where
  request := request
  phase := .answered (errorResponse notFound.status "upstream_error"
    "upstream \x60local\x60 returned 404: model not found")
  calls := [localCall]
  waits := []
  relay := none

theorem passedThrough_exchanges :
    ((Gateway.start app).run crates passedThrough).exchanges = [passedThroughExchange] := by
  rfl

/-- The client saw a 404, and nothing was counted. -/
theorem passedThrough_not_counted :
    ¬ ∀ exchange ∈ ((Gateway.start app).run crates passedThrough).exchanges,
      exchange.CountedOnce crates
        (fun label => (Gateway.start app).growth crates 0 label passedThrough) := by
  intro counted
  rw [passedThrough_exchanges] at counted
  have one := counted passedThroughExchange (List.mem_singleton_self _) _ rfl localCall
    List.mem_cons_self (MetricsHandle.requestLabel "local" "m" "4xx")
  have nothing : (Gateway.start app).growth crates 0
      (MetricsHandle.requestLabel "local" "m" "4xx") passedThrough = 0 := by decide +kernel
  have own : once (MetricsHandle.requestLabel localCall.backend.name
      (passedThroughExchange.request.model crates) (statusClass notFound.status))
        (MetricsHandle.requestLabel "local" "m" "4xx") = 1 := by decide +kernel
  have contradiction := nothing.symm.trans (one.trans own)
  cases contradiction

def served : List (Event Unit) :=
  [.arrive request clock, .sent 0 (.ok success) 7 clock, .read 0 (.ok completion) 1000]

def servedExchange : Exchange where
  request := request
  phase := .answered {
    status := .ok
    headers := [("content-type", fromStatic "application/json")]
    body := .bytes completion }
  calls := [localCall]
  waits := []
  relay := none

/-- A served request is counted once. -/
theorem served_countedOnce :
    servedExchange.CountedOnce crates
      (fun label => (Gateway.start app).growth crates 0 label served) := by
  have found : ((Gateway.start app).run crates served).exchanges[0]? = some servedExchange := by
    rfl
  apply (Gateway.countedOnce_iff crates app served found).mpr
  rintro (⟨about, -⟩ | ⟨-, exchange, -, slips⟩ | ⟨-, exchange, -, slips⟩ | never)
  · cases about
  · cases slips with
    | passedThrough calling settled failed => cases failed
  · cases slips
  · exact never

end Sample

end Patchbay
