import Mathlib.Logic.Relation
import Patchbay.Server

/-!
# The gateway as a state machine

The gateway serves any number of requests at a time.  Its state is the shared
application state and the exchange of every request so far; an event is the
arrival of a request or the next thing that happens to one exchange, in any order.
-/

namespace Patchbay

/-- What can happen next.  Exchanges are numbered in order of arrival. -/
inductive Event (σ : Type) where
  | arrive (request : ClientRequest) (clock : Clock)
  | sent (index : Nat) (result : HttpResult) (hash : UInt64) (clock : Clock)
  | woke (index : Nat)
  | read (index : Nat) (body : Except String Bytes) (secs : UInt64)
  | poll (index : Nat) (context : PollContext)
  | close (index : Nat)
  | settle (index : Nat) (secs : UInt64)
  /-- The policy's state changes by itself. -/
  | retune (state : σ)

structure Gateway (σ γ : Type) where
  app : AppState σ γ
  exchanges : List Exchange

namespace Gateway

variable {σ γ : Type} (crates : Crates γ)

def start (app : AppState σ γ) : Gateway σ γ := { app, exchanges := [] }

/-- Let one exchange act on the shared state. -/
def advance (gateway : Gateway σ γ) (index : Nat)
    (act : AppState σ γ → Exchange → AppState σ γ × Exchange) : Gateway σ γ :=
  match gateway.exchanges[index]? with
  | none => gateway
  | some exchange =>
      let (app, exchange) := act gateway.app exchange
      { app, exchanges := gateway.exchanges.set index exchange }

def step (gateway : Gateway σ γ) : Event σ → Gateway σ γ
  | .arrive request clock =>
      let (app, exchange) := gateway.app.chatCompletions crates request clock
      { app, exchanges := gateway.exchanges ++ [exchange] }
  | .sent index result hash clock =>
      gateway.advance index fun app exchange => app.sent exchange result hash clock
  | .woke index => gateway.advance index AppState.woke
  | .read index body secs =>
      gateway.advance index fun app exchange => app.read crates exchange body secs
  | .poll index context =>
      gateway.advance index fun app exchange => app.poll crates exchange context
  | .close index => gateway.advance index AppState.close
  | .settle index secs =>
      gateway.advance index fun app exchange => app.settle exchange secs
  | .retune state =>
      { gateway with app := { gateway.app with router := { gateway.app.router with state } } }

/-- A run: one event after the other. -/
def run (gateway : Gateway σ γ) (events : List (Event σ)) : Gateway σ γ :=
  events.foldl (step crates) gateway

theorem run_append (gateway : Gateway σ γ) (before after : List (Event σ)) :
    gateway.run crates (before ++ after) = (gateway.run crates before).run crates after :=
  List.foldl_append

end Gateway

/-! ## What no step changes -/

/-- The parts of the application state that requests never touch. -/
structure AppState.Frame {σ γ : Type} (before after : AppState σ γ) : Prop where
  keys : after.keys = before.keys
  upstream : after.upstream = before.upstream
  backends : after.router.backends = before.router.backends
  budgetLimits : after.budget.limits = before.budget.limits
  rateLimits : after.limits.limits = before.limits.limits
  budgetRejections : after.metrics.budgetRejections = before.metrics.budgetRejections

namespace AppState

variable {σ γ : Type} (crates : Crates γ) (app : AppState σ γ)

theorem Frame.refl : Frame app app := ⟨rfl, rfl, rfl, rfl, rfl, rfl⟩

variable {app}

theorem Frame.trans {middle after : AppState σ γ} (first : Frame app middle)
    (second : Frame middle after) : Frame app after where
  keys := second.keys.trans first.keys
  upstream := second.upstream.trans first.upstream
  backends := second.backends.trans first.backends
  budgetLimits := second.budgetLimits.trans first.budgetLimits
  rateLimits := second.rateLimits.trans first.rateLimits
  budgetRejections := second.budgetRejections.trans first.budgetRejections

theorem frame_account (keyName : String) (usage : Usage) (secs : UInt64) :
    Frame app (app.account keyName usage secs) := ⟨rfl, rfl, rfl, rfl, rfl, rfl⟩

theorem frame_chatCompletions (request : ClientRequest) (clock : Clock) :
    Frame app (app.chatCompletions crates request clock).1 := by
  have spec := admission_spec crates app request clock
  unfold chatCompletions
  generalize app.admission crates request clock = admission at spec
  cases spec with
  | unauthorized refused => exact Frame.refl app
  | limited known refused => exact ⟨rfl, rfl, rfl, rfl, by simp, rfl⟩
  | noModel known allowed refused => exact ⟨rfl, rfl, rfl, rfl, by simp, rfl⟩
  | unroutable known allowed present refused => exact ⟨rfl, rfl, by simp, rfl, by simp, rfl⟩
  | admitted known allowed present routed => exact ⟨rfl, rfl, by simp, rfl, by simp, rfl⟩

end AppState

namespace Phase

/-- The job of a handler that has not finished. -/
def job : Phase → Option Job
  | .calling job _ | .sleeping job _ | .reading job _ => some job
  | .answered _ | .cancelled => none

end Phase

namespace Exchange

/-- What can become of an exchange in one step: its job stays the same as long as
the handler runs, and only a running handler makes calls, always the same one. -/
structure Evolves (before after : Exchange) : Prop where
  request : after.request = before.request
  calls : after.calls = before.calls ∨
    ∃ job, before.phase.job = some job ∧ after.calls = before.calls ++ [job.call]
  job : ∀ job, after.phase.job = some job → before.phase.job = some job
  answered : ∀ response, before.phase = .answered response → after.phase = .answered response

theorem Evolves.refl (exchange : Exchange) : Evolves exchange exchange :=
  ⟨rfl, .inl rfl, fun _ same => same, fun _ same => same⟩

/-- Calls are never forgotten. -/
theorem calls_prefix {before after : Exchange}
    (course : Relation.ReflTransGen Evolves before after) : before.calls <+: after.calls := by
  induction course with
  | refl => exact List.prefix_rfl
  | tail _ evolves ih =>
      rcases evolves.calls with same | ⟨job, -, another⟩
      · rw [same]
        exact ih
      · rw [another]
        exact ih.trans (List.prefix_append _ _)

/-- After its answer an exchange makes no calls. -/
theorem answered_stays {before after : Exchange} {response : Response}
    (answered : before.phase = .answered response)
    (course : Relation.ReflTransGen Evolves before after) :
    after.phase = .answered response ∧ after.calls = before.calls := by
  induction course with
  | refl => exact ⟨answered, rfl⟩
  | tail _ evolves ih =>
      refine ⟨evolves.answered response ih.1, ?_⟩
      rcases evolves.calls with same | ⟨job, running, -⟩
      · rw [same, ih.2]
      · rw [ih.1] at running
        cases running

/-- A running handler that ends or pauses without a call. -/
theorem Evolves.of_running {before after : Exchange} {job : Job}
    (running : before.phase.job = some job) (request : after.request = before.request)
    (calls : after.calls = before.calls)
    (phase : ∀ next, after.phase.job = some next → next = job) :
    Evolves before after where
  request := request
  calls := .inl calls
  job next found := by rw [running, phase next found]
  answered response done := by
    rw [done] at running
    cases running

end Exchange

namespace AppState

open Exchange (Evolves)

variable {σ γ : Type} (crates : Crates γ) (app : AppState σ γ) (exchange : Exchange)

theorem sent_spec (result : HttpResult) (hash : UInt64) (clock : Clock) :
    Frame app (app.sent exchange result hash clock).1 ∧
      Evolves exchange (app.sent exchange result hash clock).2 := by
  unfold sent
  cases phase : exchange.phase with
  | calling job attempt =>
      have running : exchange.phase.job = some job := by rw [phase]; rfl
      dsimp only
      cases UpstreamClient.receive job.backend result with
      | error error =>
          dsimp only
          split
          · exact ⟨⟨rfl, rfl, rfl, rfl, rfl, rfl⟩,
              .of_running running rfl rfl (by simp [Exchange.answer, Phase.job])⟩
          · unfold retry
            split
            · exact ⟨⟨rfl, rfl, rfl, rfl, rfl, rfl⟩,
                .of_running running rfl rfl (by simp [Exchange.sleep, Phase.job])⟩
            · exact ⟨⟨rfl, rfl, rfl, rfl, rfl, rfl⟩,
                .of_running running rfl rfl (by simp [Exchange.answer, Phase.job])⟩
      | ok response =>
          dsimp only [handOver]
          split
          · exact ⟨⟨rfl, rfl, rfl, rfl, rfl, rfl⟩,
              .of_running running rfl rfl (by simp [streamResponse, Phase.job])⟩
          · exact ⟨⟨rfl, rfl, rfl, rfl, rfl, rfl⟩,
              .of_running running rfl rfl (by simp [bufferedResponse, Phase.job])⟩
  | sleeping job attempt => exact ⟨.refl app, .refl exchange⟩
  | reading job response => exact ⟨.refl app, .refl exchange⟩
  | answered response => exact ⟨.refl app, .refl exchange⟩
  | cancelled => exact ⟨.refl app, .refl exchange⟩

/-- Only here does a running handler make another call. -/
theorem woke_spec :
    Frame app (app.woke exchange).1 ∧ Evolves exchange (app.woke exchange).2 := by
  unfold woke
  cases phase : exchange.phase with
  | sleeping job attempt =>
      refine ⟨.refl app, rfl, .inr ⟨job, ?_, rfl⟩, ?_, ?_⟩
      · rw [phase]
        rfl
      · intro next found
        rw [phase]
        exact found
      · intro response done
        rw [phase] at done
        cases done
  | calling job attempt => exact ⟨.refl app, .refl exchange⟩
  | reading job response => exact ⟨.refl app, .refl exchange⟩
  | answered response => exact ⟨.refl app, .refl exchange⟩
  | cancelled => exact ⟨.refl app, .refl exchange⟩

theorem read_spec (body : Except String Bytes) (secs : UInt64) :
    Frame app (app.read crates exchange body secs).1 ∧
      Evolves exchange (app.read crates exchange body secs).2 := by
  unfold read
  cases phase : exchange.phase with
  | reading job response =>
      have running : exchange.phase.job = some job := by rw [phase]; rfl
      cases body with
      | error message =>
          exact ⟨⟨rfl, rfl, rfl, rfl, rfl, rfl⟩,
            .of_running running rfl rfl (by simp [Exchange.answer, Phase.job])⟩
      | ok body =>
          refine ⟨?_, .of_running running rfl rfl (by simp [Exchange.answer, Phase.job])⟩
          dsimp only
          cases bufferedUsage crates.json body with
          | none => exact Frame.refl app
          | some usage => exact frame_account job.keyName usage secs
  | calling job attempt => exact ⟨.refl app, .refl exchange⟩
  | sleeping job attempt => exact ⟨.refl app, .refl exchange⟩
  | answered response => exact ⟨.refl app, .refl exchange⟩
  | cancelled => exact ⟨.refl app, .refl exchange⟩

theorem poll_spec (context : PollContext) :
    Frame app (app.poll crates exchange context).1 ∧
      Evolves exchange (app.poll crates exchange context).2 := by
  unfold poll
  cases exchange.relay with
  | none => exact ⟨.refl app, .refl exchange⟩
  | some task =>
      dsimp only
      split
      · exact ⟨.refl app, .refl exchange⟩
      · exact ⟨.refl app, rfl, .inl rfl, fun _ same => same, fun _ same => same⟩

theorem close_spec :
    Frame app (app.close exchange).1 ∧ Evolves exchange (app.close exchange).2 := by
  unfold close
  refine ⟨.refl app, rfl, .inl rfl, ?_, ?_⟩
  · intro job found
    cases phase : exchange.phase with
    | answered response => simp [phase, Phase.job] at found
    | calling job attempt => simp [phase, Phase.job] at found
    | sleeping job attempt => simp [phase, Phase.job] at found
    | reading job response => simp [phase, Phase.job] at found
    | cancelled => simp [phase, Phase.job] at found
  · intro response done
    simp only [done]

theorem frame_accountStream (task : RelayTask) (summary : RelaySummary) (secs : UInt64) :
    Frame app (app.accountStream task summary secs) := by
  unfold accountStream
  cases summary.usage with
  | none => cases summary.outcome <;> exact ⟨rfl, rfl, rfl, rfl, rfl, rfl⟩
  | some usage => cases summary.outcome <;> exact ⟨rfl, rfl, rfl, rfl, rfl, rfl⟩

theorem settle_spec (secs : UInt64) :
    Frame app (app.settle exchange secs).1 ∧ Evolves exchange (app.settle exchange secs).2 := by
  unfold settle
  cases exchange.relay with
  | none => exact ⟨.refl app, .refl exchange⟩
  | some task =>
      dsimp only
      split
      · exact ⟨.refl app, .refl exchange⟩
      · split
        · exact ⟨.refl app, .refl exchange⟩
        · next summary _ _ =>
            exact ⟨frame_accountStream app task summary secs, rfl, .inl rfl,
              fun _ same => same, fun _ same => same⟩

/-- What the handler, the client and the accounting task do to an exchange. -/
inductive Acted : Exchange → Prop
  | sent (result : HttpResult) (hash : UInt64) (clock : Clock) :
      Acted (app.sent exchange result hash clock).2
  | woke : Acted (app.woke exchange).2
  | read (body : Except String Bytes) (secs : UInt64) :
      Acted (app.read crates exchange body secs).2
  | poll (context : PollContext) : Acted (app.poll crates exchange context).2
  | close : Acted (app.close exchange).2
  | settle (secs : UInt64) : Acted (app.settle exchange secs).2

end AppState

namespace Gateway

variable {σ γ : Type} (crates : Crates γ)

/-- Where the gateway goes in one step: the shared state keeps its frame, every
exchange evolves, and an arrival adds one exchange at the end. -/
structure Moves (before after : Gateway σ γ) (fresh : List Exchange) : Prop where
  frame : AppState.Frame before.app after.app
  exchanges : ∃ evolved, List.Forall₂ Exchange.Evolves before.exchanges evolved ∧
    after.exchanges = evolved ++ fresh

/-- The exchange an event adds. -/
def fresh (gateway : Gateway σ γ) : Event σ → List Exchange
  | .arrive request clock => [(gateway.app.chatCompletions crates request clock).2]
  | _ => []

theorem forall₂_evolves_refl (exchanges : List Exchange) :
    List.Forall₂ Exchange.Evolves exchanges exchanges :=
  List.forall₂_same.mpr fun exchange _ => .refl exchange

theorem advance_moves (gateway : Gateway σ γ) (index : Nat)
    {act : AppState σ γ → Exchange → AppState σ γ × Exchange}
    (spec : ∀ app exchange, AppState.Frame app (act app exchange).1 ∧
      Exchange.Evolves exchange (act app exchange).2) :
    Moves gateway (gateway.advance index act) [] := by
  unfold advance
  cases found : gateway.exchanges[index]? with
  | none =>
      exact ⟨.refl _, gateway.exchanges, forall₂_evolves_refl _, (List.append_nil _).symm⟩
  | some exchange =>
      refine ⟨(spec gateway.app exchange).1, _, ?_, (List.append_nil _).symm⟩
      refine List.forall₂_iff_get.mpr ⟨by simp, ?_⟩
      intro i inBounds inBoundsSet
      simp only [List.get_eq_getElem, List.getElem_set]
      split
      · next same =>
          subst same
          have sameExchange := (List.getElem?_eq_some_iff.mp found).2
          rw [sameExchange]
          exact (spec gateway.app exchange).2
      · exact .refl _

/-- The step lemma. -/
theorem step_moves (gateway : Gateway σ γ) (event : Event σ) :
    Moves gateway (gateway.step crates event) (gateway.fresh crates event) := by
  cases event with
  | arrive request clock =>
      exact ⟨AppState.frame_chatCompletions crates request clock, gateway.exchanges,
        forall₂_evolves_refl _, rfl⟩
  | sent index result hash clock =>
      exact advance_moves gateway index fun app exchange =>
        app.sent_spec exchange result hash clock
  | woke index => exact advance_moves gateway index AppState.woke_spec
  | read index body secs =>
      exact advance_moves gateway index fun app exchange =>
        app.read_spec crates exchange body secs
  | poll index context =>
      exact advance_moves gateway index fun app exchange =>
        app.poll_spec crates exchange context
  | close index => exact advance_moves gateway index AppState.close_spec
  | settle index secs =>
      exact advance_moves gateway index fun app exchange => app.settle_spec exchange secs
  | retune state =>
      exact ⟨⟨rfl, rfl, rfl, rfl, rfl, rfl⟩, gateway.exchanges, forall₂_evolves_refl _,
        (List.append_nil _).symm⟩

/-- The run lemma for the shared state. -/
theorem run_frame (gateway : Gateway σ γ) (events : List (Event σ)) :
    AppState.Frame gateway.app (gateway.run crates events).app := by
  induction events generalizing gateway with
  | nil => exact .refl _
  | cons event events ih =>
      exact (step_moves crates gateway event).frame.trans (ih (gateway.step crates event))

/-- The run lemma for one exchange: it stays where it is in the list, and evolves. -/
theorem run_exchange {gateway : Gateway σ γ} {index : Nat} {exchange : Exchange}
    (found : gateway.exchanges[index]? = some exchange) (events : List (Event σ)) :
    ∃ after, (gateway.run crates events).exchanges[index]? = some after ∧
      Relation.ReflTransGen Exchange.Evolves exchange after := by
  induction events generalizing gateway exchange with
  | nil => exact ⟨exchange, found, .refl⟩
  | cons event events ih =>
      rcases (step_moves crates gateway event).exchanges with ⟨evolved, related, split⟩
      rcases List.getElem?_eq_some_iff.mp found with ⟨inBounds, rfl⟩
      have sameLength := related.length_eq
      have next : (gateway.step crates event).exchanges[index]? = some (evolved[index]) := by
        rw [split, List.getElem?_append_left (by omega), List.getElem?_eq_getElem]
      rcases ih next with ⟨after, foundAfter, course⟩
      exact ⟨after, foundAfter, .head (related.get inBounds (by omega)) course⟩

theorem getElem?_advance (gateway : Gateway σ γ) (index other : Nat)
    (act : AppState σ γ → Exchange → AppState σ γ × Exchange) :
    (gateway.advance index act).exchanges[other]? =
      if index = other then
        gateway.exchanges[other]?.map fun exchange => (act gateway.app exchange).2
      else gateway.exchanges[other]? := by
  unfold advance
  split
  · next absent =>
      split
      · next same =>
          subst same
          rw [absent]
          rfl
      · rfl
  · next exchange found =>
      dsimp only
      rw [List.getElem?_set]
      split
      · next same =>
          subst same
          rw [found, if_pos (List.getElem?_eq_some_iff.mp found).1]
          rfl
      · rfl

/-- A step acts on an exchange or leaves it as it is. -/
theorem step_acted {gateway : Gateway σ γ} {index : Nat} {exchange : Exchange}
    (found : gateway.exchanges[index]? = some exchange) (event : Event σ) :
    ∃ after, (gateway.step crates event).exchanges[index]? = some after ∧
      (after = exchange ∨ gateway.app.Acted crates exchange after) := by
  have advanced : ∀ (acting : Nat) (act : AppState σ γ → Exchange → AppState σ γ × Exchange),
      gateway.app.Acted crates exchange (act gateway.app exchange).2 →
        ∃ after, (gateway.advance acting act).exchanges[index]? = some after ∧
          (after = exchange ∨ gateway.app.Acted crates exchange after) := by
    intro acting act acted
    rw [getElem?_advance, found]
    split
    · exact ⟨_, rfl, .inr acted⟩
    · exact ⟨_, rfl, .inl rfl⟩
  cases event with
  | arrive request clock =>
      rcases List.getElem?_eq_some_iff.mp found with ⟨inBounds, -⟩
      exact ⟨exchange, (List.getElem?_append_left inBounds).trans found, .inl rfl⟩
  | sent acting result hash clock => exact advanced acting _ (.sent result hash clock)
  | woke acting => exact advanced acting _ .woke
  | read acting body secs => exact advanced acting _ (.read body secs)
  | poll acting context => exact advanced acting _ (.poll context)
  | close acting => exact advanced acting _ .close
  | settle acting secs => exact advanced acting _ (.settle secs)
  | retune state => exact ⟨exchange, found, .inl rfl⟩

/-- What the handler's actions keep of an exchange, a run keeps. -/
theorem run_keeps {P : Exchange → Prop}
    (kept : ∀ {app : AppState σ γ} {before after}, app.Acted crates before after →
      P before → P after)
    {gateway : Gateway σ γ} {index : Nat} {exchange : Exchange}
    (found : gateway.exchanges[index]? = some exchange) (initially : P exchange)
    (events : List (Event σ)) :
    ∃ after, (gateway.run crates events).exchanges[index]? = some after ∧ P after := by
  induction events generalizing gateway exchange with
  | nil => exact ⟨exchange, found, initially⟩
  | cons event events ih =>
      rcases step_acted crates found event with ⟨after, foundAfter, rfl | acted⟩
      · exact ih foundAfter initially
      · exact ih foundAfter (kept acted initially)

/-- The exchange of a request that arrives within a run. -/
theorem run_arrival (gateway : Gateway σ γ) (before : List (Event σ))
    (request : ClientRequest) (clock : Clock) (after : List (Event σ)) :
    ∃ exchange, (gateway.run crates (before ++ .arrive request clock :: after)).exchanges[
        (gateway.run crates before).exchanges.length]? = some exchange ∧
      Relation.ReflTransGen Exchange.Evolves
        ((gateway.run crates before).app.chatCompletions crates request clock).2 exchange := by
  have arrived : ((gateway.run crates before).step crates
      (.arrive request clock)).exchanges[(gateway.run crates before).exchanges.length]? =
        some ((gateway.run crates before).app.chatCompletions crates request clock).2 := by
    simp [step]
  rw [run_append]
  exact run_exchange crates arrived after

/-- The run lemma for a property of all exchanges. -/
theorem run_forall {P : Exchange → Prop} {gateway : Gateway σ γ} (events : List (Event σ))
    (evolves : ∀ before after, Exchange.Evolves before after → P before → P after)
    (arrives : ∀ app request clock, AppState.Frame gateway.app app →
      P (app.chatCompletions crates request clock).2)
    (initially : ∀ exchange ∈ gateway.exchanges, P exchange) :
    ∀ exchange ∈ (gateway.run crates events).exchanges, P exchange := by
  induction events generalizing gateway with
  | nil => exact initially
  | cons event events ih =>
      have moves := step_moves crates gateway event
      refine ih (fun app request clock frame => arrives app request clock
        (moves.frame.trans frame)) ?_
      rcases moves.exchanges with ⟨evolved, related, split⟩
      intro exchange membership
      rw [split, List.mem_append] at membership
      rcases membership with old | new
      · rcases List.getElem_of_mem old with ⟨i, inBounds, rfl⟩
        have sameLength := related.length_eq
        exact evolves _ _ (related.get (by omega) inBounds)
          (initially _ (List.getElem_mem _))
      · cases event with
        | arrive request clock =>
            rw [fresh, List.mem_singleton] at new
            rw [new]
            exact arrives gateway.app request clock (.refl _)
        | _ => simp [fresh] at new

end Gateway

/-! ## A small gateway

One local and one external backend, and one key whose traffic must stay local. -/

namespace Sample

/-- Header values are text where all bytes are visible ASCII, spaces or tabs. -/
def headerText (value : Bytes) : Option String :=
  if value.all fun byte => byte == 9 || (32 ≤ byte && byte < 127) then
    some (String.ofList (value.map fun byte => Char.ofNat byte.toNat))
  else none

def payload : Bytes := fromStatic "\x7b\"model\":\"m\"\x7d"

def completion : Bytes := fromStatic "\x7b\"usage\":\x7b\"total_tokens\":150\x7d\x7d"

/-- Reads the payload and the completion, and nothing else. -/
def json : Json.Reader where
  tree text :=
    if text = payload then some (.object [(some "model", .string (some "m"))])
    else if text = completion then
      some (.object [(some "usage",
        .object [(some "total_tokens", .number (.unsigned 150))])])
    else none
  untyped text := text == payload || text == completion

/-- A governor for keys without a request limit: it is never asked. -/
def governor : Governor Unit where
  keyed _ := ()
  checkKey state _ _ := (true, state)

def crates : Crates Unit where
  json := json
  toStr := headerText
  governor := governor
  debug _ := "[]"

def environment : Environment
  | "EXTERNAL_URL" => some "https://api.example.com/"
  | "LOCAL_URL" => some "http://127.0.0.1:8000"
  | "DEV_KEY" => some "sk-dev"
  | _ => none

def rawConfig : RawConfig where
  listen := "127.0.0.1:8080"
  backends := [
    { name := "cloud", baseUrlEnv := "EXTERNAL_URL", apiKeyEnv := none, models := ["m"]
      capabilityTags := [], privacy := .External },
    { name := "local", baseUrlEnv := "LOCAL_URL", apiKeyEnv := none, models := ["m"]
      capabilityTags := [], privacy := .Local }]
  virtualKeys := [{ name := "dev", keyEnv := "DEV_KEY", enforcePrivate := true }]
  policy := .staticPriority

/-- Reads one file. -/
def reader : ConfigReader where
  toml text := if text = "patchbay.toml" then .ok rawConfig else .error "unknown"
  socketAddr addr :=
    if addr = "127.0.0.1:8080" then .ok ⟨"127.0.0.1", 8080⟩ else .error "unknown"

def devKey : VirtualKey := { name := "dev", key := ⟨"sk-dev"⟩, enforcePrivate := true }

def localBackend : Backend where
  name := "local"
  baseUrl := "http://127.0.0.1:8000"
  apiKey := none
  models := ["m"]
  capabilityTags := []
  privacy := .Local

def cloudBackend : Backend where
  name := "cloud"
  baseUrl := "https://api.example.com"
  apiKey := none
  models := ["m"]
  capabilityTags := []
  privacy := .External

def config : GatewayConfig where
  listen := ⟨"127.0.0.1", 8080⟩
  backends := [cloudBackend, localBackend]
  virtualKeys := [devKey]
  policy := .staticPriority

theorem accepted :
    GatewayConfig.fromTomlStr reader "patchbay.toml" environment = .ok config := by
  rfl

def request : ClientRequest where
  authorization := some (fromStatic "Bearer sk-dev")
  body := payload

def clock : Clock := ⟨0, 0⟩

def budget : BudgetLedger := ⟨0, ∅, ∅, none⟩

def limits : RateLimitStore Unit := .new governor ∅

def app : AppState Unit Unit := .ofConfig config .staticPriority () budget limits .new

def localCall : Call := ⟨localBackend, "/v1/chat/completions", payload⟩

/-- The request of the key arrives, fails once and is retried. -/
def retriedOnce : List (Event Unit) :=
  [.arrive request clock, .sent 0 (.error "connection refused") 7 clock, .woke 0]

def retriedExchange : Exchange where
  request := request
  phase := .calling
    { keyName := "dev", model := "m", stream := false, backend := localBackend
      body := payload } 1
  calls := [localCall, localCall]
  waits := [107]
  relay := none

theorem retriedOnce_exchanges :
    ((Gateway.start app).run crates retriedOnce).exchanges = [retriedExchange] := by
  rfl

def success : HttpResponse where
  status := .ok
  location := none
  contentType := none
  text := none
  stream _ := .ready none

/-- The request of the key is served, which uses 150 tokens, and comes again. -/
def servedTwice : List (Event Unit) :=
  [.arrive request clock, .sent 0 (.ok success) 7 clock, .read 0 (.ok completion) 1000,
    .arrive request ⟨0, 1010⟩]

def budgetOf100 : BudgetLedger :=
  { budget with limits := Table.collect [("dev", ⟨none, none, some 100⟩)] }

def tpmOf100 : RateLimitStore Unit :=
  .new governor (Table.collect [("dev", ⟨none, some 100⟩)])

end Sample

end Patchbay
