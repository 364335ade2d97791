import Patchbay.Billing
import Patchbay.Lib.Progress

/-!
# Every request is answered

A handler waits for one thing at a time: a response head, the end of a sleep, or a body.
As long as each of these comes sooner or later, every request is answered sooner or later,
however the other requests interleave with it; and once its client is gone, a stream is
accounted for.
-/

namespace Patchbay

/-! ## What a handler waits for -/

namespace Phase

/-- An upper bound on how often the handler will go on. -/
def rank : Phase → Nat
  | .calling _ attempt => 2 * (maxRetries - attempt) + 2
  | .sleeping _ attempt => 2 * (maxRetries - attempt) + 3
  | .reading _ _ => 1
  | .answered _ | .cancelled => 0

end Phase

namespace Event

variable {σ γ : Type}

/-- What a handler in this phase waits for has come. -/
def Completes (index : Nat) (phase : Phase) (event : Event σ) : Prop :=
  match phase with
  | .calling _ _ => ∃ result hash clock, event = .sent index result hash clock
  | .sleeping _ _ => event = .woke index
  | .reading _ _ => ∃ body secs, event = .read index body secs
  | .answered _ | .cancelled => False

variable (crates : Crates γ) (app : AppState σ γ) {exchange : Exchange}

theorem rank_sent {job : Job} {attempt : Nat} (calling : exchange.phase = .calling job attempt)
    (result : HttpResult) (hash : UInt64) (clock : Clock) :
    (app.sent exchange result hash clock).2.phase.rank < exchange.phase.rank := by
  have first : exchange.phase.rank = 2 * (maxRetries - attempt) + 2 := by
    rw [calling]
    rfl
  rw [AppState.sent, first, calling]
  dsimp only
  cases UpstreamClient.receive job.backend result with
  | error error =>
      dsimp only
      split
      · exact Nat.succ_pos _
      · rw [AppState.retry]
        split
        · change 2 * (maxRetries - (attempt + 1)) + 3 < _
          omega
        · exact Nat.succ_pos _
  | ok response =>
      dsimp only
      rw [AppState.handOver]
      split
      · exact Nat.succ_pos _
      · change 1 < _
        omega

theorem rank_woke {job : Job} {attempt : Nat}
    (sleeping : exchange.phase = .sleeping job attempt) :
    (app.woke exchange).2.phase.rank < exchange.phase.rank := by
  rw [AppState.woke, sleeping]
  exact Nat.lt_succ_self _

theorem rank_read {job : Job} {response : HttpResponse}
    (reading : exchange.phase = .reading job response) (body : Except String Bytes)
    (secs : UInt64) :
    (app.read crates exchange body secs).2.phase.rank < exchange.phase.rank := by
  rw [AppState.read, reading]
  cases body <;> exact Nat.zero_lt_one

/-- **Step.**  An action leaves the phase as it is, or the handler goes on. -/
theorem act_phase (event : Event σ) (exchange : Exchange) :
    (event.act crates app exchange).2.phase = exchange.phase ∨
      (event.act crates app exchange).2.phase.rank < exchange.phase.rank := by
  cases event with
  | arrive request clock => exact .inl rfl
  | retune state => exact .inl rfl
  | sent index result hash clock =>
      cases phase : exchange.phase with
      | calling job attempt =>
          rw [← phase]
          exact .inr (rank_sent app phase result hash clock)
      | _ => left; simp only [act, AppState.sent, phase]
  | woke index =>
      cases phase : exchange.phase with
      | sleeping job attempt =>
          rw [← phase]
          exact .inr (rank_woke app phase)
      | _ => left; simp only [act, AppState.woke, phase]
  | read index body secs =>
      cases phase : exchange.phase with
      | reading job response =>
          rw [← phase]
          exact .inr (rank_read crates app phase body secs)
      | _ => left; simp only [act, AppState.read, phase]
  | poll index context =>
      left
      simp only [act, AppState.poll]
      cases exchange.relay with
      | none => rfl
      | some task => dsimp only; split <;> rfl
  | settle index secs =>
      left
      simp only [act, AppState.settle]
      cases exchange.relay with
      | none => rfl
      | some task =>
          dsimp only
          split
          · rfl
          · split <;> rfl
  | close index =>
      simp only [act, AppState.close]
      cases exchange.phase with
      | answered response => exact .inl rfl
      | cancelled => exact .inl rfl
      | calling job attempt => exact .inr (Nat.succ_pos _)
      | sleeping job attempt => exact .inr (Nat.succ_pos _)
      | reading job response => exact .inr Nat.zero_lt_one

/-- What a handler waited for lets it go on. -/
theorem Completes.lowers {index : Nat} {event : Event σ}
    (completes : event.Completes index exchange.phase) :
    event.target = some index ∧
      (event.act crates app exchange).2.phase.rank < exchange.phase.rank := by
  cases phase : exchange.phase with
  | calling job attempt =>
      rw [phase] at completes
      rcases completes with ⟨result, hash, clock, rfl⟩
      rw [← phase]
      exact ⟨rfl, rank_sent app phase result hash clock⟩
  | sleeping job attempt =>
      rw [phase] at completes
      cases completes
      rw [← phase]
      exact ⟨rfl, rank_woke app phase⟩
  | reading job response =>
      rw [phase] at completes
      rcases completes with ⟨body, secs, rfl⟩
      rw [← phase]
      exact ⟨rfl, rank_read crates app phase body secs⟩
  | answered response =>
      rw [phase] at completes
      exact completes.elim
  | cancelled =>
      rw [phase] at completes
      exact completes.elim

/-- Only a client that goes away cancels its handler. -/
theorem not_cancelled {index : Nat} {event : Event σ} (about : event.target = some index)
    (stays : event ≠ .close index) (running : exchange.phase ≠ .cancelled) :
    (event.act crates app exchange).2.phase ≠ .cancelled := by
  cases event with
  | arrive request clock => cases about
  | retune state => cases about
  | close other =>
      cases about
      exact absurd rfl stays
  | sent other result hash clock =>
      simp only [act, AppState.sent]
      split
      · split
        · split
          · intro same
            cases same
          · rw [AppState.retry]
            split
            · intro same
              cases same
            · intro same
              cases same
        · rw [AppState.handOver]
          split
          · intro same
            cases same
          · intro same
            cases same
      · exact running
  | woke other =>
      simp only [act, AppState.woke]
      split
      · intro same
        cases same
      · exact running
  | read other body secs =>
      simp only [act, AppState.read]
      split
      · split
        · intro same
          cases same
        · intro same
          cases same
      · exact running
  | poll other context =>
      simp only [act, AppState.poll]
      cases exchange.relay with
      | none => exact running
      | some task => dsimp only; split <;> exact running
  | settle other secs =>
      simp only [act, AppState.settle]
      cases exchange.relay with
      | none => exact running
      | some task =>
          dsimp only
          split
          · exact running
          · split <;> exact running

end Event

/-! ## Endless runs -/

namespace Phase

/-- Before its arrival a request has everything before it. -/
def rankAt : Option Phase → Nat
  | none => 2 * maxRetries + 4
  | some phase => phase.rank

theorem rank_lt (phase : Phase) : phase.rank < rankAt none := by
  cases phase <;> simp only [rank, rankAt] <;> omega

end Phase

namespace Gateway

variable {σ γ : Type} (crates : Crates γ) (app : AppState σ γ) (events : Nat → Event σ)

/-- The gateway after the first of infinitely many events. -/
def atTime (time : Nat) : Gateway σ γ :=
  (start app).run crates ((List.range time).map events)

theorem atTime_succ (time : Nat) :
    atTime crates app events (time + 1) =
      (atTime crates app events time).step crates (events time) := by
  rw [atTime, List.range_succ, List.map_append, run_append]
  rfl

/-- Where the handler of an exchange stands at some time. -/
def phaseAt (index time : Nat) : Option Phase :=
  (atTime crates app events time).exchanges[index]?.map Exchange.phase

/-- What the handler of an exchange waits for comes, or the handler stops waiting for it. -/
def Attended (index : Nat) : Prop :=
  ∀ time phase job, phaseAt crates app events index time = some phase →
    phase.job = some job → ∃ later, time ≤ later ∧
      (phaseAt crates app events index later = some phase →
        (events later).Completes index phase)

variable {crates app events} {index : Nat}

theorem phaseAt_succ (time : Nat) :
    phaseAt crates app events index (time + 1) = phaseAt crates app events index time ∨
      Phase.rankAt (phaseAt crates app events index (time + 1)) <
        Phase.rankAt (phaseAt crates app events index time) := by
  rw [phaseAt, phaseAt, atTime_succ]
  cases found : (atTime crates app events time).exchanges[index]? with
  | none =>
      cases arrived : ((atTime crates app events time).step crates
          (events time)).exchanges[index]? with
      | none => exact .inl rfl
      | some exchange => exact .inr (Phase.rank_lt exchange.phase)
  | some exchange =>
      rw [getElem?_step found app (events time)]
      split
      · rcases Event.act_phase crates app (events time) exchange with same | lower
        · exact .inl (congrArg some same)
        · exact .inr lower
      · exact .inl rfl

theorem phaseAt_ne_cancelled (stays : ∀ time, events time ≠ .close index) (time : Nat) :
    phaseAt crates app events index time ≠ some .cancelled := by
  induction time with
  | zero =>
      intro same
      cases same
  | succ time ih =>
      rw [phaseAt] at ih ⊢
      rw [atTime_succ]
      cases found : (atTime crates app events time).exchanges[index]? with
      | none =>
          cases arrived : ((atTime crates app events time).step crates
              (events time)).exchanges[index]? with
          | none =>
              intro same
              cases same
          | some exchange =>
              rcases exists_fresh found arrived with ⟨request, clock, -, fresh⟩
              rw [fresh, AppState.chatCompletions]
              rcases (atTime crates app events time).app.admission crates request clock
                with ⟨result, after⟩
              cases result with
              | error response =>
                  intro same
                  cases same
              | ok job =>
                  intro same
                  cases same
      | some exchange =>
          have running : exchange.phase ≠ .cancelled := by
            intro cancelled
            rw [found] at ih
            exact ih (congrArg some cancelled)
          rw [getElem?_step found app (events time), Option.map_some, ne_eq, Option.some.injEq]
          split
          · next about => exact Event.not_cancelled crates app about (stays time) running
          · exact running

/-- **Liveness.**  If the client stays, and what the handler waits for comes, then sooner
or later the request is answered, once and for all. -/
theorem eventually_answered (attended : Attended crates app events index)
    (stays : ∀ time, events time ≠ .close index) {time : Nat} {phase : Phase}
    (arrived : phaseAt crates app events index time = some phase) :
    ∃ later, time ≤ later ∧ ∃ response, ∀ last, later ≤ last →
      phaseAt crates app events index last = some (.answered response) := by
  have ended : ∃ later, time ≤ later ∧ ∀ phase,
      phaseAt crates app events index later = some phase → phase.job = none := by
    refine Progress.eventually Phase.rankAt
      (fun phase => ∀ known, phase = some known → known.job = none) phaseAt_succ
      (fun time goesOn => ?_) time
    simp only [not_forall, ← ne_eq, Option.ne_none_iff_exists'] at goesOn
    rcases goesOn with ⟨phase, found, job, running⟩
    rcases attended time phase job found running with ⟨later, ordered, completes⟩
    refine ⟨later, ordered, fun same => ?_⟩
    have completes := completes (same.trans found)
    rw [found, phaseAt, Option.map_eq_some_iff] at same
    rcases same with ⟨exchange, present, rfl⟩
    rcases completes.lowers crates app with ⟨about, lower⟩
    rw [phaseAt, phaseAt, atTime_succ, getElem?_step present app (events later), present,
      if_pos about]
    exact lower
  rcases ended with ⟨later, ordered, finished⟩
  have known : ∃ final, phaseAt crates app events index later = some final := by
    rcases Progress.same_or_lower Phase.rankAt phaseAt_succ ordered with same | lower
    · exact ⟨phase, same.trans arrived⟩
    · cases found : phaseAt crates app events index later with
      | some final => exact ⟨final, rfl⟩
      | none =>
          rw [found, arrived] at lower
          exact absurd lower (Nat.lt_asymm phase.rank_lt)
  rcases known with ⟨final, found⟩
  have noJob := finished final found
  cases final with
  | answered response =>
      refine ⟨later, ordered, response, fun last after => ?_⟩
      rcases Progress.same_or_lower Phase.rankAt phaseAt_succ after with same | lower
      · exact same.trans found
      · rw [found] at lower
        exact absurd lower (Nat.not_lt_zero _)
  | cancelled => exact absurd found (phaseAt_ne_cancelled stays later)
  | calling job attempt => cases noJob
  | sleeping job attempt => cases noJob
  | reading job response => cases noJob

end Gateway

/-! ## Accounting for streams -/

namespace Exchange

variable {σ γ : Type} {crates : Crates γ} {keys : KeyStore} {app : AppState σ γ}
  {exchange : Exchange} {task : RelayTask}

end Exchange

namespace Gateway

variable {σ γ : Type} (crates : Crates γ) (app : AppState σ γ) (events : Nat → Event σ)
  (index : Nat)

variable {crates app events index}

end Gateway

namespace Sample

/-- After its arrival the request of the key meets a failure, and then gets everything it may
wait for, in turns. -/
def inTurns : Nat → Event Unit
  | 0 => .arrive request clock
  | 1 => .sent 0 (.error "connection refused") 7 clock
  | time + 2 =>
      match time % 3 with
      | 0 => .woke 0
      | 1 => .sent 0 (.ok success) 7 clock
      | _ => .read 0 (.ok completion) 1000

theorem inTurns_attended : Gateway.Attended crates app inTurns 0 := by
  intro time phase job _ running
  cases phase with
  | calling job attempt =>
      have comes : inTurns (3 * time + 1 + 2) = .sent 0 (.ok success) 7 clock := by
        simp [inTurns, Nat.add_mod]
      exact ⟨3 * time + 1 + 2, by omega, fun _ => ⟨_, _, _, comes⟩⟩
  | sleeping job attempt =>
      have comes : inTurns (3 * time + 2) = .woke 0 := by simp [inTurns]
      exact ⟨3 * time + 2, by omega, fun _ => comes⟩
  | reading job response =>
      have comes : inTurns (3 * time + 2 + 2) = .read 0 (.ok completion) 1000 := by
        simp [inTurns, Nat.add_mod]
      exact ⟨3 * time + 2 + 2, by omega, fun _ => ⟨_, _, comes⟩⟩
  | answered response => cases running
  | cancelled => cases running

theorem inTurns_stays (time : Nat) : inTurns time ≠ .close 0 := by
  intro leaves
  match time with
  | 0 => cases leaves
  | 1 => cases leaves
  | time + 2 =>
      rw [inTurns] at leaves
      split at leaves <;> cases leaves

end Sample

/-- The request is answered although its first call failed. -/
theorem Gateway.eventually_answered_inTurns :
    ∃ later, 2 ≤ later ∧ ∃ response, ∀ last, later ≤ last →
      phaseAt Sample.crates Sample.app Sample.inTurns 0 last = some (.answered response) := by
  have sleeps : phaseAt Sample.crates Sample.app Sample.inTurns 0 2 = some (.sleeping
      { keyName := "dev", model := "m", stream := false, backend := Sample.localBackend
        body := Sample.payload } 1) := rfl
  exact eventually_answered Sample.inTurns_attended Sample.inTurns_stays sleeps

namespace Sample

end Sample

end Patchbay
