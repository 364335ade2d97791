import Mathlib.Tactic.Linarith
import Mathlib.Tactic.Positivity
import Patchbay.Lib.Descent
import Patchbay.RoutingOptimality

/-!
# Cold backends are probed

The latency of each routed request is observed before the next one is routed.  A backend
without a sample scores zero and every other one more, so requests go to the cold backends
among the eligible ones until there are none.
-/

namespace Patchbay

/-- A request, and the latency that is observed if it is routed. -/
structure TimedRequest where
  query : RouteQuery
  markPrivate : Bool
  latency : Duration

namespace EwmaLatency

/-- Route over the table with these averages. -/
def route (backends : List Backend) (ewma : EwmaLatency) (request : TimedRequest) :
    Except RouteError Backend :=
  ((Router.withPolicy backends .ewmaLatency ewma).route request.query request.markPrivate).1

/-- Route a request and observe the chosen backend. -/
def serve (backends : List Backend) (ewma : EwmaLatency) (request : TimedRequest) :
    EwmaLatency :=
  match ewma.route backends request with
  | .ok backend => ewma.observe backend.name request.latency
  | .error _ => ewma

/-- Serve one request after the other. -/
def serveAll (backends : List Backend) (ewma : EwmaLatency) (requests : List TimedRequest) :
    EwmaLatency :=
  requests.foldl (serve backends) ewma

def Sampled (ewma : EwmaLatency) (backend : Backend) : Prop :=
  (ewma.latencyMs backend.name).isSome = true

instance (ewma : EwmaLatency) (backend : Backend) : Decidable (ewma.Sampled backend) :=
  inferInstanceAs (Decidable (_ = true))

/-- Every average is positive. -/
structure Positive (ewma : EwmaLatency) : Prop where
  alpha : 0 < ewma.alpha ∧ ewma.alpha ≤ 1
  averages : ∀ backend average, ewma.latencyMs backend = some average → 0 < average

theorem positive_new {alpha : ℚ} {ewma : EwmaLatency}
    (created : EwmaLatency.new alpha = some ewma) : ewma.Positive := by
  rw [EwmaLatency.new, Option.ite_none_right_eq_some, Option.some.injEq] at created
  rcases created with ⟨inRange, rfl⟩
  constructor
  · exact inRange
  · intro backend average found
    rw [latencyMs, Finmap.lookup_empty] at found
    cases found

theorem Positive.observe {ewma : EwmaLatency} (positive : ewma.Positive) (backend : String)
    {latency : Duration} (took : 0 < latency.asSecs) :
    (ewma.observe backend latency).Positive := by
  constructor
  · exact positive.alpha
  · intro other average found
    rw [latencyMs_observe] at found
    split at found
    · rw [Option.some.injEq] at found
      have sample : 0 < latency.asSecs * 1000 := by positivity
      cases before : ewma.latencyMs backend with
      | none =>
          rw [before] at found
          rwa [← found]
      | some old =>
          rw [before] at found
          have weighted := mul_pos positive.alpha.1 sample
          have rest : 0 ≤ (1 - ewma.alpha) * old :=
            mul_nonneg (by linarith [positive.alpha.2]) (positive.averages _ _ before).le
          rw [← found]
          exact add_pos_of_pos_of_nonneg weighted rest
    · exact positive.averages _ _ found

theorem sampled_observe {ewma : EwmaLatency} {backend : Backend} {observed : String}
    {latency : Duration} :
    (ewma.observe observed latency).Sampled backend ↔
      backend.name = observed ∨ ewma.Sampled backend := by
  rw [Sampled, latencyMs_observe, Sampled]
  split
  · next same => simp [same]
  · next different => simp [different]

/-- Cold backends are the ones that score zero. -/
theorem Positive.sampled_iff {ewma : EwmaLatency} (positive : ewma.Positive)
    {backend : Backend} : ewma.Sampled backend ↔ 0 < ewma.score backend := by
  rw [Sampled, score]
  cases found : ewma.latencyMs backend.name with
  | none => simp
  | some average => simpa using positive.averages _ _ found

/-- While an eligible backend is cold, requests go to cold ones. -/
theorem Positive.routes_cold {ewma : EwmaLatency} (positive : ewma.Positive)
    {backends : List Backend} {request : TimedRequest} {other : Backend}
    (membership : other ∈ backends)
    (eligible : request.query.Eligible request.markPrivate other)
    (cold : ¬ ewma.Sampled other) {backend : Backend}
    (routed : ewma.route backends request = .ok backend) : ¬ ewma.Sampled backend := by
  have routes := (Router.withPolicy backends .ewmaLatency ewma).routesByScore ewma.followsScore
    request.query request.markPrivate
  have least := (routes.optimal backend routed).le membership eligible
  rw [positive.sampled_iff] at cold ⊢
  exact fun warm => cold (warm.trans_le least)

/-- The eligible backends without a sample. -/
def coldCount (backends : List Backend) (query : RouteQuery) (markPrivate : Bool)
    (ewma : EwmaLatency) : Nat :=
  backends.countP fun backend => query.Eligible markPrivate backend ∧ ¬ ewma.Sampled backend

theorem coldCount_eq_zero_iff {backends : List Backend} {query : RouteQuery}
    {markPrivate : Bool} {ewma : EwmaLatency} :
    coldCount backends query markPrivate ewma = 0 ↔
      ∀ backend ∈ backends, query.Eligible markPrivate backend → ewma.Sampled backend := by
  simp [coldCount, List.countP_eq_zero]

/-- Samples are never lost. -/
theorem Sampled.serve {backends : List Backend} {ewma : EwmaLatency} {request : TimedRequest}
    {backend : Backend} (sampled : ewma.Sampled backend) :
    (ewma.serve backends request).Sampled backend := by
  rw [EwmaLatency.serve]
  split
  · exact sampled_observe.mpr (.inr sampled)
  · exact sampled

theorem cold_of_cold_serve {backends : List Backend} {query : RouteQuery}
    {markPrivate : Bool} {ewma : EwmaLatency} {request : TimedRequest} {backend : Backend}
    (cold : decide (query.Eligible markPrivate backend ∧
      ¬ (ewma.serve backends request).Sampled backend) = true) :
    decide (query.Eligible markPrivate backend ∧ ¬ ewma.Sampled backend) = true := by
  rw [decide_eq_true_iff] at cold ⊢
  exact ⟨cold.1, fun sampled => cold.2 sampled.serve⟩

/-- A request with eligible cold backends warms one of them. -/
theorem Positive.coldCount_serve_lt {ewma : EwmaLatency} (positive : ewma.Positive)
    {backends : List Backend} {request : TimedRequest}
    (someCold : coldCount backends request.query request.markPrivate ewma ≠ 0) :
    coldCount backends request.query request.markPrivate (ewma.serve backends request) <
      coldCount backends request.query request.markPrivate ewma := by
  rcases List.countP_pos_iff.mp (Nat.pos_of_ne_zero someCold) with ⟨other, membership, isCold⟩
  rcases of_decide_eq_true isCold with ⟨eligible, cold⟩
  have routes := (Router.withPolicy backends .ewmaLatency ewma).routesByScore ewma.followsScore
    request.query request.markPrivate
  rcases routes.complete.mpr ⟨other, membership, eligible⟩ with ⟨backend, routed⟩
  have first := routes.optimal backend routed
  have wasCold := positive.routes_cold membership eligible cold routed
  have isWarm : (ewma.serve backends request).Sampled backend := by
    rw [serve, route, routed]
    exact sampled_observe.mpr (.inl rfl)
  apply countP_lt_of_mem (fun _ _ => cold_of_cold_serve) first.mem
  · exact decide_eq_true ⟨first.isEligible, wasCold⟩
  · exact decide_eq_false fun stillCold => stillCold.2 isWarm

/-- The requests of one kind use up the cold backends eligible for them. -/
theorem descent (backends : List Backend) (query : RouteQuery) (markPrivate : Bool) :
    Descent (serve backends) Positive (fun request => 0 < request.latency.asSecs)
      (fun request => request.query = query ∧ request.markPrivate = markPrivate)
      (coldCount backends query markPrivate) where
  kept {ewma request} positive took := by
    rw [serve]
    split
    · exact positive.observe _ took
    · exact positive
  raisesNot _ _ := List.countP_mono_left fun _ _ => cold_of_cold_serve
  lowers {ewma request} positive _ counted someCold := by
    rcases of_decide_eq_true counted with ⟨rfl, rfl⟩
    exact positive.coldCount_serve_lt someCold

end EwmaLatency

open EwmaLatency in
/-- **Probing.**  After as many requests of a kind as there are backends eligible for it,
each of those has a sample.  No request goes to a sampled backend while an eligible one has
no sample.  Names may even repeat. -/
theorem ewmaLatency_probes (backends : List Backend) {alpha : ℚ} {ewma : EwmaLatency}
    (created : EwmaLatency.new alpha = some ewma) {requests : List TimedRequest}
    (took : ∀ request ∈ requests, 0 < request.latency.asSecs) :
    (∀ query markPrivate,
      backends.countP (query.Eligible markPrivate ·) ≤
          requests.countP (fun request =>
            request.query = query ∧ request.markPrivate = markPrivate) →
        ∀ backend ∈ backends, query.Eligible markPrivate backend →
          (ewma.serveAll backends requests).Sampled backend) ∧
      ∀ before request after, requests = before ++ request :: after →
        ∀ backend, (ewma.serveAll backends before).route backends request = .ok backend →
          (ewma.serveAll backends before).Sampled backend →
            ∀ other ∈ backends, request.query.Eligible request.markPrivate other →
              (ewma.serveAll backends before).Sampled other := by
  have initially := positive_new created
  constructor
  · intro query markPrivate enough
    apply coldCount_eq_zero_iff.mp
    apply (descent backends query markPrivate).reaches_zero initially took
    apply Nat.le_trans _ enough
    apply List.countP_mono_left
    intro backend _ cold
    rw [decide_eq_true_iff] at cold ⊢
    exact cold.1
  · intro before request after split backend routed sampled other membership eligible
    have positive : (ewma.serveAll backends before).Positive := by
      apply (descent backends request.query request.markPrivate).invariant initially
      intro earlier earlierMembership
      apply took
      rw [split]
      exact List.mem_append_left _ earlierMembership
    by_contra cold
    exact positive.routes_cold membership eligible cold routed sampled

namespace Sample

/-- A request that takes so many seconds. -/
def taking (secs : UInt64) : TimedRequest where
  query := .new "m"
  markPrivate := false
  latency := { secs, nanos := ⟨0, Nat.succ_pos _⟩ }

/-- Two equal requests, of which the second is faster. -/
def slowThenFast : List TimedRequest := [taking 2, taking 1]

end Sample

open EwmaLatency Sample in
/-- Two requests reach the fast backend behind the slow one. -/
theorem ewmaLatency_probes_slowCloud :
    (EwmaLatency.serveAll [cloudBackend, localBackend] ⟨1 / 2, ∅⟩ slowThenFast).Sampled
      localBackend := by
  have took : ∀ request ∈ slowThenFast, 0 < request.latency.asSecs := by
    simp [slowThenFast, taking, Duration.asSecs]
  have probes := ewmaLatency_probes [cloudBackend, localBackend]
    (show EwmaLatency.new (1 / 2) = some ⟨1 / 2, ∅⟩ from if_pos (by norm_num)) took
  exact probes.1 (.new "m") false (by decide) localBackend (by simp) (by decide)

end Patchbay
