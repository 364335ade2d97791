import Mathlib.Tactic.NormNum
import Patchbay.Ewma
import Patchbay.Gateway
import Patchbay.Lib.FirstLeast

/-!
# Routing is complete and optimal

The built-in policies follow a score: a constant for the static priority, and the moving
average of the backend's latencies for the other.  Over such a policy, the router serves
every request that some backend is eligible for, at the first eligible backend of least
score.
-/

namespace Patchbay

/-- The backend serves the model, has all required tags, and is local where the request is
private. -/
structure RouteQuery.Eligible (query : RouteQuery) (markPrivate : Bool) (backend : Backend) :
    Prop where
  model : query.model ∈ backend.models
  tags : ∀ tag ∈ query.requiredTags, tag ∈ backend.capabilityTags
  placement : markPrivate = true → backend.privacy = .Local

instance (query : RouteQuery) (markPrivate : Bool) (backend : Backend) :
    Decidable (query.Eligible markPrivate backend) :=
  decidable_of_iff (query.model ∈ backend.models ∧
      (∀ tag ∈ query.requiredTags, tag ∈ backend.capabilityTags) ∧
      (markPrivate = true → backend.privacy = .Local))
    ⟨fun eligible => ⟨eligible.1, eligible.2.1, eligible.2.2⟩,
      fun eligible => ⟨eligible.model, eligible.tags, eligible.placement⟩⟩

/-- The policy picks the first candidate of least score from any candidates there are. -/
def Policy.FollowsScore {σ : Type} (policy : Policy σ) (state : σ) (score : Backend → ℚ) :
    Prop :=
  ∀ candidates ≠ [], ∃ index winner, (policy.choose state candidates).1 = some index ∧
    candidates[index]? = some winner ∧ FirstLeast (fun _ => True) score candidates winner

theorem TypedQuery.eligible_iff {P : PrivacyClass} {query : TypedQuery P} {backend : Backend} :
    query.eligible backend = true ↔ query.query.Eligible (P == .Private) backend := by
  have tagged : backend.hasCapabilityTags query.query.requiredTags = true ↔
      ∀ tag ∈ query.query.requiredTags, tag ∈ backend.capabilityTags := by
    simp [Backend.hasCapabilityTags]
  have serves : backend.servesModel query.query.model = true ↔
      query.query.model ∈ backend.models := by
    simp [Backend.servesModel]
  have placed : P.admits backend.privacy = true ↔
      ((P == .Private) = true → backend.privacy = .Local) := by
    cases P <;> simp [PrivacyClass.admits]
  rw [TypedQuery.eligible, Bool.and_eq_true, Bool.and_eq_true, tagged, serves, placed]
  constructor
  · rintro ⟨⟨placement, model⟩, tags⟩
    exact ⟨model, tags, placement⟩
  · rintro ⟨model, tags, placement⟩
    exact ⟨⟨placement, model⟩, tags⟩

namespace Router

variable {σ : Type}

/-- Routing over a policy that follows a score. -/
structure RoutesByScore (router : Router σ) (score : Backend → ℚ) (query : RouteQuery)
    (markPrivate : Bool) : Prop where
  complete : (∃ backend, (router.route query markPrivate).1 = .ok backend) ↔
    ∃ backend ∈ router.backends, query.Eligible markPrivate backend
  optimal : ∀ backend, (router.route query markPrivate).1 = .ok backend →
    FirstLeast (query.Eligible markPrivate) score router.backends backend
  declined : (∀ backend ∈ router.backends, ¬ query.Eligible markPrivate backend) →
    (router.route query markPrivate).1 = .error (.noEligibleBackend query.model
      query.requiredTags (if markPrivate then "private" else "shareable"))

/-- A policy without candidates, or with the first of least score among them. -/
theorem select_followsScore {P : PrivacyClass} {policy : Policy σ} {state : σ}
    {score : Backend → ℚ} (follows : policy.FollowsScore state score)
    (candidates : Candidates P) :
    match (candidates.select policy state).1 with
    | none => candidates.items = []
    | some selection => FirstLeast (fun _ => True) score candidates.items selection.backend := by
  cases selected : (candidates.select policy state).1 with
  | none =>
      by_contra someCandidate
      rcases follows _ someCandidate with ⟨index, winner, chosen, found, -⟩
      rcases List.getElem?_eq_some_iff.mp found with ⟨inBounds, -⟩
      simp [Candidates.select, chosen, inBounds] at selected
  | some selection =>
      have someCandidate : candidates.items ≠ [] :=
        List.ne_nil_of_mem (Candidates.select_mem selected)
      rcases follows _ someCandidate with ⟨index, winner, chosen, found, first⟩
      rcases List.getElem?_eq_some_iff.mp found with ⟨inBounds, rfl⟩
      simp only [Candidates.select, chosen, Option.bind_some, dif_pos inBounds,
        Option.some.injEq] at selected
      rw [← selected]
      exact first

/-- Both classes are routed alike, from the backends eligible for them. -/
theorem resolve_followsScore {P : PrivacyClass} {router : Router σ} {score : Backend → ℚ}
    (follows : router.policy.FollowsScore router.state score) (query : TypedQuery P) :
    match (router.resolve query).1 with
    | .ok backend =>
        FirstLeast (query.query.Eligible (P == .Private)) score router.backends backend
    | .error error =>
        (∀ backend ∈ router.backends, ¬ query.query.Eligible (P == .Private) backend) ∧
          error = .noEligibleBackend query.query.model query.query.requiredTags P.label := by
  have selects := select_followsScore follows (Candidates.gather query router.backends)
  have resolved : (router.resolve query).1 =
      ((Candidates.gather query router.backends).select router.policy router.state).1.elim
        (.error (.noEligibleBackend query.query.model query.query.requiredTags P.label))
        (fun selection => .ok selection.backend) := by
    rw [resolve]
    rcases (Candidates.gather query router.backends).select router.policy router.state with
      ⟨none | selection, state⟩
    · rfl
    · rfl
  rw [resolved]
  cases selected : ((Candidates.gather query router.backends).select router.policy
      router.state).1 with
  | none =>
      rw [selected] at selects
      refine ⟨fun backend membership eligible => ?_, rfl⟩
      have candidate := Candidates.mem_gather.mpr ⟨membership, TypedQuery.eligible_iff.mpr eligible⟩
      rw [selects] at candidate
      cases candidate
  | some selection =>
      rw [selected] at selects
      have sameEligible : query.query.Eligible (P == .Private) =
          fun backend => query.eligible backend = true := by
        funext backend
        exact propext TypedQuery.eligible_iff.symm
      change FirstLeast (query.query.Eligible (P == .Private)) score router.backends _
      rw [sameEligible]
      exact selects.of_filter

theorem route_followsScore {router : Router σ} {score : Backend → ℚ}
    (follows : router.policy.FollowsScore router.state score) (query : RouteQuery)
    (markPrivate : Bool) :
    match (router.route query markPrivate).1 with
    | .ok backend => FirstLeast (query.Eligible markPrivate) score router.backends backend
    | .error error =>
        (∀ backend ∈ router.backends, ¬ query.Eligible markPrivate backend) ∧
          error = .noEligibleBackend query.model query.requiredTags
            (if markPrivate then "private" else "shareable") := by
  cases markPrivate with
  | true => exact resolve_followsScore (P := .Private) follows { query }
  | false => exact resolve_followsScore (P := .Shareable) follows { query }

theorem routesByScore {router : Router σ} {score : Backend → ℚ}
    (follows : router.policy.FollowsScore router.state score) (query : RouteQuery)
    (markPrivate : Bool) : router.RoutesByScore score query markPrivate := by
  have routes := route_followsScore follows query markPrivate
  cases routed : (router.route query markPrivate).1 with
  | ok backend =>
      rw [routed] at routes
      constructor
      · exact ⟨fun _ => ⟨backend, routes.mem, routes.isEligible⟩, fun _ => ⟨backend, routed⟩⟩
      · intro other same
        rw [routed, Except.ok.injEq] at same
        rwa [← same]
      · intro none
        exact absurd routes.isEligible (none backend routes.mem)
  | error error =>
      rw [routed] at routes
      constructor
      · constructor
        · rintro ⟨backend, same⟩
          rw [routed] at same
          cases same
        · rintro ⟨backend, membership, eligible⟩
          exact absurd eligible (routes.1 backend membership)
      · intro other same
        rw [routed] at same
        cases same
      · intro _
        rw [routed, routes.2]

end Router

theorem staticPriority_followsScore : Policy.staticPriority.FollowsScore () fun _ => 0 := by
  intro candidates someCandidate
  cases candidates with
  | nil => exact absurd rfl someCandidate
  | cons first rest =>
      exact ⟨0, first, rfl, rfl, [], rest, rfl, trivial, by simp, by simp⟩

namespace EwmaLatency

theorem choose_isSome (ewma : EwmaLatency) {candidates : List Backend}
    (someCandidate : candidates ≠ []) : ∃ index, ewma.choose candidates = some index := by
  rw [← Option.isSome_iff_exists, ← Option.ne_none_iff_isSome, choose, ne_eq,
    Option.map_eq_none_iff, List.argmin_eq_none]
  simpa using someCandidate

theorem followsScore (ewma : EwmaLatency) : Policy.ewmaLatency.FollowsScore ewma ewma.score := by
  intro candidates someCandidate
  rcases ewma.choose_isSome someCandidate with ⟨index, chosen⟩
  rcases choose_spec chosen with ⟨winner, found, least⟩
  exact ⟨index, winner, chosen, found, FirstLeast.of_getElem? found least⟩

/-- The moving average over samples, oldest first: the first as it is, and each further one
weighted in. -/
def movingAverage (alpha : ℚ) (samples : List ℚ) : Option ℚ :=
  samples.foldl (fun average sample =>
    some (average.elim sample fun average => alpha * sample + (1 - alpha) * average)) none

/-- A backend's samples in milliseconds. -/
def samplesOf (history : List (String × Duration)) (backend : String) : List ℚ :=
  (history.filter fun observation => observation.1 == backend).map fun observation =>
    observation.2.asSecs * 1000

/-- The average kept for a backend is the moving average over its own samples. -/
theorem latencyMs_observeAll {alpha : ℚ} {ewma : EwmaLatency}
    (created : EwmaLatency.new alpha = some ewma) (history : List (String × Duration))
    (backend : String) :
    (ewma.observeAll history).latencyMs backend =
      movingAverage alpha (samplesOf history backend) := by
  have fresh : ewma.alpha = alpha ∧ ewma.latencyMs backend = none := by
    rw [EwmaLatency.new, Option.ite_none_right_eq_some, Option.some.injEq] at created
    rw [← created.2]
    exact ⟨rfl, Finmap.lookup_empty _⟩
  rw [movingAverage, ← fresh.1, ← fresh.2]
  clear created fresh
  induction history generalizing ewma with
  | nil => rfl
  | cons observation history ih =>
      have others := @ih (ewma.observe observation.1 observation.2)
      rw [observeAll, List.foldl_cons, ← observeAll, others, observe_alpha, latencyMs_observe]
      by_cases same : observation.1 = backend
      · subst same
        cases ewma.latencyMs observation.1 <;> simp [samplesOf]
      · simp [samplesOf, same, Ne.symm same]

end EwmaLatency

open EwmaLatency (movingAverage samplesOf) in
/-- **Optimal routing.**  Over any table, the static priority routes by a constant score,
and the other policy by the moving averages of the latencies observed so far. -/
theorem route_complete_optimal (backends : List Backend) {alpha : ℚ} {ewma : EwmaLatency}
    (created : EwmaLatency.new alpha = some ewma) (history : List (String × Duration))
    (query : RouteQuery) (markPrivate : Bool) :
    (Router.withPolicy backends .staticPriority ()).RoutesByScore (fun _ => 0) query
        markPrivate ∧
      (Router.withPolicy backends .ewmaLatency (ewma.observeAll history)).RoutesByScore
        (fun backend => (movingAverage alpha (samplesOf history backend.name)).getD 0) query
        markPrivate := by
  constructor
  · exact Router.routesByScore staticPriority_followsScore query markPrivate
  · have follows := (ewma.observeAll history).followsScore
    have scores : (ewma.observeAll history).score =
        fun backend => (movingAverage alpha (samplesOf history backend.name)).getD 0 := by
      funext backend
      rw [EwmaLatency.score, EwmaLatency.latencyMs_observeAll created]
    rw [scores] at follows
    exact Router.routesByScore follows query markPrivate

open EwmaLatency Sample in
/-- A slow backend in front of a fast one. -/
theorem route_complete_optimal_slowCloud :
    (Router.withPolicy [cloudBackend, localBackend] .staticPriority ()).RoutesByScore
        (fun _ => 0) (.new "m") false ∧
      (Router.withPolicy [cloudBackend, localBackend] .ewmaLatency
        (EwmaLatency.observeAll ⟨1 / 2, ∅⟩ [("cloud", ⟨2, 0⟩), ("local", ⟨1, 0⟩)])).RoutesByScore
        (fun backend => (movingAverage (1 / 2)
          (samplesOf [("cloud", ⟨2, 0⟩), ("local", ⟨1, 0⟩)] backend.name)).getD 0)
        (.new "m") false :=
  route_complete_optimal _ (if_pos (by norm_num)) _ _ _

end Patchbay
