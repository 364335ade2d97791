import Patchbay.Ewma
import Patchbay.Gateway
import Patchbay.Lib.Unwinding

/-!
# Private routing ignores external backends

Where a private request goes depends on the local backends, in their order, and on
the latencies observed for them.  External backends and their latencies contribute
nothing.
-/

namespace Patchbay

namespace Backend

def isLocal (backend : Backend) : Bool := backend.privacy == .Local

end Backend

namespace Router

variable {σ τ : Type}

/-- For a private query, filtering starts from the local backends. -/
theorem gather_private (query : TypedQuery .Private) (backends : List Backend) :
    (Candidates.gather query backends).items =
      (backends.filter Backend.isLocal).filter query.eligible := by
  rw [List.filter_filter, Candidates.gather]
  apply List.filter_congr
  intro backend _
  cases placement : backend.isLocal with
  | true => simp
  | false =>
      simp only [Backend.isLocal] at placement
      simp [TypedQuery.eligible, PrivacyClass.admits, placement]

/-- Tables with the same local backends and policies that choose alike among them
route private requests alike. -/
theorem route_private_congr {left : Router σ} {right : Router τ} (query : RouteQuery)
    (sameLocal : left.backends.filter Backend.isLocal = right.backends.filter Backend.isLocal)
    (sameChoice : ∀ candidates ⊆ left.backends.filter Backend.isLocal,
      (left.policy.choose left.state candidates).1 =
        (right.policy.choose right.state candidates).1) :
    (left.route query true).1 = (right.route query true).1 := by
  have sameItems := gather_private { query } left.backends
  rw [sameLocal, ← gather_private] at sameItems
  have sameCandidates : Candidates.gather (P := .Private) { query } left.backends =
      Candidates.gather { query } right.backends := by
    rw [Candidates.mk.injEq]
    exact sameItems
  have chosen := sameChoice (Candidates.gather (P := .Private) { query } left.backends).items
    (by
      rw [gather_private]
      exact List.filter_subset_self _)
  simp only [route, ClassifiedQuery.classify, if_true, resolve, Candidates.select]
  rw [chosen, sameCandidates]

end Router

/-! ## The averages that private routing looks at -/

namespace EwmaLatency

/-- The averages of the backends with these names are the same. -/
def AgreeOn (names : List String) (left right : EwmaLatency) : Prop :=
  left.alpha = right.alpha ∧ ∀ name ∈ names, left.latencyMs name = right.latencyMs name

theorem agreeOn_equivalence (names : List String) : Equivalence (AgreeOn names) where
  refl _ := ⟨rfl, fun _ _ => rfl⟩
  symm agree := ⟨agree.1.symm, fun name membership => (agree.2 name membership).symm⟩
  trans first second := ⟨first.1.trans second.1, fun name membership =>
    (first.2 name membership).trans (second.2 name membership)⟩

/-- Does an observation name one of these backends? -/
def naming (names : List String) (observation : String × Duration) : Bool :=
  names.contains observation.1

/-- Each observation changes one average, from that average alone. -/
theorem unwinding (names : List String) :
    Unwinding (fun ewma (observation : String × Duration) =>
        ewma.observe observation.1 observation.2)
      (naming names) (AgreeOn names) where
  equivalence := agreeOn_equivalence names
  invisible ewma observation hidden := by
    constructor
    · rfl
    · intro name membership
      rw [latencyMs_observe, if_neg]
      rintro rfl
      simp [naming, membership] at hidden
  consistent left right observation _ agree := by
    constructor
    · exact agree.1
    · intro name membership
      rw [latencyMs_observe, latencyMs_observe]
      split
      · next same => rw [← same, agree.1, agree.2 name membership]
      · exact agree.2 name membership

theorem score_observeAll (ewma : EwmaLatency) {backends : List Backend}
    {leftHistory rightHistory : List (String × Duration)}
    (sameHistory : leftHistory.filter (naming (backends.map Backend.name)) =
      rightHistory.filter (naming (backends.map Backend.name)))
    {backend : Backend} (membership : backend ∈ backends) :
    (ewma.observeAll leftHistory).score backend =
      (ewma.observeAll rightHistory).score backend := by
  have agree := (unwinding (backends.map Backend.name)).runs
    ((agreeOn_equivalence _).refl ewma) sameHistory
  have sameAverage := agree.2 backend.name (List.mem_map_of_mem membership)
  rw [score, score, observeAll, observeAll, sameAverage]

end EwmaLatency

/-! ## Two runs -/

open EwmaLatency (naming) in
/-- A private request is routed alike over two tables with the same local backends
and after two histories with the same observations of those, whatever the policy's
weight and averages were before.  Names may even repeat. -/
theorem route_private_ignores_external (query : RouteQuery) {left right : List Backend}
    (sameLocal : left.filter Backend.isLocal = right.filter Backend.isLocal)
    (ewma : EwmaLatency) {leftHistory rightHistory : List (String × Duration)}
    (sameHistory :
      leftHistory.filter (naming ((left.filter Backend.isLocal).map Backend.name)) =
        rightHistory.filter (naming ((left.filter Backend.isLocal).map Backend.name))) :
    ((Router.withPolicy left .staticPriority ()).route query true).1 =
        ((Router.withPolicy right .staticPriority ()).route query true).1 ∧
      ((Router.withPolicy left .ewmaLatency (ewma.observeAll leftHistory)).route query
          true).1 =
        ((Router.withPolicy right .ewmaLatency (ewma.observeAll rightHistory)).route query
          true).1 := by
  constructor
  · apply Router.route_private_congr query sameLocal
    intro candidates _
    rfl
  · apply Router.route_private_congr query sameLocal
    intro candidates areLocal
    apply EwmaLatency.choose_congr
    intro backend membership
    exact EwmaLatency.score_observeAll ewma sameHistory (areLocal membership)

open Sample in
/-- A fast external backend in front, against none at all. -/
theorem route_private_ignores_external_cloud :
    ((Router.withPolicy [cloudBackend, localBackend] .staticPriority ()).route (.new "m")
          true).1 =
        ((Router.withPolicy [localBackend] .staticPriority ()).route (.new "m") true).1 ∧
      ((Router.withPolicy [cloudBackend, localBackend] .ewmaLatency
          (EwmaLatency.observeAll ⟨1 / 2, ∅⟩ [("cloud", ⟨0, 5⟩), ("local", ⟨2, 0⟩)])).route
          (.new "m") true).1 =
        ((Router.withPolicy [localBackend] .ewmaLatency
          (EwmaLatency.observeAll ⟨1 / 2, ∅⟩ [("local", ⟨2, 0⟩)])).route (.new "m") true).1 :=
  route_private_ignores_external (.new "m") (by decide) ⟨1 / 2, ∅⟩ rfl

end Patchbay
