import Mathlib.Data.List.MinMax
import Patchbay.Config

/-!
# Policy-driven backend selection

Classification happens once and yields a query typed by its privacy class.
Candidates of a class exist only together with the proof that the class admits
each of them, and a selection is a candidate at an index the policy returned.  A
policy therefore cannot name a backend outside the filtered set.
-/

namespace Patchbay

/-- Privacy class of a request. -/
inductive PrivacyClass where
  | Private
  | Shareable
  deriving DecidableEq, Repr

namespace PrivacyClass

/-- May a backend with this placement serve requests of this class? -/
def admits : PrivacyClass → Privacy → Bool
  | .Private, privacy => privacy == .Local
  | .Shareable, _ => true

/-- Human-readable label for errors. -/
def label : PrivacyClass → String
  | .Private => "private"
  | .Shareable => "shareable"

end PrivacyClass

/-- What a request asks of the routing layer, before classification. -/
structure RouteQuery where
  model : String
  requiredTags : List String
  deriving DecidableEq, Repr

def RouteQuery.new (model : String) : RouteQuery := { model, requiredTags := [] }

/-- A query stamped with its privacy class. -/
structure TypedQuery (P : PrivacyClass) where
  query : RouteQuery

/-- The one place a request's privacy is decided. -/
inductive ClassifiedQuery where
  | Private (query : TypedQuery .Private)
  | Shareable (query : TypedQuery .Shareable)

def ClassifiedQuery.classify (query : RouteQuery) (markPrivate : Bool) : ClassifiedQuery :=
  if markPrivate then .Private { query } else .Shareable { query }

/-- A routing policy with its state.  It sees the candidates and returns an index,
or declines; nothing constrains the index. -/
structure Policy (σ : Type) where
  choose : σ → List Backend → Option Nat × σ

/-- Picks the first candidate: config order is the priority order. -/
def Policy.staticPriority : Policy Unit where
  choose state candidates := (if candidates.isEmpty then none else some 0, state)

/-- Backends eligible for a query of class `P`. -/
structure Candidates (P : PrivacyClass) where
  items : List Backend
  admitted : ∀ backend ∈ items, P.admits backend.privacy = true

/-- A routing decision witnessed by the class it was filtered under. -/
structure Selection (P : PrivacyClass) where
  backend : Backend
  admitted : P.admits backend.privacy = true

/-- The filter of `gather`. -/
def TypedQuery.eligible {P : PrivacyClass} (query : TypedQuery P) (backend : Backend) : Bool :=
  P.admits backend.privacy && backend.servesModel query.query.model &&
    backend.hasCapabilityTags query.query.requiredTags

namespace Candidates

variable {P : PrivacyClass} {σ : Type}

/-- Filter `backends` down to those that may serve `query`, in config order. -/
def gather (query : TypedQuery P) (backends : List Backend) : Candidates P where
  items := backends.filter query.eligible
  admitted := by
    intro backend membership
    have eligible := (List.mem_filter.mp membership).2
    simp only [TypedQuery.eligible, Bool.and_eq_true] at eligible
    exact eligible.1.1

theorem mem_gather {query : TypedQuery P} {backends : List Backend} {backend : Backend} :
    backend ∈ (gather query backends).items ↔
      backend ∈ backends ∧ query.eligible backend = true :=
  List.mem_filter

/-- The candidate at the index the policy chose; an index out of range selects
nothing. -/
def select (candidates : Candidates P) (policy : Policy σ) (state : σ) :
    Option (Selection P) × σ :=
  let (choice, state) := policy.choose state candidates.items
  (choice.bind fun index =>
      if inBounds : index < candidates.items.length then
        some {
          backend := candidates.items[index]
          admitted := candidates.admitted _ (List.getElem_mem inBounds) }
      else none,
    state)

/-- Whatever the policy does, the selected backend is one of the candidates. -/
theorem select_mem {candidates : Candidates P} {policy : Policy σ} {state : σ}
    {selection : Selection P}
    (selected : (candidates.select policy state).1 = some selection) :
    selection.backend ∈ candidates.items := by
  simp only [select, Option.bind_eq_some_iff] at selected
  rcases selected with ⟨index, -, chosen⟩
  split at chosen
  · next inBounds =>
      cases chosen
      exact List.getElem_mem inBounds
  · cases chosen

end Candidates

inductive RouteError where
  | noEligibleBackend (model : String) (requiredTags : List String) (privacy : String)
  deriving DecidableEq, Repr

/-- `debug` shows a list of tags. -/
def RouteError.message (debug : List String → String) : RouteError → String
  | .noEligibleBackend model requiredTags privacy =>
      "no eligible backend for model `" ++ model ++ "` (" ++ privacy ++
        " request, required tags " ++ debug requiredTags ++ ")"

/-- The routing facade: the backend table, the active policy and its state. -/
structure Router (σ : Type) where
  backends : List Backend
  policy : Policy σ
  state : σ

namespace Router

variable {σ : Type}

def withPolicy (backends : List Backend) (policy : Policy σ) (state : σ) : Router σ where
  backends
  policy
  state

def resolve {P : PrivacyClass} (router : Router σ) (query : TypedQuery P) :
    Except RouteError Backend × Router σ :=
  let (selection, state) :=
    (Candidates.gather query router.backends).select router.policy router.state
  (match selection with
    | some selection => .ok selection.backend
    | none => .error (.noEligibleBackend query.query.model query.query.requiredTags P.label),
    { router with state })

/-- Resolve a query to a backend.  Both classes take the same path. -/
def route (router : Router σ) (query : RouteQuery) (markPrivate : Bool) :
    Except RouteError Backend × Router σ :=
  match ClassifiedQuery.classify query markPrivate with
  | .Private query => router.resolve query
  | .Shareable query => router.resolve query

theorem resolve_ok {P : PrivacyClass} {router : Router σ} {query : TypedQuery P}
    {backend : Backend} (resolved : (router.resolve query).1 = .ok backend) :
    backend ∈ router.backends ∧ query.eligible backend = true := by
  simp only [resolve] at resolved
  split at resolved
  · next selection selected =>
      cases resolved
      exact Candidates.mem_gather.mp (Candidates.select_mem selected)
  · cases resolved

@[simp] theorem resolve_backends {P : PrivacyClass} (router : Router σ)
    (query : TypedQuery P) : (router.resolve query).2.backends = router.backends := rfl

/-- Routing changes nothing but the policy's state. -/
@[simp] theorem route_backends (router : Router σ) (query : RouteQuery)
    (markPrivate : Bool) : (router.route query markPrivate).2.backends = router.backends := by
  simp only [route]
  split <;> rfl

/-- A routed backend is configured and serves the model. -/
theorem route_ok {router : Router σ} {query : RouteQuery} {markPrivate : Bool}
    {backend : Backend} (routed : (router.route query markPrivate).1 = .ok backend) :
    backend ∈ router.backends ∧ query.model ∈ backend.models := by
  have serves : ∀ {P : PrivacyClass} {typed : TypedQuery P},
      typed.eligible backend = true → typed.query.model ∈ backend.models := by
    intro P typed eligible
    simp only [TypedQuery.eligible, Backend.servesModel, Bool.and_eq_true, List.any_eq_true,
      beq_iff_eq] at eligible
    rcases eligible.1.2 with ⟨model, membership, rfl⟩
    exact membership
  cases markPrivate with
  | true => exact ⟨(resolve_ok routed).1, serves (resolve_ok routed).2⟩
  | false => exact ⟨(resolve_ok routed).1, serves (resolve_ok routed).2⟩

/-- A backend routed for a private request is local. -/
theorem route_private {router : Router σ} {query : RouteQuery} {backend : Backend}
    (routed : (router.route query true).1 = .ok backend) : backend.privacy = .Local := by
  have eligible := (resolve_ok routed).2
  simp only [TypedQuery.eligible, PrivacyClass.admits, Bool.and_eq_true, beq_iff_eq] at eligible
  exact eligible.1.1

end Router

end Patchbay
