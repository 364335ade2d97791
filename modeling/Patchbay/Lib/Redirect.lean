import Mathlib.Data.List.Basic

/-!
# Following redirects

A client sends a request and follows redirects up to a bound.  A redirect either
passes the body on to its target or drops it.  The requests sent depend on the
answers that have come in; as long as the last one has not been answered for
good, the exchange is pending.
-/

namespace Redirect

universe u v w

variable {υ : Type u} {β : Type v} {ρ : Type w}

/-- Where a request goes, and the body it still carries. -/
structure Request (υ : Type u) (β : Type v) where
  target : υ
  body : Option β

/-- What an answer tells the client to do. -/
inductive Answer (υ : Type u) (ρ : Type w) where
  | redirect (target : υ) (keepsBody : Bool)
  | final (result : ρ)

/-- Where an exchange stands. -/
inductive Outcome (ρ : Type w) where
  | pending
  | tooManyRedirects
  | answered (result : ρ)

/-- The request that answers a redirect. -/
def Request.redirected (request : Request υ β) (target : υ) (keepsBody : Bool) :
    Request υ β where
  target := target
  body := if keepsBody then request.body else none

/-- The requests sent once `answers` have come in, with at most `hops` redirects
followed, and where that leaves the exchange. -/
def follow (hops : Nat) (request : Request υ β) :
    List (Answer υ ρ) → List (Request υ β) × Outcome ρ
  | [] => ([request], .pending)
  | .final result :: _ => ([request], .answered result)
  | .redirect target keepsBody :: answers =>
      match hops with
      | 0 => ([request], .tooManyRedirects)
      | hops + 1 =>
          let (sent, outcome) := follow hops (request.redirected target keepsBody) answers
          (request :: sent, outcome)

/-- Does the answer send the body on? -/
def Answer.passesBody : Answer υ ρ → Bool
  | .redirect _ keepsBody => keepsBody
  | .final _ => false

/-- As long as the body is passed on, and for at most `hops` times, it is passed
on to `home`. -/
def StaysAt (home : υ) (hops : Nat) (answers : List (Answer υ ρ)) : Prop :=
  ∀ before target after, answers = before ++ .redirect target true :: after →
    before.length < hops → (∀ answer ∈ before, answer.passesBody = true) → target = home

theorem staysAt_nil (home : υ) (hops : Nat) :
    StaysAt home hops ([] : List (Answer υ ρ)) := by
  intro before target after split
  simp at split

/-- Nothing is passed on after an answer that drops the body. -/
theorem staysAt_cons_of_drops {home : υ} {hops : Nat} {answer : Answer υ ρ}
    {answers : List (Answer υ ρ)} (drops : answer.passesBody = false) :
    StaysAt home hops (answer :: answers) := by
  intro before target after split _ passed
  cases before with
  | nil =>
      rw [List.nil_append, List.cons.injEq] at split
      rw [split.1] at drops
      cases drops
  | cons first before =>
      rw [List.cons_append, List.cons.injEq] at split
      have firstPasses := passed first List.mem_cons_self
      rw [← split.1, drops] at firstPasses
      cases firstPasses

theorem staysAt_zero (home : υ) (answers : List (Answer υ ρ)) : StaysAt home 0 answers :=
  fun _ _ _ _ outOfHops _ => absurd outOfHops (Nat.not_lt_zero _)

/-- A redirect that keeps the body must lead home, and so must those after it. -/
theorem staysAt_cons_of_passes {home target : υ} {hops : Nat}
    {answers : List (Answer υ ρ)} :
    StaysAt home (hops + 1) (.redirect target true :: answers) ↔
      target = home ∧ StaysAt home hops answers := by
  constructor
  · intro stays
    constructor
    · exact stays [] target answers rfl (Nat.succ_pos hops) (by simp)
    · intro before next after split inHops passed
      apply stays (.redirect target true :: before) next after (by rw [split]; rfl)
        (Nat.succ_lt_succ inHops)
      intro answer membership
      rcases List.mem_cons.mp membership with rfl | membership
      · rfl
      · exact passed answer membership
  · rintro ⟨first, stays⟩ before next after split inHops passed
    cases before with
    | nil =>
        rw [List.nil_append, List.cons.injEq, Answer.redirect.injEq] at split
        rw [← split.1.1, first]
    | cons answer before =>
        rw [List.cons_append, List.cons.injEq] at split
        exact stays before next after split.2 (Nat.lt_of_succ_lt_succ inHops)
          fun answer membership => passed answer (List.mem_cons_of_mem _ membership)

/-- Without a body, no redirect brings one back. -/
theorem body_eq_none_of_mem_follow {hops : Nat} {request : Request υ β}
    {answers : List (Answer υ ρ)} (bodyless : request.body = none)
    {sent : Request υ β} (membership : sent ∈ (follow hops request answers).1) :
    sent.body = none := by
  induction answers generalizing hops request with
  | nil =>
      rw [follow, List.mem_singleton] at membership
      rw [membership, bodyless]
  | cons answer answers ih =>
      cases answer with
      | final result =>
          rw [follow, List.mem_singleton] at membership
          rw [membership, bodyless]
      | redirect target keepsBody =>
          cases hops with
          | zero =>
              rw [follow, List.mem_singleton] at membership
              rw [membership, bodyless]
          | succ hops =>
              rw [follow, List.mem_cons] at membership
              rcases membership with rfl | membership
              · exact bodyless
              · apply ih _ membership
                simp [Request.redirected, bodyless]

/-- The body goes nowhere but `home` exactly when it is first sent there and every
redirect that passes it on leads there. -/
theorem body_only_to_iff {home : υ} {hops : Nat} {request : Request υ β}
    {answers : List (Answer υ ρ)} (carried : request.body.isSome = true) :
    (∀ sent ∈ (follow hops request answers).1, sent.body.isSome = true →
        sent.target = home) ↔
      request.target = home ∧ StaysAt home hops answers := by
  induction answers generalizing hops request with
  | nil => simp [follow, carried, staysAt_nil]
  | cons answer answers ih =>
      cases answer with
      | final result =>
          have dropped : StaysAt home hops (Answer.final result :: answers) :=
            staysAt_cons_of_drops rfl
          simp [follow, carried, dropped]
      | redirect target keepsBody =>
          cases hops with
          | zero => simp [follow, carried, staysAt_zero]
          | succ hops =>
              simp only [follow, List.forall_mem_cons, carried, forall_const]
              apply and_congr_right
              intro _
              cases keepsBody with
              | true =>
                  rw [staysAt_cons_of_passes]
                  exact ih carried
              | false =>
                  apply iff_of_true _ (staysAt_cons_of_drops rfl)
                  intro sent membership present
                  rw [body_eq_none_of_mem_follow rfl membership] at present
                  cases present

end Redirect
