import Mathlib.Algebra.BigOperators.Group.Finset.Piecewise
import Mathlib.Algebra.Group.Nat.Defs
import Mathlib.Data.Fintype.EquivFin
import Patchbay.Lib.Schedule
import Patchbay.Limits

/-!
# Concurrent token counts

Several calls of `add` on one counter, each a sequence of atomic steps: load the start
of the window, and then either add to the tokens or store the new window and the new
tokens.  A call that stores its tokens overwrites what others have counted in the
window since then.
-/

namespace Patchbay

/-- The next atomic step of a call of `add`, or the total that it returned. -/
inductive AddStep where
  | load
  | storeWindow
  | storeTokens
  | fetchAdd
  | done (total : UInt64)
  deriving DecidableEq, Repr

namespace AddStep

def isDone : AddStep → Bool
  | .done _ => true
  | _ => false

@[simp] theorem isDone_load : isDone .load = false := rfl
@[simp] theorem isDone_storeWindow : isDone .storeWindow = false := rfl
@[simp] theorem isDone_storeTokens : isDone .storeTokens = false := rfl
@[simp] theorem isDone_fetchAdd : isDone .fetchAdd = false := rfl
@[simp] theorem isDone_done (total : UInt64) : isDone (.done total) = true := rfl

end AddStep

/-- A counter and the calls on it. -/
structure AddRace (ι : Type) where
  counter : TpmCounter
  next : ι → AddStep

namespace AddRace

variable {ι : Type} [DecidableEq ι] (tokens : ι → UInt64) (nowSecs : UInt64)

def start (counter : TpmCounter) : AddRace ι where
  counter
  next _ := .load

/-- One atomic step of a call; a call that is done has none. -/
def step (race : AddRace ι) (call : ι) : Option (AddRace ι) :=
  match race.next call with
  | .load =>
      let next := if race.counter.elapsed nowSecs then .storeWindow else .fetchAdd
      some { race with next := Function.update race.next call next }
  | .storeWindow =>
      some {
        counter := { race.counter with windowStart := nowSecs }
        next := Function.update race.next call .storeTokens }
  | .storeTokens =>
      some {
        counter := { race.counter with tokens := tokens call }
        next := Function.update race.next call (.done (tokens call)) }
  | .fetchAdd =>
      some {
        counter := { race.counter with tokens := race.counter.tokens + tokens call }
        next := Function.update race.next call
          (.done (race.counter.tokens + tokens call)) }
  | .done _ => none

/-- A schedule names the call of each step. -/
def run (race : AddRace ι) (schedule : List ι) : Option (AddRace ι) :=
  schedule.foldlM (step tokens nowSecs) race

/-- All calls have returned. -/
def Complete (race : AddRace ι) : Prop := ∀ call, (race.next call).isDone

theorem run_append (race : AddRace ι) (before after : List ι) :
    race.run tokens nowSecs (before ++ after) =
      (race.run tokens nowSecs before).bind fun middle => middle.run tokens nowSecs after :=
  List.foldlM_append

theorem run_cons (race : AddRace ι) (call : ι) (schedule : List ι) :
    race.run tokens nowSecs (call :: schedule) =
      (race.step tokens nowSecs call).bind fun middle => middle.run tokens nowSecs schedule :=
  List.foldlM_cons

/-! ## A call by itself -/

section

variable {tokens nowSecs} {race : AddRace ι} {call : ι}

theorem run_alone_elapsed (fresh : race.next call = .load)
    (elapsed : race.counter.elapsed nowSecs = true) :
    race.run tokens nowSecs [call, call, call] =
      some ⟨⟨nowSecs, tokens call⟩,
        Function.update race.next call (.done (tokens call))⟩ := by
  simp [run, step, fresh, elapsed]

theorem run_alone_active (fresh : race.next call = .load)
    (active : race.counter.elapsed nowSecs = false) :
    race.run tokens nowSecs [call, call] =
      some ⟨⟨race.counter.windowStart, race.counter.tokens + tokens call⟩,
        Function.update race.next call (.done (race.counter.tokens + tokens call))⟩ := by
  simp [run, step, fresh, active]

theorem run_alone_fetching (fetching : race.next call = .fetchAdd) :
    race.run tokens nowSecs [call] =
      some ⟨⟨race.counter.windowStart, race.counter.tokens + tokens call⟩,
        Function.update race.next call (.done (race.counter.tokens + tokens call))⟩ := by
  simp [run, step, fetching]

/-- A call that nobody interrupts does and returns what `add` does. -/
theorem run_alone (fresh : race.next call = .load) :
    ∃ schedule, (∀ other ∈ schedule, other = call) ∧
      race.run tokens nowSecs schedule =
        some ⟨(race.counter.add (tokens call) nowSecs).2,
          Function.update race.next call
            (.done (race.counter.add (tokens call) nowSecs).1)⟩ := by
  cases elapsed : race.counter.elapsed nowSecs with
  | true =>
      use [call, call, call], by simp
      rw [run_alone_elapsed fresh elapsed, TpmCounter.add, if_pos elapsed]
  | false =>
      use [call, call], by simp
      rw [run_alone_active fresh elapsed, TpmCounter.add, if_neg (by simp [elapsed])]

end

/-- The only call has not begun, is on its way, or did what `add` does. -/
inductive Alone (old : TpmCounter) (tokens nowSecs : UInt64) : AddRace Unit → Prop
  | load : Alone old tokens nowSecs ⟨old, fun _ => .load⟩
  | storeWindow (elapsed : old.elapsed nowSecs = true) :
      Alone old tokens nowSecs ⟨old, fun _ => .storeWindow⟩
  | storeTokens (elapsed : old.elapsed nowSecs = true) :
      Alone old tokens nowSecs ⟨⟨nowSecs, old.tokens⟩, fun _ => .storeTokens⟩
  | fetchAdd (active : old.elapsed nowSecs = false) :
      Alone old tokens nowSecs ⟨old, fun _ => .fetchAdd⟩
  | done : Alone old tokens nowSecs
      ⟨(old.add tokens nowSecs).2, fun _ => .done (old.add tokens nowSecs).1⟩

section

variable {old : TpmCounter} {tokens nowSecs : UInt64} {race after : AddRace Unit}

theorem update_unit (next : Unit → AddStep) (call : Unit) (following : AddStep) :
    Function.update next call following = fun _ => following := by
  funext other
  rw [Subsingleton.elim other call, Function.update_self]

theorem Alone.step (alone : Alone old tokens nowSecs race) {call : Unit}
    (stepped : race.step (fun _ => tokens) nowSecs call = some after) :
    Alone old tokens nowSecs after := by
  cases alone with
  | load =>
      simp only [AddRace.step, update_unit, Option.some.injEq] at stepped
      subst stepped
      cases elapsed : old.elapsed nowSecs with
      | true => exact .storeWindow elapsed
      | false => exact .fetchAdd elapsed
  | storeWindow elapsed =>
      simp only [AddRace.step, update_unit, Option.some.injEq] at stepped
      subst stepped
      exact .storeTokens elapsed
  | storeTokens elapsed =>
      simp only [AddRace.step, update_unit, Option.some.injEq] at stepped
      subst stepped
      have added : old.add tokens nowSecs = (tokens, ⟨nowSecs, tokens⟩) := if_pos elapsed
      have returned : Alone old tokens nowSecs _ := .done
      rwa [added] at returned
  | fetchAdd active =>
      simp only [AddRace.step, update_unit, Option.some.injEq] at stepped
      subst stepped
      have added : old.add tokens nowSecs =
          (old.tokens + tokens, ⟨old.windowStart, old.tokens + tokens⟩) := if_neg (by simp [active])
      have returned : Alone old tokens nowSecs _ := .done
      rwa [added] at returned
  | done => cases stepped

theorem Alone.run (alone : Alone old tokens nowSecs race) {schedule : List Unit}
    (ran : race.run (fun _ => tokens) nowSecs schedule = some after) :
    Alone old tokens nowSecs after := by
  induction schedule generalizing race with
  | nil =>
      cases ran
      exact alone
  | cons call schedule ih =>
      rw [run_cons, Option.bind_eq_some_iff] at ran
      rcases ran with ⟨middle, stepped, ran⟩
      exact ih (alone.step stepped) ran

/-- Whatever its steps are, the only call does what `add` does. -/
theorem counter_of_alone {schedule : List Unit}
    (ran : (start old).run (fun _ => tokens) nowSecs schedule = some after)
    (complete : after.Complete) : after.counter = (old.add tokens nowSecs).2 := by
  have returned := complete ()
  cases Alone.run .load ran with
  | done => rfl
  | _ => cases returned

end

/-! ## What a step does -/

/-- The four kinds of steps. -/
inductive Stepped (race : AddRace ι) (call : ι) : AddRace ι → Prop
  | load (fresh : race.next call = .load) :
      Stepped race call ⟨race.counter, Function.update race.next call
        (if race.counter.elapsed nowSecs then .storeWindow else .fetchAdd)⟩
  | storeWindow (resetting : race.next call = .storeWindow) :
      Stepped race call
        ⟨⟨nowSecs, race.counter.tokens⟩, Function.update race.next call .storeTokens⟩
  | storeTokens (resetting : race.next call = .storeTokens) :
      Stepped race call
        ⟨⟨race.counter.windowStart, tokens call⟩,
          Function.update race.next call (.done (tokens call))⟩
  | fetchAdd (adding : race.next call = .fetchAdd) :
      Stepped race call
        ⟨⟨race.counter.windowStart, race.counter.tokens + tokens call⟩,
          Function.update race.next call (.done (race.counter.tokens + tokens call))⟩

variable {tokens nowSecs} {race after : AddRace ι} {call : ι}

theorem step_spec (stepped : race.step tokens nowSecs call = some after) :
    Stepped tokens nowSecs race call after := by
  simp only [step] at stepped
  split at stepped
  · next fresh =>
      cases stepped
      exact .load fresh
  · next resetting =>
      cases stepped
      exact .storeWindow resetting
  · next resetting =>
      cases stepped
      exact .storeTokens resetting
  · next adding =>
      cases stepped
      exact .fetchAdd adding
  · cases stepped

/-! ## What has been counted -/

section

variable [Fintype ι]

omit [DecidableEq ι] in
variable (tokens) in
/-- The exact sum of the calls that have returned. -/
def finished (race : AddRace ι) : Nat :=
  ∑ call, if (race.next call).isDone then (tokens call).toNat else 0

theorem finished_update (counter : TpmCounter) (next : AddStep)
    (running : (race.next call).isDone = false) :
    finished tokens ⟨counter, Function.update race.next call next⟩ =
      finished tokens race + if next.isDone then (tokens call).toNat else 0 := by
  have pointwise : (fun other => if (Function.update race.next call next other).isDone then
      (tokens other).toNat else 0) =
        Function.update (fun other => if (race.next other).isDone then (tokens other).toNat
          else 0) call (if next.isDone then (tokens call).toNat else 0) := by
    funext other
    by_cases same : other = call
    · subst same
      simp
    · simp [same]
  rw [finished, finished, pointwise, Finset.sum_update_of_mem (Finset.mem_univ call),
    Finset.sdiff_singleton_eq_erase, ← Finset.add_sum_erase _ _ (Finset.mem_univ call),
    running]
  simp only [Bool.false_eq_true, if_false]
  omega

omit [DecidableEq ι] in
theorem finished_complete (complete : race.Complete) :
    finished tokens race = ∑ call, (tokens call).toNat := by
  rw [finished]
  apply Finset.sum_congr rfl
  intro call _
  rw [if_pos (complete call)]

omit [DecidableEq ι] in
theorem finished_start (old : TpmCounter) : finished tokens (start old : AddRace ι) = 0 := by
  simp [finished, start]

variable (tokens) in
/-- What the last store of tokens has overwritten once a call has made its next step: the
sum of the calls that had returned by then. -/
def overwrite (race : AddRace ι) (call : ι) (last : Option Nat) : Option Nat :=
  match race.next call with
  | .storeTokens => some (finished tokens race)
  | _ => last

variable (tokens nowSecs) in
/-- What the last store of tokens of a schedule overwrites. -/
def overwritten (race : AddRace ι) (last : Option Nat) : List ι → Option Nat
  | [] => last
  | call :: schedule =>
      match race.step tokens nowSecs call with
      | none => last
      | some after =>
          overwritten after (race.overwrite tokens call last) schedule

theorem overwritten_cons (stepped : race.step tokens nowSecs call = some after)
    (last : Option Nat) (schedule : List ι) :
    race.overwritten tokens nowSecs last (call :: schedule) =
      after.overwritten tokens nowSecs (race.overwrite tokens call last) schedule := by
  simp only [overwritten, stepped]

theorem overwritten_append {before : List ι}
    (ran : race.run tokens nowSecs before = some after) (last : Option Nat)
    (schedule : List ι) :
    race.overwritten tokens nowSecs last (before ++ schedule) =
      after.overwritten tokens nowSecs (race.overwritten tokens nowSecs last before)
        schedule := by
  induction before generalizing race last with
  | nil =>
      cases ran
      rfl
  | cons call before ih =>
      rcases Schedule.run_cons.mp ran with ⟨middle, stepped, rest⟩
      rw [List.cons_append, overwritten_cons stepped, overwritten_cons stepped, ih rest]

/-- In a window that has not elapsed every call adds its tokens. -/
structure Adding (nowSecs : UInt64) (race : AddRace ι) : Prop where
  active : race.counter.elapsed nowSecs = false
  adding : ∀ call, race.next call = .load ∨ race.next call = .fetchAdd ∨
    (race.next call).isDone

/-- The window has elapsed: what the counter lacks is what the last store overwrote. -/
inductive Resetting (tokens : ι → UInt64) (old : TpmCounter) (race : AddRace ι) :
    Option Nat → Prop
  | unopened (untouched : race.counter = old)
      (waiting : ∀ call, race.next call = .load ∨ race.next call = .storeWindow) :
      Resetting tokens old race none
  | opening (call : ι) (resetting : race.next call = .storeTokens) :
      Resetting tokens old race none
  | stored (storer : ι) (lost : Nat)
      (counted : (race.counter.tokens.toNat + lost) % 2 ^ 64 =
        finished tokens race % 2 ^ 64) :
      Resetting tokens old race (some lost)

theorem step_adding (adding : race.Adding nowSecs)
    (stepped : race.step tokens nowSecs call = some after) :
    after.Adding nowSecs ∧ race.next call ≠ .storeTokens ∧
      (after.counter.tokens.toNat + finished tokens race) % 2 ^ 64 =
        (race.counter.tokens.toNat + finished tokens after) % 2 ^ 64 := by
  have kinds := adding.adding
  have kept : ∀ next : AddStep, next = .load ∨ next = .fetchAdd ∨ next.isDone →
      ∀ other, Function.update race.next call next other = .load ∨
        Function.update race.next call next other = .fetchAdd ∨
        (Function.update race.next call next other).isDone := by
    intro next kind other
    by_cases same : other = call
    · subst same
      rwa [Function.update_self]
    · rw [Function.update_of_ne same]
      exact kinds other
  cases step_spec stepped with
  | load fresh =>
      rw [adding.active, if_neg Bool.false_ne_true]
      constructor
      · exact ⟨adding.active, kept _ (.inr (.inl rfl))⟩
      · constructor
        · rw [fresh]
          exact AddStep.noConfusion
        · rw [finished_update _ _ (by rw [fresh]; rfl)]
          rfl
  | storeWindow resetting =>
      have impossible := kinds call
      simp [resetting] at impossible
  | storeTokens resetting =>
      have impossible := kinds call
      simp [resetting] at impossible
  | fetchAdd fetching =>
      constructor
      · exact ⟨adding.active, kept _ (.inr (.inr rfl))⟩
      · constructor
        · rw [fetching]
          exact AddStep.noConfusion
        · rw [finished_update _ _ (by rw [fetching]; rfl), UInt64.toNat_add,
            if_pos (AddStep.isDone_done _)]
          omega

theorem Resetting.stays_opening {old : TpmCounter} (counter : TpmCounter) (next : AddStep)
    {first : ι} (opening : race.next first = .storeTokens)
    (different : race.next call ≠ .storeTokens) :
    Resetting tokens old ⟨counter, Function.update race.next call next⟩ none := by
  apply Resetting.opening first
  have others : first ≠ call := by
    intro same
    subst same
    exact different opening
  exact (Function.update_of_ne others ..).trans opening

theorem step_resetting {old : TpmCounter} (elapsed : old.elapsed nowSecs = true)
    {last : Option Nat} (resetting : Resetting tokens old race last)
    (stepped : race.step tokens nowSecs call = some after) :
    Resetting tokens old after (race.overwrite tokens call last) := by
  cases step_spec stepped with
  | load fresh =>
      simp only [overwrite, fresh]
      cases resetting with
      | unopened untouched waiting =>
          rw [untouched, elapsed, if_pos rfl]
          apply Resetting.unopened
          · rfl
          · intro other
            by_cases same : other = call
            · subst same
              exact .inr (Function.update_self ..)
            · exact (waiting other).imp (Function.update_of_ne same ..).trans
                (Function.update_of_ne same ..).trans
      | opening first opening =>
          exact .stays_opening _ _ opening (by simp [fresh])
      | stored storer lost counted =>
          apply Resetting.stored storer
          rw [finished_update _ _ (by rw [fresh]; rfl)]
          split <;> simpa using counted
  | storeWindow storing =>
      simp only [overwrite, storing]
      cases resetting with
      | unopened untouched waiting =>
          exact .opening call (Function.update_self ..)
      | opening first opening =>
          exact .opening call (Function.update_self ..)
      | stored storer lost counted =>
          apply Resetting.stored storer
          rw [finished_update _ _ (by rw [storing]; rfl)]
          simpa using counted
  | storeTokens storing =>
      simp only [overwrite, storing]
      apply Resetting.stored call
      rw [finished_update _ _ (by rw [storing]; rfl), if_pos (AddStep.isDone_done _),
        Nat.add_comm]
  | fetchAdd fetching =>
      simp only [overwrite, fetching]
      cases resetting with
      | unopened untouched waiting =>
          have impossible := waiting call
          simp [fetching] at impossible
      | opening first opening =>
          exact .stays_opening _ _ opening (by simp [fetching])
      | stored storer lost counted =>
          apply Resetting.stored storer
          rw [finished_update _ _ (by rw [fetching]; rfl), UInt64.toNat_add,
            if_pos (AddStep.isDone_done _)]
          omega

/-! ## What a run does -/

theorem run_adding (schedule : List ι) (last : Option Nat) (adding : race.Adding nowSecs)
    (ran : race.run tokens nowSecs schedule = some after) :
    after.Adding nowSecs ∧ race.overwritten tokens nowSecs last schedule = last ∧
      (after.counter.tokens.toNat + finished tokens race) % 2 ^ 64 =
        (race.counter.tokens.toNat + finished tokens after) % 2 ^ 64 := by
  induction schedule generalizing race with
  | nil =>
      cases ran
      exact ⟨adding, rfl, rfl⟩
  | cons call schedule ih =>
      rcases Schedule.run_cons.mp ran with ⟨middle, stepped, rest⟩
      rcases step_adding adding stepped with ⟨still, different, counted⟩
      rcases ih still rest with ⟨ending, same, total⟩
      have nothing : race.overwrite tokens call last = last := by
        cases next : race.next call with
        | storeTokens => exact absurd next different
        | load | storeWindow | fetchAdd | done => simp only [overwrite, next]
      constructor
      · exact ending
      · constructor
        · rw [overwritten_cons stepped, nothing]
          exact same
        · omega

theorem run_resetting {old : TpmCounter} (elapsed : old.elapsed nowSecs = true)
    (schedule : List ι) {last : Option Nat} (resetting : Resetting tokens old race last)
    (ran : race.run tokens nowSecs schedule = some after) :
    Resetting tokens old after (race.overwritten tokens nowSecs last schedule) := by
  induction schedule generalizing race last with
  | nil =>
      cases ran
      exact resetting
  | cons call schedule ih =>
      rcases Schedule.run_cons.mp ran with ⟨middle, stepped, rest⟩
      rw [overwritten_cons stepped]
      exact ih (step_resetting elapsed resetting stepped) rest

/-- Stores that find nothing counted overwrite nothing. -/
theorem overwritten_nothing
    (nothing : ∀ (race : AddRace ι) (call : ι), race.next call = .storeTokens →
      finished tokens race = 0)
    (schedule : List ι) {last : Option Nat} (before : last.getD 0 = 0) :
    (race.overwritten tokens nowSecs last schedule).getD 0 = 0 := by
  induction schedule generalizing race last with
  | nil => exact before
  | cons call schedule ih =>
      simp only [overwritten]
      split
      · exact before
      · apply ih
        simp only [overwrite]
        split
        · next storing => exact nothing race call storing
        · exact before

/-! ## What the counter ends with -/

variable (tokens nowSecs) in
/-- The tokens of all calls are counted, and the old ones exactly when their window has
not elapsed. -/
def CountsAll (old counter : TpmCounter) : Prop :=
  counter.tokens.toNat =
    (∑ call, (tokens call).toNat +
      if old.elapsed nowSecs then 0 else old.tokens.toNat) % 2 ^ 64

/-- A run counts all tokens exactly when its last store overwrites none. -/
theorem run_countsAll_iff {old : TpmCounter} {schedule : List ι}
    (ran : (start old).run tokens nowSecs schedule = some after)
    (complete : after.Complete) :
    CountsAll tokens nowSecs old after.counter ↔
      ((start old).overwritten tokens nowSecs none schedule).getD 0 % 2 ^ 64 = 0 ∧
        (IsEmpty ι → old.elapsed nowSecs → old.tokens = 0) := by
  have bound := after.counter.tokens.toNat_lt
  cases elapsed : old.elapsed nowSecs with
  | false =>
      have adding : (start old : AddRace ι).Adding nowSecs :=
        ⟨elapsed, fun _ => .inl rfl⟩
      rcases run_adding schedule none adding ran with ⟨-, nothing, counted⟩
      rw [finished_start, finished_complete complete] at counted
      rw [nothing]
      simp only [Option.getD_none, Nat.zero_mod, Bool.false_eq_true, false_implies,
        implies_true, and_self, iff_true]
      rw [CountsAll, elapsed, if_neg Bool.false_ne_true]
      change _ = (old.tokens.toNat + _) % 2 ^ 64 at counted
      omega
  | true =>
      have resetting : Resetting tokens old (start old : AddRace ι) none :=
        .unopened rfl (fun _ => .inl rfl)
      have ending := run_resetting elapsed schedule resetting ran
      rw [CountsAll, elapsed, if_pos rfl, Nat.add_zero]
      generalize (start old).overwritten tokens nowSecs none schedule = last at ending
      cases ending with
      | unopened untouched waiting =>
          have empty : IsEmpty ι := by
            constructor
            intro call
            have done := complete call
            rcases waiting call with fresh | storing
            · simp [fresh] at done
            · simp [storing] at done
          rw [untouched, Finset.univ_eq_empty, Finset.sum_empty]
          simp [empty, UInt64.toNat_inj.symm]
      | opening call storing =>
          have done := complete call
          simp [storing] at done
      | stored storer lost counted =>
          have inhabited : ¬ IsEmpty ι := fun empty => empty.elim storer
          rw [finished_complete complete] at counted
          simp only [inhabited, false_implies, and_true, Option.getD_some]
          omega

/-! ## Completing a run -/

omit [Fintype ι] in
theorem step_isDone {mover : ι} (done : (race.next call).isDone)
    (stepped : race.step tokens nowSecs mover = some after) : (after.next call).isDone := by
  by_cases same : call = mover
  · subst same
    cases step_spec stepped <;> simp_all
  · cases step_spec stepped <;> simpa [same] using done

omit [Fintype ι] in
theorem run_isDone (schedule : List ι) (ran : race.run tokens nowSecs schedule = some after)
    (done : (race.next call).isDone) : (after.next call).isDone :=
  Schedule.invariant (fun race => (race.next call).isDone) step_isDone done schedule ran

omit [Fintype ι] in
variable (tokens) in
/-- While the window has not elapsed, a call can run to its end. -/
theorem exists_return (adding : race.Adding nowSecs) (call : ι) :
    ∃ schedule after, race.run tokens nowSecs schedule = some after ∧
      (after.next call).isDone := by
  rcases adding.adding call with fresh | fetching | done
  · constructor
    constructor
    constructor
    · exact run_alone_active fresh adding.active
    · simp
  · constructor
    constructor
    constructor
    · exact run_alone_fetching fetching
    · simp
  · exact ⟨[], race, rfl, done⟩

theorem exists_completion (adding : race.Adding nowSecs) :
    ∃ schedule after, race.run tokens nowSecs schedule = some after ∧ after.Complete := by
  suffices some_done : ∀ calls : Finset ι, ∃ schedule after,
      race.run tokens nowSecs schedule = some after ∧
        ∀ call ∈ calls, (after.next call).isDone by
    rcases some_done Finset.univ with ⟨schedule, after, ran, done⟩
    exact ⟨schedule, after, ran, fun call => done call (Finset.mem_univ call)⟩
  intro calls
  induction calls using Finset.induction_on with
  | empty => exact ⟨[], race, rfl, by simp⟩
  | insert call calls new ih =>
      rcases ih with ⟨schedule, middle, ran, done⟩
      rcases exists_return tokens (run_adding schedule none adding ran).1 call with
        ⟨returning, after, returned, last⟩
      use schedule ++ returning, after
      constructor
      · rw [run_append, ran]
        exact returned
      · intro other membership
        rcases Finset.mem_insert.mp membership with same | earlier
        · rwa [same]
        · exact run_isDone returning returned (done other earlier)

/-! ## A store that overwrites -/

theorem finished_single (only : ∀ other, (race.next other).isDone ↔ other = call) :
    finished tokens race = (tokens call).toNat := by
  rw [finished]
  simp only [only, Finset.sum_ite_eq', Finset.mem_univ, if_true]

variable (tokens) in
/-- Two calls find the window elapsed.  The first stores its tokens only after the second
has returned, and what the second counted is lost. -/
theorem exists_overwrite {old : TpmCounter} (elapsed : old.elapsed nowSecs = true)
    {first second : ι} (different : first ≠ second) :
    ∃ schedule after, (start old).run tokens nowSecs schedule = some after ∧
      after.Complete ∧
        (start old).overwritten tokens nowSecs none schedule =
          some (tokens second).toNat := by
  -- the first call finds the window elapsed, and the second returns before it stores
  let stored : AddRace ι := {
    counter := ⟨nowSecs, tokens second⟩
    next := Function.update (Function.update (fun _ => .load) second
      (.done (tokens second))) first .storeTokens }
  let both : AddRace ι := {
    counter := ⟨nowSecs, tokens first⟩
    next := Function.update (Function.update (fun _ => .load) second
      (.done (tokens second))) first (.done (tokens first)) }
  have begun : (start old).run tokens nowSecs [first, second, second, second, first] =
      some stored := by
    simp [run, step, start, elapsed, different.symm, stored,
      Function.update_comm different]
  have storing : stored.step tokens nowSecs first = some both := by
    simp [step, stored, both]
  have adding : both.Adding nowSecs := by
    constructor
    · simp [both, TpmCounter.elapsed, saturatingSub]
    · intro call
      by_cases isFirst : call = first
      · simp [both, isFirst]
      · by_cases isSecond : call = second
        · simp [both, isSecond, different.symm]
        · simp [both, isFirst, isSecond]
  have lost : finished tokens stored = (tokens second).toNat := by
    apply finished_single
    intro other
    by_cases isFirst : other = first
    · simp [stored, isFirst, different]
    · by_cases isSecond : other = second
      · simp [stored, isSecond, different.symm]
      · simp [stored, isFirst, isSecond]
  rcases exists_completion adding with ⟨rest, after, ran, complete⟩
  use [first, second, second, second, first] ++ first :: rest, after
  constructor
  · rw [run_append, begun, Option.bind_some, run_cons, storing, Option.bind_some, ran]
  · constructor
    · exact complete
    · have overwriting : ∀ last, stored.overwrite tokens first last =
          some (tokens second).toNat := by
        intro last
        simp [overwrite, stored, ← lost]
      rw [overwritten_append begun, overwritten_cons storing, overwriting]
      exact (run_adding rest _ adding ran).2.1

/-! ## When no update is lost -/

/-- What a call counts can be lost to another one. -/
theorem tokens_eq_zero_of_countsAll {old : TpmCounter} (elapsed : old.elapsed nowSecs = true)
    (counts : ∀ (schedule : List ι) (after : AddRace ι),
      (start old).run tokens nowSecs schedule = some after → after.Complete →
        CountsAll tokens nowSecs old after.counter)
    {first second : ι} (different : first ≠ second) : tokens second = 0 := by
  rcases exists_overwrite tokens elapsed different with ⟨schedule, after, ran, complete, lost⟩
  have nothing := ((run_countsAll_iff ran complete).mp (counts schedule after ran complete)).1
  rw [lost, Option.getD_some, Nat.mod_eq_of_lt (tokens second).toNat_lt] at nothing
  exact UInt64.toNat_inj.mp nothing

omit [DecidableEq ι] in
/-- A single call has not returned when it stores its tokens. -/
theorem finished_of_alone (alone : Fintype.card ι = 1)
    (storing : race.next call = .storeTokens) : finished tokens race = 0 := by
  rcases Fintype.card_eq_one_iff.mp alone with ⟨only, unique⟩
  rw [finished]
  apply Finset.sum_eq_zero
  intro other _
  rw [unique other, ← unique call, storing]
  rfl

/-- **Concurrent adds.**  A run of concurrent calls counts all their tokens exactly when its
last store of tokens overwrites none.  All runs do exactly when the window has not elapsed,
or there is only one call, or there are no tokens to lose. -/
theorem add_countsAll_iff (tokens : ι → UInt64) (nowSecs : UInt64) (old : TpmCounter) :
    (∀ (schedule : List ι) (after : AddRace ι),
      (start old).run tokens nowSecs schedule = some after → after.Complete →
        (CountsAll tokens nowSecs old after.counter ↔
          ((start old).overwritten tokens nowSecs none schedule).getD 0 % 2 ^ 64 = 0 ∧
            (IsEmpty ι → old.elapsed nowSecs → old.tokens = 0))) ∧
      ((∀ (schedule : List ι) (after : AddRace ι),
        (start old).run tokens nowSecs schedule = some after → after.Complete →
          CountsAll tokens nowSecs old after.counter) ↔
        old.elapsed nowSecs = false ∨ Fintype.card ι = 1 ∨
          ((∀ call, tokens call = 0) ∧ (IsEmpty ι → old.tokens = 0))) := by
  constructor
  · intro schedule after ran complete
    exact run_countsAll_iff ran complete
  · constructor
    · intro counts
      cases elapsed : old.elapsed nowSecs with
      | false => exact .inl rfl
      | true =>
          right
          rw [or_iff_not_imp_left]
          intro several
          constructor
          · intro second
            have another : ∃ first, first ≠ second := by
              by_contra alone
              apply several
              rw [Fintype.card_eq_one_iff]
              use second
              intro other
              by_contra different
              exact alone ⟨other, different⟩
            rcases another with ⟨first, different⟩
            exact tokens_eq_zero_of_countsAll elapsed counts different
          · intro empty
            have ran : (start old).run tokens nowSecs [] = some (start old) := rfl
            have complete : (start old : AddRace ι).Complete := fun call => empty.elim call
            have untouched := (run_countsAll_iff ran complete).mp (counts [] _ ran complete)
            exact untouched.2 empty elapsed
    · intro condition schedule after ran complete
      apply (run_countsAll_iff ran complete).mpr
      rcases condition with active | alone | zero
      · have adding : (start old : AddRace ι).Adding nowSecs := ⟨active, fun _ => .inl rfl⟩
        rw [(run_adding schedule none adding ran).2.1]
        simp [active]
      · constructor
        · have nothing : ∀ (race : AddRace ι) (call : ι), race.next call = .storeTokens →
              finished tokens race = 0 := fun _ _ storing => finished_of_alone alone storing
          rw [overwritten_nothing nothing schedule rfl, Nat.zero_mod]
        · intro empty
          rw [← Fintype.card_eq_zero_iff] at empty
          omega
      · constructor
        · have nothing : ∀ (race : AddRace ι) (call : ι), race.next call = .storeTokens →
              finished tokens race = 0 := by
            intro race call storing
            simp [finished, zero.1]
          rw [overwritten_nothing nothing schedule rfl, Nat.zero_mod]
        · intro empty _
          exact zero.2 empty

/-- Two calls of one elapsed window: the second returns a total of 7, which the first
overwrites with its 5. -/
theorem add_loses_update :
    ¬ ∀ (schedule : List Bool) (after : AddRace Bool),
      (start ⟨0, 3⟩).run (fun call => if call then 7 else 5) 60 schedule = some after →
        after.Complete →
          CountsAll (fun call : Bool => if call then 7 else 5) 60 ⟨0, 3⟩ after.counter := by
  intro counts
  have ran : ((start ⟨0, 3⟩).run (fun call => if call then 7 else 5) 60
      [false, true, true, true, false, false]).map
        (fun after => (after.counter, after.next false, after.next true)) =
          some (⟨60, 5⟩, .done 5, .done 7) := by
    decide
  rcases Option.map_eq_some_iff.mp ran with ⟨after, ran, ends⟩
  rcases Prod.mk.inj ends with ⟨counter, returned⟩
  rcases Prod.mk.inj returned with ⟨first, second⟩
  have complete : after.Complete := by
    intro call
    cases call with
    | false => rw [first]; rfl
    | true => rw [second]; rfl
  have total := counts _ after ran complete
  rw [CountsAll, counter] at total
  revert total
  decide

end

end AddRace

end Patchbay
