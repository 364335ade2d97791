import Mathlib.Algebra.BigOperators.Group.Finset.Piecewise
import Mathlib.Data.List.Induction
import Patchbay.Lib.Schedule
import Patchbay.Lib.SharedTable

/-!
# Shared counters

Threads that add to the counters of a shared table.  A thread looks its key up, creates
the counter if it found none, and from then on adds to the counter without the table.
Lookup and creation are two steps, so that two threads may both find none.
-/

universe u w

namespace SharedTable

variable {κ : Type u} {M : Type} [DecidableEq κ]

/-! ## Totals -/

/-- What the cell of a key holds; an absent one holds nothing yet. -/
def value [Zero M] (table : SharedTable κ M) (key : κ) : M := (table.content key).getD 0

@[simp] theorem value_orInsert [Zero M] (table : SharedTable κ M) (key other : κ) :
    (table.orInsert key 0).2.value other = table.value other := by
  rw [value, value]
  by_cases same : other = key
  · subst same
    rw [content_orInsert_self, Option.getD_some]
  · rw [content_orInsert_of_ne table key 0 same]

theorem value_modify_add [AddMonoid M] {table : SharedTable κ M} {key : κ} {id : Nat}
    (held : table.lookup key = some id) (amount : M) (other : κ) :
    (table.modify id (· + amount)).value other =
      table.value other + if key = other then amount else 0 := by
  rw [value, value]
  by_cases same : other = key
  · subst same
    rcases exists_content held with ⟨content, found⟩
    rw [content_modify_self _ held, if_pos rfl, found]
    rfl
  · rw [content_modify_of_ne _ held same, if_neg (Ne.symm same), add_zero]

end SharedTable

/-! ## Threads that add -/

/-- What is added to the counter of one key, in one atomic addition after the other. -/
structure Addition (κ : Type u) (M : Type) where
  key : κ
  amounts : List M

/-- Where a thread stands in its current addition. -/
inductive Progress (M : Type) where
  | lookup
  | insert
  /-- It has its cell and the amounts that are left. -/
  | adding (id : Nat) (amounts : List M)

/-- A thread: its current addition and those to come. -/
structure Adder (κ : Type u) (M : Type) where
  progress : Progress M
  additions : List (Addition κ M)

/-- A table and the threads that add to its counters. -/
structure SharedCounters (ι : Type w) (κ : Type u) (M : Type) [DecidableEq κ] where
  table : SharedTable κ M
  adders : ι → Adder κ M

namespace Adder

variable {κ : Type u} {M : Type} [DecidableEq κ] [AddCommMonoid M]

/-- The next atomic step of a thread: a look under the read lock, an insertion under the
write lock, or one addition to the cell; or its return from an addition. -/
def step (table : SharedTable κ M) (adder : Adder κ M) :
    Option (SharedTable κ M × Adder κ M) :=
  match adder.additions with
  | [] => none
  | addition :: additions =>
      match adder.progress with
      | .lookup =>
          match table.lookup addition.key with
          | some id => some (table, { adder with progress := .adding id addition.amounts })
          | none => some (table, { adder with progress := .insert })
      | .insert =>
          let inserted := table.orInsert addition.key 0
          some (inserted.2,
            { adder with progress := .adding inserted.1 addition.amounts })
      | .adding id (amount :: amounts) =>
          some (table.modify id (· + amount), { adder with progress := .adding id amounts })
      | .adding _ [] => some (table, ⟨.lookup, additions⟩)

/-- What is to be added to a key. -/
def sumOf (additions : List (Addition κ M)) (key : κ) : M :=
  (additions.map fun addition =>
    if addition.key = key then addition.amounts.sum else 0).sum

/-- What a thread has yet to add to a key. -/
def remaining (adder : Adder κ M) (key : κ) : M :=
  match adder.progress, adder.additions with
  | .adding _ amounts, addition :: additions =>
      (if addition.key = key then amounts.sum else 0) + sumOf additions key
  | _, additions => sumOf additions key

theorem sumOf_cons (addition : Addition κ M) (additions : List (Addition κ M)) (key : κ) :
    sumOf (addition :: additions) key =
      (if addition.key = key then addition.amounts.sum else 0) + sumOf additions key := by
  simp [sumOf]

/-- The kinds of steps. -/
inductive Stepped (table : SharedTable κ M) :
    Adder κ M → SharedTable κ M → Adder κ M → Prop
  | found {addition additions} {id : Nat} (found : table.lookup addition.key = some id) :
      Stepped table ⟨.lookup, addition :: additions⟩
        table ⟨.adding id addition.amounts, addition :: additions⟩
  | missed {addition additions} (absent : table.lookup addition.key = none) :
      Stepped table ⟨.lookup, addition :: additions⟩ table ⟨.insert, addition :: additions⟩
  | inserted {addition additions} :
      Stepped table ⟨.insert, addition :: additions⟩ (table.orInsert addition.key 0).2
        ⟨.adding (table.orInsert addition.key 0).1 addition.amounts, addition :: additions⟩
  | added {addition additions} {id : Nat} {amount : M} {amounts : List M} :
      Stepped table ⟨.adding id (amount :: amounts), addition :: additions⟩
        (table.modify id (· + amount)) ⟨.adding id amounts, addition :: additions⟩
  | returned {addition additions} {id : Nat} :
      Stepped table ⟨.adding id [], addition :: additions⟩ table ⟨.lookup, additions⟩

theorem step_spec {table after : SharedTable κ M} {adder next : Adder κ M}
    (stepped : adder.step table = some (after, next)) : Stepped table adder after next := by
  rcases adder with ⟨progress, additions⟩
  cases additions with
  | nil => cases stepped
  | cons addition additions =>
      cases progress with
      | lookup =>
          simp only [step] at stepped
          split at stepped
          · next found =>
              cases stepped
              exact .found found
          · next absent =>
              cases stepped
              exact .missed absent
      | insert =>
          cases stepped
          exact .inserted
      | adding id amounts =>
          cases amounts with
          | nil =>
              cases stepped
              exact .returned
          | cons amount amounts =>
              cases stepped
              exact .added

/-- A thread that is adding holds the cell of its key. -/
def Holds (table : SharedTable κ M) (adder : Adder κ M) : Prop :=
  ∀ id amounts addition additions,
    adder = ⟨.adding id amounts, addition :: additions⟩ → table.lookup addition.key = some id

/-- What a step adds to the table is no longer to be added. -/
theorem step_conserves {table after : SharedTable κ M} {adder next : Adder κ M}
    (holds : adder.Holds table) (stepped : adder.step table = some (after, next)) (key : κ) :
    after.value key + next.remaining key = table.value key + adder.remaining key := by
  cases step_spec stepped with
  | found found => simp only [remaining, sumOf_cons]
  | missed absent => simp only [remaining]
  | inserted => simp only [remaining, sumOf_cons, SharedTable.value_orInsert]
  | @added addition additions id amount amounts =>
      rw [SharedTable.value_modify_add (holds id _ addition additions rfl)]
      by_cases same : addition.key = key
      · simp only [remaining, same, if_true, List.sum_cons, add_assoc]
      · simp only [remaining, same, if_false, add_zero]
  | returned =>
      simp [remaining]

/-- No step takes a key's cell away. -/
theorem step_lookup {table after : SharedTable κ M} {adder next : Adder κ M}
    (stepped : adder.step table = some (after, next)) {key : κ} {id : Nat}
    (found : table.lookup key = some id) : after.lookup key = some id := by
  cases step_spec stepped with
  | found | missed | returned => exact found
  | inserted => exact table.lookup_orInsert_of_some _ 0 found
  | added => exact found

/-- A step creates no cell but that of the current addition. -/
theorem step_created {table after : SharedTable κ M} {adder next : Adder κ M}
    (stepped : adder.step table = some (after, next)) {key : κ}
    (created : after.lookup key ≠ none) :
    table.lookup key ≠ none ∨ ∃ addition ∈ adder.additions, addition.key = key := by
  cases step_spec stepped with
  | found | missed | returned | added => exact .inl created
  | @inserted addition additions =>
      by_cases same : key = addition.key
      · right
        use addition, List.mem_cons_self
        exact same.symm
      · left
        rwa [table.lookup_orInsert_of_ne _ 0 same] at created

theorem step_holds {table after : SharedTable κ M} {adder next : Adder κ M}
    (holds : adder.Holds table) (stepped : adder.step table = some (after, next)) :
    next.Holds after := by
  intro id amounts addition additions same
  cases step_spec stepped with
  | found found =>
      cases same
      exact found
  | missed absent => cases same
  | inserted =>
      cases same
      exact table.lookup_orInsert_self _ 0
  | added =>
      cases same
      exact holds _ _ _ _ rfl
  | returned => cases same

/-- A thread is done with an addition once the cell of its key is there. -/
theorem step_additions {table after : SharedTable κ M} {adder next : Adder κ M}
    (holds : adder.Holds table) (stepped : adder.step table = some (after, next)) :
    next.additions = adder.additions ∨
      ∃ addition, adder.additions = addition :: next.additions ∧
        after.lookup addition.key ≠ none := by
  cases step_spec stepped with
  | found | missed | inserted | added => exact .inl rfl
  | @returned addition additions id =>
      right
      use addition, rfl
      rw [holds id [] addition additions rfl]
      exact Option.some_ne_none id

/-! ### A thread by itself -/

/-- Some steps of one thread. -/
def advance : Nat → SharedTable κ M × Adder κ M → Option (SharedTable κ M × Adder κ M)
  | 0, state => some state
  | steps + 1, state => (state.2.step state.1).bind (advance steps)

theorem advance_adding {table : SharedTable κ M} {id : Nat} {addition : Addition κ M}
    (held : table.lookup addition.key = some id) (amounts : List M)
    (additions : List (Addition κ M)) :
    ∃ after, advance (amounts.length + 1)
        (table, ⟨.adding id amounts, addition :: additions⟩) =
          some (after, ⟨.lookup, additions⟩) ∧
      after.toTable = table.toTable.update addition.key 0 (· + amounts.sum) := by
  induction amounts generalizing table with
  | nil =>
      rcases SharedTable.exists_content held with ⟨content, found⟩
      use table, rfl
      apply SharedTable.toTable_eq_update
      · simp [found]
      · intro other _
        rfl
  | cons amount amounts ih =>
      have stillHeld : (table.modify id (· + amount)).lookup addition.key = some id := held
      rcases ih stillHeld with ⟨after, advanced, total⟩
      use after, advanced
      rw [total, SharedTable.toTable_modify held 0, Table.update_update]
      simp only [List.sum_cons, add_assoc]

/-- A thread that nobody interrupts updates the entry of its key. -/
theorem exists_advance (table : SharedTable κ M) (addition : Addition κ M)
    (additions : List (Addition κ M)) :
    ∃ steps after, advance steps (table, ⟨.lookup, addition :: additions⟩) =
        some (after, ⟨.lookup, additions⟩) ∧
      after.toTable =
        table.toTable.update addition.key 0 (· + addition.amounts.sum) := by
  cases found : table.lookup addition.key with
  | some id =>
      rcases advance_adding found addition.amounts additions with ⟨after, advanced, total⟩
      use addition.amounts.length + 1 + 1, after
      rw [advance, step]
      simp only [found, Option.bind_some]
      exact ⟨advanced, total⟩
  | none =>
      have held := table.lookup_orInsert_self addition.key 0
      rcases advance_adding held addition.amounts additions with ⟨after, advanced, total⟩
      use addition.amounts.length + 1 + 1 + 1, after
      rw [advance, step]
      simp only [found, Option.bind_some]
      use advanced
      rw [total, SharedTable.toTable_orInsert, Table.update_update]

end Adder

namespace SharedCounters

variable {ι : Type w} {κ : Type u} {M : Type} [DecidableEq κ] [DecidableEq ι]
  [AddCommMonoid M]

def start (additions : ι → List (Addition κ M)) : SharedCounters ι κ M where
  table := .empty
  adders adder := ⟨.lookup, additions adder⟩

/-- One atomic step of a thread. -/
def step (counters : SharedCounters ι κ M) (adder : ι) : Option (SharedCounters ι κ M) :=
  ((counters.adders adder).step counters.table).map fun stepped =>
    ⟨stepped.1, Function.update counters.adders adder stepped.2⟩

/-- A schedule names the thread of each step. -/
def run (counters : SharedCounters ι κ M) (schedule : List ι) :
    Option (SharedCounters ι κ M) :=
  schedule.foldlM step counters

/-- All threads have added everything. -/
def Complete (counters : SharedCounters ι κ M) : Prop :=
  ∀ adder, (counters.adders adder).additions = []

/-- What holds between the steps of any threads that started with these additions. -/
structure Accounts [Fintype ι] (additions : ι → List (Addition κ M))
    (counters : SharedCounters ι κ M) : Prop where
  holds : ∀ adder, (counters.adders adder).Holds counters.table
  waiting : ∀ adder, ∀ addition ∈ (counters.adders adder).additions,
    addition ∈ additions adder
  passed : ∀ adder, ∀ addition ∈ additions adder,
    addition ∈ (counters.adders adder).additions ∨
      counters.table.lookup addition.key ≠ none
  known : ∀ key, counters.table.lookup key ≠ none →
    ∃ adder, ∃ addition ∈ additions adder, addition.key = key
  conserved : ∀ key,
    counters.table.value key + ∑ adder, (counters.adders adder).remaining key =
      ∑ adder, Adder.sumOf (additions adder) key

variable {additions : ι → List (Addition κ M)} {counters after : SharedCounters ι κ M}
  {adder : ι}

theorem step_spec (stepped : counters.step adder = some after) :
    (counters.adders adder).step counters.table = some (after.table, after.adders adder) ∧
      ∀ other, other ≠ adder → after.adders other = counters.adders other := by
  rcases Option.map_eq_some_iff.mp stepped with ⟨⟨table, next⟩, own, same⟩
  subst same
  constructor
  · rw [own]
    simp
  · intro other different
    exact Function.update_of_ne different ..

theorem run_advance (steps : Nat) {table : SharedTable κ M} {next : Adder κ M}
    (advanced : Adder.advance steps (counters.table, counters.adders adder) =
      some (table, next)) :
    ∃ after, counters.run (List.replicate steps adder) = some after ∧ after.table = table ∧
      after.adders adder = next := by
  induction steps generalizing counters with
  | zero =>
      cases advanced
      exact ⟨counters, rfl, rfl, rfl⟩
  | succ steps ih =>
      rcases Option.bind_eq_some_iff.mp advanced with ⟨⟨between, middle⟩, own, rest⟩
      have moved : ∃ moved, counters.step adder = some moved ∧
          (moved.table, moved.adders adder) = (between, middle) := by
        constructor
        constructor
        · exact Option.map_eq_some_iff.mpr ⟨_, own, rfl⟩
        · simp
      rcases moved with ⟨moved, stepped, same⟩
      rw [← same] at rest
      rcases ih rest with ⟨after, ran, results⟩
      use after
      exact ⟨Schedule.run_cons.mpr ⟨moved, stepped, ran⟩, results⟩

/-- A thread that nobody interrupts makes its additions one after the other. -/
theorem run_alone (additions : List (Addition κ M))
    (fresh : counters.adders adder = ⟨.lookup, additions⟩) :
    ∃ steps after, counters.run (List.replicate steps adder) = some after ∧
      after.adders adder = ⟨.lookup, []⟩ ∧
      after.table.toTable = additions.foldl (fun table addition =>
        table.update addition.key 0 (· + addition.amounts.sum)) counters.table.toTable := by
  induction additions generalizing counters with
  | nil => exact ⟨0, counters, rfl, fresh, rfl⟩
  | cons addition additions ih =>
      rcases Adder.exists_advance counters.table addition additions with
        ⟨steps, table, advanced, first⟩
      rw [← fresh] at advanced
      rcases run_advance steps advanced with ⟨middle, ran, seen, next⟩
      rcases ih next with ⟨more, after, rest, finished, total⟩
      use steps + more, after
      constructor
      · rw [List.replicate_add]
        exact Schedule.run_append.mpr ⟨middle, ran, rest⟩
      · constructor
        · exact finished
        · rw [total, seen, first]
          rfl

variable [Fintype ι]

omit [DecidableEq ι] in
theorem start_accounts : (start additions).Accounts additions where
  holds := by
    intro adder id amounts addition rest same
    cases same
  waiting := by
    intro adder addition membership
    exact membership
  passed := by
    intro adder addition membership
    exact .inl membership
  known := by
    intro key present
    exact absurd rfl present
  conserved := by
    intro key
    exact zero_add _

/-- **Step.** Whichever thread steps, every amount is either in the cell of its key or yet
to be added. -/
theorem step_accounts (accounts : counters.Accounts additions)
    (stepped : counters.step adder = some after) : after.Accounts additions := by
  rcases step_spec stepped with ⟨own, others⟩
  constructor
  · intro other
    by_cases mover : other = adder
    · subst mover
      exact Adder.step_holds (accounts.holds other) own
    · intro id amounts addition rest same
      rw [others other mover] at same
      exact Adder.step_lookup own (accounts.holds other id amounts addition rest same)
  · intro other addition membership
    apply accounts.waiting other
    by_cases mover : other = adder
    · subst mover
      rcases Adder.step_additions (accounts.holds other) own with same | ⟨first, front, -⟩
      · rwa [same] at membership
      · rw [front]
        exact List.mem_cons_of_mem first membership
    · rwa [others other mover] at membership
  · intro other addition membership
    rcases accounts.passed other addition membership with waiting | present
    · by_cases mover : other = adder
      · subst mover
        rcases Adder.step_additions (accounts.holds other) own with same | ⟨first, front, there⟩
        · rw [same]
          exact .inl waiting
        · rw [front] at waiting
          rcases List.mem_cons.mp waiting with isFirst | later
          · subst isFirst
            exact .inr there
          · exact .inl later
      · rw [others other mover]
        exact .inl waiting
    · right
      rcases Option.ne_none_iff_exists'.mp present with ⟨id, found⟩
      rw [Adder.step_lookup own found]
      exact Option.some_ne_none id
  · intro key present
    rcases Adder.step_created own present with before | ⟨addition, membership, same⟩
    · exact accounts.known key before
    · exact ⟨adder, addition, accounts.waiting adder addition membership, same⟩
  · intro key
    have unmoved : ∑ other ∈ Finset.univ.erase adder, (after.adders other).remaining key =
        ∑ other ∈ Finset.univ.erase adder, (counters.adders other).remaining key := by
      apply Finset.sum_congr rfl
      intro other membership
      rw [others other (Finset.ne_of_mem_erase membership)]
    calc after.table.value key + ∑ other, (after.adders other).remaining key
        = (after.table.value key + (after.adders adder).remaining key) +
            ∑ other ∈ Finset.univ.erase adder, (after.adders other).remaining key := by
          rw [← Finset.add_sum_erase _ _ (Finset.mem_univ adder), add_assoc]
      _ = (counters.table.value key + (counters.adders adder).remaining key) +
            ∑ other ∈ Finset.univ.erase adder, (counters.adders other).remaining key := by
          rw [Adder.step_conserves (accounts.holds adder) own, unmoved]
      _ = counters.table.value key + ∑ other, (counters.adders other).remaining key := by
          rw [← Finset.add_sum_erase _ _ (Finset.mem_univ adder), add_assoc]
      _ = ∑ other, Adder.sumOf (additions other) key := accounts.conserved key

/-- **Run.** -/
theorem run_accounts (accounts : counters.Accounts additions) (schedule : List ι)
    (ran : counters.run schedule = some after) : after.Accounts additions :=
  Schedule.invariant _ step_accounts accounts schedule ran

omit [DecidableEq ι] in
/-- In the end the cell of a key holds all that was to be added to it. -/
theorem Accounts.content (accounts : counters.Accounts additions)
    (complete : counters.Complete) {adder : ι} {addition : Addition κ M}
    (membership : addition ∈ additions adder) :
    counters.table.content addition.key =
      some (∑ other, Adder.sumOf (additions other) addition.key) := by
  have nothing : ∑ other, (counters.adders other).remaining addition.key = 0 := by
    apply Finset.sum_eq_zero
    intro other _
    rw [Adder.remaining, complete other]
    cases (counters.adders other).progress <;> rfl
  have total := accounts.conserved addition.key
  rw [nothing, add_zero] at total
  rcases accounts.passed adder addition membership with waiting | present
  · rw [complete adder] at waiting
    cases waiting
  · rw [← total, SharedTable.value]
    cases found : counters.table.content addition.key with
    | none => exact absurd (SharedTable.content_eq_none.mp found) present
    | some content => rfl

omit [DecidableEq ι] in
/-- A key that nothing was added to has no cell. -/
theorem Accounts.absent (accounts : counters.Accounts additions) {key : κ}
    (unused : ∀ adder, ∀ addition ∈ additions adder, addition.key ≠ key) :
    counters.table.content key = none := by
  rw [SharedTable.content_eq_none]
  by_contra present
  rcases accounts.known key present with ⟨adder, addition, membership, same⟩
  exact unused adder addition membership same

end SharedCounters
