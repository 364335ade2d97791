import Mathlib.Algebra.GroupWithZero.Nat
import Mathlib.Algebra.Order.BigOperators.Group.Finset
import Mathlib.Data.List.ProdSigma
import Patchbay.Lib.SharedCounters

/-!
# Scans

Readers that go through a shared table of counters while threads add to it.  A reader holds
the read lock meanwhile.  This keeps new counters out, but not additions to the counters that
are there, so that what it reads need not have stood in the table at any one moment.
-/

universe u v w

/-! ## Counters that do not wrap -/

/-- A number read off a counter, which adds up as long as it stays below a bound. -/
structure Gauge (M : Type) [AddCommMonoid M] where
  size : M → Nat
  bound : Nat
  size_zero : size 0 = 0
  size_add : ∀ {left right : M}, size left + size right < bound →
    size (left + right) = size left + size right

namespace SharedTable

variable {κ : Type u} {M : Type} [DecidableEq κ]

def keys (table : SharedTable κ M) : Finset κ := table.ids.keys

theorem mem_keys {table : SharedTable κ M} {key : κ} :
    key ∈ table.keys ↔ table.lookup key ≠ none := by
  rw [keys, Finmap.mem_keys, lookup, ne_eq, Finmap.lookup_eq_none, not_not]

end SharedTable

namespace Adder

variable {κ : Type u} {M : Type} [DecidableEq κ] [AddCommMonoid M]
  {table after : SharedTable κ M} {adder next : Adder κ M}

/-- The amounts of these additions for a key, in order. -/
def amountsFor (additions : List (Addition κ M)) (key : κ) : List M :=
  additions.flatMap fun addition => if addition.key = key then addition.amounts else []

/-- The amounts that a thread has yet to add to a key. -/
def left (adder : Adder κ M) (key : κ) : List M :=
  match adder.progress, adder.additions with
  | .adding _ amounts, addition :: additions =>
      (if addition.key = key then amounts else []) ++ amountsFor additions key
  | _, additions => amountsFor additions key

/-- It needs the write lock next. -/
def inserting (adder : Adder κ M) : Bool :=
  match adder.progress with
  | .insert => true
  | _ => false

/-- A step adds to a key the first of the amounts left for it, if any. -/
theorem step_left (holds : adder.Holds table) (stepped : adder.step table = some (after, next))
    (key : κ) :
    (after.value key = table.value key ∧ next.left key = adder.left key) ∨
      ∃ amount, after.value key = table.value key + amount ∧
        adder.left key = amount :: next.left key := by
  cases step_spec stepped with
  | found found => exact .inl ⟨rfl, rfl⟩
  | missed absent => exact .inl ⟨rfl, rfl⟩
  | inserted => exact .inl ⟨SharedTable.value_orInsert table _ key, rfl⟩
  | @added addition additions id amount amounts =>
      rw [SharedTable.value_modify_add (holds id _ addition additions rfl)]
      by_cases same : addition.key = key
      · right
        use amount
        simp only [left, same, if_true, List.cons_append, and_self]
      · left
        simp only [left, same, if_false, add_zero, and_self]
  | @returned addition additions id =>
      left
      simp only [left, ite_self, List.nil_append, and_self]

theorem step_keys (stepped : adder.step table = some (after, next)) :
    table.keys ⊆ after.keys := by
  intro key present
  rw [SharedTable.mem_keys] at present ⊢
  rcases Option.ne_none_iff_exists'.mp present with ⟨id, found⟩
  rw [step_lookup stepped found]
  exact Option.some_ne_none id

/-- Only an insertion creates a counter. -/
theorem keys_of_not_inserting (stepped : adder.step table = some (after, next))
    (elsewhere : adder.inserting = false) : after.keys = table.keys := by
  cases step_spec stepped with
  | found | missed | added | returned => rfl
  | inserted => cases elsewhere

end Adder

namespace SharedCounters

variable {ι : Type w} {κ : Type u} {M : Type} [DecidableEq κ] [DecidableEq ι]
  [AddCommMonoid M] {counters after : SharedCounters ι κ M} {adder : ι}

/-- Every thread that found a cell has the cell of its key. -/
def Sound (counters : SharedCounters ι κ M) : Prop :=
  ∀ adder, (counters.adders adder).Holds counters.table

theorem step_sound (sound : counters.Sound) (stepped : counters.step adder = some after) :
    after.Sound := by
  rcases step_spec stepped with ⟨own, others⟩
  intro other
  by_cases mover : other = adder
  · subst mover
    exact Adder.step_holds (sound other) own
  · intro id amounts addition rest same
    rw [others other mover] at same
    exact Adder.step_lookup own (sound other id amounts addition rest same)

variable [Fintype ι]

/-- What a thread is yet to add to a key. -/
def pending (gauge : Gauge M) (counters : SharedCounters ι κ M) (key : κ) (adder : ι) : Nat :=
  (((counters.adders adder).left key).map gauge.size).sum

/-- What a gauge shows for a key, with all that the threads are yet to add. -/
def due (gauge : Gauge M) (counters : SharedCounters ι κ M) (key : κ) : Nat :=
  gauge.size (counters.table.value key) + ∑ adder, counters.pending gauge key adder

variable {gauge : Gauge M} {key : κ}

/-- **Step.** A counter that its additions do not make wrap only grows, and what is due for
its key stays the same. -/
theorem step_due (sound : counters.Sound) (fits : counters.due gauge key < gauge.bound)
    (stepped : counters.step adder = some after) :
    after.due gauge key = counters.due gauge key ∧
      gauge.size (counters.table.value key) ≤ gauge.size (after.table.value key) := by
  rcases step_spec stepped with ⟨own, others⟩
  have apart : ∀ state : SharedCounters ι κ M, state.due gauge key =
      gauge.size (state.table.value key) + (state.pending gauge key adder +
        ∑ other ∈ Finset.univ.erase adder, state.pending gauge key other) := by
    intro state
    rw [due, Finset.add_sum_erase _ _ (Finset.mem_univ adder)]
  have unmoved : ∑ other ∈ Finset.univ.erase adder, after.pending gauge key other =
      ∑ other ∈ Finset.univ.erase adder, counters.pending gauge key other := by
    apply Finset.sum_congr rfl
    intro other membership
    rw [pending, pending, others other (Finset.ne_of_mem_erase membership)]
  rw [apart counters] at fits ⊢
  rw [apart after, unmoved, pending, pending]
  rw [pending] at fits
  rcases Adder.step_left (sound adder) own key with ⟨value, left⟩ | ⟨amount, value, left⟩
  · rw [value, left]
    exact ⟨rfl, le_rfl⟩
  · rw [left, List.map_cons, List.sum_cons] at fits ⊢
    have added : gauge.size (after.table.value key) =
        gauge.size (counters.table.value key) + gauge.size amount := by
      rw [value]
      apply gauge.size_add
      omega
    omega

omit [DecidableEq ι] in
/-- In the end a counter stands at all that was to be added to it. -/
theorem Accounts.value {additions : ι → List (Addition κ M)}
    (accounts : counters.Accounts additions) (complete : counters.Complete) (key : κ) :
    counters.table.value key = ∑ adder, Adder.sumOf (additions adder) key := by
  have nothing : ∑ adder, (counters.adders adder).remaining key = 0 := by
    apply Finset.sum_eq_zero
    intro adder _
    rw [Adder.remaining, complete adder]
    cases (counters.adders adder).progress <;> rfl
  have total := accounts.conserved key
  rwa [nothing, add_zero] at total

omit [DecidableEq ι] in
theorem due_of_complete (complete : counters.Complete) :
    counters.due gauge key = gauge.size (counters.table.value key) := by
  rw [due, Nat.add_eq_left]
  apply Finset.sum_eq_zero
  intro adder _
  rw [pending, Adder.left, complete adder]
  cases (counters.adders adder).progress <;> rfl

end SharedCounters

/-! ## Readers -/

/-- Where a reader stands: before its only scan, with the entries it has read and those it
has yet to read, or done. -/
inductive Scan (κ : Type u) (π : Type v) (N : Type) where
  | waiting
  | reading (seen : List ((κ × π) × N)) (rest : List (κ × π))
  | done (seen : List ((κ × π) × N))

/-- What a reader does next. -/
inductive ScanEvent (κ : Type u) where
  /-- It takes the read lock and goes through the keys in this order. -/
  | acquire (keys : List κ)
  | load
  | release

namespace Scan

variable {κ : Type u} {π : Type v} {M N : Type} [DecidableEq κ] [AddCommMonoid M]
  (load : π → M → N) (parts : List π)

def isReading : Scan κ π N → Bool
  | .reading .. => true
  | _ => false

def isWaiting : Scan κ π N → Bool
  | .waiting => true
  | _ => false

omit [DecidableEq κ] in
theorem isWaiting_iff {scan : Scan κ π N} : scan.isWaiting = true ↔ scan = .waiting := by
  cases scan <;> simp [isWaiting]

/-- What a reader that is done has seen. -/
def result : Scan κ π N → Option (List ((κ × π) × N))
  | .done seen => some seen
  | _ => none

omit [DecidableEq κ] in
theorem result_eq_some {scan : Scan κ π N} {seen : List ((κ × π) × N)} :
    scan.result = some seen ↔ scan = .done seen := by
  cases scan <;> simp [result]

/-- The parts of a counter are loaded one after the other. -/
def step (table : SharedTable κ M) : ScanEvent κ → Scan κ π N → Option (Scan κ π N)
  | .acquire keys, .waiting =>
      if keys.Nodup ∧ keys.toFinset = table.keys then some (.reading [] (keys ×ˢ parts))
      else none
  | .load, .reading seen ((key, part) :: rest) =>
      some (.reading (seen ++ [((key, part), load part (table.value key))]) rest)
  | .release, .reading seen [] => some (.done seen)
  | _, _ => none

/-- The kinds of steps. -/
inductive Stepped (table : SharedTable κ M) : Scan κ π N → Scan κ π N → Prop
  | acquired {keys : List κ} (nodup : keys.Nodup) (all : keys.toFinset = table.keys) :
      Stepped table .waiting (.reading [] (keys ×ˢ parts))
  | loaded {seen : List ((κ × π) × N)} {key : κ} {part : π} {rest : List (κ × π)} :
      Stepped table (.reading seen ((key, part) :: rest))
        (.reading (seen ++ [((key, part), load part (table.value key))]) rest)
  | released {seen : List ((κ × π) × N)} : Stepped table (.reading seen []) (.done seen)

variable {load parts}

theorem step_spec {table : SharedTable κ M} {event : ScanEvent κ} {scan next : Scan κ π N}
    (stepped : scan.step load parts table event = some next) :
    Stepped load parts table scan next := by
  cases event with
  | acquire keys =>
      cases scan with
      | waiting =>
          simp only [step, Option.ite_none_right_eq_some, Option.some.injEq] at stepped
          rcases stepped with ⟨⟨nodup, all⟩, rfl⟩
          exact .acquired nodup all
      | reading seen rest => cases stepped
      | done seen => cases stepped
  | load =>
      rcases scan with _ | ⟨seen, _ | ⟨⟨key, part⟩, rest⟩⟩ | _
      · cases stepped
      · cases stepped
      · cases stepped
        exact .loaded
      · cases stepped
  | release =>
      rcases scan with _ | ⟨seen, _ | ⟨entry, rest⟩⟩ | _
      · cases stepped
      · cases stepped
        exact .released
      · cases stepped
      · cases stepped

/-- How far a scan has come among counters that had the keys `old` at some time and have the
keys `now`, when each value it read is one that was `held`. -/
inductive Course (parts : List π) (held : κ × π → N → Prop) (old now : Finset κ) :
    Scan κ π N → Prop
  | waiting : Course parts held old now .waiting
  | reading {keys : List κ} {seen : List ((κ × π) × N)} {rest : List (κ × π)}
      (nodup : keys.Nodup) (all : keys.toFinset = now)
      (order : seen.map Prod.fst ++ rest = keys ×ˢ parts)
      (genuine : ∀ entry ∈ seen, held entry.1 entry.2) :
      Course parts held old now (.reading seen rest)
  | done {keys : List κ} {seen : List ((κ × π) × N)} (nodup : keys.Nodup)
      (known : old ⊆ keys.toFinset) (still : keys.toFinset ⊆ now)
      (order : seen.map Prod.fst = keys ×ˢ parts)
      (genuine : ∀ entry ∈ seen, held entry.1 entry.2) :
      Course parts held old now (.done seen)

namespace Course

variable {held : κ × π → N → Prop} {old now : Finset κ} {seen : List ((κ × π) × N)}

theorem nodup_seen (course : Course parts held old now (.done seen)) (distinct : parts.Nodup) :
    (seen.map Prod.fst).Nodup := by
  cases course with
  | done nodup known still order genuine =>
      rw [order]
      exact nodup.product distinct

theorem of_mem_seen (course : Course parts held old now (.done seen)) {key : κ} {part : π}
    {value : N} (membership : ((key, part), value) ∈ seen) :
    key ∈ now ∧ part ∈ parts ∧ held (key, part) value := by
  cases course with
  | done nodup known still order genuine =>
      have listed := List.mem_map_of_mem (f := Prod.fst) membership
      rw [order, List.mem_product] at listed
      exact ⟨still (List.mem_toFinset.mpr listed.1), listed.2, genuine _ membership⟩

theorem exists_mem_seen (course : Course parts held old now (.done seen)) {key : κ}
    (present : key ∈ old) {part : π} (loaded : part ∈ parts) :
    ∃ value, ((key, part), value) ∈ seen := by
  cases course with
  | done nodup known still order genuine =>
      have listed : (key, part) ∈ seen.map Prod.fst := by
        rw [order]
        exact List.mem_product.mpr ⟨List.mem_toFinset.mp (known present), loaded⟩
      rcases List.mem_map.mp listed with ⟨⟨entry, value⟩, membership, rfl⟩
      exact ⟨value, membership⟩

end Course

end Scan

/-- Shared counters with the threads that add to them and the readers that scan them. -/
structure Scanned (ι : Type w) (ζ : Type w) (κ : Type u) (π : Type v) (M N : Type)
    [DecidableEq κ] where
  counters : SharedCounters ι κ M
  scans : ζ → Scan κ π N

/-- A step of a thread or of a reader. -/
inductive ScannedEvent (ι : Type w) (ζ : Type w) (κ : Type u) where
  | thread (adder : ι)
  | scan (reader : ζ) (event : ScanEvent κ)

namespace Scanned

variable {ι ζ : Type w} {κ : Type u} {π : Type v} {M N : Type} [DecidableEq κ]
  [DecidableEq ι] [DecidableEq ζ] [Fintype ζ] [AddCommMonoid M]

/-- Threads with all their additions to come, and readers that have not begun. -/
def start (table : SharedTable κ M) (additions : ι → List (Addition κ M)) :
    Scanned ι ζ κ π M N where
  counters := ⟨table, fun adder => ⟨.lookup, additions adder⟩⟩
  scans _ := .waiting

/-- Some reader holds the read lock. -/
def Locked (scanned : Scanned ι ζ κ π M N) : Prop :=
  ∃ reader, (scanned.scans reader).isReading = true

instance (scanned : Scanned ι ζ κ π M N) : Decidable scanned.Locked :=
  inferInstanceAs (Decidable (∃ reader, (scanned.scans reader).isReading = true))

variable (load : π → M → N) (parts : List π)

/-- No thread inserts while a reader holds the lock. -/
def step (scanned : Scanned ι ζ κ π M N) :
    ScannedEvent ι ζ κ → Option (Scanned ι ζ κ π M N)
  | .thread adder =>
      if (scanned.counters.adders adder).inserting = true ∧ scanned.Locked then none
      else (scanned.counters.step adder).map fun counters => { scanned with counters }
  | .scan reader event =>
      ((scanned.scans reader).step load parts scanned.counters.table event).map fun scan =>
        { scanned with scans := Function.update scanned.scans reader scan }

def run (scanned : Scanned ι ζ κ π M N) (events : List (ScannedEvent ι ζ κ)) :
    Option (Scanned ι ζ κ π M N) :=
  events.foldlM (step load parts) scanned

variable {load parts} {scanned before after : Scanned ι ζ κ π M N} {reader : ζ}

theorem step_thread {adder : ι}
    (stepped : scanned.step load parts (.thread adder) = some after) :
    scanned.counters.step adder = some after.counters ∧ after.scans = scanned.scans ∧
      (scanned.Locked → after.counters.table.keys = scanned.counters.table.keys) := by
  simp only [step] at stepped
  split at stepped
  · cases stepped
  · next free =>
      rcases Option.map_eq_some_iff.mp stepped with ⟨counters, moved, rfl⟩
      use moved, rfl
      intro locked
      apply Adder.keys_of_not_inserting (SharedCounters.step_spec moved).1
      rw [Bool.eq_false_iff]
      intro inserting
      exact free ⟨inserting, locked⟩

theorem step_scan {event : ScanEvent κ}
    (stepped : scanned.step load parts (.scan reader event) = some after) :
    after.counters = scanned.counters ∧
      Scan.Stepped load parts scanned.counters.table (scanned.scans reader)
        (after.scans reader) ∧
      ∀ other, other ≠ reader → after.scans other = scanned.scans other := by
  rcases Option.map_eq_some_iff.mp stepped with ⟨scan, own, rfl⟩
  use rfl
  constructor
  · simp only [Function.update_self]
    exact Scan.step_spec own
  · intro other different
    exact Function.update_of_ne different ..

/-! ## Counters that grow under the readers -/

theorem step_sound {event : ScannedEvent ι ζ κ} (sound : scanned.counters.Sound)
    (stepped : scanned.step load parts event = some after) : after.counters.Sound := by
  cases event with
  | thread adder => exact SharedCounters.step_sound sound (step_thread stepped).1
  | scan reader event =>
      rw [(step_scan stepped).1]
      exact sound

theorem step_keys {event : ScannedEvent ι ζ κ}
    (stepped : scanned.step load parts event = some after) :
    scanned.counters.table.keys ⊆ after.counters.table.keys := by
  cases event with
  | thread adder => exact Adder.step_keys (SharedCounters.step_spec (step_thread stepped).1).1
  | scan reader event => rw [(step_scan stepped).1]

theorem run_keys {events : List (ScannedEvent ι ζ κ)}
    (ran : before.run load parts events = some after) :
    before.counters.table.keys ⊆ after.counters.table.keys :=
  Schedule.invariant (fun state : Scanned ι ζ κ π M N =>
      before.counters.table.keys ⊆ state.counters.table.keys)
    (fun known stepped => known.trans (step_keys stepped)) (Finset.Subset.refl _) events ran

theorem run_sound {events : List (ScannedEvent ι ζ κ)} (sound : before.counters.Sound)
    (ran : before.run load parts events = some after) : after.counters.Sound :=
  Schedule.invariant (fun state : Scanned ι ζ κ π M N => state.counters.Sound) step_sound
    sound events ran

variable [Fintype ι] {gauge : Gauge M} {key : κ}

/-- Readers disturb no account. -/
theorem run_accounts {additions : ι → List (Addition κ M)}
    {events : List (ScannedEvent ι ζ κ)} (accounts : before.counters.Accounts additions)
    (ran : before.run load parts events = some after) : after.counters.Accounts additions := by
  refine Schedule.invariant (fun state : Scanned ι ζ κ π M N => state.counters.Accounts additions)
    ?_ accounts events ran
  intro state event next accounts stepped
  cases event with
  | thread adder => exact SharedCounters.step_accounts accounts (step_thread stepped).1
  | scan reader event =>
      rw [(step_scan stepped).1]
      exact accounts

theorem step_grows {event : ScannedEvent ι ζ κ} (sound : scanned.counters.Sound)
    (fits : scanned.counters.due gauge key < gauge.bound)
    (stepped : scanned.step load parts event = some after) :
    after.counters.due gauge key = scanned.counters.due gauge key ∧
      gauge.size (scanned.counters.table.value key) ≤
        gauge.size (after.counters.table.value key) := by
  cases event with
  | thread adder => exact SharedCounters.step_due sound fits (step_thread stepped).1
  | scan reader event =>
      rw [(step_scan stepped).1]
      exact ⟨rfl, le_rfl⟩

/-- **Run.** Counters that their additions do not make wrap only grow. -/
theorem run_grows {events : List (ScannedEvent ι ζ κ)} (sound : before.counters.Sound)
    (fits : before.counters.due gauge key < gauge.bound)
    (ran : before.run load parts events = some after) :
    after.counters.due gauge key = before.counters.due gauge key ∧
      gauge.size (before.counters.table.value key) ≤
        gauge.size (after.counters.table.value key) := by
  have kept : ∀ {state : Scanned ι ζ κ π M N} {event next},
      (state.counters.Sound ∧ state.counters.due gauge key = before.counters.due gauge key ∧
        gauge.size (before.counters.table.value key) ≤
          gauge.size (state.counters.table.value key)) →
      state.step load parts event = some next →
      (next.counters.Sound ∧ next.counters.due gauge key = before.counters.due gauge key ∧
        gauge.size (before.counters.table.value key) ≤
          gauge.size (next.counters.table.value key)) := by
    rintro state event next ⟨sound, due, grown⟩ stepped
    rw [← due] at fits
    rcases step_grows sound fits stepped with ⟨same, grows⟩
    exact ⟨step_sound sound stepped, same.trans due, grown.trans grows⟩
  exact (Schedule.invariant _ kept ⟨sound, rfl, le_rfl⟩ events ran).2

omit [Fintype ι] in
/-- What is left for a thread to add is the end of what was left. -/
theorem run_left {events : List (ScannedEvent ι ζ κ)} (sound : before.counters.Sound)
    (ran : before.run load parts events = some after) (adder : ι) (key : κ) :
    (after.counters.adders adder).left key <:+ (before.counters.adders adder).left key := by
  refine (Schedule.invariant (fun state : Scanned ι ζ κ π M N => state.counters.Sound ∧
    (state.counters.adders adder).left key <:+ (before.counters.adders adder).left key)
    ?_ ⟨sound, List.suffix_rfl⟩ events ran).2
  rintro state event next ⟨sound, ending⟩ stepped
  use step_sound sound stepped
  cases event with
  | thread mover =>
      rcases SharedCounters.step_spec (step_thread stepped).1 with ⟨own, others⟩
      by_cases isMover : adder = mover
      · subst isMover
        rcases Adder.step_left (sound adder) own key with ⟨-, same⟩ | ⟨amount, -, taken⟩
        · rw [same]
          exact ending
        · rw [taken] at ending
          exact (List.suffix_cons amount _).trans ending
      · rw [others adder isMover]
        exact ending
  | scan reader event =>
      rw [(step_scan stepped).1]
      exact ending

/-- A counter has all that threads which are done with its key were to add. -/
theorem le_count {events : List (ScannedEvent ι ζ κ)} (sound : before.counters.Sound)
    (fits : before.counters.due gauge key < gauge.bound)
    (ran : before.run load parts events = some after) {finished : Finset ι}
    (through : ∀ adder ∈ finished, (after.counters.adders adder).left key = []) :
    gauge.size (before.counters.table.value key) +
        ∑ adder ∈ finished, before.counters.pending gauge key adder ≤
      gauge.size (after.counters.table.value key) := by
  have same := (run_grows sound fits ran).1
  rw [SharedCounters.due, SharedCounters.due, ← Finset.sum_add_sum_compl finished,
    ← Finset.sum_add_sum_compl finished] at same
  have nothing : ∑ adder ∈ finished, after.counters.pending gauge key adder = 0 := by
    apply Finset.sum_eq_zero
    intro adder membership
    rw [SharedCounters.pending, through adder membership]
    rfl
  have others : ∑ adder ∈ finishedᶜ, after.counters.pending gauge key adder ≤
      ∑ adder ∈ finishedᶜ, before.counters.pending gauge key adder := by
    apply Finset.sum_le_sum
    intro adder _
    exact ((run_left sound ran adder key).sublist.map _).sum_le_sum fun _ _ => Nat.zero_le _
  omega

/-- A counter has nothing of what threads that have not begun with its key are to add. -/
theorem count_le {events : List (ScannedEvent ι ζ κ)} (sound : before.counters.Sound)
    (fits : before.counters.due gauge key < gauge.bound)
    (ran : before.run load parts events = some after) {begun : Finset ι}
    (fresh : ∀ adder ∉ begun, (after.counters.adders adder).left key =
      (before.counters.adders adder).left key) :
    gauge.size (after.counters.table.value key) ≤
      gauge.size (before.counters.table.value key) +
        ∑ adder ∈ begun, before.counters.pending gauge key adder := by
  have same := (run_grows sound fits ran).1
  rw [SharedCounters.due, SharedCounters.due, ← Finset.sum_add_sum_compl begun,
    ← Finset.sum_add_sum_compl begun] at same
  have unmoved : ∑ adder ∈ begunᶜ, after.counters.pending gauge key adder =
      ∑ adder ∈ begunᶜ, before.counters.pending gauge key adder := by
    apply Finset.sum_congr rfl
    intro adder outside
    rw [SharedCounters.pending, SharedCounters.pending,
      fresh adder (Finset.mem_compl.mp outside)]
  omega

omit [Fintype ι]

/-! ## What a reader has seen -/

/-- A counter showed this at some moment of the run. -/
def Held (load : π → M → N) (parts : List π) (before : Scanned ι ζ κ π M N)
    (events : List (ScannedEvent ι ζ κ)) (entry : κ × π) (value : N) : Prop :=
  ∃ front back between, events = front ++ back ∧
    before.run load parts front = some between ∧
    value = load entry.2 (between.counters.table.value entry.1)

theorem step_course {event : ScannedEvent ι ζ κ} {held later : κ × π → N → Prop}
    {old : Finset κ} (known : old ⊆ scanned.counters.table.keys)
    (kept : ∀ entry value, held entry value → later entry value)
    (now : ∀ entry, later entry (load entry.2 (scanned.counters.table.value entry.1)))
    (stepped : scanned.step load parts event = some after)
    (course : (scanned.scans reader).Course parts held old scanned.counters.table.keys) :
    (after.scans reader).Course parts later old after.counters.table.keys := by
  have unmoved : after.scans reader = scanned.scans reader →
      ((scanned.scans reader).isReading = true →
        after.counters.table.keys = scanned.counters.table.keys) →
      (after.scans reader).Course parts later old after.counters.table.keys := by
    intro same locked
    rw [same]
    generalize scanned.scans reader = scan at course locked
    cases course with
    | waiting => exact .waiting
    | reading nodup all order genuine =>
        exact .reading nodup (all.trans (locked rfl).symm) order
          fun entry membership => kept _ _ (genuine entry membership)
    | done nodup known still order genuine =>
        exact .done nodup known (still.trans (step_keys stepped)) order
          fun entry membership => kept _ _ (genuine entry membership)
  cases event with
  | thread adder =>
      rcases step_thread stepped with ⟨-, same, locked⟩
      exact unmoved (congrFun same reader) fun reading => locked ⟨reader, reading⟩
  | scan mover event =>
      rcases step_scan stepped with ⟨same, own, others⟩
      by_cases other : reader = mover
      · subst other
        rw [same]
        generalize scanned.scans reader = scan, after.scans reader = next at course own
        cases own with
        | acquired nodup all =>
            exact .reading nodup all (List.nil_append _) fun entry membership => by cases membership
        | loaded =>
            cases course with
            | reading nodup all order genuine =>
                refine .reading nodup all ?_ ?_
                · rw [List.map_append, List.append_assoc]
                  exact order
                · intro entry membership
                  rcases List.mem_append.mp membership with before | last
                  · exact kept _ _ (genuine entry before)
                  · rw [List.mem_singleton] at last
                    subst last
                    exact now _
        | released =>
            cases course with
            | reading nodup all order genuine =>
                rw [List.append_nil] at order
                refine .done nodup ?_ all.le order
                  fun entry membership => kept _ _ (genuine entry membership)
                rw [all]
                exact known
      · exact unmoved (others reader other) fun _ => by rw [same]

/-- **Run.** Whatever the threads and the other readers do, a scan goes through all keys
there are, each part of each once, and reads what the counters hold. -/
theorem run_course {events : List (ScannedEvent ι ζ κ)}
    (idle : before.scans reader = .waiting)
    (ran : before.run load parts events = some after) :
    (after.scans reader).Course parts (Held load parts before events)
      before.counters.table.keys after.counters.table.keys := by
  induction events using List.reverseRecOn generalizing after with
  | nil =>
      cases ran
      rw [idle]
      exact .waiting
  | append_singleton events event ih =>
      rcases Schedule.run_append.mp ran with ⟨between, front, last⟩
      rcases Schedule.run_cons.mp last with ⟨next, stepped, ends⟩
      cases ends
      refine step_course (run_keys front) ?_ ?_ stepped (ih front)
      · rintro entry value ⟨first, back, moment, rfl, reached, same⟩
        exact ⟨first, back ++ [event], moment, List.append_assoc .., reached, same⟩
      · intro entry
        exact ⟨events, [event], between, rfl, front, rfl⟩

/-- A counter that does not wrap showed no less than at first and no more than in the end. -/
theorem Held.between [Fintype ι] {events : List (ScannedEvent ι ζ κ)} {part : π} {value : N}
    {weight : N → Nat} (held : Held load parts before events (key, part) value)
    (sound : before.counters.Sound) (fits : before.counters.due gauge key < gauge.bound)
    (reads : ∀ counter, weight (load part counter) = gauge.size counter)
    (ran : before.run load parts events = some after) :
    gauge.size (before.counters.table.value key) ≤ weight value ∧
      weight value ≤ gauge.size (after.counters.table.value key) := by
  rcases held with ⟨front, back, moment, rfl, reached, rfl⟩
  rcases Schedule.run_append.mp ran with ⟨middle, first, last⟩
  cases reached.symm.trans first
  rcases run_grows sound fits reached with ⟨due, grown⟩
  rw [reads]
  use grown
  rw [← due] at fits
  exact (run_grows (run_sound sound reached) fits last).2

end Scanned
