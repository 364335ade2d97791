import Mathlib.Data.Finmap

/-!
# Tables

Finite maps as concurrent stores use them: entries are created on first use with
a default value and then modified in place.
-/

universe u v

/-- A finite map from keys to values. -/
abbrev Table (κ : Type u) (ν : Type v) := Finmap fun _ : κ => ν

namespace Table

variable {κ : Type u} {ν : Type v} [DecidableEq κ]

/-- Modify the entry of `key`, creating it as `fresh` if it is absent. -/
def update (table : Table κ ν) (key : κ) (fresh : ν) (modify : ν → ν) : Table κ ν :=
  table.insert key (modify ((table.lookup key).getD fresh))

@[simp] theorem lookup_update_self (table : Table κ ν) (key : κ) (fresh : ν)
    (modify : ν → ν) :
    (table.update key fresh modify).lookup key =
      some (modify ((table.lookup key).getD fresh)) := by
  simp [update]

@[simp] theorem lookup_update_of_ne (table : Table κ ν) {key other : κ}
    (different : other ≠ key) (fresh : ν) (modify : ν → ν) :
    (table.update key fresh modify).lookup other = table.lookup other := by
  simp [update, Finmap.lookup_insert_of_ne _ different]

theorem update_update (table : Table κ ν) (key : κ) (fresh : ν) (first second : ν → ν) :
    (table.update key fresh first).update key fresh second =
      table.update key fresh fun value => second (first value) := by
  rw [update, lookup_update_self, Option.getD_some, update, Finmap.insert_insert, update]

/-- Collect pairs into a table; a later pair replaces an earlier one. -/
def collect (pairs : List (κ × ν)) : Table κ ν :=
  pairs.foldl (fun table pair => table.insert pair.1 pair.2) ∅

theorem lookup_foldl_insert_of_notMem {pairs : List (κ × ν)} {key : κ}
    (absent : key ∉ pairs.map Prod.fst) (table : Table κ ν) :
    (pairs.foldl (fun table pair => table.insert pair.1 pair.2) table).lookup key =
      table.lookup key := by
  induction pairs generalizing table with
  | nil => rfl
  | cons pair pairs ih =>
      simp only [List.map_cons, List.mem_cons, not_or] at absent
      rw [List.foldl_cons, ih absent.2, Finmap.lookup_insert_of_ne _ absent.1]

/-- Without repeated keys, the table maps every key to its pair's value. -/
theorem lookup_collect_of_mem {pairs : List (κ × ν)}
    (distinct : (pairs.map Prod.fst).Nodup) {pair : κ × ν} (membership : pair ∈ pairs) :
    (collect pairs).lookup pair.1 = some pair.2 := by
  suffices ∀ table : Table κ ν,
      (pairs.foldl (fun table pair => table.insert pair.1 pair.2) table).lookup pair.1 =
        some pair.2 from this ∅
  induction pairs with
  | nil => simp at membership
  | cons first pairs ih =>
      intro table
      simp only [List.map_cons, List.nodup_cons] at distinct
      rw [List.foldl_cons]
      rcases List.mem_cons.mp membership with rfl | later
      · rw [lookup_foldl_insert_of_notMem distinct.1, Finmap.lookup_insert]
      · exact ih distinct.2 later _

/-- A key of the table is a key of some pair. -/
theorem mem_of_lookup_collect {pairs : List (κ × ν)} {key : κ} {value : ν}
    (found : (collect pairs).lookup key = some value) : (key, value) ∈ pairs := by
  induction pairs using List.reverseRecOn with
  | nil => simp [collect] at found
  | append_singleton pairs last ih =>
      rw [collect, List.foldl_append, List.foldl_cons, List.foldl_nil, ← collect] at found
      by_cases same : key = last.1
      · subst same
        rw [Finmap.lookup_insert, Option.some.injEq] at found
        simp [← found]
      · rw [Finmap.lookup_insert_of_ne _ same] at found
        simp [ih found]

/-- Collecting goes by which keys are equal only. -/
theorem lookup_collect_map {κ' : Type u} [DecidableEq κ'] {rename : κ → κ'}
    (injective : Function.Injective rename) (pairs : List (κ × ν)) (key : κ) :
    (collect (pairs.map fun pair => (rename pair.1, pair.2))).lookup (rename key) =
      (collect pairs).lookup key := by
  induction pairs using List.reverseRecOn with
  | nil => rfl
  | append_singleton pairs last ih =>
      rw [collect, collect, List.map_append, List.foldl_append, List.foldl_append, ← collect,
        ← collect]
      simp only [List.map_cons, List.map_nil, List.foldl_cons, List.foldl_nil]
      by_cases same : key = last.1
      · rw [same, Finmap.lookup_insert, Finmap.lookup_insert]
      · rw [Finmap.lookup_insert_of_ne _ (injective.ne same),
          Finmap.lookup_insert_of_ne _ same, ih]

/-- Keep the entries whose value `select` accepts, with what it makes of them. -/
def filterMap {μ : Type v} (table : Table κ ν) (select : ν → Option μ) : Table κ μ where
  entries := table.entries.filterMap fun entry =>
    (select entry.2).map fun kept => ⟨entry.1, kept⟩
  nodupKeys := by
    rcases table with ⟨entries, distinct⟩
    induction entries using Quotient.inductionOn with
    | h entries =>
        apply List.nodupKeys_iff_pairwise.mpr
        apply (List.nodupKeys_iff_pairwise.mp distinct).filterMap
        intro first second different kept keptFirst other keptSecond
        rcases Option.map_eq_some_iff.mp keptFirst with ⟨_, -, rfl⟩
        rcases Option.map_eq_some_iff.mp keptSecond with ⟨_, -, rfl⟩
        exact different

@[simp] theorem lookup_filterMap {μ : Type v} (table : Table κ ν) (select : ν → Option μ)
    (key : κ) : (table.filterMap select).lookup key = (table.lookup key).bind select := by
  ext kept
  rw [← Option.mem_def, Finmap.mem_lookup_iff, filterMap, Multiset.mem_filterMap]
  simp only [Option.map_eq_some_iff, Sigma.mk.injEq, Option.bind_eq_some_iff,
    Finmap.lookup_eq_some_iff]
  constructor
  · rintro ⟨⟨_, value⟩, membership, _, selected, rfl, sameValue⟩
    cases sameValue
    exact ⟨value, membership, selected⟩
  · rintro ⟨value, membership, selected⟩
    exact ⟨⟨key, value⟩, membership, kept, selected, rfl, HEq.rfl⟩

end Table
