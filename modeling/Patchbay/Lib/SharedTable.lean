import Patchbay.Lib.Table

/-!
# Shared tables

A table whose entries are cells of their own: who has found a cell keeps it, whatever
happens to the table.
-/

universe u

/-- A table from keys to cells.  Different keys have different cells. -/
structure SharedTable (κ : Type u) (M : Type) [DecidableEq κ] where
  ids : Table κ Nat
  cells : List M
  bounded : ∀ {key id}, ids.lookup key = some id → id < cells.length
  distinct : ∀ {key other id}, ids.lookup key = some id → ids.lookup other = some id →
    key = other

namespace SharedTable

variable {κ : Type u} {M : Type} [DecidableEq κ]

def empty : SharedTable κ M where
  ids := ∅
  cells := []
  bounded := by simp
  distinct := by simp

def lookup (table : SharedTable κ M) (key : κ) : Option Nat := table.ids.lookup key

/-- What the cell of a key holds. -/
def content (table : SharedTable κ M) (key : κ) : Option M :=
  (table.lookup key).bind fun id => table.cells[id]?

/-- Insert a new cell for a key that has none. -/
def insertNew (table : SharedTable κ M) (key : κ) (fresh : M)
    (absent : table.lookup key = none) : SharedTable κ M where
  ids := table.ids.insert key table.cells.length
  cells := table.cells ++ [fresh]
  bounded := by
    intro other id found
    rw [List.length_append, List.length_singleton]
    by_cases same : other = key
    · subst same
      rw [Finmap.lookup_insert, Option.some.injEq] at found
      omega
    · rw [Finmap.lookup_insert_of_ne _ same] at found
      exact Nat.lt_succ_of_lt (table.bounded found)
  distinct := by
    intro first second id foundFirst foundSecond
    by_cases sameFirst : first = key
    · by_cases sameSecond : second = key
      · rw [sameFirst, sameSecond]
      · rw [sameFirst, Finmap.lookup_insert, Option.some.injEq] at foundFirst
        rw [Finmap.lookup_insert_of_ne _ sameSecond, ← foundFirst] at foundSecond
        exact absurd (table.bounded foundSecond) (Nat.lt_irrefl _)
    · rw [Finmap.lookup_insert_of_ne _ sameFirst] at foundFirst
      by_cases sameSecond : second = key
      · rw [sameSecond, Finmap.lookup_insert, Option.some.injEq] at foundSecond
        rw [← foundSecond] at foundFirst
        exact absurd (table.bounded foundFirst) (Nat.lt_irrefl _)
      · rw [Finmap.lookup_insert_of_ne _ sameSecond] at foundSecond
        exact table.distinct foundFirst foundSecond

/-- The cell of a key, created if the key has none: `entry` and `or_insert_with`. -/
def orInsert (table : SharedTable κ M) (key : κ) (fresh : M) : Nat × SharedTable κ M :=
  match found : table.lookup key with
  | some id => (id, table)
  | none => (table.cells.length, table.insertNew key fresh found)

def modify (table : SharedTable κ M) (id : Nat) (f : M → M) : SharedTable κ M where
  ids := table.ids
  cells := table.cells.modify id f
  bounded := by
    intro key id found
    rw [List.length_modify]
    exact table.bounded found
  distinct := table.distinct

@[simp] theorem lookup_empty (key : κ) : (empty : SharedTable κ M).lookup key = none := rfl

/-- The table as its readers see it. -/
def toTable (table : SharedTable κ M) : Table κ M :=
  table.ids.filterMap fun id => table.cells[id]?

@[simp] theorem lookup_toTable (table : SharedTable κ M) (key : κ) :
    table.toTable.lookup key = table.content key :=
  Table.lookup_filterMap table.ids _ key

theorem content_eq_none {table : SharedTable κ M} {key : κ} :
    table.content key = none ↔ table.lookup key = none := by
  cases found : table.lookup key with
  | none => simp [content, found]
  | some id => simp [content, found, table.bounded found]

/-! ## Creation -/

section

variable (table : SharedTable κ M) (key : κ) (fresh : M)

theorem orInsert_of_found {id : Nat} (found : table.lookup key = some id) :
    table.orInsert key fresh = (id, table) := by
  rw [orInsert]
  split
  · next other again =>
      rw [found, Option.some.injEq] at again
      rw [again]
  · next absent => simp [found] at absent

theorem orInsert_of_absent (absent : table.lookup key = none) :
    table.orInsert key fresh = (table.cells.length, table.insertNew key fresh absent) := by
  rw [orInsert]
  split
  · next id found => simp [absent] at found
  · rfl

theorem lookup_orInsert_self :
    (table.orInsert key fresh).2.lookup key = some (table.orInsert key fresh).1 := by
  cases found : table.lookup key with
  | some id => rw [orInsert_of_found table key fresh found, found]
  | none =>
      rw [orInsert_of_absent table key fresh found]
      exact Finmap.lookup_insert _

theorem lookup_orInsert_of_ne {other : κ} (different : other ≠ key) :
    (table.orInsert key fresh).2.lookup other = table.lookup other := by
  cases found : table.lookup key with
  | some id => rw [orInsert_of_found table key fresh found]
  | none =>
      rw [orInsert_of_absent table key fresh found]
      exact Finmap.lookup_insert_of_ne _ different

/-- A cell keeps its key. -/
theorem lookup_orInsert_of_some {other : κ} {id : Nat} (found : table.lookup other = some id) :
    (table.orInsert key fresh).2.lookup other = some id := by
  by_cases same : other = key
  · subst same
    rw [orInsert_of_found table other fresh found, found]
  · rw [lookup_orInsert_of_ne table key fresh same, found]

theorem content_orInsert_self :
    (table.orInsert key fresh).2.content key = some ((table.content key).getD fresh) := by
  cases found : table.lookup key with
  | some id =>
      have inside := table.bounded found
      rw [orInsert_of_found table key fresh found]
      simp [content, found, inside]
  | none =>
      have created := lookup_orInsert_self table key fresh
      rw [content, created, content_eq_none.mpr found, orInsert_of_absent table key fresh found]
      simp [insertNew]

theorem content_orInsert_of_ne {other : κ} (different : other ≠ key) :
    (table.orInsert key fresh).2.content other = table.content other := by
  rw [content, content, lookup_orInsert_of_ne table key fresh different]
  cases found : table.lookup key with
  | some id => rw [orInsert_of_found table key fresh found]
  | none =>
      rw [orInsert_of_absent table key fresh found]
      cases foundOther : table.lookup other with
      | none => rfl
      | some id =>
          have inside := table.bounded foundOther
          simp [insertNew, List.getElem?_append_left inside]

end

/-! ## Addition to a cell -/

section

variable {table : SharedTable κ M} {key : κ} {id : Nat} (f : M → M)

@[simp] theorem lookup_modify (other : κ) :
    (table.modify id f).lookup other = table.lookup other := rfl

theorem content_modify_self (held : table.lookup key = some id) :
    (table.modify id f).content key = (table.content key).map f := by
  rw [content, content, lookup_modify, held]
  simp [modify, List.getElem?_modify]

theorem content_modify_of_ne (held : table.lookup key = some id) {other : κ}
    (different : other ≠ key) : (table.modify id f).content other = table.content other := by
  rw [content, content, lookup_modify]
  cases found : table.lookup other with
  | none => rfl
  | some otherId =>
      have differentId : id ≠ otherId := by
        intro same
        subst same
        exact different (table.distinct found held)
      simp [modify, List.getElem?_modify, differentId]

end

theorem exists_content {table : SharedTable κ M} {key : κ} {id : Nat}
    (held : table.lookup key = some id) : ∃ content, table.content key = some content := by
  rw [← Option.ne_none_iff_exists', ne_eq, content_eq_none, held]
  exact Option.some_ne_none id

/-! ## What readers see of it -/

section

variable {table after : SharedTable κ M} {key : κ} {id : Nat}

theorem toTable_eq_update {fresh : M} {f : M → M}
    (own : after.content key = some (f ((table.content key).getD fresh)))
    (others : ∀ other, other ≠ key → after.content other = table.content other) :
    after.toTable = table.toTable.update key fresh f := by
  apply Finmap.ext_lookup
  intro other
  by_cases same : other = key
  · rw [same, Table.lookup_update_self, lookup_toTable, lookup_toTable, own]
  · rw [Table.lookup_update_of_ne _ same, lookup_toTable, lookup_toTable, others other same]

theorem toTable_orInsert (table : SharedTable κ M) (key : κ) (fresh : M) :
    (table.orInsert key fresh).2.toTable = table.toTable.update key fresh fun value => value :=
  toTable_eq_update (table.content_orInsert_self key fresh)
    (fun _ different => table.content_orInsert_of_ne key fresh different)

theorem toTable_modify (held : table.lookup key = some id) (fresh : M) (f : M → M) :
    (table.modify id f).toTable = table.toTable.update key fresh f := by
  rcases exists_content held with ⟨content, found⟩
  apply toTable_eq_update
  · rw [content_modify_self f held, found]
    rfl
  · intro other different
    exact content_modify_of_ne f held different

end

/-! ## Renaming -/

theorem lookup_moved (ids : Table κ Nat) (old new : κ) (id : Nat) (key : κ) :
    ((ids.erase old).insert new id).lookup key =
      if key = new then some id else if key = old then none else ids.lookup key := by
  by_cases isNew : key = new
  · rw [isNew, Finmap.lookup_insert, if_pos rfl]
  · rw [Finmap.lookup_insert_of_ne _ isNew, if_neg isNew]
    by_cases isOld : key = old
    · rw [isOld, Finmap.lookup_erase, if_pos rfl]
    · rw [Finmap.lookup_erase_ne isOld, if_neg isOld]

/-- Give the cell of `old` the key `new`, whose own cell can no longer be found. -/
def rename (table : SharedTable κ M) (old new : κ) : Option (SharedTable κ M) :=
  match held : table.lookup old with
  | none => none
  | some id =>
      some {
        ids := (table.ids.erase old).insert new id
        cells := table.cells
        bounded := by
          intro key other found
          rw [lookup_moved] at found
          split at found
          · cases found
            exact table.bounded held
          · split at found
            · cases found
            · exact table.bounded found
        distinct := by
          intro first second other foundFirst foundSecond
          rw [lookup_moved] at foundFirst foundSecond
          split at foundFirst
          · next isNew =>
              cases foundFirst
              split at foundSecond
              · next alsoNew => rw [isNew, alsoNew]
              · split at foundSecond
                · cases foundSecond
                · next notOld => exact absurd (table.distinct foundSecond held) notOld
          · split at foundFirst
            · cases foundFirst
            · next notOld =>
                split at foundSecond
                · cases foundSecond
                  exact absurd (table.distinct foundFirst held) notOld
                · split at foundSecond
                  · cases foundSecond
                  · exact table.distinct foundFirst foundSecond }

theorem rename_spec {table after : SharedTable κ M} {old new : κ}
    (renamed : table.rename old new = some after) :
    ∃ id, table.lookup old = some id ∧ after.cells = table.cells ∧
      ∀ key, after.lookup key =
        if key = new then some id else if key = old then none else table.lookup key := by
  rw [rename] at renamed
  split at renamed
  · cases renamed
  · next id held =>
      cases renamed
      use id, held, rfl
      exact lookup_moved table.ids old new id

theorem rename_isSome {table : SharedTable κ M} {old : κ} {id : Nat}
    (held : table.lookup old = some id) (new : κ) : ∃ after, table.rename old new = some after := by
  rw [rename]
  split
  · next absent => simp [held] at absent
  · constructor
    rfl

section

variable {table after : SharedTable κ M} {old new : κ}

theorem content_rename_new (renamed : table.rename old new = some after) :
    after.content new = table.content old := by
  rcases rename_spec renamed with ⟨id, held, cells, names⟩
  rw [content, content, names, if_pos rfl, held, cells]

theorem content_rename_old (renamed : table.rename old new = some after)
    (different : old ≠ new) : after.content old = none := by
  rcases rename_spec renamed with ⟨id, held, cells, names⟩
  rw [content_eq_none, names, if_neg different, if_pos rfl]

theorem content_rename_of_ne (renamed : table.rename old new = some after) {key : κ}
    (notNew : key ≠ new) (notOld : key ≠ old) : after.content key = table.content key := by
  rcases rename_spec renamed with ⟨id, held, cells, names⟩
  rw [content, content, names, if_neg notNew, if_neg notOld, cells]

end

end SharedTable
