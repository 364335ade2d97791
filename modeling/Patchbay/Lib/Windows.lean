import Mathlib.Data.List.Induction

/-!
# Greedy windows

Entries are cut into windows of one width as they come.  The first window starts at time
zero, and an entry starts a new one when it comes a width or more after the start of the
open one.
-/

namespace Windowing

universe u

variable {α : Type u}

/-- A window with its entries in order. -/
structure Window (α : Type u) where
  start : Nat
  entries : List α

/-- The windows that are over, in order, and the open one. -/
structure Windows (α : Type u) where
  closed : List (Window α)
  active : Window α

namespace Windows

def all (windows : Windows α) : List (Window α) := windows.closed ++ [windows.active]

variable (width : Nat) (time : α → Nat)

def record (windows : Windows α) (entry : α) : Windows α :=
  if windows.active.start + width ≤ time entry then
    { closed := windows.all, active := { start := time entry, entries := [entry] } }
  else
    { windows with
      active := { windows.active with entries := windows.active.entries ++ [entry] } }

def cut (entries : List α) : Windows α :=
  entries.foldl (record width time) { closed := [], active := { start := 0, entries := [] } }

variable {width time}

theorem cut_append (before after : List α) :
    cut width time (before ++ after) = after.foldl (record width time) (cut width time before) :=
  List.foldl_append

theorem flatMap_all_record (windows : Windows α) (entry : α) :
    (windows.record width time entry).all.flatMap Window.entries =
      windows.all.flatMap Window.entries ++ [entry] := by
  rw [record]
  split
  · rw [all, List.flatMap_append, List.flatMap_singleton]
  · simp only [all, List.flatMap_append, List.flatMap_singleton, List.append_assoc]

/-- Every entry is in one window, and the windows keep their order. -/
theorem flatMap_all_cut (entries : List α) :
    (cut width time entries).all.flatMap Window.entries = entries := by
  induction entries using List.reverseRecOn with
  | nil => rfl
  | append_singleton entries last ih =>
      rw [cut_append, List.foldl_cons, List.foldl_nil, flatMap_all_record, ih]

variable (width time) in
/-- Later entries come after those of the open window, or into later windows. -/
theorem all_foldl_record (windows : Windows α) (later : List α) :
    ∃ more others, (later.foldl (record width time) windows).all =
      windows.closed ++
        { windows.active with entries := windows.active.entries ++ more } :: others := by
  induction later generalizing windows with
  | nil =>
      use [], []
      rw [List.append_nil]
      rfl
  | cons entry later ih =>
      rcases ih (windows.record width time entry) with ⟨more, others, split⟩
      rw [List.foldl_cons, split, record]
      split
      · exact ⟨[], _, by rw [List.append_nil, all, List.append_assoc]; rfl⟩
      · exact ⟨entry :: more, others, by simp⟩

/-- The entry that comes after `before` is in one of the windows, where `counted` come
before it. -/
def Places (windows : Windows α) (before : List α) (entry : α) (counted : List α) : Prop :=
  ∃ earlier window others more, windows.all = earlier ++ window :: others ∧
    window.entries = counted ++ entry :: more ∧
    earlier.flatMap Window.entries ++ counted = before

/-- Each entry is placed where it was the last one of the open window. -/
theorem cut_places (before : List α) (entry : α) (after : List α) :
    ∃ counted, (cut width time (before ++ entry :: after)).Places before entry counted ∧
      (cut width time (before ++ [entry])).active.entries = counted ++ [entry] := by
  have last : ∃ counted,
      (cut width time (before ++ [entry])).active.entries = counted ++ [entry] := by
    rw [cut_append, List.foldl_cons, List.foldl_nil, record]
    split
    · exact ⟨[], rfl⟩
    · exact ⟨_, rfl⟩
  rcases last with ⟨counted, ends⟩
  have flat : (cut width time (before ++ [entry])).all.flatMap Window.entries =
      before ++ [entry] := flatMap_all_cut _
  rw [all, List.flatMap_append, List.flatMap_singleton, ends, ← List.append_assoc] at flat
  rcases all_foldl_record width time (cut width time (before ++ [entry])) after
    with ⟨more, others, split⟩
  rw [← cut_append, ends, List.append_assoc, List.singleton_append, List.append_assoc,
    List.singleton_append] at split
  exact ⟨counted, ⟨_, _, others, more, split, rfl, List.append_cancel_right flat⟩, ends⟩

/-- The open window starts with an entry, or at zero. -/
theorem active_start_le {entries : List α} {now : Nat}
    (past : ∀ entry ∈ entries, time entry ≤ now) :
    (cut width time entries).active.start ≤ now := by
  induction entries using List.reverseRecOn with
  | nil => exact Nat.zero_le _
  | append_singleton entries last ih =>
      rw [List.forall_mem_append, List.forall_mem_singleton] at past
      rw [cut_append, List.foldl_cons, List.foldl_nil, record]
      split
      · exact past.2
      · exact ih past.1

/-- With entries in the order of time, none in the open window is older than it. -/
theorem active_start_le_of_mem {entries : List α}
    (ordered : entries.Pairwise fun earlier later => time earlier ≤ time later) {entry : α}
    (membership : entry ∈ (cut width time entries).active.entries) :
    (cut width time entries).active.start ≤ time entry := by
  induction entries using List.reverseRecOn with
  | nil => cases membership
  | append_singleton entries last ih =>
      rw [List.pairwise_append] at ordered
      have startsBefore : (cut width time entries).active.start ≤ time last :=
        active_start_le fun earlier inEntries =>
          ordered.2.2 earlier inEntries last List.mem_cons_self
      rw [cut_append, List.foldl_cons, List.foldl_nil, record] at membership ⊢
      split at membership
      · next late =>
          rw [if_pos late]
          exact Nat.le_of_eq (congrArg time (List.mem_singleton.mp membership).symm)
      · next early =>
          rw [if_neg early]
          rcases List.mem_append.mp membership with older | same
          · exact ih ordered.1 older
          · rw [List.mem_singleton.mp same]
            exact startsBefore

/-- The last entry came while the open window lasted. -/
theorem lt_active_start_add (positive : 0 < width) (entries : List α) (last : α) :
    time last < (cut width time (entries ++ [last])).active.start + width := by
  rw [cut_append, List.foldl_cons, List.foldl_nil, record]
  split
  · exact Nat.lt_add_of_pos_right positive
  · next early => exact Nat.lt_of_not_le early

end Windows

end Windowing
