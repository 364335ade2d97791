import Mathlib.Data.List.DropRight

/-!
# Text by characters

The string operations of the source, computed on the characters of a text.
-/

namespace Text

def startsWith (text start : String) : Bool := start.toList.isPrefixOf text.toList

def stripPrefix (text start : String) : Option String :=
  (text.toList.dropPrefix? start.toList).map String.ofList

def trimEndMatches (text : String) (trimmed : Char) : String :=
  String.ofList (text.toList.rdropWhile (· == trimmed))

def takeChars (text : String) (count : Nat) : String :=
  String.ofList (text.toList.take count)

/-- The text of bytes that stand for one character each. -/
def ofBytes (bytes : List UInt8) : String :=
  String.ofList (bytes.map fun byte => Char.ofNat byte.toNat)

/-- Replace every occurrence of one character. -/
def replaceChar (text : String) (old : Char) (new : String) : String :=
  String.ofList (text.toList.flatMap fun char => if char = old then new.toList else [char])

theorem stripPrefix_append (start rest : String) :
    stripPrefix (start ++ rest) start = some rest := by
  have stripped : (start.toList ++ rest.toList).dropPrefix? start.toList =
      some rest.toList := List.dropPrefix?_append_of_beq _ (by simp)
  rw [stripPrefix, String.toList_append, stripped, Option.map_some, String.ofList_toList]

theorem eq_append_of_stripPrefix {text start rest : String}
    (stripped : stripPrefix text start = some rest) : text = start ++ rest := by
  simp only [stripPrefix, Option.map_eq_some_iff, List.dropPrefix?_eq_some_iff,
    beq_iff_eq] at stripped
  rcases stripped with ⟨chars, ⟨initial, textEq, rfl⟩, rfl⟩
  apply String.toList_injective
  rw [textEq, String.toList_append, String.toList_ofList]

/-- Characters below 256 are read back from their bytes. -/
theorem ofBytes_map_ofNat {text : String} (narrow : ∀ char ∈ text.toList, char.toNat < 256) :
    ofBytes (text.toList.map fun char => UInt8.ofNat char.toNat) = text := by
  have readBack : ∀ char ∈ text.toList,
      ((fun byte => Char.ofNat byte.toNat) ∘ fun char => UInt8.ofNat char.toNat) char =
        id char := by
    intro char membership
    have small : (UInt8.ofNat char.toNat).toNat = char.toNat :=
      UInt8.toNat_ofNat_of_lt' (narrow char membership)
    rw [Function.comp_apply, small, Char.ofNat_toNat, id_eq]
  apply String.toList_injective
  rw [ofBytes, String.toList_ofList, List.map_map, List.map_congr_left readBack, List.map_id]

theorem mem_ofBytes {bytes : List UInt8} {char : Char} :
    char ∈ (ofBytes bytes).toList ↔ ∃ byte ∈ bytes, Char.ofNat byte.toNat = char := by
  rw [ofBytes, String.toList_ofList, List.mem_map]

theorem toList_trimEndMatches (text : String) (trimmed : Char) :
    (trimEndMatches text trimmed).toList = text.toList.rdropWhile (· == trimmed) :=
  String.toList_ofList

/-- Trimming stops at the last character that is kept. -/
theorem trimEndMatches_append {rest : String} {trimmed kept : Char}
    (present : kept ∈ rest.toList) (different : kept ≠ trimmed) (start : String) :
    trimEndMatches (start ++ rest) trimmed = start ++ trimEndMatches rest trimmed := by
  have someKept : rest.toList.reverse.dropWhile (· == trimmed) ≠ [] := by
    intro none
    have all := List.dropWhile_eq_nil_iff.mp none kept (List.mem_reverse.mpr present)
    exact different (beq_iff_eq.mp all)
  apply String.toList_injective
  rw [String.toList_append, toList_trimEndMatches, toList_trimEndMatches,
    String.toList_append, List.rdropWhile, List.reverse_append, List.dropWhile_append,
    if_neg (by simpa using someKept), List.reverse_append, List.reverse_reverse]
  rfl

/-- What consists of trimmed characters is trimmed away. -/
theorem trimEndMatches_append_of_all {rest : String} {trimmed : Char}
    (all : ∀ char ∈ rest.toList, char = trimmed) (start : String) :
    trimEndMatches (start ++ rest) trimmed = trimEndMatches start trimmed := by
  have noneKept : rest.toList.reverse.dropWhile (· == trimmed) = [] := by
    rw [List.dropWhile_eq_nil_iff]
    intro char membership
    exact beq_iff_eq.mpr (all char (List.mem_reverse.mp membership))
  apply String.toList_injective
  rw [toList_trimEndMatches, toList_trimEndMatches, String.toList_append, List.rdropWhile,
    List.reverse_append, List.dropWhile_append, if_pos (by simp [noneKept])]
  rfl

theorem mem_trimEndMatches {text : String} {trimmed kept : Char} (present : kept ∈ text.toList)
    (different : kept ≠ trimmed) : kept ∈ (trimEndMatches text trimmed).toList := by
  rw [toList_trimEndMatches]
  have split : text.toList.rdropWhile (· == trimmed) ++ text.toList.rtakeWhile (· == trimmed) =
      text.toList := List.rdropWhile_append_rtakeWhile
  rw [← split] at present
  rcases List.mem_append.mp present with stays | trimmedAway
  · exact stays
  · have same := List.mem_rtakeWhile_imp (p := (· == trimmed)) trimmedAway
    exact absurd (beq_iff_eq.mp same) different

/-- What is trimmed away repeats the trimmed character. -/
theorem eq_trimEndMatches_append (text : String) (trimmed : Char) :
    ∃ count, text.toList =
      (trimEndMatches text trimmed).toList ++ List.replicate count trimmed := by
  use (text.toList.rtakeWhile (· == trimmed)).length
  have repeated : text.toList.rtakeWhile (· == trimmed) =
      List.replicate (text.toList.rtakeWhile (· == trimmed)).length trimmed := by
    rw [List.eq_replicate_iff]
    refine ⟨rfl, fun char membership => ?_⟩
    exact beq_iff_eq.mp (List.mem_rtakeWhile_imp (p := (· == trimmed)) membership)
  rw [toList_trimEndMatches, ← repeated]
  exact List.rdropWhile_append_rtakeWhile.symm

theorem trimEndMatches_getLast {text : String} {trimmed : Char}
    (nonempty : (trimEndMatches text trimmed).toList ≠ []) :
    (trimEndMatches text trimmed).toList.getLast nonempty ≠ trimmed := by
  intro same
  have last := List.rdropWhile_last_not (· == trimmed) text.toList
    (by rwa [toList_trimEndMatches] at nonempty)
  simp only [toList_trimEndMatches] at same
  exact last (beq_iff_eq.mpr same)

end Text
