import Patchbay.Lib.SharedTable

/-!
# Files

A directory names files, and a file that is open stays the same file when its name moves.
Opening, each write and renaming are atomic; a crash leaves what was done so far.
-/

universe u

/-- Names and contents of files, which are bytes. -/
abbrev Disk (ν : Type u) [DecidableEq ν] := SharedTable ν (List UInt8)

namespace Disk

variable {ν : Type u} [DecidableEq ν]

/-- Open a file for writing: a new one, or an old one that is truncated. -/
def create (disk : Disk ν) (name : ν) : Nat × Disk ν :=
  let opened := disk.orInsert name []
  (opened.1, opened.2.modify opened.1 fun _ => [])

/-- Write at an offset; a gap before it reads as zeros. -/
def writeAt (content : List UInt8) (offset : Nat) (chunk : List UInt8) : List UInt8 :=
  content.take offset ++ List.replicate (offset - content.length) 0 ++ chunk ++
    content.drop (offset + chunk.length)

def write (disk : Disk ν) (file offset : Nat) (chunk : List UInt8) : Disk ν :=
  disk.modify file fun content => writeAt content offset chunk

variable {disk : Disk ν} {name other : ν}

theorem lookup_create_self : (disk.create name).2.lookup name = some (disk.create name).1 :=
  disk.lookup_orInsert_self name []

theorem content_create_self : (disk.create name).2.content name = some [] := by
  rw [create, SharedTable.content_modify_self _ (disk.lookup_orInsert_self name []),
    SharedTable.content_orInsert_self]
  rfl

theorem content_create_of_ne (different : other ≠ name) :
    (disk.create name).2.content other = disk.content other := by
  rw [create, SharedTable.content_modify_of_ne _ (disk.lookup_orInsert_self name []) different,
    SharedTable.content_orInsert_of_ne _ _ _ different]

/-- Writing on at the end of what was written. -/
theorem writeAt_take (text : List UInt8) (offset count : Nat) (inside : offset ≤ text.length) :
    writeAt (text.take offset) offset ((text.drop offset).take count) =
      text.take (offset + count) := by
  have size : (text.take offset).length = offset := List.length_take_of_le inside
  have nothing : (text.take offset).drop (offset + ((text.drop offset).take count).length) =
      [] := by
    apply List.drop_eq_nil_of_le
    omega
  rw [writeAt, nothing, size, Nat.sub_self, List.replicate_zero, List.append_nil,
    List.append_nil, List.take_take, Nat.min_self, List.take_add]

end Disk
