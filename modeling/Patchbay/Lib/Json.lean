import Mathlib.Data.List.Basic

/-!
# JSON texts and derived deserialization

A JSON text is kept as the syntax tree of what is written: members stay in text
order and repeated keys stay apart.  Two ways of looking a field up in an object
are built on it.  A derived structure reads members by name and refuses a
repeated field; an untyped value keeps the last of repeated keys.
-/

namespace Json

/-- The numbers of a JSON text, as far as an unsigned 64-bit field tells them
apart. -/
inductive Number where
  | unsigned (value : UInt64)
  | other
  deriving DecidableEq, Repr

/-- A JSON syntax tree.  A string is `none` where its escapes denote no text. -/
inductive SyntaxTree where
  | null
  | bool (value : Bool)
  | number (value : Number)
  | string (value : Option String)
  | array (items : List SyntaxTree)
  | object (members : List (Option String × SyntaxTree))

/-- A reader of JSON texts: the syntax tree of a text, and whether the text can
also be read as an untyped value, which bounds nesting and number ranges. -/
structure Reader where
  tree : List UInt8 → Option SyntaxTree
  untyped : List UInt8 → Bool

abbrev Members := List (Option String × SyntaxTree)

namespace Members

/-- The values written under one key, in text order. -/
def named (members : Members) (key : String) : List SyntaxTree :=
  members.filterMap fun member => if member.1 = some key then some member.2 else none

/-- Every key denotes text. -/
def keysDecode (members : Members) : Bool :=
  members.all fun member => member.1.isSome

/-- The field of a derived structure: an error if it is repeated. -/
def field (members : Members) (key : String) : Option (Option SyntaxTree) :=
  match members.named key with
  | [] => some none
  | [value] => some (some value)
  | _ :: _ :: _ => none

/-- The entry of an untyped object: the last of repeated keys. -/
def last (members : Members) (key : String) : Option SyntaxTree :=
  (members.named key).getLast?

/-- No key of `keys` is repeated. -/
def noneRepeated (members : Members) (keys : List String) : Bool :=
  keys.all fun key => (members.named key).length ≤ 1

theorem field_eq_some_last {members : Members} {key : String}
    (single : (members.named key).length ≤ 1) :
    members.field key = some (members.last key) := by
  unfold field last
  cases entries : members.named key with
  | nil => rfl
  | cons value rest =>
      cases rest with
      | nil => rfl
      | cons second rest => simp [entries] at single

theorem field_eq_none {members : Members} {key : String}
    (repeated : 1 < (members.named key).length) : members.field key = none := by
  unfold field
  cases entries : members.named key with
  | nil => simp [entries] at repeated
  | cons value rest =>
      cases rest with
      | nil => simp [entries] at repeated
      | cons second rest => rfl

/-- A field reads as the last entry, unless it is repeated. -/
theorem field_eq (members : Members) (key : String) :
    members.field key =
      if (members.named key).length ≤ 1 then some (members.last key) else none := by
  split
  · next single => exact field_eq_some_last single
  · next repeated => exact field_eq_none (Nat.lt_of_not_le repeated)

end Members

/-- Read a text as an untyped value. -/
def Reader.value (reader : Reader) (text : List UInt8) : Option SyntaxTree :=
  if reader.untyped text then reader.tree text else none

/-- The entry of an untyped value, if it is an object. -/
def SyntaxTree.get : SyntaxTree → String → Option SyntaxTree
  | .object members, key => Members.last members key
  | _, _ => none

/-- An unsigned 64-bit integer. -/
def SyntaxTree.asU64 : SyntaxTree → Option UInt64
  | .number (.unsigned value) => some value
  | _ => none

/-- An unsigned 64-bit field that defaults to zero. -/
def defaultU64 : Option SyntaxTree → Option UInt64
  | none => some 0
  | some value => value.asU64

end Json
