import Patchbay.Lib.Json

/-!
# Token usage

The usage object of OpenAI-compatible responses and the two ways it is decoded:
as a derived structure straight from the text, and from an untyped value that
was read first.
-/

namespace Patchbay

open Json

/-- Raw bytes of bodies, chunks and header values. -/
abbrev Bytes := List UInt8

/-- Token usage as reported by OpenAI-compatible responses. -/
structure Usage where
  promptTokens : UInt64
  completionTokens : UInt64
  totalTokens : UInt64
  deriving DecidableEq, Repr

namespace Usage

def zero : Usage := ⟨0, 0, 0⟩

/-- Each field is a `u64` that defaults to zero. -/
def ofFields (promptTokens completionTokens totalTokens : Option SyntaxTree) :
    Option Usage := do
  let promptTokens ← defaultU64 promptTokens
  let completionTokens ← defaultU64 completionTokens
  let totalTokens ← defaultU64 totalTokens
  return { promptTokens, completionTokens, totalTokens }

/-- Field names in declaration order. -/
def fieldNames : List String := ["prompt_tokens", "completion_tokens", "total_tokens"]

/-- A sequence is accepted positionally; missing items take their default. -/
def ofSequence (items : List SyntaxTree) : Option Usage :=
  if items.length ≤ fieldNames.length then ofFields items[0]? items[1]? items[2]?
  else none

/-- Derived deserialization from the text. -/
def deserialize : SyntaxTree → Option Usage
  | .object members =>
      if Members.keysDecode members then do
        let promptTokens ← Members.field members "prompt_tokens"
        let completionTokens ← Members.field members "completion_tokens"
        let totalTokens ← Members.field members "total_tokens"
        ofFields promptTokens completionTokens totalTokens
      else none
  | .array items => ofSequence items
  | _ => none

/-- Derived deserialization from an untyped value, whose objects have already
dropped all but the last of repeated keys. -/
def fromValue : SyntaxTree → Option Usage
  | .object members =>
      ofFields (Members.last members "prompt_tokens")
        (Members.last members "completion_tokens") (Members.last members "total_tokens")
  | .array items => ofSequence items
  | _ => none

/-- A usage object written as text: each field that has an entry has an unsigned
number as its last one.  A sequence holds at most the three numbers. -/
def IsUsage : SyntaxTree → Prop
  | .object members =>
      ∀ name ∈ fieldNames, ∀ value, Members.last members name = some value →
        value.asU64.isSome = true
  | .array items =>
      items.length ≤ fieldNames.length ∧ ∀ item ∈ items, item.asU64.isSome = true
  | _ => False

/-- Every key denotes text and no field is repeated. -/
def unambiguous : SyntaxTree → Bool
  | .object members => Members.keysDecode members && Members.noneRepeated members fieldNames
  | _ => true

theorem defaultU64_isSome {field : Option SyntaxTree} :
    (defaultU64 field).isSome = true ↔
      ∀ value, field = some value → value.asU64.isSome = true := by
  cases field with
  | none => simp [defaultU64]
  | some value => simp [defaultU64]

theorem ofFields_isSome {promptTokens completionTokens totalTokens : Option SyntaxTree} :
    (ofFields promptTokens completionTokens totalTokens).isSome = true ↔
      (defaultU64 promptTokens).isSome = true ∧ (defaultU64 completionTokens).isSome = true ∧
        (defaultU64 totalTokens).isSome = true := by
  unfold ofFields
  cases defaultU64 promptTokens with
  | none => simp
  | some prompt =>
      cases defaultU64 completionTokens with
      | none => simp
      | some completion => cases defaultU64 totalTokens <;> simp

/-- The untyped path decodes exactly the usage objects. -/
theorem fromValue_isSome (value : SyntaxTree) :
    (fromValue value).isSome = true ↔ IsUsage value := by
  cases value with
  | object members =>
      simp only [fromValue, ofFields_isSome, defaultU64_isSome, IsUsage, fieldNames,
        List.forall_mem_cons, List.not_mem_nil, false_implies, implies_true, and_true]
  | array items =>
      simp only [fromValue, ofSequence, IsUsage]
      by_cases short : items.length ≤ fieldNames.length
      · rw [if_pos short, ofFields_isSome, and_iff_right short]
        -- At most three items are left to look at.
        match items, short with
        | [], _ => simp [defaultU64]
        | [_], _ => simp [defaultU64]
        | [_, _], _ => simp [defaultU64]
        | [_, _, _], _ => simp [defaultU64]
      · simp [short]
  | null => simp [fromValue, IsUsage]
  | bool value => simp [fromValue, IsUsage]
  | number value => simp [fromValue, IsUsage]
  | string value => simp [fromValue, IsUsage]

/-- The typed path refuses ambiguous objects and decodes the others alike. -/
theorem deserialize_eq (value : SyntaxTree) :
    deserialize value = if unambiguous value then fromValue value else none := by
  cases value with
  | object members =>
      simp only [deserialize, unambiguous, fromValue, Bool.and_eq_true, ite_and]
      congr 1
      simp only [Members.field_eq, Members.noneRepeated, fieldNames, List.all_cons,
        List.all_nil, Bool.and_true, Bool.and_eq_true, decide_eq_true_eq]
      by_cases prompt : (Members.named members "prompt_tokens").length ≤ 1
      · by_cases completion : (Members.named members "completion_tokens").length ≤ 1
        · by_cases total : (Members.named members "total_tokens").length ≤ 1 <;>
            simp [prompt, completion, total]
        · simp [completion]
      · simp [prompt]
  | null => rfl
  | bool value => rfl
  | number value => rfl
  | string value => rfl
  | array items => rfl

end Usage

/-- The part of a stream event the scanner decodes. -/
structure UsageEnvelope where
  usage : Option Usage
  deriving DecidableEq, Repr

namespace UsageEnvelope

/-- `null` reads as no usage. -/
def optionalUsage : SyntaxTree → Option (Option Usage)
  | .null => some none
  | value => (Usage.deserialize value).map some

/-- Derived deserialization from the text: an absent member is no usage, while a
sequence must hold exactly the one field. -/
def deserialize : SyntaxTree → Option UsageEnvelope
  | .object members =>
      if Members.keysDecode members then
        match Members.field members "usage" with
        | none => none
        | some none => some { usage := none }
        | some (some value) => (optionalUsage value).map UsageEnvelope.mk
      else none
  | .array [value] => (optionalUsage value).map UsageEnvelope.mk
  | _ => none

/-- `serde_json::from_slice::<UsageEnvelope>`. -/
def fromSlice (json : Reader) (data : Bytes) : Option UsageEnvelope :=
  (json.tree data).bind deserialize

end UsageEnvelope

end Patchbay
