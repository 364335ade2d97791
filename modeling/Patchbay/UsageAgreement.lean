import Patchbay.Gateway
import Patchbay.Upstream.ScannerRefinement

/-!
# Streamed and buffered accounting

A completion is accounted either from the one body of a buffered response or from
the events of a stream.  The two extractors differ: the scanner looks for the
bytes of the key first and decodes a derived structure, which refuses repeated
fields, while the buffered path reads an untyped value, which keeps the last of
repeated keys.  They are compared on a text sent as the only event of a stream.
-/

namespace Patchbay

open EventStream Json

/-! ## A text as the only event of a stream -/

/-- `data: `, the text, and a blank line. -/
def oneEvent (body : Bytes) : Bytes :=
  [100, 97, 116, 97, 58, 32] ++ body ++ [lf, lf]

theorem oneEvent_line {body : Bytes} (oneLine : ∀ byte ∈ body, ¬ IsTerminator byte) :
    cutLine (oneEvent body) = some ([100, 97, 116, 97, 58, 32] ++ body, [lf]) := by
  have dataInLine : ∀ byte ∈ ([100, 97, 116, 97, 58, 32] : Bytes), ¬ IsTerminator byte := by
    decide +kernel
  apply cutLine_append_lf
  intro byte membership
  rcases List.mem_append.mp membership with inName | inBody
  · exact dataInLine byte inName
  · exact oneLine byte inBody

theorem payloads_oneEvent {body : Bytes} (oneLine : ∀ byte ∈ body, ¬ IsTerminator byte) :
    payloads (oneEvent body) = [body] := by
  have payload : dataPayload ([100, 97, 116, 97, 58, 32] ++ body) = some body := by
    rw [dataPayload, if_neg (by simp [dataName])]
    rfl
  have streamLines : lines (oneEvent body) = [[100, 97, 116, 97, 58, 32] ++ body, []] := by
    rw [lines_of_cut_some (oneEvent_line oneLine), lines_of_cut_some (cutLine_lf []), lines_nil]
  rw [payloads, streamLines, dispatched, if_neg (by simp), collect, payload]
  rfl

theorem undecidedPayload_oneEvent {body : Bytes}
    (oneLine : ∀ byte ∈ body, ¬ IsTerminator byte) : undecidedPayload (oneEvent body) = none := by
  have ended : lastLine (oneEvent body) = [] := by
    rw [lastLine_of_cut_some (oneEvent_line oneLine), lastLine_of_cut_some (cutLine_lf []),
      lastLine_of_cut_none rfl]
  rw [undecidedPayload, if_neg (by simp [ended])]

/-- The usage in the summary of a stream that holds the text as its only event,
delivered as one chunk. -/
def streamedUsage (json : Reader) (body : Bytes) (start : Nat) (first second : PollContext) :
    Option Usage :=
  let relay := SseRelay.new (oneChunk (oneEvent body)) stallTimeout start
  let relay := (relay.pollAll (UsageEnvelope.fromSlice json) [first, second]).2
  relay.summaries.head?.bind (·.usage)

namespace UsageScanner

variable (parse : Bytes → Option UsageEnvelope)

/-- The buffer cap leaves the usage seen so far alone. -/
theorem feed_lastUsage (stream : Bytes) :
    (default.feed parse stream).lastUsage = (reference parse stream).lastUsage := by
  have absorbed : (default.absorb parse stream).lastUsage =
      (reference parse stream).lastUsage := by
    rw [reference_absorb]
  simp only [feed]
  rw [if_neg (by decide), ← absorbed]
  split <;> rfl

end UsageScanner

section Agreement

variable {json : Reader} {body : Bytes}

theorem streamedUsage_eq (doneIsNoJson : json.tree [91, 68, 79, 78, 69, 93] = none)
    {tree : SyntaxTree} (isJson : json.tree body = some tree)
    (oneLine : ∀ byte ∈ body, ¬ IsTerminator byte) (start : Nat) (first second : PollContext) :
    streamedUsage json body start first second =
      if mentionsUsage body then (UsageEnvelope.deserialize tree).bind (·.usage) else none := by
  have summed : streamedUsage json body start first second =
      (UsageScanner.default.feed (UsageEnvelope.fromSlice json) (oneEvent body)).lastUsage :=
    rfl
  have notDone : body ≠ [91, 68, 79, 78, 69, 93] := by
    rintro rfl
    rw [doneIsNoJson] at isJson
    contradiction
  have parsed : UsageEnvelope.fromSlice json body = UsageEnvelope.deserialize tree := by
    rw [UsageEnvelope.fromSlice, isJson, Option.bind_some]
  rw [summed, UsageScanner.feed_lastUsage, UsageScanner.reference, payloads_oneEvent oneLine,
    List.foldl_cons, List.foldl_nil, UsageScanner.dispatch, if_neg notDone, parsed]
  split
  · cases UsageEnvelope.deserialize tree with
    | none => rfl
    | some envelope =>
        cases envelope with
        | mk usage => cases usage <;> rfl
  · rfl

theorem bufferedUsage_eq {tree : SyntaxTree} (isJson : json.tree body = some tree) :
    bufferedUsage json body =
      if json.untyped body then (tree.get "usage").bind Usage.fromValue else none := by
  rw [bufferedUsage, Reader.value]
  split
  · rw [isJson, Option.bind_some]
  · rfl

end Agreement

/-! ## The two decoders -/

namespace UsageEnvelope

/-- A `null` usage and a usage that does not decode are alike: none is found. -/
theorem optionalUsage_usage (value : SyntaxTree) :
    ((optionalUsage value).map UsageEnvelope.mk).bind (·.usage) = Usage.deserialize value := by
  cases value with
  | null => rfl
  | _ => simp only [optionalUsage, Option.map_map]; cases Usage.deserialize _ <;> rfl

theorem deserialize_object_usage (members : Members) :
    (deserialize (.object members)).bind (·.usage) =
      if members.keysDecode ∧ members.noneRepeated ["usage"] then
        (members.last "usage").bind Usage.deserialize
      else none := by
  rw [deserialize, ite_and]
  split
  · rw [Members.field_eq]
    by_cases single : (members.named "usage").length ≤ 1
    · rw [if_pos single, if_pos (by simpa [Members.noneRepeated] using single)]
      cases members.last "usage" with
      | none => rfl
      | some value => exact optionalUsage_usage value
    · rw [if_neg single, if_neg (by simpa [Members.noneRepeated] using single)]
      rfl
  · rfl

end UsageEnvelope

/-- Two conditions select alike from a value, if there is one. -/
theorem ite_none_eq_ite_none {α : Type} {left right : Prop} [Decidable left] [Decidable right]
    {value : Option α} :
    (if left then value else none) = (if right then value else none) ↔
      (value.isSome = true → (right ↔ left)) := by
  cases value with
  | none => simp
  | some value => by_cases left <;> by_cases right <;> simp [*]

/-- Where the two extractors agree on a text, given whether it reads as an untyped
value and whether its bytes mention the key.  An object whose last `usage` is a
usage object must read as an untyped value exactly if it mentions the key, all its
keys denote text, and neither `usage` nor a field of it is repeated.  A sequence of
one usage object must not pass for an envelope. -/
def AccountedAlike (untyped mentions : Bool) : SyntaxTree → Prop
  | .object members =>
      ∀ value, Members.last members "usage" = some value → Usage.IsUsage value →
        (untyped = true ↔
          mentions = true ∧ Members.keysDecode members = true ∧
            Members.noneRepeated members ["usage"] = true ∧ Usage.unambiguous value = true)
  | .array [value] =>
      Usage.IsUsage value → ¬ (mentions = true ∧ Usage.unambiguous value = true)
  | _ => True

/-- **When streamed and buffered accounting agree.** -/
theorem accounting_agrees_iff {json : Reader}
    (doneIsNoJson : json.tree [91, 68, 79, 78, 69, 93] = none) {body : Bytes} {tree : SyntaxTree}
    (isJson : json.tree body = some tree) (oneLine : ∀ byte ∈ body, ¬ IsTerminator byte)
    (start : Nat) (first second : PollContext) :
    streamedUsage json body start first second = bufferedUsage json body ↔
      AccountedAlike (json.untyped body) (mentionsUsage body) tree := by
  rw [streamedUsage_eq doneIsNoJson isJson oneLine, bufferedUsage_eq isJson]
  cases tree with
  | object members =>
      rw [UsageEnvelope.deserialize_object_usage, SyntaxTree.get, AccountedAlike]
      cases present : Members.last members "usage" with
      | none => simp
      | some value =>
          simp only [Option.bind_some, Usage.deserialize_eq, ← ite_and, Option.some.injEq,
            forall_eq', ite_none_eq_ite_none, Usage.fromValue_isSome, and_assoc]
  | array items =>
      match items with
      | [value] =>
          rw [UsageEnvelope.deserialize, UsageEnvelope.optionalUsage_usage,
            Usage.deserialize_eq, ← ite_and, AccountedAlike, ← Usage.fromValue_isSome]
          cases Usage.fromValue value <;> simp [SyntaxTree.get]
      | [] => simp [UsageEnvelope.deserialize, SyntaxTree.get, AccountedAlike]
      | _ :: _ :: _ => simp [UsageEnvelope.deserialize, SyntaxTree.get, AccountedAlike]
  | null => simp [UsageEnvelope.deserialize, SyntaxTree.get, AccountedAlike]
  | bool value => simp [UsageEnvelope.deserialize, SyntaxTree.get, AccountedAlike]
  | number value => simp [UsageEnvelope.deserialize, SyntaxTree.get, AccountedAlike]
  | string value => simp [UsageEnvelope.deserialize, SyntaxTree.get, AccountedAlike]

theorem accounting_agrees_iff_completion :
    streamedUsage Sample.json Sample.completion 0 ⟨0, false⟩ ⟨0, false⟩ =
        bufferedUsage Sample.json Sample.completion ↔
      AccountedAlike (Sample.json.untyped Sample.completion) (mentionsUsage Sample.completion)
        (.object [(some "usage", .object [(some "total_tokens", .number (.unsigned 150))])]) :=
  accounting_agrees_iff (by rfl) (by rfl) (by decide +kernel) 0 ⟨0, false⟩ ⟨0, false⟩

namespace Sample

/-- A completion that spells the first letter of the usage key as an escape. -/
def escaped : Bytes :=
  fromStatic "\x7b\"\\u0075sage\":\x7b\"total_tokens\":150\x7d\x7d"

/-- Reads the escaped completion, and nothing else. -/
def escapedJson : Json.Reader where
  tree text :=
    if text = escaped then
      some (.object [(some "usage",
        .object [(some "total_tokens", .number (.unsigned 150))])])
    else none
  untyped text := text == escaped

end Sample

/-- The scanner looks for the key as it is usually spelled. -/
theorem escaped_usage_not_streamed :
    (∀ byte ∈ Sample.escaped, ¬ IsTerminator byte) ∧
      bufferedUsage Sample.escapedJson Sample.escaped = some ⟨0, 0, 150⟩ ∧
      streamedUsage Sample.escapedJson Sample.escaped 0 ⟨0, false⟩ ⟨0, false⟩ = none := by
  have oneLine : ∀ byte ∈ Sample.escaped, ¬ IsTerminator byte := by decide +kernel
  have notMentioned : mentionsUsage Sample.escaped = false := by decide +kernel
  refine ⟨oneLine, by rfl, ?_⟩
  rw [streamedUsage_eq (by rfl) (by rfl) oneLine, notMentioned]
  rfl

end Patchbay
