import Patchbay.UsageAgreement

/-!
# The search before the parser

The scanner hands a payload to the JSON parser when it finds the bytes of the usage key in
it.  A document may carry a usage without them: its key may be spelled with escapes, and a
sequence needs no key at all.
-/

namespace Patchbay

open EventStream Json

namespace UsageScanner

variable (parse : Bytes → Option UsageEnvelope)

/-- `dispatch` without the search: every payload but the terminator is parsed. -/
def dispatchUnfiltered (scanner : UsageScanner) (data : Bytes) : UsageScanner :=
  if data = doneBytes then { scanner with sawDone := true }
  else
    match parse data with
    | some { usage := some usage } => { scanner with lastUsage := some usage }
    | _ => scanner

def processEventUnfiltered (scanner : UsageScanner) (event : Bytes) : UsageScanner :=
  let lines := DataLines.empty.collectLines event 0 0
  if lines.sawDataLine then scanner.dispatchUnfiltered parse lines.data else scanner

theorem processEventUnfiltered_eq (scanner : UsageScanner) (event : Bytes) :
    scanner.processEventUnfiltered parse event =
      (eventPayload event).elim scanner (scanner.dispatchUnfiltered parse) := by
  simp only [processEventUnfiltered, collectLines_eventPayload]
  cases eventPayload event <;> rfl

theorem dispatchUnfiltered_lastUsage (scanner : UsageScanner) (data : Bytes) :
    (scanner.dispatchUnfiltered parse data).lastUsage =
      if data = doneBytes then scanner.lastUsage
      else ((parse data).bind UsageEnvelope.usage).or scanner.lastUsage := by
  rw [dispatchUnfiltered]
  split
  · rfl
  · cases parse data with
    | none => rfl
    | some envelope =>
        cases envelope with
        | mk usage => cases usage <;> rfl

/-- The search changes nothing for the terminator, for a payload that passes it, and for
one in which the parser finds no usage. -/
theorem dispatch_transparent_iff (data : Bytes) :
    (∀ scanner : UsageScanner, (scanner.dispatch parse data).lastUsage =
        (scanner.dispatchUnfiltered parse data).lastUsage) ↔
      data = doneBytes ∨ mentionsUsage data = true ∨
        (parse data).bind UsageEnvelope.usage = none := by
  simp only [dispatch_lastUsage, dispatchUnfiltered_lastUsage, usageIn]
  by_cases isDone : data = doneBytes
  · subst isDone
    exact iff_of_true (fun _ => rfl) (.inl rfl)
  · simp only [isDone, if_false, false_or]
    cases mentions : mentionsUsage data with
    | true => exact iff_of_true (fun _ => rfl) (.inl rfl)
    | false =>
        simp only [Bool.false_eq_true, if_false, false_or, Option.none_or]
        constructor
        · intro same
          have fresh := same default
          rwa [default, Option.or_none, eq_comm] at fresh
        · intro noUsage scanner
          rw [noUsage, Option.none_or]

end UsageScanner

/-! ## Documents that carry a usage -/

/-- A usage object whose fields are not repeated. -/
def PlainUsage (value : SyntaxTree) : Prop :=
  Usage.IsUsage value ∧ Usage.unambiguous value = true

/-- A document with a usage: an object whose keys denote text with one `usage` member, or a
sequence of one item. -/
def CarriesUsage : SyntaxTree → Prop
  | .object members =>
      Members.keysDecode members = true ∧
        ∃ value, Members.named members "usage" = [value] ∧ PlainUsage value
  | .array [value] => PlainUsage value
  | _ => False

theorem deserialize_usage_isSome {value : SyntaxTree} :
    (Usage.deserialize value).isSome = true ↔ PlainUsage value := by
  rw [Usage.deserialize_eq, PlainUsage, ← Usage.fromValue_isSome]
  cases Usage.unambiguous value <;> simp

/-- The derived structure reads a usage from exactly these documents. -/
theorem deserialize_envelope_isSome {tree : SyntaxTree} :
    ((UsageEnvelope.deserialize tree).bind UsageEnvelope.usage).isSome = true ↔
      CarriesUsage tree := by
  cases tree with
  | object members =>
      rw [UsageEnvelope.deserialize_object_usage, CarriesUsage]
      cases entries : Members.named members "usage" with
      | nil => simp [Members.last, entries]
      | cons value rest =>
          cases rest with
          | nil =>
              have single : Members.noneRepeated members ["usage"] = true := by
                simp [Members.noneRepeated, entries]
              have isLast : Members.last members "usage" = some value := by
                simp [Members.last, entries]
              simp only [single, isLast, Option.bind_some, List.cons.injEq, and_true,
                exists_eq_left', ← deserialize_usage_isSome]
              cases Members.keysDecode members <;> simp
          | cons second rest => simp [Members.noneRepeated, entries]
  | array items =>
      cases items with
      | nil => simp [UsageEnvelope.deserialize, CarriesUsage]
      | cons value rest =>
          cases rest with
          | nil =>
              rw [UsageEnvelope.deserialize, UsageEnvelope.optionalUsage_usage,
                deserialize_usage_isSome, CarriesUsage]
          | cons second rest => simp [UsageEnvelope.deserialize, CarriesUsage]
  | null => simp [UsageEnvelope.deserialize, CarriesUsage]
  | bool value => simp [UsageEnvelope.deserialize, CarriesUsage]
  | number value => simp [UsageEnvelope.deserialize, CarriesUsage]
  | string value => simp [UsageEnvelope.deserialize, CarriesUsage]

/-- **The search.**  Processing an event leaves the last usage as without the search,
whatever was seen before, exactly when its payload is the terminator, contains the bytes of
the key, or is no document that carries a usage. -/
theorem preFilter_transparent_iff (json : Reader) (event : Bytes) :
    (∀ scanner : UsageScanner,
        (scanner.processEvent (UsageEnvelope.fromSlice json) event).lastUsage =
          (scanner.processEventUnfiltered (UsageEnvelope.fromSlice json) event).lastUsage) ↔
      ∀ data, eventPayload event = some data →
        data = doneBytes ∨ mentionsUsage data = true ∨
          ∀ tree, json.tree data = some tree → ¬ CarriesUsage tree := by
  simp only [UsageScanner.processEvent_eq, UsageScanner.processEventUnfiltered_eq]
  cases eventPayload event with
  | none => simp
  | some data =>
      simp only [Option.elim_some, Option.some.injEq, forall_eq',
        UsageScanner.dispatch_transparent_iff]
      have carries : (UsageEnvelope.fromSlice json data).bind UsageEnvelope.usage = none ↔
          ∀ tree, json.tree data = some tree → ¬ CarriesUsage tree := by
        rw [UsageEnvelope.fromSlice]
        cases json.tree data with
        | none => simp
        | some tree =>
            simp only [Option.bind_some, Option.some.injEq, forall_eq',
              ← deserialize_envelope_isSome, Bool.not_eq_true, Option.isSome_eq_false_iff,
              Option.isNone_iff_eq_none]
      rw [carries]

namespace Sample

/-- `data: ` and the completion with the escaped key. -/
def escapedEvent : Bytes := [100, 97, 116, 97, 58, 32] ++ escaped

theorem eventPayload_escapedEvent : eventPayload escapedEvent = some escaped := by
  rw [eventPayload, segments_of_cut_none (by decide +kernel)]
  decide +kernel

end Sample

open UsageEnvelope Sample in
/-- The search misses the escaped key. -/
theorem preFilter_not_transparent_escaped :
    ¬ ∀ (event : Bytes) (scanner : UsageScanner),
      (scanner.processEvent (fromSlice escapedJson) event).lastUsage =
        (scanner.processEventUnfiltered (fromSlice escapedJson) event).lastUsage := by
  intro transparent
  have same := transparent escapedEvent .default
  rw [UsageScanner.processEvent_eq, UsageScanner.processEventUnfiltered_eq,
    eventPayload_escapedEvent, Option.elim_some, Option.elim_some,
    UsageScanner.dispatch_lastUsage, UsageScanner.dispatchUnfiltered_lastUsage,
    UsageScanner.usageIn, if_neg (by decide +kernel), if_neg (by decide +kernel)] at same
  cases same

end Patchbay
