import Patchbay.Lib.Framing

/-!
# Line-based reading of an event stream

The reference semantics of a server-sent event stream.  Lines end at CRLF, LF or
CR; a CR that is the last byte so far is undecided and ends nothing yet.  The
payloads of the `data` lines of one event are joined with LF, and a blank line
dispatches them.
-/

namespace EventStream

open Framing

def lf : UInt8 := 10

def cr : UInt8 := 13

/-- Whether a byte takes part in a line terminator. -/
def IsTerminator (byte : UInt8) : Prop := byte = lf ∨ byte = cr

instance (byte : UInt8) : Decidable (IsTerminator byte) :=
  inferInstanceAs (Decidable (byte = lf ∨ byte = cr))

/-- The first complete line, without its terminator, and what follows it. -/
def cutLine : List UInt8 → Option (List UInt8 × List UInt8)
  | [] => none
  | byte :: rest =>
      if byte = lf then some ([], rest)
      else if byte = cr then
        match rest with
        | [] => none
        | next :: after => if next = lf then some ([], after) else some ([], next :: after)
      else (cutLine rest).map fun result => (byte :: result.1, result.2)

@[simp] theorem cutLine_nil : cutLine [] = none := rfl

@[simp] theorem cutLine_lf (rest : List UInt8) :
    cutLine (lf :: rest) = some ([], rest) := by
  simp [cutLine]

@[simp] theorem cutLine_cr_end : cutLine [cr] = none := by
  simp [cutLine, cr, lf]

@[simp] theorem cutLine_crlf (rest : List UInt8) :
    cutLine (cr :: lf :: rest) = some ([], rest) := by
  simp [cutLine, cr, lf]

theorem cutLine_cr {next : UInt8} (notLf : next ≠ lf) (rest : List UInt8) :
    cutLine (cr :: next :: rest) = some ([], next :: rest) := by
  have crNotLf : cr ≠ lf := by decide
  simp [cutLine, crNotLf, notLf]

theorem cutLine_cons {byte : UInt8} (inLine : ¬ IsTerminator byte)
    (rest : List UInt8) :
    cutLine (byte :: rest) =
      (cutLine rest).map fun result => (byte :: result.1, result.2) := by
  rw [IsTerminator, not_or] at inLine
  simp [cutLine, inLine.1, inLine.2]

theorem cutLine_shrinks {buffer line rest : List UInt8}
    (found : cutLine buffer = some (line, rest)) : rest.length < buffer.length := by
  induction buffer generalizing line with
  | nil => simp at found
  | cons byte tail ih =>
      simp only [cutLine] at found
      split at found
      · simp_all
      · split at found
        · split at found
          · simp at found
          · split at found
            all_goals
              simp only [Option.some.injEq, Prod.mk.injEq] at found
              rcases found with ⟨-, rfl⟩
              simp only [List.length_cons]
              omega
        · simp only [Option.map_eq_some_iff, Prod.mk.injEq] at found
          rcases found with ⟨result, foundTail, -, restEq⟩
          have shorter := ih (foundTail.trans (by rw [← restEq]))
          simp only [List.length_cons]
          omega

theorem cutLine_stable {buffer line rest : List UInt8}
    (found : cutLine buffer = some (line, rest)) (more : List UInt8) :
    cutLine (buffer ++ more) = some (line, rest ++ more) := by
  induction buffer generalizing line with
  | nil => simp at found
  | cons byte tail ih =>
      simp only [cutLine, List.cons_append] at found ⊢
      split at found
      · simp_all
      · split at found
        · split at found
          · simp at found
          · next next after =>
              simp only [List.cons_append]
              split at found
              all_goals
                simp only [Option.some.injEq, Prod.mk.injEq] at found
                rcases found with ⟨rfl, rfl⟩
                simp_all
        · simp only [Option.map_eq_some_iff, Prod.mk.injEq] at found
          rcases found with ⟨result, foundTail, lineEq, restEq⟩
          have stableTail := ih (foundTail.trans (by rw [← restEq]))
          simp_all

/-- Bytes without terminators up to a LF are one line. -/
theorem cutLine_append_lf {line : List UInt8} (inLine : ∀ byte ∈ line, ¬ IsTerminator byte)
    (rest : List UInt8) : cutLine (line ++ lf :: rest) = some (line, rest) := by
  induction line with
  | nil => exact cutLine_lf rest
  | cons byte line ih =>
      rw [List.cons_append, cutLine_cons (inLine byte (by simp)),
        ih fun byte membership => inLine byte (by simp [membership])]
      rfl

/-- Cutting lines is a stable framing rule. -/
def lineCutter : Cutter UInt8 (List UInt8) where
  cut := cutLine
  shrinks := cutLine_shrinks
  stable := cutLine_stable

/-- The complete lines of a stream. -/
def lines (stream : List UInt8) : List (List UInt8) := lineCutter.frames stream

/-- The unfinished line at the end of a stream. -/
def lastLine (stream : List UInt8) : List UInt8 := lineCutter.leftover stream

/-- All lines of a text that is known to be over: its end also ends a line. -/
def segments (text : List UInt8) : List (List UInt8) := lines text ++ [lastLine text]

theorem lines_of_cut_none {stream : List UInt8} (unfinished : cutLine stream = none) :
    lines stream = [] :=
  lineCutter.frames_of_cut_none unfinished

theorem lines_of_cut_some {stream line rest : List UInt8}
    (found : cutLine stream = some (line, rest)) : lines stream = line :: lines rest :=
  lineCutter.frames_of_cut_some found

theorem lastLine_of_cut_none {stream : List UInt8} (unfinished : cutLine stream = none) :
    lastLine stream = stream :=
  lineCutter.leftover_of_cut_none unfinished

theorem lastLine_of_cut_some {stream line rest : List UInt8}
    (found : cutLine stream = some (line, rest)) : lastLine stream = lastLine rest :=
  lineCutter.leftover_of_cut_some found

theorem segments_of_cut_none {stream : List UInt8}
    (unfinished : cutLine stream = none) : segments stream = [stream] := by
  rw [segments, lines_of_cut_none unfinished, lastLine_of_cut_none unfinished]
  rfl

theorem segments_of_cut_some {stream line rest : List UInt8}
    (found : cutLine stream = some (line, rest)) :
    segments stream = line :: segments rest := by
  rw [segments, segments, lines_of_cut_some found, lastLine_of_cut_some found]
  rfl

@[simp] theorem lines_nil : lines [] = [] := lines_of_cut_none rfl

@[simp] theorem segments_nil : segments [] = [[]] := segments_of_cut_none rfl

theorem segments_ne_nil (text : List UInt8) : segments text ≠ [] := by
  simp [segments]

/-- A byte inside a line is part of the first line. -/
theorem lines_cons {byte : UInt8} (inLine : ¬ IsTerminator byte) (rest : List UInt8) :
    lines (byte :: rest) = (lines rest).modifyHead (byte :: ·) := by
  cases found : cutLine rest with
  | none =>
      rw [lines_of_cut_none found,
        lines_of_cut_none (by rw [cutLine_cons inLine, found]; rfl)]
      rfl
  | some result =>
      rw [lines_of_cut_some found,
        lines_of_cut_some (by rw [cutLine_cons inLine, found]; rfl)]
      rfl

theorem segments_cons {byte : UInt8} (inLine : ¬ IsTerminator byte)
    (rest : List UInt8) :
    segments (byte :: rest) = (segments rest).modifyHead (byte :: ·) := by
  cases found : cutLine rest with
  | none =>
      rw [segments_of_cut_none found,
        segments_of_cut_none (by rw [cutLine_cons inLine, found]; rfl)]
      rfl
  | some result =>
      rw [segments_of_cut_some found,
        segments_of_cut_some (by rw [cutLine_cons inLine, found]; rfl)]
      rfl

/-! ## Events -/

/-- The field name `data`. -/
def dataName : List UInt8 := [100, 97, 116, 97]

/-- The payload a line contributes: what follows `data:`, less one leading
space, or nothing for a bare `data`. -/
def dataPayload (line : List UInt8) : Option (List UInt8) :=
  if line = dataName then some []
  else
    match line.dropPrefix? (dataName ++ [58]) with
    | none => none
    | some (32 :: payload) => some payload
    | some payload => some payload

/-- Add a line to the payload collected so far; `none` while no data line was
seen. -/
def collect (pending : Option (List UInt8)) (line : List UInt8) :
    Option (List UInt8) :=
  match dataPayload line with
  | none => pending
  | some payload => some (pending.elim payload fun data => data ++ lf :: payload)

/-- The payloads dispatched by a sequence of complete lines. -/
def dispatched : Option (List UInt8) → List (List UInt8) → List (List UInt8)
  | _, [] => []
  | pending, line :: rest =>
      if line = [] then pending.toList ++ dispatched none rest
      else dispatched (collect pending line) rest

/-- The event payloads of a stream, in order. -/
def payloads (stream : List UInt8) : List (List UInt8) := dispatched none (lines stream)

@[simp] theorem collect_nil (pending : Option (List UInt8)) :
    collect pending [] = pending := rfl

/-- Lines after which no blank line follows dispatch nothing, whatever is
pending. -/
theorem dispatched_of_nonblank {group : List (List UInt8)}
    (nonblank : ∀ line ∈ group, line ≠ []) (pending : Option (List UInt8)) :
    dispatched pending group = [] := by
  induction group generalizing pending with
  | nil => rfl
  | cons line rest ih =>
      rw [dispatched, if_neg (nonblank line (by simp))]
      exact ih (fun line membership => nonblank line (by simp [membership])) _

/-- Lines without a blank one, then a blank one, dispatch what they collect. -/
theorem dispatched_group {group : List (List UInt8)}
    (nonblank : ∀ line ∈ group, line ≠ []) (pending : Option (List UInt8))
    (rest : List (List UInt8)) :
    dispatched pending (group ++ [] :: rest) =
      (group.foldl collect pending).toList ++ dispatched none rest := by
  induction group generalizing pending with
  | nil => simp [dispatched]
  | cons line group ih =>
      rw [List.cons_append, dispatched, if_neg (nonblank line (by simp)),
        ih (fun line membership => nonblank line (by simp [membership]))]
      rfl

/-! ## The end of a stream -/

/-- What is pending after a sequence of complete lines. -/
def pendingAfter (pending : Option (List UInt8)) (complete : List (List UInt8)) :
    Option (List UInt8) :=
  complete.foldl (fun pending line => if line = [] then none else collect pending line) pending

theorem dispatched_append (pending : Option (List UInt8)) (before after : List (List UInt8)) :
    dispatched pending (before ++ after) =
      dispatched pending before ++ dispatched (pendingAfter pending before) after := by
  induction before generalizing pending with
  | nil => rfl
  | cons line before ih =>
      rw [List.cons_append, dispatched, dispatched, pendingAfter, List.foldl_cons, ← pendingAfter]
      split
      · rw [ih, List.append_assoc]
      · rw [ih]

/-- The lines of a stream that is over: a CR at its end is no half of a CRLF and ends a
line too. -/
def endedLines (stream : List UInt8) : List (List UInt8) :=
  lines stream ++
    if (lastLine stream).getLast? = some cr then [(lastLine stream).dropLast] else []

/-- The event payloads of a stream that is over. -/
def endedPayloads (stream : List UInt8) : List (List UInt8) :=
  dispatched none (endedLines stream)

/-- The payload of an event whose blank line is a CR at the end of the stream. -/
def undecidedPayload (stream : List UInt8) : Option (List UInt8) :=
  if lastLine stream = [cr] then pendingAfter none (lines stream) else none

/-- The end of a stream completes at most that event. -/
theorem endedPayloads_eq (stream : List UInt8) :
    endedPayloads stream = payloads stream ++ (undecidedPayload stream).toList := by
  rw [endedPayloads, endedLines, dispatched_append, payloads, undecidedPayload]
  congr 1
  by_cases crAtEnd : (lastLine stream).getLast? = some cr
  · rw [if_pos crAtEnd]
    rcases List.getLast?_eq_some_iff.mp crAtEnd with ⟨line, split⟩
    rw [split, List.dropLast_concat]
    cases line with
    | nil => simp [dispatched]
    | cons byte line => simp [dispatched]
  · have notCr : lastLine stream ≠ [cr] := by
      intro isCr
      rw [isCr] at crAtEnd
      exact crAtEnd rfl
    rw [if_neg crAtEnd, if_neg notCr]
    rfl

end EventStream
