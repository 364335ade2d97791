import Mathlib.Data.List.Induction
import Patchbay.Upstream.Scanner

/-!
# The scanner refines a line-based reader

The scanner searches its whole buffer for two terminators in a row and splits the
body it cut out into lines again.  Both tokenizations agree with the greedy line
reader of `EventStream`, so the events of a stream, and with them the accounted
usage, do not depend on how the stream was chunked.
-/

namespace Patchbay

open EventStream Framing

/-! ## Terminators and lines -/

section TermAt

variable {buf : Bytes} {i : Nat}

theorem drop_of_termAt_not (inBounds : i < buf.length) (here : termAt buf i = .not) :
    ∃ byte, ¬ IsTerminator byte ∧ buf.drop i = byte :: buf.drop (i + 1) := by
  refine ⟨buf[i], ?_, List.drop_eq_getElem_cons inBounds⟩
  rintro (isLf | isCr)
  · simp [termAt, inBounds, isLf] at here
  · simp only [termAt, List.getElem?_eq_getElem inBounds, isCr] at here
    rw [if_neg (by decide), if_pos trivial] at here
    split at here
    · split at here <;> simp at here
    · simp at here

theorem drop_of_termAt_incomplete (here : termAt buf i = .incomplete) :
    buf.drop i = [cr] := by
  simp only [termAt] at here
  split at here
  · simp at here
  · next byte present =>
      rcases List.getElem?_eq_some_iff.mp present with ⟨inBounds, rfl⟩
      split at here
      · simp at here
      · split at here
        · next isCr =>
            split at here
            · split at here <;> simp at here
            · next absent =>
                rw [List.drop_eq_getElem_cons inBounds, isCr,
                  List.drop_eq_nil_of_le (List.getElem?_eq_none_iff.mp absent)]
        · simp at here

theorem cutLine_of_termAt_len {l : Nat} (here : termAt buf i = .len l) :
    cutLine (buf.drop i) = some ([], buf.drop (i + l)) := by
  simp only [termAt] at here
  split at here
  · simp at here
  · next byte present =>
      rcases List.getElem?_eq_some_iff.mp present with ⟨inBounds, rfl⟩
      rw [List.drop_eq_getElem_cons inBounds]
      split at here
      · next isLf =>
          obtain rfl := Term.len.inj here
          rw [isLf, cutLine_lf]
      · split at here
        · next isCr =>
            split at here
            · next next' presentNext =>
                rcases List.getElem?_eq_some_iff.mp presentNext with ⟨inBoundsNext, rfl⟩
                rw [isCr, List.drop_eq_getElem_cons inBoundsNext]
                split at here
                · next isLf =>
                    obtain rfl := Term.len.inj here
                    rw [isLf, cutLine_crlf]
                · next notLf =>
                    obtain rfl := Term.len.inj here
                    rw [cutLine_cr notLf, List.drop_eq_getElem_cons inBoundsNext]
            · simp at here
        · simp at here

/-- A terminator that ends before the cut is not affected by it. -/
theorem termAt_take {l cut : Nat} (here : termAt buf i = .len l) (before : i + l < cut) :
    termAt (buf.take cut) i = .len l := by
  have positive := (termAt_len here).1
  have same : ∀ j, j ≤ i + 1 → (buf.take cut)[j]? = buf[j]? := by
    intro j close
    exact List.getElem?_take_of_lt (by omega)
  simpa only [termAt, same i (by omega), same (i + 1) (by omega)] using here

/-- A complete terminator is not affected by input that arrives later. -/
theorem termAt_append {l : Nat} (here : termAt buf i = .len l) (more : Bytes) :
    termAt (buf ++ more) i = .len l := by
  simp only [termAt] at here ⊢
  split at here
  · simp at here
  · next byte present =>
      have inBounds := (List.getElem?_eq_some_iff.mp present).1
      rw [List.getElem?_append_left inBounds, present]
      split at here
      · simp_all
      · split at here
        · split at here
          · next next' presentNext =>
              have inBoundsNext := (List.getElem?_eq_some_iff.mp presentNext).1
              simp only [List.getElem?_append_left inBoundsNext, presentNext]
              simp_all
          · simp at here
        · simp at here

theorem termAt_append_not {more : Bytes} (inBounds : i < buf.length)
    (here : termAt buf i = .not) : termAt (buf ++ more) i = .not := by
  rcases drop_of_termAt_not inBounds here with ⟨byte, inLine, dropEq⟩
  have present : buf[i]? = some byte := by
    rw [← List.head?_drop, dropEq]
    rfl
  rw [IsTerminator, not_or] at inLine
  simp [termAt, List.getElem?_append_left inBounds, present, inLine.1, inLine.2]

end TermAt

/-! ## The event boundary -/

theorem findBoundaryFrom_append {buf : Bytes} {i eventEnd consumeTo : Nat}
    (found : findBoundaryFrom buf i = some (eventEnd, consumeTo)) (more : Bytes) :
    findBoundaryFrom (buf ++ more) i = some (eventEnd, consumeTo) := by
  induction i using findBoundaryFrom.induct buf with
  | case1 i inBounds here ih =>
      rw [findBoundaryFrom_not inBounds here] at found
      rw [findBoundaryFrom_not (by simp; omega) (termAt_append_not inBounds here)]
      exact ih found
  | case2 i inBounds here =>
      simp [findBoundaryFrom_incomplete inBounds here] at found
  | case3 i inBounds l1 here next ih =>
      simp only [findBoundaryFrom_len inBounds here, next] at found
      have bounds := findBoundaryFrom_bounds found
      have nextInBounds : i + l1 < buf.length := by omega
      rw [findBoundaryFrom_len (by simp; omega) (termAt_append here more),
        termAt_append_not nextInBounds next]
      exact ih found
  | case4 i inBounds l1 here next =>
      simp [findBoundaryFrom_len inBounds here, next] at found
  | case5 i inBounds l1 here l2 next =>
      rw [findBoundaryFrom_len (by simp; omega) (termAt_append here more),
        termAt_append next more]
      simpa only [findBoundaryFrom_len inBounds here, next] using found
  | case6 i outOfBounds =>
      simp [findBoundaryFrom_end outOfBounds] at found

/-- The line reader's view of a boundary search from byte `i`: without a boundary
no blank line follows the first line, and with one the lines of the event body
come first and a blank line ends them. -/
def BoundaryLines (buf : Bytes) (i : Nat) : Option (Nat × Nat) → Prop
  | none => ∀ line ∈ (lines (buf.drop i)).tail, line ≠ []
  | some (eventEnd, consumeTo) =>
      lines (buf.drop i) =
          segments ((buf.take eventEnd).drop i) ++ [] :: lines (buf.drop consumeTo) ∧
        ∀ line ∈ (segments ((buf.take eventEnd).drop i)).tail, line ≠ []

theorem modifyHead_append {α : Type} {left : List α} (nonempty : left ≠ [])
    (right : List α) (image : α → α) :
    (left ++ right).modifyHead image = left.modifyHead image ++ right := by
  cases left with
  | nil => exact absurd rfl nonempty
  | cons head tail => rfl

/-- A line that starts inside a line is not blank. -/
theorem nonblank_of_tail {byte : UInt8} {group : List Bytes}
    (tailNonblank : ∀ line ∈ (group.modifyHead (byte :: ·)).tail, line ≠ []) :
    ∀ line ∈ group.modifyHead (byte :: ·), line ≠ [] := by
  cases group with
  | nil => simp
  | cons first rest =>
      intro line membership
      simp only [List.modifyHead_cons, List.mem_cons] at membership
      rcases membership with rfl | membership
      · simp
      · exact tailNonblank line membership

theorem take_drop_cons {buf : Bytes} {byte : UInt8} {i cut : Nat} (before : i < cut)
    (dropEq : buf.drop i = byte :: buf.drop (i + 1)) :
    (buf.take cut).drop i = byte :: (buf.take cut).drop (i + 1) := by
  rw [List.drop_take, dropEq, List.drop_take]
  rw [show cut - i = (cut - (i + 1)) + 1 by omega, List.take_succ_cons]

theorem findBoundaryFrom_lines (buf : Bytes) (i : Nat) :
    BoundaryLines buf i (findBoundaryFrom buf i) := by
  induction i using findBoundaryFrom.induct buf with
  | case1 i inBounds here ih =>
      rcases drop_of_termAt_not inBounds here with ⟨byte, inLine, dropEq⟩
      rw [findBoundaryFrom_not inBounds here]
      cases found : findBoundaryFrom buf (i + 1) with
      | none =>
          rw [found] at ih
          simpa [BoundaryLines, dropEq, lines_cons inLine] using ih
      | some boundary =>
          rcases boundary with ⟨eventEnd, consumeTo⟩
          rw [found] at ih
          have bounds := findBoundaryFrom_bounds found
          simp only [BoundaryLines] at ih ⊢
          rw [dropEq, lines_cons inLine, take_drop_cons (by omega) dropEq,
            segments_cons inLine, ih.1, modifyHead_append (segments_ne_nil _)]
          exact ⟨rfl, by simpa using ih.2⟩
  | case2 i inBounds here =>
      rw [findBoundaryFrom_incomplete inBounds here]
      simp [BoundaryLines, drop_of_termAt_incomplete here,
        lines_of_cut_none cutLine_cr_end]
  | case3 i inBounds l1 here next ih =>
      have firstLine := lines_of_cut_some (cutLine_of_termAt_len here)
      simp only [findBoundaryFrom_len inBounds here, next]
      by_cases nextInBounds : i + l1 < buf.length
      · rcases drop_of_termAt_not nextInBounds next with ⟨byte, inLine, dropEq⟩
        cases found : findBoundaryFrom buf (i + l1) with
        | none =>
            rw [found] at ih
            simp only [BoundaryLines, firstLine, List.tail_cons]
            rw [BoundaryLines, dropEq, lines_cons inLine] at ih
            rw [dropEq, lines_cons inLine]
            exact nonblank_of_tail ih
        | some boundary =>
            rcases boundary with ⟨eventEnd, consumeTo⟩
            rw [found] at ih
            rw [findBoundaryFrom_not nextInBounds next] at found
            have bounds := findBoundaryFrom_bounds found
            have beforeEnd : i + l1 < eventEnd := by omega
            have bodyLine := segments_of_cut_some
              (cutLine_of_termAt_len (termAt_take here beforeEnd))
            simp only [BoundaryLines] at ih ⊢
            rw [firstLine, bodyLine, ih.1]
            refine ⟨rfl, ?_⟩
            rw [List.tail_cons]
            rw [take_drop_cons (by omega) dropEq, segments_cons inLine] at ih ⊢
            exact nonblank_of_tail ih.2
      · rw [findBoundaryFrom_end nextInBounds]
        simp only [BoundaryLines, firstLine, List.tail_cons]
        rw [List.drop_eq_nil_of_le (by omega), lines_nil]
        simp
  | case4 i inBounds l1 here next =>
      have firstLine := lines_of_cut_some (cutLine_of_termAt_len here)
      simp only [findBoundaryFrom_len inBounds here, next]
      simp [BoundaryLines, firstLine, drop_of_termAt_incomplete next,
        lines_of_cut_none cutLine_cr_end]
  | case5 i inBounds l1 here l2 next =>
      have firstLine := lines_of_cut_some (cutLine_of_termAt_len here)
      have secondLine := lines_of_cut_some (cutLine_of_termAt_len next)
      simp only [findBoundaryFrom_len inBounds here, next, BoundaryLines]
      rw [firstLine, secondLine, List.drop_take, Nat.sub_self, List.take_zero]
      simp
  | case6 i outOfBounds =>
      rw [findBoundaryFrom_end outOfBounds, BoundaryLines,
        List.drop_eq_nil_of_le (by omega), lines_nil]
      simp

/-- Cutting events at their boundary is a stable framing rule. -/
def eventCutter : Cutter UInt8 Bytes where
  cut buf := (findEventBoundary buf).map fun boundary =>
    (buf.take boundary.1, buf.drop boundary.2)
  shrinks := by
    intro buf event rest found
    obtain ⟨⟨eventEnd, consumeTo⟩, boundary, rfl, rfl⟩ := by
      simpa only [Option.map_eq_some_iff, Prod.mk.injEq] using found
    have bounds := findBoundaryFrom_bounds boundary
    simp only [List.length_drop]
    omega
  stable := by
    intro buf event rest found more
    obtain ⟨⟨eventEnd, consumeTo⟩, boundary, rfl, rfl⟩ := by
      simpa only [Option.map_eq_some_iff, Prod.mk.injEq] using found
    have bounds := findBoundaryFrom_bounds boundary
    rw [findEventBoundary, findBoundaryFrom_append boundary more]
    simp only [Option.map_some, Option.some.injEq, Prod.mk.injEq]
    exact ⟨List.take_append_of_le_length (by omega),
      List.drop_append_of_le_length (by omega)⟩

/-! ## One event -/

namespace DataLines

/-- The scanner's accumulator for what the reference has pending. -/
def ofPending : Option Bytes → DataLines
  | none => empty
  | some data => ⟨data, true⟩

theorem push_ofPending (pending : Option Bytes) (payload : Bytes) :
    (ofPending pending).push payload =
      ofPending (some (pending.elim payload fun data => data ++ lf :: payload)) := by
  cases pending with
  | none => rfl
  | some data => simp [ofPending, push]

/-- The scanner's stripping of a data line is the reference's payload. -/
theorem collectDataLine_eq (collected : DataLines) (line : Bytes) :
    collected.collectDataLine line =
      (dataPayload line).elim collected collected.push := by
  have fieldStart : dataName ++ [58] = [100, 97, 116, 97, 58] := rfl
  rw [collectDataLine, dataPayload, fieldStart]
  by_cases bare : line = dataName
  · subst bare
    rfl
  · rw [if_neg bare]
    cases stripped : line.dropPrefix? [100, 97, 116, 97, 58] with
    | none => exact if_neg bare
    | some rest =>
        cases rest with
        | nil => rfl
        | cons byte payload =>
            by_cases space : byte = 32
            · simp [space, List.dropPrefix?]
            · simp [space, List.dropPrefix?]

theorem collectDataLine_ofPending (pending : Option Bytes) (line : Bytes) :
    (ofPending pending).collectDataLine line = ofPending (collect pending line) := by
  rw [collectDataLine_eq, collect]
  cases dataPayload line with
  | none => rfl
  | some payload => exact push_ofPending pending payload

theorem foldl_collectDataLine (group : List Bytes) (pending : Option Bytes) :
    group.foldl collectDataLine (ofPending pending) =
      ofPending (group.foldl collect pending) := by
  induction group generalizing pending with
  | nil => rfl
  | cons line group ih =>
      rw [List.foldl_cons, List.foldl_cons, collectDataLine_ofPending, ih]

theorem slice_succ {event : Bytes} {i lineStart : Nat} (ordered : lineStart ≤ i)
    {byte : UInt8} (dropEq : event.drop i = byte :: event.drop (i + 1)) :
    (event.take (i + 1)).drop lineStart = (event.take i).drop lineStart ++ [byte] := by
  have present : event[i]? = some byte := by
    rw [← List.head?_drop, dropEq]
    rfl
  rcases List.getElem?_eq_some_iff.mp present with ⟨inBounds, rfl⟩
  rw [List.take_succ_eq_append_getElem inBounds,
    List.drop_append_of_le_length (by simp; omega)]

theorem collectLines_len {event : Bytes} {i lineStart l : Nat} {collected : DataLines}
    (here : termAt event i = .len l) :
    collectLines event i lineStart collected =
      collectLines event (i + l) (i + l)
        (collected.collectDataLine ((event.take i).drop lineStart)) := by
  rw [collectLines]
  split <;> simp_all

theorem collectLines_end {event : Bytes} {i lineStart : Nat} {collected : DataLines}
    (notLen : ∀ l, termAt event i ≠ .len l) (atEnd : event.length ≤ i) :
    collectLines event i lineStart collected =
      collected.collectDataLine (event.drop lineStart) := by
  rw [collectLines]
  split
  · next l here => exact absurd here (notLen l)
  · rw [if_pos atEnd]

theorem collectLines_byte {event : Bytes} {i lineStart : Nat} {collected : DataLines}
    (notLen : ∀ l, termAt event i ≠ .len l) (inBounds : i < event.length) :
    collectLines event i lineStart collected =
      collectLines event (i + 1) lineStart collected := by
  rw [collectLines]
  split
  · next l here => exact absurd here (notLen l)
  · rw [if_neg (by omega)]

/-- The line loop collects the lines of the event, the first of them extended by
the bytes already passed. -/
theorem collectLines_eq (event : Bytes) (i lineStart : Nat) (collected : DataLines)
    (ordered : lineStart ≤ i) (inBounds : i ≤ event.length) :
    collectLines event i lineStart collected =
      ((segments (event.drop i)).modifyHead ((event.take i).drop lineStart ++ ·)).foldl
        collectDataLine collected := by
  induction i, lineStart, collected using collectLines.induct event with
  | case1 i lineStart collected l here ih =>
      have bounds := termAt_len here
      rw [collectLines_len here, segments_of_cut_some (cutLine_of_termAt_len here),
        ih (by omega) (by omega), show (event.take (i + l)).drop (i + l) = [] by simp]
      cases segments (event.drop (i + l)) <;> simp
  | case2 i lineStart collected atEnd notLen =>
      have iEq : i = event.length := by omega
      rw [collectLines_end notLen atEnd, iEq]
      simp
  | case3 i lineStart collected notAtEnd notLen ih =>
      have inBounds : i < event.length := by omega
      rw [collectLines_byte notLen inBounds, ih (by omega) (by omega)]
      cases here : termAt event i with
      | not =>
          rcases drop_of_termAt_not inBounds here with ⟨byte, inLine, dropEq⟩
          rw [slice_succ ordered dropEq, dropEq, segments_cons inLine]
          cases segments (event.drop (i + 1)) <;> simp
      | incomplete =>
          have dropEq := drop_of_termAt_incomplete here
          have atLast : event.drop (i + 1) = [] := by
            rw [← List.drop_drop, dropEq]
            rfl
          have lastByte : event.drop i = cr :: event.drop (i + 1) := by
            rw [dropEq, atLast]
          rw [slice_succ ordered lastByte, dropEq, atLast,
            segments_of_cut_none cutLine_cr_end]
          simp
      | len l => exact absurd here (notLen l)

end DataLines

/-- The payload of a cut-out event body, if it holds a data line. -/
def eventPayload (event : Bytes) : Option Bytes := (segments event).foldl collect none

/-- The loop over the lines of an event collects its payload. -/
theorem collectLines_eventPayload (event : Bytes) :
    DataLines.empty.collectLines event 0 0 = DataLines.ofPending (eventPayload event) := by
  have collected := DataLines.collectLines_eq event 0 0 DataLines.empty
    (Nat.le_refl 0) (Nat.zero_le _)
  have sameSegments : (segments (event.drop 0)).modifyHead
      ((event.take 0).drop 0 ++ ·) = segments event := by
    change (segments event).modifyHead (fun line => line) = segments event
    cases segments event <;> rfl
  rw [sameSegments] at collected
  change _ = (segments event).foldl DataLines.collectDataLine (DataLines.ofPending none)
    at collected
  rwa [DataLines.foldl_collectDataLine, ← eventPayload] at collected

namespace UsageScanner

variable (parse : Bytes → Option UsageEnvelope)

theorem processEvent_eq (scanner : UsageScanner) (event : Bytes) :
    scanner.processEvent parse event =
      (eventPayload event).elim scanner (scanner.dispatch parse) := by
  simp only [processEvent, collectLines_eventPayload]
  cases eventPayload event <;> rfl

/-! ## The events of a stream -/

theorem dispatched_of_tail_nonblank {group : List Bytes}
    (tailNonblank : ∀ line ∈ group.tail, line ≠ []) : dispatched none group = [] := by
  cases group with
  | nil => rfl
  | cons first rest =>
      rw [dispatched]
      split <;> simpa using dispatched_of_nonblank tailNonblank _

/-- A group of lines whose first may be blank, ended by a blank line. -/
theorem dispatched_event {group : List Bytes} (nonempty : group ≠ [])
    (tailNonblank : ∀ line ∈ group.tail, line ≠ []) (rest : List Bytes) :
    dispatched none (group ++ [] :: rest) =
      (group.foldl collect none).toList ++ dispatched none rest := by
  cases group with
  | nil => exact absurd rfl nonempty
  | cons first group =>
      rw [List.tail_cons] at tailNonblank
      rw [List.cons_append, dispatched]
      split
      · next blank =>
          rw [dispatched_group tailNonblank, List.foldl_cons, blank, collect_nil]
          rfl
      · rw [dispatched_group tailNonblank]
        rfl

/-- The payloads of the events cut off a buffer are those the line reader
dispatches. -/
theorem filterMap_eventPayload (buf : Bytes) :
    (eventCutter.frames buf).filterMap eventPayload = payloads buf := by
  induction buf using eventCutter.drain_induction with
  | unfinished buf unfinished =>
      have noBoundary : findEventBoundary buf = none := by
        simpa [eventCutter] using unfinished
      have boundaryLines := findBoundaryFrom_lines buf 0
      rw [← findEventBoundary, noBoundary] at boundaryLines
      rw [eventCutter.frames_of_cut_none unfinished, payloads]
      exact (dispatched_of_tail_nonblank boundaryLines).symm
  | cut buf event rest found ih =>
      rw [eventCutter.frames_of_cut_some found]
      obtain ⟨⟨eventEnd, consumeTo⟩, boundary, rfl, rfl⟩ := by
        simpa only [eventCutter, Option.map_eq_some_iff, Prod.mk.injEq] using found
      have boundaryLines := findBoundaryFrom_lines buf 0
      rw [← findEventBoundary, boundary] at boundaryLines
      rcases boundaryLines with ⟨linesEq, tailNonblank⟩
      rw [List.drop_zero] at linesEq tailNonblank
      rw [List.drop_zero] at linesEq
      have bodyPayload := dispatched_event (segments_ne_nil _) tailNonblank
        (lines (buf.drop consumeTo))
      rw [payloads, linesEq, bodyPayload, ← payloads, ← ih, List.filterMap_cons]
      change _ = (eventPayload (buf.take eventEnd)).toList ++ _
      cases eventPayload (buf.take eventEnd) <;> rfl

theorem foldl_processEvent (scanner : UsageScanner) (events : List Bytes) :
    events.foldl (processEvent parse) scanner =
      (events.filterMap eventPayload).foldl (dispatch parse) scanner := by
  induction events generalizing scanner with
  | nil => rfl
  | cons event events ih =>
      rw [List.foldl_cons, ih, processEvent_eq, List.filterMap_cons]
      cases eventPayload event <;> rfl

/-- The scanner that has seen `stream` in the eyes of the line reader. -/
def reference (stream : Bytes) : UsageScanner :=
  (payloads stream).foldl (dispatch parse) default

/-! ## Chunks -/

theorem dispatch_setBuf (scanner : UsageScanner) (buf data : Bytes) :
    dispatch parse { scanner with buf } data =
      { scanner.dispatch parse data with buf } := by
  unfold dispatch
  split
  · rfl
  · split
    · split <;> rfl
    · rfl

theorem foldl_dispatch_setBuf (scanner : UsageScanner) (buf : Bytes)
    (data : List Bytes) :
    data.foldl (dispatch parse) { scanner with buf } =
      { data.foldl (dispatch parse) scanner with buf } := by
  induction data generalizing scanner with
  | nil => rfl
  | cons payload data ih => rw [List.foldl_cons, dispatch_setBuf, ih, List.foldl_cons]

/-- The event loop dispatches the payloads of the buffer and keeps its unfinished
end. -/
theorem drainEvents_eq (scanner : UsageScanner) :
    scanner.drainEvents parse =
      { (payloads scanner.buf).foldl (dispatch parse) scanner with
        buf := eventCutter.leftover scanner.buf } := by
  induction scanner using drainEvents.induct parse with
  | case1 scanner noBoundary =>
      have unfinished : eventCutter.cut scanner.buf = none := by
        simp [eventCutter, noBoundary]
      rw [drainEvents]
      split
      · rw [← filterMap_eventPayload, eventCutter.frames_of_cut_none unfinished,
          eventCutter.leftover_of_cut_none unfinished]
        rfl
      · simp_all
  | case2 scanner eventEnd consumeTo boundary ih =>
      have found : eventCutter.cut scanner.buf =
          some (scanner.buf.take eventEnd, scanner.buf.drop consumeTo) := by
        simp [eventCutter, boundary]
      rw [drainEvents]
      split
      · simp_all
      · next eventEnd' consumeTo' boundary' =>
          obtain ⟨rfl, rfl⟩ : eventEnd = eventEnd' ∧ consumeTo = consumeTo' := by
            simpa [boundary] using boundary'
          rw [ih, ← filterMap_eventPayload, ← filterMap_eventPayload,
            ← foldl_processEvent, ← foldl_processEvent, processEvent_buf,
            eventCutter.frames_of_cut_some found,
            eventCutter.leftover_of_cut_some found, List.foldl_cons]
          rw [foldl_processEvent, foldl_processEvent, processEvent_eq, processEvent_eq]
          cases eventPayload (scanner.buf.take eventEnd) with
          | none => simp only [Option.elim, foldl_dispatch_setBuf]
          | some data => simp only [Option.elim, dispatch_setBuf, foldl_dispatch_setBuf]

/-- Absorbing two chunks is absorbing their concatenation: only the unfinished end
of the first takes part in the second. -/
theorem absorb_absorb (scanner : UsageScanner) (chunk more : Bytes) :
    (scanner.absorb parse chunk).absorb parse more =
      scanner.absorb parse (chunk ++ more) := by
  simp only [absorb, drainEvents_eq]
  rw [← List.append_assoc, ← filterMap_eventPayload, ← filterMap_eventPayload,
    ← filterMap_eventPayload, eventCutter.frames_append (scanner.buf ++ chunk),
    eventCutter.leftover_append (scanner.buf ++ chunk), List.filterMap_append,
    List.foldl_append]
  simp only [foldl_dispatch_setBuf]

theorem absorb_overflowed (scanner : UsageScanner) (chunk : Bytes) :
    (scanner.absorb parse chunk).overflowed = scanner.overflowed := by
  simp only [absorb, drainEvents_eq, foldl_dispatch_setBuf]
  induction payloads (scanner.buf ++ chunk) generalizing scanner with
  | nil => rfl
  | cons payload data ih => rw [List.foldl_cons, ih, dispatch_overflowed]

theorem feed_of_bounded {scanner : UsageScanner} {chunk : Bytes}
    (active : scanner.overflowed = false)
    (bounded : (scanner.absorb parse chunk).buf.length ≤ maxEventBuffer) :
    scanner.feed parse chunk = scanner.absorb parse chunk := by
  simp only [feed, active]
  rw [if_neg (by simp), if_neg (by omega)]

/-- No feed of these chunks leaves more bytes buffered than the cap allows. -/
def Bounded (chunks : List Bytes) : Prop :=
  ∀ before chunk, before ++ [chunk] <+: chunks →
    ((feedAll parse default before).absorb parse chunk).buf.length ≤ maxEventBuffer

variable {parse} in
theorem Bounded.init {before : List Bytes} {chunk : Bytes}
    (bounded : Bounded parse (before ++ [chunk])) : Bounded parse before := by
  intro prior last isPrefix
  apply bounded
  exact isPrefix.trans (List.prefix_append before [chunk])

theorem absorb_buf_length (scanner : UsageScanner) (chunk : Bytes) :
    (scanner.absorb parse chunk).buf.length ≤ scanner.buf.length + chunk.length := by
  rw [absorb, drainEvents_eq, ← List.length_append]
  exact eventCutter.leftover_length_le _

theorem feed_buf_length (scanner : UsageScanner) (chunk : Bytes) :
    (scanner.feed parse chunk).buf.length ≤ scanner.buf.length + chunk.length := by
  have absorbed := absorb_buf_length parse scanner chunk
  simp only [feed]
  split
  · omega
  · split
    · exact Nat.zero_le _
    · exact absorbed

theorem feedAll_buf_length (scanner : UsageScanner) (chunks : List Bytes) :
    (scanner.feedAll parse chunks).buf.length ≤ scanner.buf.length + chunks.flatten.length := by
  induction chunks generalizing scanner with
  | nil => exact Nat.le_add_right _ _
  | cons chunk chunks ih =>
      have fed := feed_buf_length parse scanner chunk
      have rest := ih (scanner.feed parse chunk)
      rw [feedAll, List.foldl_cons, ← feedAll, List.flatten_cons, List.length_append]
      omega

/-- A stream that fits the buffer as a whole is never cut off. -/
theorem bounded_of_length {chunks : List Bytes}
    (short : chunks.flatten.length ≤ maxEventBuffer) : Bounded parse chunks := by
  intro before chunk isPrefix
  have absorbed := absorb_buf_length parse (feedAll parse default before) chunk
  have fed := feedAll_buf_length parse default before
  have startsEmpty : default.buf.length = 0 := rfl
  rcases isPrefix with ⟨after, rfl⟩
  simp only [List.flatten_append, List.flatten_cons, List.flatten_nil, List.append_nil,
    List.length_append] at short
  omega

theorem feedAll_eq_absorb {chunks : List Bytes} (bounded : Bounded parse chunks) :
    feedAll parse default chunks = default.absorb parse chunks.flatten := by
  induction chunks using List.reverseRecOn with
  | nil =>
      have nothing : payloads [] = [] := by simp [payloads, dispatched]
      simp [feedAll, absorb, drainEvents_eq, nothing, default, eventCutter,
        findEventBoundary, findBoundaryFrom_end]
  | append_singleton before chunk ih =>
      have boundedBefore := bounded.init
      have active : (feedAll parse default before).overflowed = false := by
        rw [ih boundedBefore, absorb_overflowed]
        rfl
      have fed := feed_of_bounded parse active (bounded before chunk List.prefix_rfl)
      rw [feedAll, List.foldl_append, List.foldl_cons, List.foldl_nil, ← feedAll, fed,
        ih boundedBefore, absorb_absorb, List.flatten_append]
      simp

theorem reference_absorb (stream : Bytes) :
    default.absorb parse stream =
      { reference parse stream with buf := eventCutter.leftover stream } := by
  rw [absorb, drainEvents_eq, foldl_dispatch_setBuf]
  rfl

/-- **The scanner refines the line-based reader, whatever the chunking.**  Chunks
fed one by one end in the state of their concatenation fed at once, and the
usage and terminator seen are those of the reference on the whole stream. -/
theorem feedAll_refines_reference (chunks : List Bytes) (bounded : Bounded parse chunks) :
    feedAll parse default chunks = default.feed parse chunks.flatten ∧
      (feedAll parse default chunks).lastUsage =
        (reference parse chunks.flatten).lastUsage ∧
      (feedAll parse default chunks).sawDone =
        (reference parse chunks.flatten).sawDone := by
  have absorbed := feedAll_eq_absorb parse bounded
  have lastBounded : (default.absorb parse chunks.flatten).buf.length ≤ maxEventBuffer := by
    cases chunks using List.reverseRecOn with
    | nil =>
        rw [← absorbed]
        exact Nat.zero_le _
    | append_singleton before chunk =>
        have boundedLast := bounded before chunk List.prefix_rfl
        rw [feedAll_eq_absorb parse bounded.init, absorb_absorb] at boundedLast
        simpa using boundedLast
  rw [feed_of_bounded parse rfl lastBounded, absorbed, reference_absorb]
  exact ⟨rfl, rfl, rfl⟩

/-- One event, cut inside the key of its payload and inside a CRLF. -/
def splitEvent : List Bytes :=
  [[100, 97, 116, 97, 58, 34, 117], [115, 97, 103, 101, 34, cr], [], [lf, cr, lf]]

/-- A decoder that finds the same usage in every payload. -/
def constantUsage (_ : Bytes) : Option UsageEnvelope := some { usage := some Usage.zero }

theorem feedAll_refines_reference_splitEvent :
    feedAll constantUsage default splitEvent =
        default.feed constantUsage splitEvent.flatten ∧
      (feedAll constantUsage default splitEvent).lastUsage =
        (reference constantUsage splitEvent.flatten).lastUsage ∧
      (feedAll constantUsage default splitEvent).sawDone =
        (reference constantUsage splitEvent.flatten).sawDone :=
  feedAll_refines_reference _ splitEvent (bounded_of_length _ (by decide))

end UsageScanner

end Patchbay
