import Patchbay.Lib.EventStream
import Patchbay.Upstream.Usage

/-!
# The usage scanner

An incremental event-boundary scanner over a copy of the relayed bytes.  It cuts
complete events off the front of its buffer, joins the payloads of their `data`
lines, and remembers the last usage object and whether `[DONE]` was seen.  The
decoder of a payload is a parameter.
-/

namespace Patchbay

open EventStream

/-- Upper bound on bytes buffered while waiting for an event boundary. -/
def maxEventBuffer : Nat := 1024 * 1024

/-- What sits at `buf[i]` in terms of line terminators. -/
inductive Term where
  | not
  | len (bytes : Nat)
  /-- A CR at the end of the buffer: it might be half of a CRLF. -/
  | incomplete
  deriving DecidableEq, Repr

def termAt (buf : Bytes) (i : Nat) : Term :=
  match buf[i]? with
  | none => .not
  | some byte =>
      if byte = lf then .len 1
      else if byte = cr then
        match buf[i + 1]? with
        | some next => if next = lf then .len 2 else .len 1
        | none => .incomplete
      else .not

theorem termAt_len {buf : Bytes} {i l : Nat} (terminator : termAt buf i = .len l) :
    0 < l ∧ i + l ≤ buf.length := by
  simp only [termAt] at terminator
  split at terminator
  · simp at terminator
  · next byte present =>
      have inBounds := (List.getElem?_eq_some_iff.mp present).1
      split at terminator
      · simp only [Term.len.injEq] at terminator
        omega
      · split at terminator
        · split at terminator
          · next next' presentNext =>
              have inBoundsNext := (List.getElem?_eq_some_iff.mp presentNext).1
              split at terminator <;> simp only [Term.len.injEq] at terminator <;> omega
          · simp at terminator
        · simp at terminator

/-- The scanning loop of `findEventBoundary` from position `i`. -/
def findBoundaryFrom (buf : Bytes) (i : Nat) : Option (Nat × Nat) :=
  if i < buf.length then
    match _terminator : termAt buf i with
    | .not => findBoundaryFrom buf (i + 1)
    | .incomplete => none
    | .len l1 =>
        match termAt buf (i + l1) with
        | .not => findBoundaryFrom buf (i + l1)
        | .incomplete => none
        | .len l2 => some (i, i + l1 + l2)
  else none
termination_by buf.length - i
decreasing_by
  · omega
  · have := (termAt_len _terminator).1
    omega

/-- The first complete event: the exclusive end of its body, and the index just
past the blank line that ends it. -/
def findEventBoundary (buf : Bytes) : Option (Nat × Nat) := findBoundaryFrom buf 0

section FindBoundary

variable {buf : Bytes} {i : Nat}

theorem findBoundaryFrom_end (outOfBounds : ¬ i < buf.length) :
    findBoundaryFrom buf i = none := by
  rw [findBoundaryFrom, if_neg outOfBounds]

theorem findBoundaryFrom_not (inBounds : i < buf.length)
    (here : termAt buf i = .not) :
    findBoundaryFrom buf i = findBoundaryFrom buf (i + 1) := by
  rw [findBoundaryFrom, if_pos inBounds]
  split <;> simp_all

theorem findBoundaryFrom_incomplete (inBounds : i < buf.length)
    (here : termAt buf i = .incomplete) : findBoundaryFrom buf i = none := by
  rw [findBoundaryFrom, if_pos inBounds]
  split <;> simp_all

theorem findBoundaryFrom_len {l1 : Nat} (inBounds : i < buf.length)
    (here : termAt buf i = .len l1) :
    findBoundaryFrom buf i =
      match termAt buf (i + l1) with
      | .not => findBoundaryFrom buf (i + l1)
      | .incomplete => none
      | .len l2 => some (i, i + l1 + l2) := by
  rw [findBoundaryFrom, if_pos inBounds]
  split <;> simp_all

/-- A boundary lies inside the buffer, and cutting at it makes progress. -/
theorem findBoundaryFrom_bounds {eventEnd consumeTo : Nat}
    (found : findBoundaryFrom buf i = some (eventEnd, consumeTo)) :
    i ≤ eventEnd ∧ eventEnd < consumeTo ∧ consumeTo ≤ buf.length := by
  induction i using findBoundaryFrom.induct buf with
  | case1 i inBounds here ih =>
      rw [findBoundaryFrom_not inBounds here] at found
      have bounds := ih found
      omega
  | case2 i inBounds here =>
      simp [findBoundaryFrom_incomplete inBounds here] at found
  | case3 i inBounds l1 here next ih =>
      simp only [findBoundaryFrom_len inBounds here, next] at found
      have bounds := ih found
      omega
  | case4 i inBounds l1 here next =>
      simp [findBoundaryFrom_len inBounds here, next] at found
  | case5 i inBounds l1 here l2 next =>
      simp only [findBoundaryFrom_len inBounds here, next, Option.some.injEq,
        Prod.mk.injEq] at found
      have firstLen := termAt_len here
      have secondLen := termAt_len next
      omega
  | case6 i outOfBounds =>
      simp [findBoundaryFrom_end outOfBounds] at found

end FindBoundary

/-! ## Processing one event -/

/-- The payload joined so far, and whether any data line was seen. -/
structure DataLines where
  data : Bytes
  sawDataLine : Bool

namespace DataLines

def empty : DataLines := ⟨[], false⟩

/-- Append a payload, after a LF unless it is the first one. -/
def push (lines : DataLines) (payload : Bytes) : DataLines where
  data := (if lines.sawDataLine then lines.data ++ [lf] else lines.data) ++ payload
  sawDataLine := true

/-- Add the payload of one line, if it is a data line. -/
def collectDataLine (lines : DataLines) (line : Bytes) : DataLines :=
  match line.dropPrefix? [100, 97, 116, 97, 58] with
  | some rest => lines.push ((rest.dropPrefix? [32]).getD rest)
  | none => if line = [100, 97, 116, 97] then lines.push [] else lines

/-- The loop of `processEvent` over the lines of an event, from byte `i` of the
line that starts at `lineStart`. -/
def collectLines (event : Bytes) (i lineStart : Nat) (lines : DataLines) : DataLines :=
  match _terminator : termAt event i with
  | .len l =>
      collectLines event (i + l) (i + l)
        (lines.collectDataLine ((event.take i).drop lineStart))
  | _ =>
      if event.length ≤ i then lines.collectDataLine (event.drop lineStart)
      else collectLines event (i + 1) lineStart lines
termination_by event.length - i
decreasing_by
  · have := termAt_len _terminator
    omega
  · omega

end DataLines

/-- The bytes `"usage"`, quotes included. -/
def usageKey : Bytes := [34, 117, 115, 97, 103, 101, 34]

/-- The cheap pre-filter: some window of the payload is `"usage"`. -/
def mentionsUsage (data : Bytes) : Bool :=
  data.tails.any fun window => window.take 7 == usageKey

/-- The bytes `[DONE]`. -/
abbrev doneBytes : Bytes := [91, 68, 79, 78, 69, 93]

structure UsageScanner where
  buf : Bytes
  lastUsage : Option Usage
  sawDone : Bool
  overflowed : Bool
  deriving DecidableEq

namespace UsageScanner

def default : UsageScanner := ⟨[], none, false, false⟩

variable (parse : Bytes → Option UsageEnvelope)

/-- The `[DONE]` and usage step on the joined payload of an event. -/
def dispatch (scanner : UsageScanner) (data : Bytes) : UsageScanner :=
  if data = [91, 68, 79, 78, 69, 93] then { scanner with sawDone := true }
  else if mentionsUsage data then
    match parse data with
    | some { usage := some usage } => { scanner with lastUsage := some usage }
    | _ => scanner
  else scanner

def processEvent (scanner : UsageScanner) (event : Bytes) : UsageScanner :=
  let lines := DataLines.empty.collectLines event 0 0
  if lines.sawDataLine then scanner.dispatch parse lines.data else scanner

@[simp] theorem dispatch_buf (scanner : UsageScanner) (data : Bytes) :
    (scanner.dispatch parse data).buf = scanner.buf := by
  unfold dispatch
  split
  · rfl
  · split
    · split <;> rfl
    · rfl

@[simp] theorem dispatch_overflowed (scanner : UsageScanner) (data : Bytes) :
    (scanner.dispatch parse data).overflowed = scanner.overflowed := by
  unfold dispatch
  split
  · rfl
  · split
    · split <;> rfl
    · rfl

/-- The usage that the payload of an event carries. -/
def usageIn (data : Bytes) : Option Usage :=
  if mentionsUsage data then (parse data).bind UsageEnvelope.usage else none

theorem dispatch_lastUsage (scanner : UsageScanner) (data : Bytes) :
    (scanner.dispatch parse data).lastUsage = (usageIn parse data).or scanner.lastUsage := by
  rw [dispatch, usageIn]
  split
  · next isDone =>
      subst isDone
      rfl
  · split
    · cases parsed : parse data with
      | none => rfl
      | some envelope =>
          cases envelope with
          | mk usage => cases usage <;> rfl
    · rfl

theorem dispatch_sawDone (scanner : UsageScanner) (data : Bytes) :
    (scanner.dispatch parse data).sawDone =
      (scanner.sawDone || data == doneBytes) := by
  rw [dispatch]
  split
  · next isDone => simp [isDone]
  · next notDone =>
      rw [beq_eq_false_iff_ne.mpr notDone, Bool.or_false]
      split
      · split <;> rfl
      · rfl

/-- The last usage of a sequence of payloads wins. -/
theorem foldl_dispatch_lastUsage (scanner : UsageScanner) (data : List Bytes) :
    (data.foldl (dispatch parse) scanner).lastUsage =
      (data.filterMap (usageIn parse)).getLast?.or scanner.lastUsage := by
  induction data generalizing scanner with
  | nil => rfl
  | cons payload data ih =>
      rw [List.foldl_cons, ih, dispatch_lastUsage, List.filterMap_cons, ← Option.or_assoc]
      cases usageIn parse payload with
      | none => rw [Option.or_none]
      | some usage =>
          rw [List.getLast?_cons]
          cases (data.filterMap (usageIn parse)).getLast? <;> rfl

theorem foldl_dispatch_sawDone (scanner : UsageScanner) (data : List Bytes) :
    (data.foldl (dispatch parse) scanner).sawDone =
      (scanner.sawDone || data.contains doneBytes) := by
  induction data generalizing scanner with
  | nil => simp
  | cons payload data ih =>
      rw [List.foldl_cons, ih, dispatch_sawDone, List.contains_cons, Bool.or_assoc,
        Bool.beq_comm]

@[simp] theorem processEvent_buf (scanner : UsageScanner) (event : Bytes) :
    (scanner.processEvent parse event).buf = scanner.buf := by
  simp only [processEvent]
  split
  · exact dispatch_buf parse scanner _
  · rfl

@[simp] theorem processEvent_overflowed (scanner : UsageScanner) (event : Bytes) :
    (scanner.processEvent parse event).overflowed = scanner.overflowed := by
  simp only [processEvent]
  split
  · exact dispatch_overflowed parse scanner _
  · rfl

/-- The loop of `feed`: cut complete events off the buffer and process them. -/
def drainEvents (scanner : UsageScanner) : UsageScanner :=
  match _found : findEventBoundary scanner.buf with
  | none => scanner
  | some (eventEnd, consumeTo) =>
      drainEvents
        (processEvent parse { scanner with buf := scanner.buf.drop consumeTo }
          (scanner.buf.take eventEnd))
termination_by scanner.buf.length
decreasing_by
  have bounds := findBoundaryFrom_bounds _found
  simp only [processEvent_buf, List.length_drop]
  omega

/-- Append a chunk and process the events it completes, before the buffer cap is
checked. -/
def absorb (scanner : UsageScanner) (chunk : Bytes) : UsageScanner :=
  drainEvents parse { scanner with buf := scanner.buf ++ chunk }

def feed (scanner : UsageScanner) (chunk : Bytes) : UsageScanner :=
  if scanner.overflowed then scanner
  else
    let scanner := scanner.absorb parse chunk
    if maxEventBuffer < scanner.buf.length then
      { scanner with overflowed := true, buf := [] }
    else scanner

/-- Feed chunks one by one. -/
def feedAll (scanner : UsageScanner) (chunks : List Bytes) : UsageScanner :=
  chunks.foldl (feed parse) scanner

end UsageScanner

end Patchbay
