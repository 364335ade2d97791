import Mathlib.Algebra.Group.Nat.Defs
import Mathlib.Data.List.Induction
import Patchbay.Upstream.Relay

/-!
# The course of a relayed stream

The abstract course of a stream is read off the upstream script and the timer
alone: which chunks were produced, and at which poll the stream first ended.  One
invariant ties the relay, its answers and its summary channel to that course; it
is kept by every poll, and the relay protocol follows from it.
-/

namespace Patchbay

namespace SseRelay

variable (parse : Bytes → Option UsageEnvelope)

/-- The chunk an upstream answer carries. -/
def chunkOf : UpstreamPoll → Option Bytes
  | .ready (some (.ok chunk)) => some chunk
  | _ => none

/-- The chunks among the first `polled` answers of the upstream. -/
def produced (script : Nat → UpstreamPoll) (polled : Nat) : List Bytes :=
  (List.range polled).filterMap fun i => chunkOf (script i)

/-- How one poll ends the stream, if it does. -/
def ends (answer : UpstreamPoll) (context : PollContext) : Option RelayOutcome :=
  match answer with
  | .ready (some (.ok _)) => none
  | .ready (some (.error message)) => some (.upstreamError message)
  | .ready none => some .completed
  | .pending => if context.stallElapsed then some .stalled else none

/-- The first ending among the polls `contexts`, the first of which asks the
upstream for answer number `polled`. -/
def firstEnd (script : Nat → UpstreamPoll) (polled : Nat) :
    List PollContext → Option RelayOutcome
  | [] => none
  | context :: rest =>
      (ends (script polled) context).or (firstEnd script (polled + 1) rest)

theorem firstEnd_concat (script : Nat → UpstreamPoll) (polled : Nat)
    (before : List PollContext) (context : PollContext) :
    firstEnd script polled (before ++ [context]) =
      (firstEnd script polled before).or
        (ends (script (polled + before.length)) context) := by
  induction before generalizing polled with
  | nil => simp [firstEnd]
  | cons first before ih =>
      simp only [List.cons_append, firstEnd, ih, Option.or_assoc, List.length_cons]
      rw [Nat.add_assoc, Nat.add_comm 1]

/-- The summary of the stream after `polled` upstream answers: what a fresh
scanner sees in the chunks, and their total length as a 64-bit count. -/
def summaryOf (script : Nat → UpstreamPoll) (polled : Nat) (outcome : RelayOutcome) :
    RelaySummary where
  outcome := outcome
  usage := (UsageScanner.feedAll parse .default (produced script polled)).lastUsage
  sawDone := (UsageScanner.feedAll parse .default (produced script polled)).sawDone
  bytesRelayed := UInt64.ofNat (produced script polled).flatten.length

theorem produced_succ (script : Nat → UpstreamPoll) (polled : Nat) :
    produced script (polled + 1) =
      produced script polled ++ (chunkOf (script polled)).toList := by
  rw [produced, List.range_succ, List.filterMap_append]
  cases found : chunkOf (script polled) <;> simp [found, produced]

/-- The chunks among the answers of the relay. -/
def okChunks (answers : List RelayPoll) : List Bytes :=
  answers.filterMap fun
    | .ready (some (.ok chunk)) => some chunk
    | _ => none

/-- The errors among the answers of the relay. -/
def errors (answers : List RelayPoll) : List RelayError :=
  answers.filterMap fun
    | .ready (some (.error error)) => some error
    | _ => none

/-- An error or the end: the last answer that carries anything. -/
def isFinal : RelayPoll → Bool
  | .ready (some (.error _)) => true
  | .ready none => true
  | _ => false

/-- What holds of a relay, of its answers so far and of its channel after the
polls `contexts`. -/
structure Course (script : Nat → UpstreamPoll) (contexts : List PollContext)
    (answers : List RelayPoll) (relay : SseRelay) : Prop where
  sameScript : relay.upstream.script = script
  faithful : okChunks answers = produced script relay.upstream.polled
  scanned : relay.scanner =
    UsageScanner.feedAll parse .default (produced script relay.upstream.polled)
  counted : relay.bytesRelayed =
    UInt64.ofNat (produced script relay.upstream.polled).flatten.length
  ended : relay.finished = (firstEnd script 0 contexts).isSome
  armed : relay.reporter = !relay.finished
  reported : relay.summaries =
    (firstEnd script 0 contexts).toList.map (summaryOf parse script relay.upstream.polled)
  asked : relay.finished = false → relay.upstream.polled = contexts.length
  oneError : (errors answers).length ≤ if relay.finished then 1 else 0

variable {parse}

theorem Course.start (parse : Bytes → Option UsageEnvelope) (script : Nat → UpstreamPoll)
    (stallTimeout now : Nat) :
    Course parse script [] [] (SseRelay.new script stallTimeout now) where
  sameScript := rfl
  faithful := rfl
  scanned := rfl
  counted := rfl
  ended := rfl
  armed := rfl
  reported := rfl
  asked _ := rfl
  oneError := Nat.le_refl 0

section Step

variable {script : Nat → UpstreamPoll} {contexts : List PollContext}
variable {answers : List RelayPoll} {relay : SseRelay}

theorem okChunks_concat (answers : List RelayPoll) (answer : RelayPoll) :
    okChunks (answers ++ [answer]) = okChunks answers ++ okChunks [answer] :=
  List.filterMap_append

theorem errors_concat (answers : List RelayPoll) (answer : RelayPoll) :
    errors (answers ++ [answer]) = errors answers ++ errors [answer] :=
  List.filterMap_append

/-- Polling a finished relay adds a `None` to the answers and nothing else. -/
theorem Course.step_finished (course : Course parse script contexts answers relay)
    (finished : relay.finished = true) (context : PollContext) :
    Course parse script (contexts ++ [context]) (answers ++ [.ready none]) relay := by
  have already : (firstEnd script 0 contexts).isSome := by rw [← course.ended, finished]
  have sameEnd : firstEnd script 0 (contexts ++ [context]) = firstEnd script 0 contexts := by
    rw [firstEnd_concat, Option.or_of_isSome already]
  exact
    { sameScript := course.sameScript
      faithful := by rw [okChunks_concat]; simpa [okChunks] using course.faithful
      scanned := course.scanned
      counted := course.counted
      ended := by rw [sameEnd]; exact course.ended
      armed := course.armed
      reported := by rw [sameEnd]; exact course.reported
      asked := fun live => absurd finished (by simp [live])
      oneError := by rw [errors_concat]; simpa [errors] using course.oneError }

/-- A relay that goes on after a poll has asked the upstream once more and, if
that gave a chunk, has scanned and counted it. -/
theorem Course.step_goesOn (course : Course parse script contexts answers relay)
    (live : relay.finished = false) {context : PollContext} {answer : RelayPoll}
    {next : SseRelay}
    (goesOn : ends (script relay.upstream.polled) context = none)
    (yields : okChunks [answer] = (chunkOf (script relay.upstream.polled)).toList)
    (noError : errors [answer] = [])
    (asked : next.upstream =
      { relay.upstream with polled := relay.upstream.polled + 1 })
    (scanned : next.scanner = UsageScanner.feedAll parse relay.scanner
      (chunkOf (script relay.upstream.polled)).toList)
    (counted : next.bytesRelayed = relay.bytesRelayed +
      UInt64.ofNat (chunkOf (script relay.upstream.polled)).toList.flatten.length)
    (unfinished : next.finished = false) (armed : next.reporter = relay.reporter)
    (silent : next.summaries = relay.summaries) :
    Course parse script (contexts ++ [context]) (answers ++ [answer]) next := by
  have notYet : firstEnd script 0 contexts = none := by
    have ended := course.ended
    rw [live] at ended
    exact Option.not_isSome_iff_eq_none.mp (by simp [← ended])
  have polled := course.asked live
  have stillNot : firstEnd script 0 (contexts ++ [context]) = none := by
    rw [firstEnd_concat, notYet, Nat.zero_add, ← polled, goesOn]
    rfl
  have reported := course.reported
  rw [notYet] at reported
  exact
    { sameScript := by rw [asked]; exact course.sameScript
      faithful := by
        rw [asked, produced_succ, okChunks_concat, course.faithful, yields]
      scanned := by
        rw [asked, produced_succ, scanned, course.scanned, UsageScanner.feedAll,
          UsageScanner.feedAll, UsageScanner.feedAll, List.foldl_append]
      counted := by
        rw [asked, produced_succ, counted, course.counted, List.flatten_append,
          List.length_append, UInt64.ofNat_add]
      ended := by rw [stillNot, unfinished]; rfl
      armed := by rw [armed, course.armed, live, unfinished]
      reported := by rw [stillNot, silent, reported]; rfl
      asked := fun _ => by rw [asked, List.length_append, polled]; rfl
      oneError := by
        have oneError := course.oneError
        rw [live] at oneError
        rw [errors_concat, noError, unfinished]
        simpa using oneError }

/-- A poll that ends the stream reports the summary of the chunks so far. -/
theorem Course.step_ends (course : Course parse script contexts answers relay)
    (live : relay.finished = false) {context : PollContext} {outcome : RelayOutcome}
    {answer : RelayPoll}
    (ending : ends (script relay.upstream.polled) context = some outcome)
    (noChunk : chunkOf (script relay.upstream.polled) = none)
    (yieldsNone : okChunks [answer] = []) (errorBound : (errors [answer]).length ≤ 1) :
    Course parse script (contexts ++ [context]) (answers ++ [answer])
      (({ relay with
          upstream := { relay.upstream with polled := relay.upstream.polled + 1 }
          finished := true } : SseRelay).report outcome) := by
  have notYet : firstEnd script 0 contexts = none := by
    have ended := course.ended
    rw [live] at ended
    exact Option.not_isSome_iff_eq_none.mp (by simp [← ended])
  have endsNow : firstEnd script 0 (contexts ++ [context]) = some outcome := by
    rw [firstEnd_concat, notYet, Nat.zero_add, ← course.asked live, ending]
    rfl
  have sameChunks : produced script (relay.upstream.polled + 1) =
      produced script relay.upstream.polled := by
    rw [produced_succ, noChunk]
    simp
  have reported := course.reported
  rw [notYet] at reported
  have armed : relay.reporter = true := by rw [course.armed, live]; rfl
  simp only [report, armed, if_true]
  exact
    { sameScript := course.sameScript
      faithful := by
        simp only [sameChunks, okChunks_concat, course.faithful, yieldsNone,
          List.append_nil]
      scanned := by simp only [sameChunks, course.scanned]
      counted := by simp only [sameChunks, course.counted]
      ended := by rw [endsNow]; rfl
      armed := rfl
      reported := by
        rw [endsNow, reported]
        simp only [summary, course.scanned, course.counted, Option.toList_some,
          List.map_cons, List.map_nil, summaryOf, sameChunks]
        rfl
      asked := fun unfinished => by simp at unfinished
      oneError := by
        have oneError := course.oneError
        rw [live] at oneError
        rw [errors_concat, List.length_append]
        simp only [if_true, Bool.false_eq_true, if_false] at oneError ⊢
        omega }

/-- One poll keeps the course. -/
theorem Course.step (course : Course parse script contexts answers relay)
    (context : PollContext) :
    Course parse script (contexts ++ [context])
      (answers ++ [(relay.pollNext parse context).1])
      (relay.pollNext parse context).2 := by
  cases live : relay.finished with
  | true =>
      rw [pollNext_finished parse live]
      exact course.step_finished live context
  | false =>
      obtain rfl := course.sameScript
      rw [pollNext, if_neg (by simp [live])]
      cases answer : relay.upstream.script relay.upstream.polled with
      | ready item =>
          cases item with
          | none =>
              exact course.step_ends live (by rw [answer]; rfl) (by rw [answer]; rfl) rfl
                (by simp [errors])
          | some result =>
              cases result with
              | error message =>
                  exact course.step_ends live (by rw [answer]; rfl) (by rw [answer]; rfl)
                    rfl (by simp [errors])
              | ok chunk =>
                  exact course.step_goesOn live (by rw [answer]; rfl) (by rw [answer]; rfl)
                    rfl rfl (by rw [answer]; rfl) (by rw [answer]; simp [chunkOf]) live
                    rfl rfl
      | pending =>
          by_cases elapsed : context.stallElapsed
          · simp only [elapsed, if_true]
            exact course.step_ends live (by rw [answer]; simp [ends, elapsed])
              (by rw [answer]; rfl) rfl (by simp [errors])
          · simp only [elapsed, Bool.false_eq_true, if_false]
            exact course.step_goesOn live (by rw [answer]; simp [ends, elapsed])
              (by rw [answer]; rfl) rfl rfl (by rw [answer]; rfl)
              (by rw [answer]; simp [chunkOf]) live rfl rfl

/-- Every sequence of polls of a new relay keeps the course. -/
theorem Course.run (parse : Bytes → Option UsageEnvelope)
    (script : Nat → UpstreamPoll) (stallTimeout now : Nat) (contexts : List PollContext) :
    Course parse script contexts
      ((SseRelay.new script stallTimeout now).pollAll parse contexts).1
      ((SseRelay.new script stallTimeout now).pollAll parse contexts).2 := by
  induction contexts using List.reverseRecOn with
  | nil => exact Course.start parse script stallTimeout now
  | append_singleton before context ih =>
      rw [pollAll_concat]
      exact ih.step context

end Step

/-- Whatever follows a final answer is `None`, and the upstream is left alone. -/
theorem pollNext_final {relay : SseRelay} {context : PollContext}
    (final : isFinal (relay.pollNext parse context).1 = true) :
    (relay.pollNext parse context).2.finished = true := by
  cases live : relay.finished with
  | true => rw [pollNext_finished parse live, live]
  | false =>
      have reportFinished : ∀ (done : SseRelay) (outcome : RelayOutcome),
          done.finished = true → (done.report outcome).finished = true := by
        intro done outcome finished
        unfold report
        split <;> exact finished
      rw [pollNext, if_neg (by simp [live])] at final ⊢
      cases answer : relay.upstream.script relay.upstream.polled with
      | ready item =>
          rw [answer] at final
          cases item with
          | none => exact reportFinished _ _ rfl
          | some result =>
              cases result with
              | error message => exact reportFinished _ _ rfl
              | ok chunk => simp [isFinal] at final
      | pending =>
          rw [answer] at final
          by_cases elapsed : context.stallElapsed
          · simp only [elapsed, if_true]
            exact reportFinished _ _ rfl
          · simp [elapsed, isFinal] at final

/-- Dropping the relay sends the summary of a stream that did not end by itself. -/
theorem Course.dropped {script : Nat → UpstreamPoll} {contexts : List PollContext}
    {answers : List RelayPoll} {relay : SseRelay}
    (course : Course parse script contexts answers relay) :
    relay.drop.summaries =
      [summaryOf parse script relay.upstream.polled
        ((firstEnd script 0 contexts).getD .clientDisconnected)] := by
  have reported := course.reported
  have armed := course.armed
  rw [course.ended] at armed
  cases ending : firstEnd script 0 contexts with
  | none =>
      rw [ending] at armed reported
      simp only [Option.isSome_none, Bool.not_false] at armed
      simp only [drop, report, armed, if_true, reported, summary, course.scanned,
        course.counted]
      rfl
  | some outcome =>
      rw [ending] at armed reported
      simp only [Option.isSome_some, Bool.not_true] at armed
      simp only [drop, report, armed, Bool.false_eq_true, if_false, reported]
      rfl

/-- **The relay protocol.**  For every upstream script, every reading of the stall
timer and every sequence of polls ended by a drop: the chunks come through
unchanged, an error or the end is final, one summary is sent, at the first ending,
and it accounts for exactly the chunks that came through. -/
theorem relay_protocol (parse : Bytes → Option UsageEnvelope)
    (script : Nat → UpstreamPoll) (stallTimeout now : Nat) (contexts : List PollContext) :
    let after := (SseRelay.new script stallTimeout now).pollAll parse
    let chunks := okChunks (after contexts).1
    chunks = produced script (after contexts).2.upstream.polled ∧
      ((errors (after contexts).1).length ≤ 1 ∧
        ∀ before context rest, contexts = before ++ context :: rest →
          isFinal ((after before).2.pollNext parse context).1 = true →
            (after contexts).1 = (after (before ++ [context])).1 ++
                List.replicate rest.length (.ready none) ∧
              (after contexts).2.upstream.polled =
                (after (before ++ [context])).2.upstream.polled) ∧
      ((∀ before, before <+: contexts →
          (after before).2.summaries.map RelaySummary.outcome =
            (firstEnd script 0 before).toList) ∧
        ∃ summary, (after contexts).2.drop.summaries = [summary] ∧
          summary.outcome = (firstEnd script 0 contexts).getD .clientDisconnected ∧
          summary.bytesRelayed = UInt64.ofNat chunks.flatten.length ∧
          (chunks.flatten.length < 2 ^ 64 →
            summary.bytesRelayed.toNat = chunks.flatten.length) ∧
          summary.usage = (UsageScanner.feedAll parse .default chunks).lastUsage ∧
          summary.sawDone = (UsageScanner.feedAll parse .default chunks).sawDone) := by
  intro after chunks
  have course := Course.run parse script stallTimeout now contexts
  refine ⟨course.faithful, ⟨?_, ?_⟩, ?_, _, course.dropped, rfl, ?_, ?_, ?_, ?_⟩
  · apply Nat.le_trans course.oneError
    split <;> omega
  · intro before context rest contextsEq final
    have finished := pollNext_final final
    have concat := pollAll_concat parse (SseRelay.new script stallTimeout now) before context
    have split := pollAll_append parse (SseRelay.new script stallTimeout now)
      (before ++ [context]) rest
    rw [concat] at split
    rw [pollAll_finished parse finished rest] at split
    have contextsEq' : contexts = before ++ [context] ++ rest := by simp [contextsEq]
    rw [contextsEq']
    simp only [after, split, concat, and_self]
  · intro before isPrefix
    have courseBefore := Course.run parse script stallTimeout now before
    rw [courseBefore.reported, List.map_map]
    exact List.map_id _
  · rw [summaryOf, ← course.faithful]
  · intro small
    rw [summaryOf, ← course.faithful]
    exact UInt64.toNat_ofNat_of_lt' small
  · rw [summaryOf, ← course.faithful]
  · rw [summaryOf, ← course.faithful]

end SseRelay

end Patchbay
