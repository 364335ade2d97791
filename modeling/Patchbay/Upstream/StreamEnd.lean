import Patchbay.Upstream.BufferCap
import Patchbay.Upstream.RelayCourse

/-!
# The end of a relayed stream

A CR at the end of the buffer may be half of a CRLF, so the scanner waits for the next
byte.  When the stream ends there, the byte never comes and the relay reports without the
line that the CR ends.  The event is lost that has this line as its blank one.
-/

namespace Patchbay

open EventStream Framing

/-- The usage and the terminator of a summary are those of these events. -/
structure RelaySummary.Accounts (summary : RelaySummary)
    (parse : Bytes → Option UsageEnvelope) (events : List Bytes) : Prop where
  usage : summary.usage = (events.filterMap (UsageScanner.usageIn parse)).getLast?
  sawDone : summary.sawDone = true ↔ doneBytes ∈ events

/-- After these events one more changes nothing: a second terminator, no usage, or the same
usage again. -/
structure AddsNothing (parse : Bytes → Option UsageEnvelope) (events : List Bytes)
    (data : Bytes) : Prop where
  again : data = doneBytes → data ∈ events
  sameUsage : ∀ usage, UsageScanner.usageIn parse data = some usage →
    (events.filterMap (UsageScanner.usageIn parse)).getLast? = some usage

namespace RelaySummary

variable {parse : Bytes → Option UsageEnvelope} {summary : RelaySummary}

/-- A summary that accounts for some events accounts for one more exactly when that adds
nothing. -/
theorem Accounts.concat_iff {events : List Bytes} (accounts : summary.Accounts parse events)
    (data : Bytes) :
    summary.Accounts parse (events ++ [data]) ↔ AddsNothing parse events data := by
  have usages : ((events ++ [data]).filterMap (UsageScanner.usageIn parse)).getLast? =
      (UsageScanner.usageIn parse data).or
        (events.filterMap (UsageScanner.usageIn parse)).getLast? := by
    rw [List.filterMap_append, List.getLast?_append, List.filterMap_cons, List.filterMap_nil]
    cases UsageScanner.usageIn parse data <;> rfl
  constructor
  · intro more
    constructor
    · rintro rfl
      exact accounts.sawDone.mp (more.sawDone.mpr (by simp))
    · intro usage found
      rw [← accounts.usage, more.usage, usages, found]
      rfl
  · intro adds
    constructor
    · rw [usages, accounts.usage]
      cases found : UsageScanner.usageIn parse data with
      | none => rfl
      | some usage => exact adds.sameUsage usage found
    · rw [accounts.sawDone, List.mem_append, List.mem_singleton]
      constructor
      · exact .inl
      · rintro (already | isDone)
        · exact already
        · rw [isDone]
          exact adds.again isDone.symm

/-- What the end of the stream completes is accounted for exactly when it adds nothing. -/
theorem Accounts.ended_iff {stream : Bytes}
    (accounts : summary.Accounts parse (payloads stream)) :
    summary.Accounts parse (endedPayloads stream) ↔
      ∀ data, undecidedPayload stream = some data → AddsNothing parse (payloads stream) data := by
  rw [endedPayloads_eq]
  cases undecidedPayload stream with
  | none =>
      rw [Option.toList_none, List.append_nil]
      exact iff_of_true accounts (by simp)
  | some data =>
      rw [Option.toList_some, accounts.concat_iff]
      simp only [Option.some.injEq, forall_eq']

end RelaySummary

namespace SseRelay

variable (parse : Bytes → Option UsageEnvelope)

/-- Without an overflow, a summary accounts for the events that blank lines completed. -/
theorem summaryOf_accounts {script : Nat → UpstreamPoll} {polled : Nat}
    (inCap : (UsageScanner.feedAll parse .default (produced script polled)).overflowed = false)
    (outcome : RelayOutcome) :
    (summaryOf parse script polled outcome).Accounts parse
      (payloads (produced script polled).flatten) := by
  have bounded : ¬ eventCutter.Overflows maxEventBuffer (produced script polled) := by
    rw [← UsageScanner.feedAll_overflowed_iff parse, inCap]
    exact Bool.false_ne_true
  have scanned := UsageScanner.feedAll_eq_absorb parse
    (UsageScanner.bounded_of_not_overflows parse bounded)
  rw [UsageScanner.reference_absorb] at scanned
  constructor
  · rw [summaryOf, scanned]
    simp only [UsageScanner.reference, UsageScanner.foldl_dispatch_lastUsage,
      UsageScanner.default, Option.or_none]
  · rw [summaryOf, scanned]
    simp only [UsageScanner.reference, UsageScanner.foldl_dispatch_sawDone,
      UsageScanner.default, Bool.false_or, List.contains_iff_mem]

/-- **The end of the stream.**  When the upstream ends the stream and nothing overflowed,
the one summary accounts for all events of the ended stream exactly when the event that a
CR at its end completes, if there is one, adds nothing to those before it. -/
theorem completed_accounts_iff (script : Nat → UpstreamPoll) (stallTimeout now : Nat)
    {contexts : List PollContext}
    (completed : firstEnd script 0 contexts = some .completed)
    (inCap : ((SseRelay.new script stallTimeout now).pollAll parse contexts).2.scanner.overflowed =
      false) :
    let relay := ((SseRelay.new script stallTimeout now).pollAll parse contexts).2
    let stream := (produced script relay.upstream.polled).flatten
    ∃ summary, relay.summaries = [summary] ∧ summary.outcome = .completed ∧
      (summary.Accounts parse (endedPayloads stream) ↔
        ∀ data, undecidedPayload stream = some data →
          AddsNothing parse (payloads stream) data) := by
  intro relay stream
  have course := Course.run parse script stallTimeout now contexts
  have reported := course.reported
  rw [completed] at reported
  rw [course.scanned] at inCap
  exact ⟨_, reported, rfl, (summaryOf_accounts parse inCap .completed).ended_iff⟩

/-- A stream that fits the buffer as a whole does not overflow it. -/
theorem inCap_of_length (script : Nat → UpstreamPoll) (stallTimeout now : Nat)
    (contexts : List PollContext)
    (short : (produced script ((SseRelay.new script stallTimeout now).pollAll parse
      contexts).2.upstream.polled).flatten.length ≤ maxEventBuffer) :
    ((SseRelay.new script stallTimeout now).pollAll parse contexts).2.scanner.overflowed =
      false := by
  rw [(Course.run parse script stallTimeout now contexts).scanned,
    UsageScanner.feedAll_eq_absorb parse (UsageScanner.bounded_of_length parse short),
    UsageScanner.absorb_overflowed]
  rfl

end SseRelay

namespace Sample

/-- A poll for the chunk, and one for the end. -/
def twoPolls : List PollContext := [⟨0, false⟩, ⟨1, false⟩]

/-- `data: [DONE]` -/
def doneLine : Bytes := [100, 97, 116, 97, 58, 32, 91, 68, 79, 78, 69, 93]

theorem cutLine_doneLine : cutLine (doneLine ++ [cr, cr]) = some (doneLine, [cr]) := by
  decide

/-- The line is not followed by a line that ends for certain. -/
theorem payloads_doneLine : payloads (doneLine ++ [cr, cr]) = [] := by
  rw [payloads, lines_of_cut_some cutLine_doneLine, lines_of_cut_none cutLine_cr_end]
  rfl

theorem undecidedPayload_doneLine :
    undecidedPayload (doneLine ++ [cr, cr]) = some doneBytes := by
  rw [undecidedPayload, lastLine_of_cut_some cutLine_doneLine,
    lastLine_of_cut_none cutLine_cr_end, if_pos rfl, lines_of_cut_some cutLine_doneLine,
    lines_of_cut_none cutLine_cr_end]
  rfl

end Sample

namespace SseRelay

open Sample

/-- A stream that ends with a LF. -/
theorem completed_accounts_done :
    let relay := ((SseRelay.new (oneChunk (doneLine ++ [lf, lf])) 30 0).pollAll
      UsageScanner.constantUsage twoPolls).2
    let stream := (produced (oneChunk (doneLine ++ [lf, lf])) relay.upstream.polled).flatten
    ∃ summary, relay.summaries = [summary] ∧ summary.outcome = .completed ∧
      (summary.Accounts UsageScanner.constantUsage (endedPayloads stream) ↔
        ∀ data, undecidedPayload stream = some data →
          AddsNothing UsageScanner.constantUsage (payloads stream) data) :=
  completed_accounts_iff UsageScanner.constantUsage (oneChunk (doneLine ++ [lf, lf])) 30 0
    (by decide) (inCap_of_length _ _ _ _ _ (by decide))

/-- The terminator is lost in front of a CR at the end of the stream. -/
theorem completed_not_accounts_doneCr :
    ¬ ∀ script stallTimeout now contexts, firstEnd script 0 contexts = some .completed →
      let relay := ((SseRelay.new script stallTimeout now).pollAll
        UsageScanner.constantUsage contexts).2
      relay.scanner.overflowed = false →
        ∀ summary ∈ relay.summaries, summary.Accounts UsageScanner.constantUsage
          (endedPayloads (produced script relay.upstream.polled).flatten) := by
  intro accounts
  have course := Course.run UsageScanner.constantUsage (oneChunk (doneLine ++ [cr, cr])) 30 0
    twoPolls
  have inCap := inCap_of_length UsageScanner.constantUsage (oneChunk (doneLine ++ [cr, cr]))
    30 0 twoPolls (by decide)
  have ended := accounts _ 30 0 twoPolls (by decide) inCap
  rw [course.scanned] at inCap
  have soFar := summaryOf_accounts UsageScanner.constantUsage inCap .completed
  rw [course.reported] at ended
  have adds := soFar.ended_iff.mp (ended _ (List.mem_singleton_self _))
  have lost := (adds _ undecidedPayload_doneLine).again rfl
  rw [show (produced (oneChunk (doneLine ++ [cr, cr])) _).flatten = doneLine ++ [cr, cr] from rfl,
    payloads_doneLine] at lost
  cases lost

end SseRelay

end Patchbay
