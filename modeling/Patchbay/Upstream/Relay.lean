import Patchbay.Upstream.Scanner

/-!
# The byte-faithful relay

A pull-based relay over an upstream byte stream.  Polling it yields exactly the
chunks the upstream produced, feeds a copy to the usage scanner, and reports one
summary on a channel however the stream ends.  What the upstream answers to its
successive polls is an arbitrary script, and so is each reading of the stall
timer.
-/

namespace Patchbay

/-- The answer of a poll. -/
inductive Poll (α : Type) where
  | ready (value : α)
  | pending
  deriving DecidableEq, Repr

/-- How a relayed stream ended. -/
inductive RelayOutcome where
  | completed
  | upstreamError (message : String)
  | stalled
  | clientDisconnected
  deriving DecidableEq, Repr

/-- End-of-stream accounting record. -/
structure RelaySummary where
  outcome : RelayOutcome
  usage : Option Usage
  sawDone : Bool
  bytesRelayed : UInt64
  deriving DecidableEq, Repr

inductive RelayError where
  | upstream (message : String)
  | stallTimeout (timeout : Nat)
  deriving DecidableEq, Repr

/-- What the upstream answers to a poll: a chunk, an error, or the end. -/
abbrev UpstreamPoll := Poll (Option (Except String Bytes))

/-- What the relay answers to a poll. -/
abbrev RelayPoll := Poll (Option (Except RelayError Bytes))

/-- An upstream stream: its answers to successive polls, and how many of them
were asked for. -/
structure ByteStream where
  script : Nat → UpstreamPoll
  polled : Nat

/-- The stream of one chunk. -/
def oneChunk (chunk : Bytes) : Nat → UpstreamPoll
  | 0 => .ready (some (.ok chunk))
  | _ + 1 => .ready none

/-- The clock of one poll: the current instant, and whether the stall timer has
fired when it is asked. -/
structure PollContext where
  now : Nat
  stallElapsed : Bool

structure SseRelay where
  upstream : ByteStream
  scanner : UsageScanner
  /-- Deadline of the stall timer. -/
  stall : Nat
  stallTimeout : Nat
  /-- Whether the sender of the summary channel is still there. -/
  reporter : Bool
  /-- What was sent on the summary channel. -/
  summaries : List RelaySummary
  bytesRelayed : UInt64
  finished : Bool

namespace SseRelay

def new (script : Nat → UpstreamPoll) (stallTimeout now : Nat) : SseRelay where
  upstream := { script, polled := 0 }
  scanner := UsageScanner.default
  stall := now + stallTimeout
  stallTimeout := stallTimeout
  reporter := true
  summaries := []
  bytesRelayed := 0
  finished := false

/-- The summary the relay would send now. -/
def summary (relay : SseRelay) (outcome : RelayOutcome) : RelaySummary where
  outcome := outcome
  usage := relay.scanner.lastUsage
  sawDone := relay.scanner.sawDone
  bytesRelayed := relay.bytesRelayed

/-- Sending consumes the reporter, so only the first report goes out. -/
def report (relay : SseRelay) (outcome : RelayOutcome) : SseRelay :=
  if relay.reporter then
    { relay with
      reporter := false
      summaries := relay.summaries ++ [relay.summary outcome] }
  else relay

variable (parse : Bytes → Option UsageEnvelope)

def pollNext (relay : SseRelay) (context : PollContext) : RelayPoll × SseRelay :=
  if relay.finished then (.ready none, relay)
  else
    let answer := relay.upstream.script relay.upstream.polled
    let relay := { relay with
      upstream := { relay.upstream with polled := relay.upstream.polled + 1 } }
    match answer with
    | .ready (some (.ok chunk)) =>
        (.ready (some (.ok chunk)),
          { relay with
            scanner := relay.scanner.feed parse chunk
            bytesRelayed := relay.bytesRelayed + UInt64.ofNat chunk.length
            stall := context.now + relay.stallTimeout })
    | .ready (some (.error message)) =>
        (.ready (some (.error (.upstream message))),
          { relay with finished := true }.report (.upstreamError message))
    | .ready none =>
        (.ready none, { relay with finished := true }.report .completed)
    | .pending =>
        if context.stallElapsed then
          (.ready (some (.error (.stallTimeout relay.stallTimeout))),
            { relay with finished := true }.report .stalled)
        else (.pending, relay)

/-- The client goes away, or the finished stream is released. -/
def drop (relay : SseRelay) : SseRelay := relay.report .clientDisconnected

/-- A sequence of client polls: the answers in order, and the relay after them. -/
def pollAll (relay : SseRelay) : List PollContext → List RelayPoll × SseRelay
  | [] => ([], relay)
  | context :: rest =>
      let (answer, relay) := relay.pollNext parse context
      let (answers, relay) := relay.pollAll rest
      (answer :: answers, relay)

@[simp] theorem pollAll_nil (relay : SseRelay) : relay.pollAll parse [] = ([], relay) := rfl

theorem pollAll_append (relay : SseRelay) (before after : List PollContext) :
    relay.pollAll parse (before ++ after) =
      ((relay.pollAll parse before).1 ++
          ((relay.pollAll parse before).2.pollAll parse after).1,
        ((relay.pollAll parse before).2.pollAll parse after).2) := by
  induction before generalizing relay with
  | nil => rfl
  | cons context before ih => simp only [List.cons_append, pollAll, ih]

theorem pollAll_concat (relay : SseRelay) (before : List PollContext)
    (context : PollContext) :
    relay.pollAll parse (before ++ [context]) =
      ((relay.pollAll parse before).1 ++
          [((relay.pollAll parse before).2.pollNext parse context).1],
        ((relay.pollAll parse before).2.pollNext parse context).2) := by
  rw [pollAll_append]
  rfl

/-- A finished relay answers `None` and changes no more. -/
theorem pollNext_finished {relay : SseRelay} (finished : relay.finished = true)
    (context : PollContext) : relay.pollNext parse context = (.ready none, relay) := by
  rw [pollNext, if_pos finished]

theorem pollAll_finished {relay : SseRelay} (finished : relay.finished = true)
    (contexts : List PollContext) :
    relay.pollAll parse contexts =
      (List.replicate contexts.length (.ready none), relay) := by
  induction contexts with
  | nil => rfl
  | cons context rest ih =>
      simp only [pollAll, pollNext_finished parse finished, ih]
      rfl

end SseRelay

end Patchbay
