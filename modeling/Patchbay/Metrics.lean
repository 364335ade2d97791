import Patchbay.Lib.Table
import Patchbay.Lib.Text
import Patchbay.Upstream.Usage

/-!
# Metrics

Five families of labeled counters.  A label set is kept as the text that the
exposition format shows, with its values escaped.
-/

namespace Patchbay

/-- A family of counters by label text. -/
abbrev LabeledCounters := Table String UInt64

namespace LabeledCounters

def add (counters : LabeledCounters) (label : String) (n : UInt64) : LabeledCounters :=
  Table.update counters label 0 (· + n)

def inc (counters : LabeledCounters) (label : String) : LabeledCounters :=
  counters.add label 1

/-- What the counter shows; an absent one shows nothing yet. -/
def value (counters : LabeledCounters) (label : String) : UInt64 :=
  (counters.lookup label).getD 0

@[simp] theorem value_add_self (counters : LabeledCounters) (label : String) (n : UInt64) :
    (counters.add label n).value label = counters.value label + n := by
  simp [add, value]

@[simp] theorem value_inc_self (counters : LabeledCounters) (label : String) :
    (counters.inc label).value label = counters.value label + 1 :=
  value_add_self counters label 1

theorem value_add_of_ne (counters : LabeledCounters) {label other : String}
    (different : other ≠ label) (n : UInt64) :
    (counters.add label n).value other = counters.value other := by
  simp [add, value, different]

end LabeledCounters

/-- Backslash, double quote and newline are escaped in label values. -/
def escape (text : String) : String :=
  Text.replaceChar (Text.replaceChar (Text.replaceChar text '\\' "\\\\") '"' "\\\"") '\n' "\\n"

structure MetricsHandle where
  requests : LabeledCounters
  tokens : LabeledCounters
  upstreamErrors : LabeledCounters
  rateLimitRejections : LabeledCounters
  budgetRejections : LabeledCounters

namespace MetricsHandle

def new : MetricsHandle := ⟨∅, ∅, ∅, ∅, ∅⟩

def requestLabel (backend model statusClass : String) : String :=
  "\x7bbackend=\"" ++ escape backend ++ "\",model=\"" ++ escape model ++ "\",status=\"" ++
    escape statusClass ++ "\"\x7d"

def tokensLabel (key kind : String) : String :=
  "\x7bkey=\"" ++ escape key ++ "\",kind=\"" ++ kind ++ "\"\x7d"

def backendLabel (backend : String) : String :=
  "\x7bbackend=\"" ++ escape backend ++ "\"\x7d"

def keyLabel (key : String) : String := "\x7bkey=\"" ++ escape key ++ "\"\x7d"

/-- Record one completed or failed request. -/
def recordRequest (metrics : MetricsHandle) (backend model statusClass : String) :
    MetricsHandle :=
  { metrics with
    requests := metrics.requests.inc (requestLabel backend model statusClass) }

/-- Record token usage for a virtual key after a completed response. -/
def recordTokens (metrics : MetricsHandle) (key : String) (usage : Usage) :
    MetricsHandle :=
  { metrics with
    tokens :=
      [("prompt", usage.promptTokens), ("completion", usage.completionTokens),
        ("total", usage.totalTokens)].foldl
        (fun tokens (kind, val) => tokens.add (tokensLabel key kind) val) metrics.tokens }

/-- Record a failed upstream request. -/
def recordUpstreamError (metrics : MetricsHandle) (backend : String) : MetricsHandle :=
  { metrics with upstreamErrors := metrics.upstreamErrors.inc (backendLabel backend) }

/-- Record a request rejected by the rate limiter. -/
def recordRateLimitRejection (metrics : MetricsHandle) (key : String) : MetricsHandle :=
  { metrics with
    rateLimitRejections := metrics.rateLimitRejections.inc (keyLabel key) }

/-- Record a request rejected by the token budget. -/
def recordBudgetRejection (metrics : MetricsHandle) (key : String) : MetricsHandle :=
  { metrics with budgetRejections := metrics.budgetRejections.inc (keyLabel key) }

/-- Failed calls counted against a backend. -/
def upstreamErrorsOf (metrics : MetricsHandle) (backend : String) : UInt64 :=
  metrics.upstreamErrors.value (backendLabel backend)

/-- Requests of a key rejected by its budget. -/
def budgetRejectionsOf (metrics : MetricsHandle) (key : String) : UInt64 :=
  metrics.budgetRejections.value (keyLabel key)

end MetricsHandle

end Patchbay
