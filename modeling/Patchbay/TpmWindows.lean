import Mathlib.Algebra.GroupWithZero.Nat
import Patchbay.Lib.Windows
import Patchbay.Limits

/-!
# Token windows

The counter of a key keeps the sum of one window only.  Called one after the other, it cuts
the calls greedily into windows of sixty seconds, the first of which starts at time zero.
-/

namespace Patchbay

open Windowing

/-- A call of `record_tpm`. -/
structure TpmCall where
  key : String
  tokens : UInt64
  secs : UInt64
  deriving DecidableEq

namespace TpmCall

def time (call : TpmCall) : Nat := call.secs.toNat

/-- The tokens of some calls in the arithmetic of the counter, modulo `2 ^ 64`. -/
def total (calls : List TpmCall) : UInt64 :=
  UInt64.ofNat (calls.map fun call => call.tokens.toNat).sum

theorem total_append (calls : List TpmCall) (last : TpmCall) :
    total (calls ++ [last]) = total calls + last.tokens := by
  rw [total, List.map_append, List.sum_append, UInt64.ofNat_add, total]
  simp

/-- The calls of one key. -/
def ofKey (key : String) (calls : List TpmCall) : List TpmCall := calls.filter (·.key == key)

theorem ofKey_append (key : String) (before after : List TpmCall) :
    ofKey key (before ++ after) = ofKey key before ++ ofKey key after :=
  List.filter_append _ _

theorem ofKey_cons_self (call : TpmCall) (calls : List TpmCall) :
    ofKey call.key (call :: calls) = call :: ofKey call.key calls :=
  List.filter_cons_of_pos (beq_self_eq_true call.key)

theorem ofKey_cons_of_ne {key : String} {call : TpmCall} (different : call.key ≠ key)
    (calls : List TpmCall) : ofKey key (call :: calls) = ofKey key calls :=
  List.filter_cons_of_neg (by simpa using different)

/-- The windows of some calls. -/
def windows (calls : List TpmCall) : Windows TpmCall := Windows.cut 60 time calls

theorem windows_concat (calls : List TpmCall) (last : TpmCall) :
    windows (calls ++ [last]) = (windows calls).record 60 time last :=
  Windows.cut_append calls [last]

/-- While the open window lasts, none of its calls is sixty seconds old. -/
theorem recent_of_mem {calls : List TpmCall}
    (ordered : calls.Pairwise fun earlier later => earlier.secs ≤ later.secs) {nowSecs : Nat}
    (lasts : nowSecs < (windows calls).active.start + 60) {call : TpmCall}
    (membership : call ∈ (windows calls).active.entries) : nowSecs < call.secs.toNat + 60 := by
  have notOlder : (windows calls).active.start ≤ call.secs.toNat :=
    Windows.active_start_le_of_mem ordered membership
  omega

end TpmCall

/-- What `record_tpm` returns for the total of a window. -/
structure RateLimit.Judges (limit : RateLimit) (total : UInt64)
    (result : Except LimitExceeded UInt64) : Prop where
  accepts : ∀ reported, result = .ok reported ↔
    (∀ maxTpm, limit.maxTpm = some maxTpm → total ≤ maxTpm) ∧ reported = total
  refuses : ∀ exceeded, result = .error exceeded ↔
    ∃ maxTpm, limit.maxTpm = some maxTpm ∧ maxTpm < total ∧ exceeded = .tpm total maxTpm

namespace TpmCounter

/-- The counter stands for the open window. -/
structure Counts (counter : TpmCounter) (window : Window TpmCall) : Prop where
  start : counter.windowStart.toNat = window.start
  tokens : counter.tokens = TpmCall.total window.entries

theorem counts_default : Counts .default (TpmCall.windows []).active := ⟨rfl, rfl⟩

/-- The step lemma: the counter follows the cut, and returns the total of the open window. -/
theorem Counts.add {counter : TpmCounter} {windows : Windows TpmCall}
    (counts : counter.Counts windows.active) (call : TpmCall) :
    (counter.add call.tokens call.secs).2.Counts
        (windows.record 60 TpmCall.time call).active ∧
      (counter.add call.tokens call.secs).1 =
        TpmCall.total (windows.record 60 TpmCall.time call).active.entries := by
  have elapsed := counter.elapsed_iff call.secs
  rw [counts.start] at elapsed
  rw [TpmCounter.add, Windows.record]
  by_cases late : windows.active.start + 60 ≤ call.time
  · rw [if_pos (elapsed.mpr late), if_pos late]
    have alone : call.tokens = TpmCall.total [call] := by simp [TpmCall.total]
    exact ⟨⟨rfl, alone⟩, alone⟩
  · rw [if_neg fun isElapsed => late (elapsed.mp isElapsed), if_neg late]
    have sum : counter.tokens + call.tokens =
        TpmCall.total (windows.active.entries ++ [call]) := by
      rw [TpmCall.total_append, counts.tokens]
    exact ⟨⟨counts.start, sum⟩, sum⟩

theorem Counts.current {counter : TpmCounter} {window : Window TpmCall}
    (counts : counter.Counts window) (nowSecs : UInt64) :
    counter.current nowSecs =
      if nowSecs.toNat < window.start + 60 then TpmCall.total window.entries else 0 := by
  have elapsed := counter.elapsed_iff nowSecs
  rw [counts.start] at elapsed
  rw [TpmCounter.current]
  by_cases late : window.start + 60 ≤ nowSecs.toNat
  · rw [if_pos (elapsed.mpr late), if_neg (Nat.not_lt.mpr late)]
  · rw [if_neg fun isElapsed => late (elapsed.mp isElapsed), if_pos (Nat.lt_of_not_le late),
      counts.tokens]

end TpmCounter

namespace RateLimitStore

variable {γ : Type}

/-- Record one call after the other. -/
def recordAll (store : RateLimitStore γ) (calls : List TpmCall) : RateLimitStore γ :=
  calls.foldl (fun store call => (store.recordTpm call.key call.tokens call.secs).2) store

theorem recordAll_concat (store : RateLimitStore γ) (calls : List TpmCall) (last : TpmCall) :
    store.recordAll (calls ++ [last]) =
      ((store.recordAll calls).recordTpm last.key last.tokens last.secs).2 :=
  List.foldl_append

theorem recordAll_limitFor (store : RateLimitStore γ) (calls : List TpmCall) (key : String) :
    (store.recordAll calls).limitFor key = store.limitFor key := by
  induction calls generalizing store with
  | nil => rfl
  | cons call calls ih => exact ih (store.recordTpm call.key call.tokens call.secs).2

theorem recordTpm_judges (store : RateLimitStore γ) (key : String) (tokens nowSecs : UInt64) :
    (store.limitFor key).Judges ((store.tpmCounter key).add tokens nowSecs).1
      (store.recordTpm key tokens nowSecs).1 := by
  cases limited : (store.limitFor key).maxTpm with
  | none => constructor <;> simp [recordTpm, limited, eq_comm]
  | some maxTpm =>
      by_cases exceeds : maxTpm < ((store.tpmCounter key).add tokens nowSecs).1
      · constructor <;> simp [recordTpm, limited, exceeds, eq_comm]
      · have within := UInt64.not_lt.mp exceeds
        constructor <;> simp [recordTpm, limited, exceeds, within, eq_comm]

/-- The run lemma: the counter of a key follows the windows of its own calls. -/
theorem counts_recordAll {store : RateLimitStore γ} {key : String}
    (fresh : store.tpmCounter key = .default) (calls : List TpmCall) :
    ((store.recordAll calls).tpmCounter key).Counts
      (TpmCall.windows (TpmCall.ofKey key calls)).active := by
  induction calls using List.reverseRecOn with
  | nil =>
      rw [recordAll, List.foldl_nil, fresh]
      exact TpmCounter.counts_default
  | append_singleton calls last ih =>
      rw [recordAll_concat, TpmCall.ofKey_append]
      by_cases own : last.key = key
      · subst own
        rw [tpmCounter_recordTpm_self, TpmCall.ofKey_cons_self, TpmCall.windows,
          Windows.cut_append]
        exact (ih.add last).1
      · rw [tpmCounter_recordTpm_of_ne _ (Ne.symm own), TpmCall.ofKey_cons_of_ne own]
        simpa [TpmCall.ofKey] using ih

theorem tpmCounter_new (governor : Governor γ) (limits : Table String RateLimit) (key : String) :
    (new governor limits).tpmCounter key = .default := by
  rw [tpmCounter, new, Finmap.lookup_empty]
  rfl

/-- **Token windows.**  In any sequence of calls, each call of a key judges the total of its
window up to itself.  Afterwards the current total is that of the last window until this
is over, and zero from then on.  No total has tokens in it that are sixty seconds old. -/
theorem tpm_windows (governor : Governor γ) (limits : Table String RateLimit) (key : String)
    {calls : List TpmCall}
    (ordered : (TpmCall.ofKey key calls).Pairwise fun earlier later =>
      earlier.secs ≤ later.secs) :
    (∀ before call after, calls = before ++ call :: after → call.key = key →
      ∃ counted,
        (TpmCall.windows (TpmCall.ofKey key calls)).Places (TpmCall.ofKey key before) call
          counted ∧
        ((new governor limits).limitFor key).Judges (TpmCall.total (counted ++ [call]))
          (((new governor limits).recordAll before).recordTpm key call.tokens call.secs).1 ∧
        ∀ entry ∈ counted ++ [call], call.secs.toNat < entry.secs.toNat + 60) ∧
      ∃ last, (TpmCall.windows (TpmCall.ofKey key calls)).all.getLast? = some last ∧
        ∀ nowSecs,
          (((new governor limits).recordAll calls).currentTpm key nowSecs).1 =
            (if nowSecs.toNat < last.start + 60 then TpmCall.total last.entries else 0) ∧
          (nowSecs.toNat < last.start + 60 →
            ∀ entry ∈ last.entries, nowSecs.toNat < entry.secs.toNat + 60) := by
  have fresh := tpmCounter_new governor limits key
  constructor
  · rintro before call after rfl rfl
    rw [TpmCall.ofKey_append, TpmCall.ofKey_cons_self] at ordered ⊢
    rcases Windows.cut_places (TpmCall.ofKey call.key before) call
      (TpmCall.ofKey call.key after) with ⟨counted, placed, ends⟩
    have step := (counts_recordAll fresh before).add call
    have judges := ((new governor limits).recordAll before).recordTpm_judges call.key call.tokens
      call.secs
    rw [step.2, ← TpmCall.windows_concat, TpmCall.windows, ends, recordAll_limitFor] at judges
    refine ⟨counted, placed, judges, ?_⟩
    intro entry membership
    rw [← ends] at membership
    rw [List.append_cons] at ordered
    exact TpmCall.recent_of_mem (List.pairwise_append.mp ordered).1
      (Windows.lt_active_start_add (by decide) _ call) membership
  · have counts := counts_recordAll fresh calls
    refine ⟨_, List.getLast?_concat, fun nowSecs => ⟨counts.current nowSecs, ?_⟩⟩
    intro lasts entry membership
    exact TpmCall.recent_of_mem ordered lasts membership

/-- Two calls of a key within the first minute, with one of another key between them, and a
call after it. -/
def twoWindows : List TpmCall :=
  [⟨"dev", 50, 10⟩, ⟨"ops", 9, 12⟩, ⟨"dev", 60, 30⟩, ⟨"dev", 7, 70⟩]

theorem tpm_windows_two :
    let store := (new ⟨fun _ => (), fun _ _ _ => (true, ())⟩ ∅).recordAll twoWindows
    (store.currentTpm "dev" 129).1 = 7 ∧ (store.currentTpm "dev" 130).1 = 0 := by
  have ordered : (TpmCall.ofKey "dev" twoWindows).Pairwise fun earlier later =>
      earlier.secs ≤ later.secs := by decide
  rcases (tpm_windows ⟨fun _ => (), fun _ _ _ => (true, ())⟩ ∅ "dev" ordered).2
    with ⟨last, found, current⟩
  cases found
  exact ⟨(current 129).1, (current 130).1⟩

end RateLimitStore

end Patchbay
