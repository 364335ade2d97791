import Patchbay.Upstream.ScannerRefinement

/-!
# What the scanner holds between chunks

Every round of the event loop takes at least a blank line's two terminators off the buffer,
so the loop ends.  What it leaves is the unfinished end of the stream, at most as long as
the cap; beyond the cap the scanner gives up for good.
-/

namespace Patchbay

open EventStream Framing

/-- A boundary consumes the body of its event and two terminators. -/
theorem findBoundaryFrom_consumes {buf : Bytes} {i eventEnd consumeTo : Nat}
    (found : findBoundaryFrom buf i = some (eventEnd, consumeTo)) : eventEnd + 2 ≤ consumeTo := by
  induction i using findBoundaryFrom.induct buf with
  | case1 i inBounds here ih =>
      rw [findBoundaryFrom_not inBounds here] at found
      exact ih found
  | case2 i inBounds here =>
      simp [findBoundaryFrom_incomplete inBounds here] at found
  | case3 i inBounds l1 here next ih =>
      simp only [findBoundaryFrom_len inBounds here, next] at found
      exact ih found
  | case4 i inBounds l1 here next =>
      simp [findBoundaryFrom_len inBounds here, next] at found
  | case5 i inBounds l1 here l2 next =>
      simp only [findBoundaryFrom_len inBounds here, next, Option.some.injEq,
        Prod.mk.injEq] at found
      have first := (termAt_len here).1
      have second := (termAt_len next).1
      omega
  | case6 i outOfBounds =>
      simp [findBoundaryFrom_end outOfBounds] at found

theorem eventCutter_suffix {buf event rest : Bytes}
    (found : eventCutter.cut buf = some (event, rest)) : rest <:+ buf := by
  rcases Option.map_eq_some_iff.mp found with ⟨boundary, -, same⟩
  rw [Prod.mk.injEq] at same
  rw [← same.2]
  exact List.drop_suffix _ _

theorem findEventBoundary_leftover (buf : Bytes) :
    findEventBoundary (eventCutter.leftover buf) = none :=
  Option.map_eq_none_iff.mp (eventCutter.cut_leftover buf)

namespace UsageScanner

variable (parse : Bytes → Option UsageEnvelope)

/-- After so many rounds the loop of `feed` ends in the last state. -/
inductive Rounds : Nat → UsageScanner → UsageScanner → Prop
  | done {scanner : UsageScanner} (unfinished : findEventBoundary scanner.buf = none) :
      Rounds 0 scanner scanner
  | round {scanner last : UsageScanner} {rounds eventEnd consumeTo : Nat}
      (found : findEventBoundary scanner.buf = some (eventEnd, consumeTo))
      (rest : Rounds rounds
        (processEvent parse { scanner with buf := scanner.buf.drop consumeTo }
          (scanner.buf.take eventEnd)) last) :
      Rounds (rounds + 1) scanner last

/-- The loop ends: each round shortens the buffer by two bytes or more. -/
theorem rounds_drainEvents (scanner : UsageScanner) :
    ∃ rounds, Rounds parse rounds scanner (scanner.drainEvents parse) ∧
      2 * rounds ≤ scanner.buf.length := by
  induction scanner using drainEvents.induct parse with
  | case1 scanner noBoundary =>
      rw [drainEvents]
      split
      · exact ⟨0, .done noBoundary, Nat.zero_le _⟩
      · simp_all
  | case2 scanner eventEnd consumeTo boundary ih =>
      rcases ih with ⟨rounds, rest, short⟩
      have consumes := findBoundaryFrom_consumes boundary
      have bounds := findBoundaryFrom_bounds boundary
      rw [processEvent_buf, List.length_drop] at short
      rw [drainEvents]
      split
      · simp_all
      · next eventEnd' consumeTo' boundary' =>
          obtain ⟨rfl, rfl⟩ : eventEnd = eventEnd' ∧ consumeTo = consumeTo' := by
            simpa [boundary] using boundary'
          exact ⟨rounds + 1, .round boundary rest, by omega⟩

/-- What a scanner holds of the bytes fed so far. -/
structure Holds (scanner : UsageScanner) (fed : Bytes) : Prop where
  active : scanner.overflowed = false → scanner.buf.length ≤ maxEventBuffer ∧
    findEventBoundary scanner.buf = none ∧ scanner.buf <:+ fed
  overflowed : scanner.overflowed = true → scanner.buf = []

theorem holds_default : default.Holds [] where
  active _ := ⟨Nat.zero_le _, findBoundaryFrom_end (Nat.lt_irrefl 0), List.suffix_rfl⟩
  overflowed isOverflowed := by cases isOverflowed

variable {parse} {scanner : UsageScanner}

/-- The step lemma. -/
theorem Holds.feed {fed : Bytes} (holds : scanner.Holds fed) (chunk : Bytes) :
    (scanner.feed parse chunk).Holds (fed ++ chunk) := by
  cases before : scanner.overflowed with
  | true =>
      rw [UsageScanner.feed, if_pos before]
      refine ⟨fun active => ?_, holds.overflowed⟩
      rw [before] at active
      cases active
  | false =>
      have absorbed : (scanner.absorb parse chunk).buf =
          eventCutter.leftover (scanner.buf ++ chunk) := by
        rw [absorb, drainEvents_eq]
      rw [UsageScanner.feed, if_neg (by simp [before])]
      dsimp only
      split
      · refine ⟨fun active => ?_, fun _ => rfl⟩
        cases active
      · next short =>
          constructor
          · intro _
            rw [absorbed] at short ⊢
            refine ⟨Nat.le_of_not_lt short, findEventBoundary_leftover _, ?_⟩
            have ofBuffer := eventCutter.leftover_suffix eventCutter_suffix (scanner.buf ++ chunk)
            exact ofBuffer.trans (List.suffix_append_self_iff.mpr (holds.active before).2.2)
          · intro overflows
            rw [absorb_overflowed, before] at overflows
            cases overflows

/-- The run lemma. -/
theorem holds_feedAll (chunks : List Bytes) :
    (feedAll parse default chunks).Holds chunks.flatten := by
  induction chunks using List.reverseRecOn with
  | nil => exact holds_default
  | append_singleton chunks last ih =>
      rw [feedAll, List.foldl_append, List.flatten_append, List.flatten_singleton]
      exact ih.feed last

theorem feedAll_of_overflowed (overflowed : scanner.overflowed = true) (more : List Bytes) :
    feedAll parse scanner more = scanner := by
  induction more with
  | nil => rfl
  | cons chunk more ih =>
      rw [feedAll, List.foldl_cons, UsageScanner.feed, if_pos overflowed]
      exact ih

variable (parse) in
/-- **The buffer.**  Whatever chunks were fed, an active scanner holds the unfinished end of
them, within the cap, and an overflowed one holds nothing and stays as it is.  The event
loop of the next feed ends after at most a round for every two bytes. -/
theorem feedAll_buffer (chunks : List Bytes) :
    (feedAll parse default chunks).Holds chunks.flatten ∧
      ((feedAll parse default chunks).overflowed = true →
        ∀ more, feedAll parse (feedAll parse default chunks) more =
          feedAll parse default chunks) ∧
      ∀ chunk, ∃ rounds,
        Rounds parse rounds
          { feedAll parse default chunks with buf := (feedAll parse default chunks).buf ++ chunk }
          ((feedAll parse default chunks).absorb parse chunk) ∧
        2 * rounds ≤ (feedAll parse default chunks).buf.length + chunk.length := by
  refine ⟨holds_feedAll chunks, feedAll_of_overflowed, fun chunk => ?_⟩
  rw [← List.length_append]
  exact rounds_drainEvents parse _

end UsageScanner

end Patchbay
