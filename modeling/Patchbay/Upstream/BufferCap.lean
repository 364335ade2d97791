import Patchbay.Upstream.ScannerRefinement

/-!
# The buffer cap and the chunking

The scanner checks its cap after it has processed the events that a chunk completes.  An
event above the cap therefore disables the accounting when it arrives in pieces, and is
accounted like any other when its end arrives with it.
-/

namespace Patchbay

open EventStream Framing

namespace UsageScanner

variable (parse : Bytes → Option UsageEnvelope)

/-- What the scanner has buffered of a stream is the unfinished event at its end. -/
theorem absorb_buf (stream : Bytes) :
    (default.absorb parse stream).buf = eventCutter.leftover stream := by
  rw [reference_absorb]

/-- While no chunk leaves too much over, the scanner absorbs the stream. -/
theorem bounded_of_not_overflows {chunks : List Bytes}
    (bounded : ¬ eventCutter.Overflows maxEventBuffer chunks) : Bounded parse chunks := by
  induction chunks using List.reverseRecOn with
  | nil =>
      intro before chunk isPrefix
      simp at isPrefix
  | append_singleton chunks last ih =>
      rw [eventCutter.overflows_concat, not_or] at bounded
      have boundedBefore := ih bounded.1
      intro before chunk isPrefix
      rcases List.prefix_concat_iff.mp isPrefix with same | earlier
      · rcases List.append_inj' same rfl with ⟨rfl, lastSame⟩
        rw [List.cons.injEq] at lastSame
        rcases lastSame with ⟨rfl, -⟩
        rw [feedAll_eq_absorb parse boundedBefore, absorb_absorb, absorb_buf]
        simpa using bounded.2
      · exact boundedBefore before chunk earlier

/-- The scanner overflows exactly when some chunk leaves too much over. -/
theorem feedAll_overflowed_iff (chunks : List Bytes) :
    (feedAll parse default chunks).overflowed = true ↔
      eventCutter.Overflows maxEventBuffer chunks := by
  have step : ∀ (chunks : List Bytes) last, feedAll parse default (chunks ++ [last]) =
      (feedAll parse default chunks).feed parse last := by
    intro chunks last
    rw [feedAll, List.foldl_append]
    rfl
  induction chunks using List.reverseRecOn with
  | nil => exact iff_of_false (by simp [feedAll, default]) (eventCutter.not_overflows_nil _)
  | append_singleton chunks last ih =>
      rw [step, eventCutter.overflows_concat]
      cases before : (feedAll parse default chunks).overflowed with
      | true => exact iff_of_true (by simp [feed, before]) (.inl (ih.mp before))
      | false =>
          have bounded : ¬ eventCutter.Overflows maxEventBuffer chunks := by
            intro overflows
            rw [ih.mpr overflows] at before
            cases before
          rw [feedAll_eq_absorb parse (bounded_of_not_overflows parse bounded)] at before ⊢
          have buffered := absorb_buf parse (chunks.flatten ++ last)
          rw [List.flatten_append, List.flatten_singleton]
          simp only [feed, before, Bool.false_eq_true, if_false, absorb_absorb, buffered]
          split
          · next long => exact iff_of_true rfl (.inr long)
          · next short =>
              rw [absorb_overflowed]
              exact iff_of_false Bool.false_ne_true (not_or.mpr ⟨bounded, short⟩)

/-- **The buffer cap.**  Every chunking of a stream ends with the same overflow flag exactly
when no start of the stream leaves an unfinished event above the cap, or the whole stream
leaves one. -/
theorem overflowed_alike_iff (stream : Bytes) :
    (∀ chunks others, chunks.flatten = stream → others.flatten = stream →
        (feedAll parse default chunks).overflowed =
          (feedAll parse default others).overflowed) ↔
      (∀ start, start <+: stream →
          (eventCutter.leftover start).length ≤ maxEventBuffer) ∨
        maxEventBuffer < (eventCutter.leftover stream).length := by
  rw [← eventCutter.overflows_alike_iff]
  constructor
  · intro alike chunks others first second
    rw [← feedAll_overflowed_iff parse, ← feedAll_overflowed_iff parse,
      alike chunks others first second]
  · intro alike chunks others first second
    rw [Bool.eq_iff_iff, feedAll_overflowed_iff, feedAll_overflowed_iff]
    exact alike chunks others first second

/-! ## An event above the cap -/

theorem termAt_text {text after : Bytes} (inLine : ∀ byte ∈ text, ¬ IsTerminator byte)
    {i : Nat} (inText : i < text.length) : termAt (text ++ after) i = .not := by
  have here := inLine text[i] (List.getElem_mem inText)
  rw [IsTerminator, not_or] at here
  simp [termAt, List.getElem?_append_left inText, inText, here.1, here.2]

/-- The search passes over a text without terminators. -/
theorem findBoundaryFrom_text {text : Bytes} (inLine : ∀ byte ∈ text, ¬ IsTerminator byte)
    (after : Bytes) {i : Nat} (inText : i ≤ text.length) :
    findBoundaryFrom (text ++ after) 0 = findBoundaryFrom (text ++ after) i := by
  induction i with
  | zero => rfl
  | succ i ih =>
      rw [ih (Nat.le_of_succ_le inText)]
      exact findBoundaryFrom_not (by simp; omega) (termAt_text inLine inText)

/-- Such a text is unfinished. -/
theorem leftover_text {text : Bytes} (inLine : ∀ byte ∈ text, ¬ IsTerminator byte) :
    eventCutter.leftover text = text := by
  have boundary := findBoundaryFrom_text inLine [] (Nat.le_refl _)
  rw [List.append_nil, findBoundaryFrom_end (Nat.lt_irrefl _)] at boundary
  apply eventCutter.leftover_of_cut_none
  simp [eventCutter, findEventBoundary, boundary]

/-- A blank line finishes it. -/
theorem leftover_text_blank {text : Bytes} (inLine : ∀ byte ∈ text, ¬ IsTerminator byte) :
    eventCutter.leftover (text ++ [lf, lf]) = [] := by
  have boundary := findBoundaryFrom_text inLine [lf, lf] (Nat.le_refl _)
  have first : termAt (text ++ [lf, lf]) text.length = .len 1 := by simp [termAt]
  have second : termAt (text ++ [lf, lf]) (text.length + 1) = .len 1 := by simp [termAt]
  rw [findBoundaryFrom_len (by simp) first, second] at boundary
  have cut : eventCutter.cut (text ++ [lf, lf]) = some (text, []) := by
    simp [eventCutter, findEventBoundary, boundary]
  rw [eventCutter.leftover_of_cut_some cut]
  exact leftover_text (by simp)

/-- A line above the cap. -/
def oversizedLine : Bytes := List.replicate (maxEventBuffer + 1) 120

theorem oversizedLine_inLine : ∀ byte ∈ oversizedLine, ¬ IsTerminator byte := by
  intro byte membership
  rw [List.eq_of_mem_replicate membership]
  decide

/-- The line and its blank line are one event, which overflows in two chunks and does not
in one. -/
theorem overflowed_not_alike :
    ¬ ∀ chunks others : List Bytes, chunks.flatten = others.flatten →
      (feedAll constantUsage default chunks).overflowed =
        (feedAll constantUsage default others).overflowed := by
  intro alike
  have same := alike [oversizedLine, [lf, lf]] [oversizedLine ++ [lf, lf]] (by simp)
  rw [Bool.eq_iff_iff, feedAll_overflowed_iff, feedAll_overflowed_iff] at same
  have inTwo : eventCutter.Overflows maxEventBuffer [oversizedLine, [lf, lf]] := by
    refine ⟨[], oversizedLine, ⟨[[lf, lf]], rfl⟩, ?_⟩
    rw [List.nil_append, List.flatten_singleton, leftover_text oversizedLine_inLine,
      oversizedLine, List.length_replicate]
    exact Nat.lt_succ_self _
  rcases (eventCutter.overflows_concat [] _).mp (same.mp inTwo) with none | long
  · exact eventCutter.not_overflows_nil _ none
  · rw [List.nil_append, List.flatten_singleton, leftover_text_blank oversizedLine_inLine] at long
    exact Nat.not_lt_zero _ long

end UsageScanner

end Patchbay
