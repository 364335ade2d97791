import Mathlib.Data.List.Induction

/-!
# Incremental framing

A receiver appends whatever arrives to a buffer and cuts complete frames off its
front.  When the cutting rule is *stable*, a frame that was complete before more
input arrived is still the first frame afterwards, so the frames cut from a
stream and the unfinished rest do not depend on how the stream was chunked.
-/

namespace Framing

universe u v

variable {α : Type u} {β : Type v}

/-- A rule cutting the first complete frame off a buffer. -/
structure Cutter (α : Type u) (β : Type v) where
  cut : List α → Option (β × List α)
  /-- Cutting makes progress, so the cutting loop ends. -/
  shrinks : ∀ {buffer frame rest}, cut buffer = some (frame, rest) →
    rest.length < buffer.length
  /-- Input that arrives later does not change a complete frame. -/
  stable : ∀ {buffer frame rest}, cut buffer = some (frame, rest) →
    ∀ more, cut (buffer ++ more) = some (frame, rest ++ more)

namespace Cutter

variable (cutter : Cutter α β)

/-- Cut frames until none is complete: the frames in order, and the unfinished
rest. -/
def drain (buffer : List α) : List β × List α :=
  match _found : cutter.cut buffer with
  | none => ([], buffer)
  | some (frame, rest) =>
      (frame :: (drain rest).1, (drain rest).2)
termination_by buffer.length
decreasing_by all_goals exact cutter.shrinks _found

/-- The complete frames of a buffer. -/
def frames (buffer : List α) : List β := (cutter.drain buffer).1

/-- What is left of a buffer once its complete frames are cut off. -/
def leftover (buffer : List α) : List α := (cutter.drain buffer).2

theorem drain_of_cut_none {buffer : List α}
    (unfinished : cutter.cut buffer = none) :
    cutter.drain buffer = ([], buffer) := by
  rw [drain]
  split
  · rfl
  · next found => simp [unfinished] at found

theorem drain_of_cut_some {buffer rest : List α} {frame : β}
    (found : cutter.cut buffer = some (frame, rest)) :
    cutter.drain buffer =
      (frame :: cutter.frames rest, cutter.leftover rest) := by
  rw [drain]
  split
  · next unfinished => simp [found] at unfinished
  · next frame' rest' found' =>
      rw [found] at found'
      obtain ⟨rfl, rfl⟩ := by simpa using found'
      rfl

@[simp] theorem frames_of_cut_none {buffer : List α}
    (unfinished : cutter.cut buffer = none) : cutter.frames buffer = [] := by
  simp [frames, cutter.drain_of_cut_none unfinished]

@[simp] theorem leftover_of_cut_none {buffer : List α}
    (unfinished : cutter.cut buffer = none) : cutter.leftover buffer = buffer := by
  simp [leftover, cutter.drain_of_cut_none unfinished]

theorem frames_of_cut_some {buffer rest : List α} {frame : β}
    (found : cutter.cut buffer = some (frame, rest)) :
    cutter.frames buffer = frame :: cutter.frames rest := by
  rw [frames, cutter.drain_of_cut_some found]

theorem leftover_of_cut_some {buffer rest : List α} {frame : β}
    (found : cutter.cut buffer = some (frame, rest)) :
    cutter.leftover buffer = cutter.leftover rest := by
  rw [leftover, cutter.drain_of_cut_some found]

/-- Induction along the cutting loop: a property of buffers holds everywhere if
it holds where no frame is complete and is inherited from the rest of a cut. -/
theorem drain_induction {motive : List α → Prop}
    (unfinished : ∀ buffer, cutter.cut buffer = none → motive buffer)
    (cut : ∀ buffer frame rest, cutter.cut buffer = some (frame, rest) →
      motive rest → motive buffer)
    (buffer : List α) : motive buffer := by
  induction length : buffer.length using Nat.strongRecOn
    generalizing buffer with
  | ind bound ih =>
      cases found : cutter.cut buffer with
      | none => exact unfinished buffer found
      | some result =>
          rcases result with ⟨frame, rest⟩
          have shorter := cutter.shrinks found
          exact cut buffer frame rest found (ih _ (by omega) rest rfl)

/-- What the loop leaves behind is the end of the buffer. -/
theorem leftover_length_le (buffer : List α) :
    (cutter.leftover buffer).length ≤ buffer.length := by
  induction buffer using cutter.drain_induction with
  | unfinished buffer unfinished => simp [cutter.leftover_of_cut_none unfinished]
  | cut buffer frame rest found ih =>
      rw [cutter.leftover_of_cut_some found]
      have shorter := cutter.shrinks found
      omega

/-- No frame is complete in what the loop leaves behind. -/
theorem cut_leftover (buffer : List α) : cutter.cut (cutter.leftover buffer) = none := by
  induction buffer using cutter.drain_induction with
  | unfinished buffer unfinished =>
      rw [cutter.leftover_of_cut_none unfinished]
      exact unfinished
  | cut buffer frame rest found ih =>
      rw [cutter.leftover_of_cut_some found]
      exact ih

theorem leftover_suffix
    (isSuffix : ∀ {buffer frame rest}, cutter.cut buffer = some (frame, rest) → rest <:+ buffer)
    (buffer : List α) : cutter.leftover buffer <:+ buffer := by
  induction buffer using cutter.drain_induction with
  | unfinished buffer unfinished => exact ⟨[], cutter.leftover_of_cut_none unfinished⟩
  | cut buffer frame rest found ih =>
      rw [cutter.leftover_of_cut_some found]
      exact ih.trans (isSuffix found)

/-- Later input only reaches the unfinished rest. -/
theorem drain_append (buffer more : List α) :
    cutter.drain (buffer ++ more) =
      (cutter.frames buffer ++ cutter.frames (cutter.leftover buffer ++ more),
        cutter.leftover (cutter.leftover buffer ++ more)) := by
  induction buffer using cutter.drain_induction with
  | unfinished buffer unfinished =>
      rw [cutter.frames_of_cut_none unfinished, cutter.leftover_of_cut_none unfinished]
      rfl
  | cut buffer frame rest found ih =>
      rw [cutter.drain_of_cut_some (cutter.stable found more), frames, leftover, ih,
        cutter.frames_of_cut_some found, cutter.leftover_of_cut_some found]
      rfl

theorem frames_append (buffer more : List α) :
    cutter.frames (buffer ++ more) =
      cutter.frames buffer ++ cutter.frames (cutter.leftover buffer ++ more) := by
  rw [frames, drain_append]

theorem leftover_append (buffer more : List α) :
    cutter.leftover (buffer ++ more) =
      cutter.leftover (cutter.leftover buffer ++ more) := by
  rw [leftover, drain_append]

/-! ## A bounded buffer

A receiver that gives up when too much is left over after a chunk. -/

/-- After some chunk more than `cap` is left over. -/
def Overflows (cap : Nat) (chunks : List (List α)) : Prop :=
  ∃ before chunk, before ++ [chunk] <+: chunks ∧
    cap < (cutter.leftover (before ++ [chunk]).flatten).length

theorem not_overflows_nil (cap : Nat) : ¬ cutter.Overflows cap [] := by
  rintro ⟨before, chunk, isPrefix, -⟩
  simp at isPrefix

theorem overflows_concat {cap : Nat} (chunks : List (List α)) (last : List α) :
    cutter.Overflows cap (chunks ++ [last]) ↔
      cutter.Overflows cap chunks ∨
        cap < (cutter.leftover (chunks ++ [last]).flatten).length := by
  constructor
  · rintro ⟨before, chunk, isPrefix, long⟩
    rcases List.prefix_concat_iff.mp isPrefix with same | earlier
    · rw [same] at long
      exact .inr long
    · exact .inl ⟨before, chunk, earlier, long⟩
  · rintro (⟨before, chunk, isPrefix, long⟩ | long)
    · exact ⟨before, chunk, isPrefix.trans (List.prefix_append _ _), long⟩
    · exact ⟨chunks, last, List.prefix_rfl, long⟩

/-- The chunking of a stream does not matter exactly when no start of it leaves too much
over, or all of it does. -/
theorem overflows_alike_iff (cap : Nat) (stream : List α) :
    (∀ chunks others, chunks.flatten = stream → others.flatten = stream →
        (cutter.Overflows cap chunks ↔ cutter.Overflows cap others)) ↔
      (∀ start, start <+: stream → (cutter.leftover start).length ≤ cap) ∨
        cap < (cutter.leftover stream).length := by
  constructor
  · intro alike
    by_contra neither
    rw [not_or, not_forall] at neither
    rcases neither with ⟨⟨start, long⟩, short⟩
    rw [Classical.not_imp] at long
    rcases long with ⟨⟨rest, rfl⟩, long⟩
    -- Cut after the start, the stream overflows; as one chunk it does not.
    have cutThere := alike [start, rest] [start ++ rest] (by simp) (by simp)
    have overflows : cutter.Overflows cap [start, rest] :=
      ⟨[], start, ⟨[rest], rfl⟩, by simpa using long⟩
    rcases (cutter.overflows_concat [] _).mp (cutThere.mp overflows) with none | whole
    · exact cutter.not_overflows_nil cap none
    · exact short (by simpa using whole)
  · rintro (neverLong | long) chunks others rfl sameStream
    · have never : ∀ list : List (List α), list.flatten = chunks.flatten →
          ¬ cutter.Overflows cap list := by
        rintro list same ⟨before, chunk, ⟨after, rfl⟩, long⟩
        have bounded := neverLong (before ++ [chunk]).flatten
          ⟨after.flatten, List.flatten_append.symm.trans same⟩
        omega
      exact iff_of_false (never _ rfl) (never _ sameStream)
    · have always : ∀ list : List (List α), list.flatten = chunks.flatten →
          cutter.Overflows cap list := by
        intro list same
        cases list using List.reverseRecOn with
        | nil =>
            have shrinks := cutter.leftover_length_le chunks.flatten
            rw [← same, List.flatten_nil, List.length_nil] at shrinks
            rw [← same, List.flatten_nil] at long
            omega
        | append_singleton before chunk =>
            rw [← same] at long
            exact (cutter.overflows_concat before chunk).mpr (.inr long)
      exact iff_of_true (always _ rfl) (always _ sameStream)

end Cutter

end Framing
