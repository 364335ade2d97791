import Mathlib.Data.List.Forall2
import Mathlib.Data.List.Induction
import Mathlib.Data.List.Nodup

/-!
# Loops that return early

A loop that checks entries one after the other, each against what it has accumulated
from those before it, and returns at the first error.  What is wrong with an entry is
stated without the accumulator, as a fault of the entry among the entries before it.
-/

universe u v w x

namespace EarlyReturn

variable {α : Type u} {β : Type v} {ε : Type w} {γ : Type x}

def loop (step : γ → α → Except ε (γ × β)) (state : γ) : List α → Except ε (List β)
  | [] => .ok []
  | entry :: entries =>
      match step state entry with
      | .error error => .error error
      | .ok (next, value) => (loop step next entries).map (value :: ·)

/-- No entry has a fault. -/
def NoFault (fault : List α → α → ε → Prop) (entries : List α) : Prop :=
  ∀ before entry after, entries = before ++ entry :: after → ∀ error, ¬ fault before entry error

/-- An error that describes a fault of the first entry that has one. -/
def FirstFault (fault : List α → α → ε → Prop) (entries : List α) (error : ε) : Prop :=
  ∃ before entry after, entries = before ++ entry :: after ∧ NoFault fault before ∧
    fault before entry error

variable {fault : List α → α → ε → Prop}

theorem noFault_nil : NoFault fault [] := by
  intro before entry after split
  simp at split

theorem noFault_concat {entries : List α} {last : α} :
    NoFault fault (entries ++ [last]) ↔
      NoFault fault entries ∧ ∀ error, ¬ fault entries last error := by
  constructor
  · intro clean
    constructor
    · intro before entry after split
      apply clean before entry (after ++ [last])
      rw [split, List.append_assoc, List.cons_append]
    · exact clean entries last [] rfl
  · rintro ⟨clean, lastClean⟩ before entry after split
    rcases List.eq_nil_or_concat after with rfl | ⟨init, final, rfl⟩
    · rcases List.append_inj' split rfl with ⟨rfl, same⟩
      cases same
      exact lastClean
    · rw [List.concat_eq_append, ← List.cons_append, ← List.append_assoc] at split
      rcases List.append_inj' split rfl with ⟨rfl, -⟩
      exact clean before entry init rfl

theorem NoFault.not_firstFault {entries : List α} (clean : NoFault fault entries) (error : ε) :
    ¬ FirstFault fault entries error := by
  rintro ⟨before, entry, after, split, -, faulty⟩
  exact clean before entry after split error faulty

theorem NoFault.of_mem {entries : List α} (clean : NoFault fault entries) {entry : α}
    (membership : entry ∈ entries) : ∃ before, ∀ error, ¬ fault before entry error := by
  rcases List.append_of_mem membership with ⟨before, after, split⟩
  exact ⟨before, clean before entry after split⟩

/-- Where repeating an earlier key is a fault, keys are distinct. -/
theorem NoFault.nodup {κ : Type*} {key : α → κ}
    (repeated : ∀ before entry, key entry ∈ before.map key → ∃ error, fault before entry error)
    {entries : List α} (clean : NoFault fault entries) : (entries.map key).Nodup := by
  induction entries using List.reverseRecOn with
  | nil => exact List.nodup_nil
  | append_singleton entries last ih =>
      rcases noFault_concat.mp clean with ⟨earlier, lastClean⟩
      rw [List.map_append, List.map_singleton]
      apply List.Nodup.append (ih earlier) (List.nodup_singleton _)
      intro name before same
      cases List.mem_singleton.mp same
      rcases repeated entries last before with ⟨error, faulty⟩
      exact lastClean error faulty

/-- A step checks for faults: it fails on an entry that has one, with an error that
describes it, and its accumulator stands for the entries seen. -/
structure Checks (step : γ → α → Except ε (γ × β)) (fault : List α → α → ε → Prop)
    (result : α → β → Prop) (seen : List α → γ → Prop) : Prop where
  error : ∀ {earlier state entry error}, seen earlier state →
    step state entry = .error error → fault earlier entry error
  ok : ∀ {earlier state entry next value}, seen earlier state →
    step state entry = .ok (next, value) →
      (∀ error, ¬ fault earlier entry error) ∧ result entry value ∧
        seen (earlier ++ [entry]) next

/-- The loop fails at the first fault, and without one it has a result for each entry. -/
theorem loop_spec {step : γ → α → Except ε (γ × β)} {result : α → β → Prop}
    {seen : List α → γ → Prop} (checks : Checks step fault result seen) {earlier : List α}
    {state : γ} (known : seen earlier state) (clean : NoFault fault earlier) (entries : List α) :
    (∀ error, loop step state entries = .error error →
        FirstFault fault (earlier ++ entries) error) ∧
      ∀ values, loop step state entries = .ok values →
        NoFault fault (earlier ++ entries) ∧ List.Forall₂ result entries values := by
  induction entries generalizing earlier state with
  | nil =>
      constructor
      · intro error failed
        cases failed
      · intro values succeeded
        cases succeeded
        rw [List.append_nil]
        exact ⟨clean, .nil⟩
  | cons entry entries ih =>
      cases stepped : step state entry with
      | error error =>
          constructor
          · intro failure failed
            simp only [loop, stepped, Except.error.injEq] at failed
            subst failed
            exact ⟨earlier, entry, entries, rfl, clean, checks.error known stepped⟩
          · intro values succeeded
            simp [loop, stepped] at succeeded
      | ok stepResult =>
          rcases stepResult with ⟨next, value⟩
          rcases checks.ok known stepped with ⟨entryClean, resolved, nextKnown⟩
          rcases ih nextKnown (noFault_concat.mpr ⟨clean, entryClean⟩) with ⟨failing, succeeding⟩
          rw [List.append_assoc, List.singleton_append] at failing succeeding
          constructor
          · intro error failed
            simp only [loop, stepped] at failed
            cases rest : loop step next entries with
            | error restError =>
                rw [rest] at failed
                cases failed
                exact failing _ rest
            | ok values =>
                rw [rest] at failed
                cases failed
          · intro values succeeded
            simp only [loop, stepped] at succeeded
            cases rest : loop step next entries with
            | error restError =>
                rw [rest] at succeeded
                cases succeeded
            | ok restValues =>
                rw [rest] at succeeded
                cases succeeded
                rcases succeeding restValues rest with ⟨allClean, results⟩
                exact ⟨allClean, .cons resolved results⟩

end EarlyReturn
