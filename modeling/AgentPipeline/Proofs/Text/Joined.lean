import AgentPipeline.Proofs.Text.Occurrence
import AgentPipeline.Text.Basic
import Mathlib.Algebra.Order.BigOperators.Group.List
import Mathlib.Algebra.Order.Ring.Nat

/-!
# Texts joined by blanks

A blank ends a word.  So a text that is made of others, with blanks between them, has just the words
of its parts; and a word without blanks is found in it only where it is found in one of the parts.

## Main results

* `wordCount_intercalate` — **joined texts have the words of their parts.**
* `occurs_intercalate` — **a word without blanks is found in one of the parts.**
* `lower_intercalate` — small letters are put part by part.
-/

namespace AgentPipeline.Text

/-! ### Counting words -/

/-- The words of a text depend on what follows only through the words that begin there. -/
theorem wordsStarting_append_congr {s t w : List Char}
    (h : ∀ inWord, wordsStarting inWord s = wordsStarting inWord t) :
    ∀ inWord, wordsStarting inWord (w ++ s) = wordsStarting inWord (w ++ t) := by
  induction w with
  | nil => exact h
  | cons c w ih =>
    intro inWord
    simp [wordsStarting, ih]

/-- A blank ends the word before it, whatever comes before that. -/
theorem wordsStarting_append_blank {c : Char} (hc : isBlank c = true) (s t : List Char) :
    ∀ inWord, wordsStarting inWord (s ++ c :: t) = wordsStarting inWord s + wordCount t := by
  induction s with
  | nil =>
    intro inWord
    simp [wordsStarting, hc, wordCount]
  | cons d s ih =>
    intro inWord
    simp only [List.cons_append, wordsStarting, ih]
    split
    · rfl
    · exact (Nat.add_assoc _ _ _).symm

theorem wordCount_append_blank {c : Char} (hc : isBlank c = true) (s t : List Char) :
    wordCount (s ++ c :: t) = wordCount s + wordCount t :=
  wordsStarting_append_blank hc s t false

/-- Joined texts have the words of their parts. -/
theorem wordCount_intercalate (parts : List (List Char)) :
    wordCount ([' '].intercalate parts) = (parts.map wordCount).sum := by
  induction parts with
  | nil => rfl
  | cons s parts ih =>
    cases parts with
    | nil => simp
    | cons t parts =>
      rw [List.intercalate_cons_cons, List.append_assoc, List.singleton_append,
        wordCount_append_blank (by decide), ih, ← List.sum_cons, ← List.map_cons]

/-- Where parts are left out, words may be missing but none are made. -/
theorem wordCount_intercalate_le {parts all : List (List Char)} (h : parts.Sublist all) :
    wordCount ([' '].intercalate parts) ≤ wordCount ([' '].intercalate all) := by
  rw [wordCount_intercalate, wordCount_intercalate]
  exact (h.map wordCount).sum_le_sum fun n _ => Nat.zero_le n

/-! ### Finding words -/

/-- A word without blanks is found in joined texts just where it is found in one of the parts. -/
theorem occurs_intercalate {w : List Char} (hne : w ≠ []) (hblank : ' ' ∉ w)
    (parts : List (List Char)) :
    occurs w ([' '].intercalate parts) = parts.any (occurs w) := by
  induction parts with
  | nil => simpa [occurs] using hne
  | cons s parts ih =>
    cases parts with
    | nil => simp
    | cons t parts =>
      rw [List.intercalate_cons_cons, List.append_assoc, List.singleton_append,
        occurs_append_cons hblank, ih, ← List.any_cons]

/-- Where parts are left out, words may be missing but none are made. -/
theorem occurs_intercalate_mono {w : List Char} (hne : w ≠ []) (hblank : ' ' ∉ w)
    {parts all : List (List Char)} (h : parts.Sublist all)
    (hw : occurs w ([' '].intercalate parts) = true) :
    occurs w ([' '].intercalate all) = true := by
  rw [occurs_intercalate hne hblank, List.any_eq_true] at hw ⊢
  obtain ⟨s, hs, hw⟩ := hw
  exact ⟨s, h.subset hs, hw⟩

/-! ### Small letters -/

theorem lower_cons_of_eq {c : Char} (hc : lowerChar c = [c]) (s : List Char) :
    lower (c :: s) = c :: lower s := by
  rw [lower, List.flatMap_cons, hc]
  rfl

/-- A blank has no other form, so small letters are put part by part. -/
theorem lower_intercalate (parts : List (List Char)) :
    lower ([' '].intercalate parts) = [' '].intercalate (parts.map lower) := by
  induction parts with
  | nil => rfl
  | cons s parts ih =>
    cases parts with
    | nil => simp
    | cons t parts =>
      rw [List.intercalate_cons_cons, lower_append, lower_append, ih]
      simp only [List.map_cons, List.intercalate_cons_cons]
      rfl

end AgentPipeline.Text
