import AgentPipeline.Text.Basic
import AgentPipeline.Text.Word

/-!
# Splitting a text where a class of characters ends

A run of characters of one class can be split off a text, and put back in front of what is left.
It is the whole run if what is left does not begin with a character of the class.  Runs of blanks are
passed over in that way, and neither a letter or digit of ASCII nor a decimal digit is a blank.

## Main definitions

* `StartsOutside` — a text does not begin with a character of a class.
* `Solid` — a text begins with a character that is not blank.

## Main results

* `takeWhile_append_of_startsOutside`, `dropWhile_append_of_startsOutside` — a run in front of a text
  is split off.
* `trimStart_append` — blanks in front of a text are passed over.
* `isDecimalDigit_of_isBlank` — **a decimal digit is not a blank.**
-/

namespace AgentPipeline.Text

variable {p : Char → Bool} {a b r s t : List Char} {c : Char}

/-- A text does not begin with a character of a class. -/
def StartsOutside (p : Char → Bool) (s : List Char) : Prop :=
  ∀ c ∈ s.head?, p c = false

/-! ### Runs -/

theorem takeWhile_append_of_startsOutside (hall : ∀ c ∈ a, p c = true) (hr : StartsOutside p r) :
    (a ++ r).takeWhile p = a := by
  rw [List.takeWhile_append_of_pos hall]
  cases r with
  | nil => exact List.append_nil a
  | cons c r => rw [List.takeWhile_cons_of_neg (by rw [hr c rfl]; exact Bool.false_ne_true),
      List.append_nil]

theorem dropWhile_append_of_startsOutside (hall : ∀ c ∈ a, p c = true) (hr : StartsOutside p r) :
    (a ++ r).dropWhile p = r := by
  rw [List.dropWhile_append_of_pos hall]
  cases r with
  | nil => rfl
  | cons c r => exact List.dropWhile_cons_of_neg (by rw [hr c rfl]; exact Bool.false_ne_true)

/-! ### Blanks -/

/-- A text begins with a character that is not blank. -/
def Solid (s : List Char) : Prop :=
  ∃ c rest, s = c :: rest ∧ isBlank c = false

theorem Solid.append (hs : Solid s) (t : List Char) : Solid (s ++ t) := by
  obtain ⟨c, rest, rfl, hc⟩ := hs
  exact ⟨c, rest ++ t, rfl, hc⟩

theorem Solid.startsOutside (hs : Solid s) : StartsOutside isBlank s := by
  obtain ⟨c, rest, rfl, hc⟩ := hs
  rintro _ ⟨rfl⟩
  exact hc

/-- Blanks in front of a text are passed over. -/
theorem trimStart_append (ha : allBlank a = true) (hs : Solid s) : trimStart (a ++ s) = s :=
  dropWhile_append_of_startsOutside (List.all_eq_true.mp ha) hs.startsOutside

/-- Blanks in front of a text do not let it begin with a character of a class without blanks. -/
theorem startsOutside_blanks_append (ha : allBlank a = true)
    (hp : ∀ c, isBlank c = true → p c = false) (hs : StartsOutside p s) :
    StartsOutside p (a ++ s) := by
  cases a with
  | nil => exact hs
  | cons b a =>
    rintro _ ⟨rfl⟩
    exact hp b (List.all_eq_true.mp ha b List.mem_cons_self)

/-- Any text is a row of blanks and what is left when they are passed over. -/
theorem exists_blanks (s : List Char) : ∃ blanks, allBlank blanks = true ∧ s = blanks ++ trimStart s :=
  ⟨s.takeWhile isBlank, List.all_takeWhile, List.takeWhile_append_dropWhile.symm⟩

/-- Rows of blanks in front of texts that begin with other characters can be told apart from them. -/
theorem blanks_append_inj (ha : allBlank a = true) (hb : allBlank b = true) (hs : Solid s)
    (ht : Solid t) (heq : a ++ s = b ++ t) : a = b ∧ s = t := by
  have hst : s = t := by rw [← trimStart_append ha hs, heq, trimStart_append hb ht]
  subst hst
  exact ⟨List.append_cancel_right heq, rfl⟩

/-- The code points of the blanks. -/
def blankCodes : List Nat :=
  List.range' 0x9 5 ++ [0x20, 0x85, 0xA0, 0x1680] ++ List.range' 0x2000 11 ++
    [0x2028, 0x2029, 0x202F, 0x205F, 0x3000]

theorem toNat_mem_blankCodes (hc : isBlank c = true) : c.toNat ∈ blankCodes := by
  simp only [isBlank, Bool.or_eq_true, Bool.and_eq_true, decide_eq_true_eq, beq_iff_eq] at hc
  simp only [blankCodes, List.mem_append, List.mem_range'_1, List.mem_cons, List.not_mem_nil]
  omega

theorem isDigit_eq_decide (c : Char) : c.isDigit = decide (0x30 ≤ c.toNat ∧ c.toNat ≤ 0x39) := by
  rw [Char.isDigit, Bool.eq_iff_iff, Bool.and_eq_true, decide_eq_true_eq, decide_eq_true_eq,
    decide_eq_true_eq]
  exact Iff.rfl

/-- A decimal digit is not a blank. -/
theorem isDecimalDigit_of_isBlank (hc : isBlank c = true) : isDecimalDigit c = false := by
  have hcodes : ∀ n ∈ blankCodes,
      (if n < 128 then decide (0x30 ≤ n ∧ n ≤ 0x39) else inRanges digitRanges n) = false := by
    decide +kernel
  rw [isDecimalDigit, isDigit_eq_decide]
  exact hcodes c.toNat (toNat_mem_blankCodes hc)

end AgentPipeline.Text
