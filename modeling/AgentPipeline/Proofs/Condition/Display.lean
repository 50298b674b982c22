import AgentPipeline.Proofs.Condition.Complement
import AgentPipeline.Proofs.Decimal.Printing

/-!
# Conditions written out

A condition is written as its field, its operator and its threshold, with one blank between them.
The threshold is written with the fewest digits that are read as it, positionally whatever its
magnitude and without an exponent, which the grammar does not know.  So a condition is read back
from its text as long as its threshold is finite.  A number of too many digits is accepted as an
infinite threshold, though, and this is written as a word, which is no number of the grammar.

## Main results

* `isNumber_plain` — a finite double is written as a number of the grammar.
* `Condition.parse_display` — a condition with a finite threshold is read back.
* `Condition.reads_back_iff` — **an accepted condition is read back from its text exactly if its
  threshold is finite**, and otherwise its text is refused.
-/

namespace AgentPipeline

open Decimal Text

/-! ### Thresholds as numbers of the grammar -/

theorem isDecimalDigit_of_isDigit {c : Char} (hc : c.isDigit = true) : isDecimalDigit c = true := by
  have hcode := hc
  rw [isDigit_eq_decide, decide_eq_true_eq] at hcode
  rw [isDecimalDigit, if_pos (by omega)]
  exact hc

/-- Digits with a point are an unsigned number. -/
theorem isUnsigned_of_spells {s whole fraction : List Char} {v : ℚ}
    (h : Spells s whole fraction v) : IsUnsigned s := by
  have hwhole : IsDigits whole :=
    ⟨h.ne_nil, fun c hc => isDecimalDigit_of_isDigit (h.isDigit_whole c hc)⟩
  rw [h.text]
  split
  · rw [List.append_nil]
    exact .whole hwhole
  · exact .point hwhole fun c hc => isDecimalDigit_of_isDigit (h.isDigit_fraction c hc)

theorem isNumber_signed {s : List Char} (hs : IsUnsigned s) (negative : Bool) :
    IsNumber (signed negative s) := by
  cases negative with
  | false => exact ⟨[], s, rfl, Or.inl rfl, hs⟩
  | true => exact ⟨['-'], s, rfl, Or.inr (Or.inr rfl), hs⟩

/-- **A finite double is written as a number of the grammar.** -/
theorem isNumber_plain {x : Float} (hx : x.isFinite = true) : IsNumber (plain x).toList := by
  obtain ⟨negative, m, j, h⟩ := exists_consists hx
  obtain ⟨whole, fraction, hspells⟩ := (shortest m (Layout.double.leastExponent + j)
    (m == 2 ^ 52 && j != 0)).exists_spells
  rw [plain, h.ofFloat_eq, String.toList_ofList]
  exact isNumber_signed (isUnsigned_of_spells hspells) negative

/-- An infinite double is written as a word. -/
theorem plain_of_infinite {x : Float} (hinf : ¬ x.isFinite = true) (hnan : x.isNaN = false) :
    ∃ negative, (plain x).toList = signed negative "inf".toList := by
  rcases cases_of_not_isFinite hinf with ⟨hunpack, -⟩ | ⟨negative, -, hparts⟩
  · have hnan' : x.toModel.unpack.isNaN = false := hnan
    rw [hunpack] at hnan'
    cases hnan'
  · refine ⟨negative, ?_⟩
    rw [plain, hparts, String.toList_ofList]
    rfl

/-! ### The text of a condition -/

namespace Condition

theorem toList_display (c : Condition) :
    c.display.toList = c.field.toList ++ (' ' :: (c.op.symbol.toList ++
      (' ' :: (plain c.threshold).toList))) := by
  simp [display]

/-- The field and the operator are taken from the front of a text in which one blank stands before
and one behind the operator. -/
theorem splitCondition?_spaced {field value : List Char} (op : Comparator) (hfield : IsField field)
    (hvalue : Solid value) :
    splitCondition? (field ++ (' ' :: (op.symbol.toList ++ (' ' :: value)))) =
      (splitNumber? value).bind fun number =>
        if allBlank number.2 then some ⟨field, op, number.1⟩ else none := by
  have hblank : allBlank [' '] = true := by decide
  have hbehindField : StartsOutside isFieldChar (' ' :: (op.symbol.toList ++ (' ' :: value))) := by
    rintro _ ⟨rfl⟩
    decide
  have hbehindOp : StartsOutside (· == '=') (' ' :: value) := by
    rintro _ ⟨rfl⟩
    decide
  have hfront := trimStart_append (a := []) rfl
    (hfield.solid.append (' ' :: (op.symbol.toList ++ (' ' :: value))))
  have hop := trimStart_append hblank (op.solid_symbol.append (' ' :: value))
  have hnumber := trimStart_append hblank hvalue
  rw [List.nil_append] at hfront
  rw [List.singleton_append] at hop hnumber
  simp only [splitCondition?, hfront, splitField?_append hfield hbehindField, hop,
    op.split?_append hbehindOp, hnumber, Option.bind_eq_bind, Option.bind_some]

section Parsed

variable {text : List Char} {c : Condition} (h : parse text = .ok c)
include h

theorem isField_of_parse : IsField c.field.toList := by
  obtain ⟨parts, hsplit, t, -, rfl⟩ := parse_eq_ok_iff.mp h
  obtain ⟨x, -, rfl⟩ := exists_text_of_splitCondition? hsplit
  rw [String.toList_ofList]
  exact x.isField

/-- **A condition with a finite threshold is read back from its text.** -/
theorem parse_display (hfinite : c.threshold.isFinite = true) :
    parse c.display.toList = .ok c := by
  have hnumber := isNumber_plain hfinite
  have hsplit : splitNumber? (plain c.threshold).toList =
      some ((plain c.threshold).toList, []) := by
    have hnil : StartsOutside isNumeral [] := nofun
    have hall := splitNumber?_append hnumber hnil
    rwa [List.append_nil] at hall
  refine parse_eq_ok_iff.mpr ⟨⟨c.field.toList, c.op, (plain c.threshold).toList⟩, ?_,
    c.threshold, read?_plain hfinite, ?_⟩
  · rw [toList_display, splitCondition?_spaced c.op (isField_of_parse h) hnumber.solid, hsplit]
    rfl
  · rw [String.ofList_toList]

/-- The text of a condition with an infinite threshold is refused. -/
theorem parse_display_of_infinite (hinf : ¬ c.threshold.isFinite = true) :
    parse c.display.toList = .error (.invalidCondition c.display) := by
  obtain ⟨negative, hplain⟩ := plain_of_infinite hinf (isNaN_of_isThreshold ⟨text, c, h, rfl⟩)
  have hsolid : Solid (plain c.threshold).toList := by
    rw [hplain]
    cases negative <;> exact ⟨_, _, rfl, by decide⟩
  have hnone : splitNumber? (plain c.threshold).toList = none := by
    rw [hplain]
    cases negative <;> decide
  have hsplit : splitCondition? c.display.toList = none := by
    rw [toList_display, splitCondition?_spaced c.op (isField_of_parse h) hsolid, hnone]
    rfl
  rw [parse, hsplit, String.ofList_toList]

/-- **An accepted condition is read back from its text exactly if its threshold is finite.**
Otherwise its text is refused. -/
theorem reads_back_iff :
    (parse c.display.toList = .ok c ↔ c.threshold.isFinite = true) ∧
      (¬ c.threshold.isFinite = true →
        parse c.display.toList = .error (.invalidCondition c.display)) := by
  have hinfinite := parse_display_of_infinite h
  refine ⟨⟨fun hback => ?_, parse_display h⟩, hinfinite⟩
  by_contra hinf
  rw [hinfinite hinf] at hback
  cases hback

end Parsed

/-- A sign, zeros at both ends and the missing blanks are not kept, but the condition is. -/
theorem reads_back_iff_tenth :
    parse "score>-00.10".toList = .ok ⟨"score", .gt, -0.1⟩ ∧
      (⟨"score", .gt, -0.1⟩ : Condition).display = "score > -0.1" ∧
      parse "score > -0.1".toList = .ok ⟨"score", .gt, -0.1⟩ := by
  have hparse : parse "score>-00.10".toList = .ok ⟨"score", .gt, -0.1⟩ := by decide +kernel
  have hdisplay : (⟨"score", .gt, -0.1⟩ : Condition).display = "score > -0.1" := by decide +kernel
  refine ⟨hparse, hdisplay, ?_⟩
  have hback := (reads_back_iff hparse).1.mpr (by decide +kernel)
  rwa [hdisplay] at hback

end Condition

/-- A one with 400 zeros is accepted as a threshold, but what is written for it is refused. -/
theorem huge_threshold_fails_to_read_back :
    Condition.parse ("x > 1".toList ++ zeros 400) = .ok ⟨"x", .gt, 1 / 0⟩ ∧
      (⟨"x", .gt, 1 / 0⟩ : Condition).display = "x > inf" ∧
      Condition.parse "x > inf".toList = .error (.invalidCondition "x > inf") := by
  refine ⟨by decide +kernel, by decide +kernel, by decide +kernel⟩

end AgentPipeline
