import AgentPipeline.Condition.Basic
import AgentPipeline.Design.Format
import AgentPipeline.Proofs.Text.Splitting

/-!
# What counts as a condition

A condition is written as a field, an operator and a number, with any blanks around each of them.
The reader takes the longest field and the longest number and prefers the longer one of two
operators, so it never has to go back: no field goes on with an operator or a blank, no number begins
with an equals sign, and behind the number there is nothing but blanks.  For the same reason a text
can be written in one way only.

## Main definitions

* `IsField`, `IsUnsigned`, `IsNumber` — how fields and numbers are written.
* `WrittenCondition` — the parts of a condition with the blanks around them; `WrittenCondition.text`
  is how it is written.

## Main results

* `WrittenCondition.splitCondition?_text` — a written condition is taken apart.
* `exists_text_of_splitCondition?` — whatever is taken apart is a written condition.
* `accepts_written_conditions` — **exactly the written conditions are accepted**, each of them can
  be read in one way only, and any other text is a defect.
-/

namespace AgentPipeline

open Text

variable {a r s : List Char} {c : Char}

/-! ### Fields -/

/-- A letter of ASCII or an underscore. -/
def IsFirst (c : Char) : Prop :=
  ('A' ≤ c ∧ c ≤ 'Z') ∨ ('a' ≤ c ∧ c ≤ 'z') ∨ c = '_'

/-- A field is an ASCII identifier. -/
def IsField (s : List Char) : Prop :=
  ∃ c rest, s = c :: rest ∧ IsFirst c ∧ ∀ d ∈ rest, IsFirst d ∨ ('0' ≤ d ∧ d ≤ '9')

theorem isFieldStart_eq_true_iff : isFieldStart c = true ↔ IsFirst c := by
  have hupper : c.isUpper = true ↔ 'A' ≤ c ∧ c ≤ 'Z' := decide_eq_true_iff
  have hlower : c.isLower = true ↔ 'a' ≤ c ∧ c ≤ 'z' :=
    Bool.and_eq_true_iff.trans (and_congr decide_eq_true_iff decide_eq_true_iff)
  have halpha : c.isAlpha = true ↔ c.isUpper = true ∨ c.isLower = true := Bool.or_eq_true_iff
  rw [isFieldStart, Bool.or_eq_true, halpha, hupper, hlower, beq_iff_eq, or_assoc, IsFirst]

theorem isFieldChar_eq_true_iff :
    isFieldChar c = true ↔ IsFirst c ∨ ('0' ≤ c ∧ c ≤ '9') := by
  have hdigit : c.isDigit = true ↔ '0' ≤ c ∧ c ≤ '9' :=
    Bool.and_eq_true_iff.trans (and_congr decide_eq_true_iff decide_eq_true_iff)
  have halphanum : c.isAlphanum = true ↔ c.isAlpha = true ∨ c.isDigit = true :=
    Bool.or_eq_true_iff
  rw [← isFieldStart_eq_true_iff, isFieldStart, isFieldChar, Bool.or_eq_true, Bool.or_eq_true,
    halphanum, hdigit, or_right_comm]

/-- No blank belongs to a field. -/
theorem isFieldChar_of_isBlank (hc : isBlank c = true) : isFieldChar c = false := by
  have hcodes : ∀ n ∈ blankCodes, isFieldChar (Char.ofNat n) = false := by decide
  rw [← Char.ofNat_toNat c]
  exact hcodes c.toNat (toNat_mem_blankCodes hc)

theorem IsField.solid (hs : IsField s) : Solid s := by
  obtain ⟨c, rest, rfl, hc, -⟩ := hs
  refine ⟨c, rest, rfl, Bool.eq_false_iff.mpr fun hblank => ?_⟩
  have hfield : isFieldChar c = true := isFieldChar_eq_true_iff.mpr (.inl hc)
  exact Bool.false_ne_true ((isFieldChar_of_isBlank hblank).symm.trans hfield)

/-- A field is split off a text that does not go on with it. -/
theorem splitField?_append (hs : IsField s) (hr : StartsOutside isFieldChar r) :
    splitField? (s ++ r) = some (s, r) := by
  obtain ⟨c, rest, rfl, hc, hrest⟩ := hs
  have hall : ∀ d ∈ rest, isFieldChar d = true := fun d hd =>
    isFieldChar_eq_true_iff.mpr (hrest d hd)
  simp only [splitField?, List.cons_append, isFieldStart_eq_true_iff.mpr hc,
    takeWhile_append_of_startsOutside hall hr, dropWhile_append_of_startsOutside hall hr, if_true]

/-- What is split off is a field. -/
theorem of_splitField? (h : splitField? s = some (a, r)) : IsField a ∧ s = a ++ r := by
  cases s with
  | nil => cases h
  | cons c s =>
    simp only [splitField?] at h
    split at h
    · next hc =>
      cases h
      refine ⟨⟨c, _, rfl, isFieldStart_eq_true_iff.mp hc, fun d hd => ?_⟩, ?_⟩
      · exact isFieldChar_eq_true_iff.mp (List.all_eq_true.mp List.all_takeWhile d hd)
      · rw [List.cons_append, List.takeWhile_append_dropWhile]
    · cases h

/-! ### Operators -/

theorem Comparator.solid_symbol (op : Comparator) : Solid op.symbol.toList := by
  cases op <;> exact ⟨_, _, rfl, by decide⟩

theorem Comparator.startsOutside_symbol_append (op : Comparator) (r : List Char) :
    StartsOutside isFieldChar (op.symbol.toList ++ r) := by
  cases op <;> rintro _ ⟨rfl⟩ <;> decide

/-- An operator is split off a text that does not make it a longer one. -/
theorem Comparator.split?_append (op : Comparator) (hr : StartsOutside (· == '=') r) :
    Comparator.split? (op.symbol.toList ++ r) = some (op, r) := by
  cases r with
  | nil => cases op <;> rfl
  | cons c r =>
    have hc : c ≠ '=' := by simpa using hr c rfl
    cases op <;> simp [Comparator.symbol, Comparator.split?, hc]

/-- What is split off is an operator. -/
theorem Comparator.of_split? {op : Comparator} (h : Comparator.split? s = some (op, r)) :
    s = op.symbol.toList ++ r := by
  simp only [Comparator.split?] at h
  split at h <;> cases h <;> rfl

/-! ### Numbers -/

/-- A row of decimal digits of any script. -/
def IsDigits (s : List Char) : Prop :=
  s ≠ [] ∧ ∀ c ∈ s, isDecimalDigit c = true

/-- A number without a sign: digits, digits with a point and further digits if any, or a point and
digits. -/
inductive IsUnsigned : List Char → Prop
  | whole {digits : List Char} (h : IsDigits digits) : IsUnsigned digits
  | point {digits further : List Char} (h : IsDigits digits)
      (hfurther : ∀ c ∈ further, isDecimalDigit c = true) : IsUnsigned (digits ++ '.' :: further)
  | fraction {digits : List Char} (h : IsDigits digits) : IsUnsigned ('.' :: digits)

/-- An optional sign. -/
def IsSign (s : List Char) : Prop :=
  s = [] ∨ s = ['+'] ∨ s = ['-']

/-- A number: an optional sign and an unsigned number. -/
def IsNumber (s : List Char) : Prop :=
  ∃ sign number, s = sign ++ number ∧ IsSign sign ∧ IsUnsigned number

/-- The characters with which an unsigned number may go on. -/
def isNumeral (c : Char) : Bool :=
  isDecimalDigit c || c == '.'

theorem isNumeral_of_isBlank (hc : isBlank c = true) : isNumeral c = false := by
  have hpoint : c ≠ '.' := by
    rintro rfl
    exact absurd hc (by decide)
  rw [isNumeral, isDecimalDigit_of_isBlank hc, Bool.false_or, beq_eq_false_iff_ne]
  exact hpoint

/-- An unsigned number begins with a digit or a point. -/
theorem IsUnsigned.exists_cons (hs : IsUnsigned s) :
    ∃ c rest, s = c :: rest ∧ isNumeral c = true := by
  have hdigits : ∀ {digits : List Char}, IsDigits digits →
      ∃ c rest, digits = c :: rest ∧ isNumeral c = true := by
    rintro digits ⟨hne, hall⟩
    obtain ⟨c, rest, rfl⟩ := List.exists_cons_of_ne_nil hne
    exact ⟨c, rest, rfl, by rw [isNumeral, hall c List.mem_cons_self, Bool.true_or]⟩
  cases hs with
  | whole h => exact hdigits h
  | point h _ =>
    obtain ⟨c, rest, rfl, hc⟩ := hdigits h
    exact ⟨c, rest ++ '.' :: _, rfl, hc⟩
  | fraction h => exact ⟨'.', _, rfl, by decide⟩

/-- A number begins with a sign, a digit or a point. -/
theorem IsNumber.exists_cons (hs : IsNumber s) :
    ∃ c rest, s = c :: rest ∧ (c = '+' ∨ c = '-' ∨ isNumeral c = true) := by
  obtain ⟨sign, number, rfl, rfl | rfl | rfl, hnumber⟩ := hs
  · obtain ⟨c, rest, rfl, hc⟩ := hnumber.exists_cons
    exact ⟨c, rest, rfl, .inr (.inr hc)⟩
  · exact ⟨'+', number, rfl, .inl rfl⟩
  · exact ⟨'-', number, rfl, .inr (.inl rfl)⟩

theorem IsNumber.solid (hs : IsNumber s) : Solid s := by
  obtain ⟨c, rest, rfl, hc⟩ := hs.exists_cons
  refine ⟨c, rest, rfl, Bool.eq_false_iff.mpr fun hblank => ?_⟩
  obtain rfl | rfl | hc := hc
  · exact absurd hblank (by decide)
  · exact absurd hblank (by decide)
  · exact Bool.false_ne_true ((isNumeral_of_isBlank hblank).symm.trans hc)

/-- No number begins with an equals sign, so that none makes the operator before it longer. -/
theorem IsNumber.startsOutside_append (hs : IsNumber s) (r : List Char) :
    StartsOutside (· == '=') (s ++ r) := by
  obtain ⟨c, rest, rfl, hc⟩ := hs.exists_cons
  rintro _ ⟨rfl⟩
  rw [beq_eq_false_iff_ne]
  rintro rfl
  revert hc
  decide

theorem startsOutside_isDecimalDigit (hr : StartsOutside isNumeral r) :
    StartsOutside isDecimalDigit r :=
  fun c hc => (Bool.or_eq_false_iff.mp (hr c hc)).1

/-- A number with a point is split off, whether there are digits before the point or not. -/
theorem splitUnsigned?_point {whole further : List Char}
    (hwhole : ∀ c ∈ whole, isDecimalDigit c = true)
    (hfurther : ∀ c ∈ further, isDecimalDigit c = true) (hsome : ¬(whole = [] ∧ further = []))
    (hr : StartsOutside isNumeral r) :
    splitUnsigned? (whole ++ '.' :: further ++ r) = some (whole ++ '.' :: further, r) := by
  have hstop : StartsOutside isDecimalDigit ('.' :: (further ++ r)) := by
    rintro _ ⟨rfl⟩
    decide
  have hdigit : StartsOutside isDecimalDigit r := startsOutside_isDecimalDigit hr
  rw [splitUnsigned?, List.append_assoc, List.cons_append,
    takeWhile_append_of_startsOutside hwhole hstop, dropWhile_append_of_startsOutside hwhole hstop]
  simp only [takeWhile_append_of_startsOutside hfurther hdigit,
    dropWhile_append_of_startsOutside hfurther hdigit, if_neg hsome]

/-- An unsigned number is split off a text that does not go on with it. -/
theorem splitUnsigned?_append (hs : IsUnsigned s) (hr : StartsOutside isNumeral r) :
    splitUnsigned? (s ++ r) = some (s, r) := by
  cases hs with
  | whole h =>
    have hdigit : StartsOutside isDecimalDigit r := startsOutside_isDecimalDigit hr
    rw [splitUnsigned?, takeWhile_append_of_startsOutside h.2 hdigit,
      dropWhile_append_of_startsOutside h.2 hdigit]
    split
    · exact absurd (hr '.' rfl) (by decide)
    · exact if_neg h.1
  | point h hfurther =>
    exact splitUnsigned?_point h.2 hfurther (fun hnone => h.1 hnone.1) hr
  | fraction h =>
    exact splitUnsigned?_point (List.forall_mem_nil _) h.2 (fun hnone => h.1 hnone.2) hr

/-- What is split off is an unsigned number. -/
theorem of_splitUnsigned? (h : splitUnsigned? s = some (a, r)) : IsUnsigned a ∧ s = a ++ r := by
  have htake : ∀ t : List Char, ∀ d ∈ t.takeWhile isDecimalDigit, isDecimalDigit d = true :=
    fun t => List.all_eq_true.mp List.all_takeWhile
  have hsplit : s.takeWhile isDecimalDigit ++ s.dropWhile isDecimalDigit = s :=
    List.takeWhile_append_dropWhile
  simp only [splitUnsigned?] at h
  split at h
  · next t ht =>
    split at h
    · cases h
    · next hsome =>
      cases h
      refine ⟨?_, ?_⟩
      · by_cases hwhole : s.takeWhile isDecimalDigit = []
        · rw [hwhole, List.nil_append]
          exact .fraction ⟨fun hfurther => hsome ⟨hwhole, hfurther⟩, htake t⟩
        · exact .point ⟨hwhole, htake s⟩ (htake t)
      · rw [List.append_assoc, List.cons_append, List.takeWhile_append_dropWhile, ← ht, hsplit]
  · split at h
    · cases h
    · next hwhole =>
      cases h
      exact ⟨.whole ⟨hwhole, htake s⟩, hsplit.symm⟩

/-- A sign is split off an unsigned number, and so is none. -/
theorem splitSignText_append (ha : IsSign a) (hs : IsUnsigned s) (r : List Char) :
    splitSignText (a ++ (s ++ r)) = (a, s ++ r) := by
  obtain rfl | rfl | rfl := ha
  · obtain ⟨c, rest, rfl, hc⟩ := hs.exists_cons
    simp only [List.nil_append, List.cons_append, splitSignText]
    split
    · next heq =>
      cases heq
      exact absurd hc (by decide)
    · next heq =>
      cases heq
      exact absurd hc (by decide)
    · rfl
  · rfl
  · rfl

theorem of_splitSignText (h : splitSignText s = (a, r)) : IsSign a ∧ s = a ++ r := by
  unfold splitSignText at h
  split at h <;> cases h
  · exact ⟨.inr (.inl rfl), rfl⟩
  · exact ⟨.inr (.inr rfl), rfl⟩
  · exact ⟨.inl rfl, rfl⟩

/-- A number is split off a text that does not go on with it. -/
theorem splitNumber?_append (hs : IsNumber s) (hr : StartsOutside isNumeral r) :
    splitNumber? (s ++ r) = some (s, r) := by
  obtain ⟨sign, number, rfl, hsign, hnumber⟩ := hs
  rw [splitNumber?, List.append_assoc, splitSignText_append hsign hnumber]
  simp only [splitUnsigned?_append hnumber hr, Option.map_some]

/-- What is split off is a number. -/
theorem of_splitNumber? (h : splitNumber? s = some (a, r)) : IsNumber a ∧ s = a ++ r := by
  rw [splitNumber?] at h
  cases hs : splitSignText s with
  | mk sign rest =>
    obtain ⟨hsign, rfl⟩ := of_splitSignText hs
    rw [hs] at h
    obtain ⟨⟨number, behind⟩, hnumber, heq⟩ := Option.map_eq_some_iff.mp h
    cases heq
    obtain ⟨hunsigned, rfl⟩ := of_splitUnsigned? hnumber
    exact ⟨⟨sign, number, rfl, hsign, hunsigned⟩, (List.append_assoc _ _ _).symm⟩

/-! ### Conditions -/

/-- A condition with the blanks around its parts. -/
@[ext]
structure WrittenCondition extends ConditionParts where
  /-- The blanks before the field. -/
  front : List Char
  /-- The blanks between the field and the operator. -/
  behindField : List Char
  /-- The blanks between the operator and the number. -/
  behindOp : List Char
  /-- The blanks after the number. -/
  back : List Char
  isField : IsField field
  isNumber : IsNumber value
  blank_front : allBlank front = true
  blank_behindField : allBlank behindField = true
  blank_behindOp : allBlank behindOp = true
  blank_back : allBlank back = true

namespace WrittenCondition

/-- How a condition is written. -/
def text (x : WrittenCondition) : List Char :=
  x.front ++ (x.field ++ (x.behindField ++ (x.op.symbol.toList ++
    (x.behindOp ++ (x.value ++ x.back)))))

/-- A written condition is taken apart. -/
theorem splitCondition?_text (x : WrittenCondition) :
    splitCondition? x.text = some x.toConditionParts := by
  have hfield : StartsOutside isFieldChar
      (x.behindField ++ (x.op.symbol.toList ++ (x.behindOp ++ (x.value ++ x.back)))) :=
    startsOutside_blanks_append x.blank_behindField (fun _ => isFieldChar_of_isBlank)
      (x.op.startsOutside_symbol_append _)
  have hop : StartsOutside (· == '=') (x.behindOp ++ (x.value ++ x.back)) :=
    startsOutside_blanks_append x.blank_behindOp
      (fun c hc => beq_eq_false_iff_ne.mpr fun heq => absurd (heq ▸ hc) (by decide))
      (x.isNumber.startsOutside_append _)
  have hback : StartsOutside isNumeral x.back := by
    rw [← List.append_nil x.back]
    exact startsOutside_blanks_append x.blank_back (fun _ => isNumeral_of_isBlank) nofun
  simp only [splitCondition?, text,
    trimStart_append x.blank_front (x.isField.solid.append _), splitField?_append x.isField hfield,
    trimStart_append x.blank_behindField (x.op.solid_symbol.append _), x.op.split?_append hop,
    trimStart_append x.blank_behindOp (x.isNumber.solid.append _),
    splitNumber?_append x.isNumber hback, x.blank_back, Option.bind_eq_bind, Option.bind_some,
    if_true]

/-- A text can be written in one way only. -/
theorem text_injective : Function.Injective text := by
  intro x y heq
  have hparts : x.toConditionParts = y.toConditionParts := by
    have hx := x.splitCondition?_text
    rw [heq, y.splitCondition?_text] at hx
    exact (Option.some.inj hx).symm
  have hfield : x.field = y.field := congrArg ConditionParts.field hparts
  have hop : x.op = y.op := congrArg ConditionParts.op hparts
  have hvalue : x.value = y.value := congrArg ConditionParts.value hparts
  -- the blanks are told apart from the parts behind them one row after the other
  obtain ⟨hfront, hafterFront⟩ := blanks_append_inj x.blank_front y.blank_front
    (x.isField.solid.append _) (y.isField.solid.append _) heq
  rw [hfield, List.append_cancel_left_eq] at hafterFront
  obtain ⟨hbehindField, hafterField⟩ := blanks_append_inj x.blank_behindField y.blank_behindField
    (x.op.solid_symbol.append _) (y.op.solid_symbol.append _) hafterFront
  rw [hop, List.append_cancel_left_eq] at hafterField
  obtain ⟨hbehindOp, hafterOp⟩ := blanks_append_inj x.blank_behindOp y.blank_behindOp
    (x.isNumber.solid.append _) (y.isNumber.solid.append _) hafterField
  rw [hvalue, List.append_cancel_left_eq] at hafterOp
  exact WrittenCondition.ext hfield hop hvalue hfront hbehindField hbehindOp hafterOp

end WrittenCondition

/-- Whatever is taken apart is a written condition. -/
theorem exists_text_of_splitCondition? {parts : ConditionParts}
    (h : splitCondition? s = some parts) :
    ∃ x : WrittenCondition, x.text = s ∧ x.toConditionParts = parts := by
  simp only [splitCondition?, Option.bind_eq_bind, Option.bind_eq_some_iff, Prod.exists,
    Option.ite_none_right_eq_some, Option.some.injEq] at h
  obtain ⟨field, afterField, hfield, op, afterOp, hop, value, back, hvalue, hback, rfl⟩ := h
  obtain ⟨hisField, hafterFront⟩ := of_splitField? hfield
  have hafterField := Comparator.of_split? hop
  obtain ⟨hisNumber, hafterOp⟩ := of_splitNumber? hvalue
  obtain ⟨front, hblankFront, hfront⟩ := exists_blanks s
  obtain ⟨behindField, hblankField, hbehindField⟩ := exists_blanks afterField
  obtain ⟨behindOp, hblankOp, hbehindOp⟩ := exists_blanks afterOp
  refine ⟨⟨⟨field, op, value⟩, front, behindField, behindOp, back, hisField, hisNumber,
    hblankFront, hblankField, hblankOp, hback⟩, ?_, rfl⟩
  rw [WrittenCondition.text, ← hafterOp, ← hbehindOp, ← hafterField, ← hbehindField,
    ← hafterFront, ← hfront]

/-- **Exactly the written conditions are accepted**, and a text that is a condition can be read as
one in one way only.  Any other text is a defect, which fails the compilation and is announced with
the text. -/
theorem accepts_written_conditions (text : List Char) :
    (∀ parts, splitCondition? text = some parts ↔
      ∃ x : WrittenCondition, x.text = text ∧ x.toConditionParts = parts) ∧
    Function.Injective WrittenCondition.text ∧
    ((¬∃ x : WrittenCondition, x.text = text) ↔
      Condition.parse text = .error (.invalidCondition (String.ofList text))) ∧
    (Defect.invalidCondition (String.ofList text)).failure.kind = .compile := by
  have haccepts : ∀ parts, splitCondition? text = some parts ↔
      ∃ x : WrittenCondition, x.text = text ∧ x.toConditionParts = parts := by
    refine fun parts => ⟨exists_text_of_splitCondition?, ?_⟩
    rintro ⟨x, rfl, rfl⟩
    exact x.splitCondition?_text
  refine ⟨haccepts, WrittenCondition.text_injective, ?_, rfl⟩
  rw [Condition.parse]
  cases hsplit : splitCondition? text with
  | none =>
    refine iff_of_true ?_ rfl
    rintro ⟨x, hx⟩
    have hsome := (haccepts x.toConditionParts).mpr ⟨x, hx, rfl⟩
    exact absurd (hsplit.symm.trans hsome) nofun
  | some parts =>
    obtain ⟨x, hx, -⟩ := (haccepts parts).mp hsplit
    refine iff_of_false (fun hnone => hnone ⟨x, hx⟩) fun herror => ?_
    -- a number that cannot be read is another defect
    dsimp only at herror
    split at herror <;> cases herror

/-- The longer of two operators is preferred, a point may stand behind the digits, and a number may
follow the operator without a blank. -/
example : splitCondition? " total_cost>=-1. ".toList =
    some ⟨"total_cost".toList, .ge, "-1.".toList⟩ := by
  decide

end AgentPipeline
