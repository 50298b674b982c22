import AgentPipeline.Proofs.Decimal.Reading

/-!
# Numbers that fail to be one

Arithmetic gives what is not a number from infinities and zeros only.  Decimals are rounded from
other numbers, so no digits are read as what is not a number; only the word for it is.

## Main definitions

* `IsNonzero` — a double is finite and not zero.
* `SpellsNaN` — a text is the word for what is not a number.

## Main results

* `isNaN_ofModel_pack` — packing makes nothing a number that is none.
* `isNaN_ofScientific` — what digits spell is a number.
* `any_isNaN_read?` — **only the word for it is read as what is not a number.**
-/

namespace AgentPipeline.Decimal

open Float.Model Float.Model.UnpackedFloat

/-! ### Packing -/

/-- Only what is not a number is packed as such. -/
theorem pack_finite_ne_packedNaN (s : Sign) (m : Nat) (e : Int) (hm : 0 < m) :
    pack .binary64 (.finite s m e hm) ≠ packedNaN .binary64 := by
  unfold UnpackedFloat.pack
  dsimp only
  split
  · cases s <;> decide
  · next hfits =>
    intro heq
    have hexponent := congrArg unpackExponent heq
    split at hexponent
    · rw [packedNaN, unpackExponent_packComponents, unpackExponent_packComponents] at hexponent
      have hfull := congrArg BitVec.toNat hexponent
      rw [BitVec.toNat_ofNat] at hfull
      have hall : (-1#(Format.exponentBits .binary64)).toNat = 2047 := by decide
      have hmod := Nat.mod_le (e + Format.exponentBias .binary64 +
        Format.mantissaBitsWithoutImplicit .binary64).toNat (2 ^ Format.exponentBits .binary64)
      have hbits : 2 ^ Format.exponentBits .binary64 = 2048 := by decide
      omega
    · rw [packedNaN, unpackExponent_packComponents, unpackExponent_packComponents] at hexponent
      exact absurd hexponent (by decide)

/-- Packing makes nothing a number that is none, and nothing else loses its number. -/
theorem isNaN_ofModel_pack (u : UnpackedFloat) : (Float.ofModel (.pack u)).isNaN = u.isNaN := by
  have hvalid : Format.Valid .binary64 (pack .binary64 u) := valid_pack
  show (unpack .binary64 (pack .binary64 u)).isNaN = u.isNaN
  rw [Bool.eq_iff_iff, isNaN_unpack_iff_of_valid hvalid]
  cases u with
  | notANumber => exact iff_of_true rfl rfl
  | infinity s => cases s <;> decide
  | zero s => cases s <;> decide
  | finite s m e hm => exact iff_of_false (pack_finite_ne_packedNaN s m e hm) Bool.false_ne_true

/-! ### Products and quotients -/

/-- Rounding gives a number. -/
theorem isNaN_roundWithAccuracy (s : Sign) (m : Nat) (e : Int) (a : Accuracy) :
    (roundWithAccuracy .binary64 s m e a).isNaN = false := by
  unfold roundWithAccuracy
  dsimp only
  split
  · rfl
  · rfl

theorem isNaN_normalize (m : Int) (e : Int) (s : Sign) :
    (normalize .binary64 m e s).isNaN = false := by
  unfold UnpackedFloat.normalize
  split
  · exact isNaN_roundWithAccuracy _ _ _ _
  · rfl
  · exact isNaN_roundWithAccuracy _ _ _ _

/-- A double that is finite and not zero. -/
def IsNonzero (x : Float) : Bool :=
  match x.toModel.unpack with
  | .finite .. => true
  | _ => false

variable {x y : Float}

/-- What stands for a positive number is finite and not zero. -/
theorem isNonzero_of_stands {v : ℚ} (h : Stands x.toModel.unpack v) : IsNonzero x = true := by
  obtain ⟨m, e, hm, hunpack, -⟩ := h
  rw [IsNonzero, hunpack]

theorem isNaN_mul (hy : IsNonzero y = true) : (x * y).isNaN = x.isNaN := by
  have hmul : x * y = Float.ofModel (.pack (mul .binary64 x.toModel.unpack y.toModel.unpack)) := rfl
  have hx : x.isNaN = x.toModel.unpack.isNaN := rfl
  rw [hmul, isNaN_ofModel_pack, hx]
  rw [IsNonzero] at hy
  cases hunpack : y.toModel.unpack with
  | finite s m e hm =>
    cases x.toModel.unpack with
    | finite s' m' e' hm' => exact isNaN_roundWithAccuracy _ _ _ _
    | _ => rfl
  | _ =>
    rw [hunpack] at hy
    cases hy

theorem isNaN_div (hy : IsNonzero y = true) : (x / y).isNaN = x.isNaN := by
  have hdiv : x / y = Float.ofModel (.pack (div .binary64 x.toModel.unpack y.toModel.unpack)) := rfl
  have hx : x.isNaN = x.toModel.unpack.isNaN := rfl
  rw [hdiv, isNaN_ofModel_pack, hx]
  rw [IsNonzero] at hy
  cases hunpack : y.toModel.unpack with
  | finite s m e hm =>
    cases x.toModel.unpack with
    | finite s' m' e' hm' => exact isNaN_roundWithAccuracy _ _ _ _
    | _ => rfl
  | _ =>
    rw [hunpack] at hy
    cases hy

theorem isNaN_neg : (-x).isNaN = x.isNaN := by
  have hneg : -x = Float.ofModel (.pack x.toModel.unpack.neg) := rfl
  have hx : x.isNaN = x.toModel.unpack.isNaN := rfl
  rw [hneg, isNaN_ofModel_pack, hx]
  cases x.toModel.unpack <;> rfl

/-! ### Decimals -/

theorem isNaN_toFloat (n : UInt64) : n.toFloat.isNaN = false := by
  have hnormalize : n.toFloat =
      Float.ofModel (.pack (normalize .binary64 (n.toNat : Int) 0 .positive)) := rfl
  rw [hnormalize, isNaN_ofModel_pack]
  exact isNaN_normalize _ _ _

theorem isNaN_model_ofScientific (m : Nat) (e : Int) :
    (UnpackedFloat.ofScientific .binary64 m e).isNaN = false := by
  unfold UnpackedFloat.ofScientific
  split
  · rfl
  · split
    · rfl
    · split
      · rfl
      · split
        · exact isNaN_roundWithAccuracy _ _ _ _
        · exact isNaN_roundWithAccuracy _ _ _ _

/-- **What digits spell is a number.** -/
theorem isNaN_ofScientific (m : Nat) (s : Bool) (e : Nat) :
    (Float.ofScientific m s e).isNaN = false := by
  unfold Float.ofScientific
  split
  · next h =>
    have hsize : Float.exactlyRepresentablePowersOfTen.size = 23 := rfl
    have hpower := isNonzero_of_stands (stands_of_isInteger (isInteger_powers ⟨e, by omega⟩))
    cases s
    · exact (isNaN_mul hpower).trans (isNaN_toFloat _)
    · exact (isNaN_div hpower).trans (isNaN_toFloat _)
  · exact (isNaN_ofModel_pack _).trans (isNaN_model_ofScientific m _)

theorem isNaN_ofNat (n : Nat) : (Float.ofNat n).isNaN = false :=
  isNaN_ofScientific n false 0

theorem isNaN_nearestFloat (m : Nat) (e : Int) : (nearestFloat m e).isNaN = false := by
  unfold nearestFloat
  split
  · exact isNaN_ofNat 0
  · dsimp only
    split
    · rfl
    · split
      · exact isNaN_ofNat 0
      · split
        · exact isNaN_ofScientific _ _ _
        · exact isNaN_ofScientific _ _ _

/-- A decimal in the range of doubles is read as a double other than zero. -/
theorem isNonzero_nearestFloat {d : ℕ} {e : ℤ} (hlow : (2 : ℚ) ^ (-1075 : ℤ) < d * 10 ^ e)
    (hhigh : d * 10 ^ e < (2 ^ 53 - 1) * (2 : ℚ) ^ (971 : ℤ)) :
    IsNonzero (nearestFloat d e) = true := by
  obtain ⟨m, j, hrepresents, hm, hround⟩ := exists_roundsTo hlow hhigh
  obtain ⟨z, hz⟩ := exists_of_represents hrepresents false
  rw [nearestFloat_eq hz hm hround, IsNonzero, hz.unpack_eq, unpacked_of_ne_zero _ hm]

/-! ### Texts -/

theorem isNaN_withSign (negative : Bool) (x : Float) : (withSign negative x).isNaN = x.isNaN := by
  cases negative
  · rfl
  · exact isNaN_neg

/-- The digits behind a point, and what follows them. -/
def splitFraction : List Char → List Char × List Char
  | '.' :: r => (r.takeWhile Char.isDigit, r.dropWhile Char.isDigit)
  | r => ([], r)

/-- Reading digits: those before a point, those behind it, and the exponent. -/
theorem readUnsigned?_eq (s : List Char) :
    readUnsigned? s =
      if s.takeWhile Char.isDigit = [] ∧ (splitFraction (s.dropWhile Char.isDigit)).1 = [] then none
      else (readExponent? (splitFraction (s.dropWhile Char.isDigit)).2).map fun e =>
        nearestFloat
          (natOfDigits (s.takeWhile Char.isDigit ++ (splitFraction (s.dropWhile Char.isDigit)).1))
          (e - (splitFraction (s.dropWhile Char.isDigit)).1.length) :=
  rfl

theorem isNaN_of_readUnsigned? {s : List Char} (h : readUnsigned? s = some x) :
    x.isNaN = false := by
  rw [readUnsigned?_eq] at h
  split at h
  · cases h
  · obtain ⟨e, -, rfl⟩ := Option.map_eq_some_iff.mp h
    exact isNaN_nearestFloat _ _

/-- A word for what is not a number, with an optional sign and in any case. -/
def SpellsNaN (s : List Char) : Prop :=
  String.ofList ((splitSign s).2.map Char.toLower) = "nan"

/-- A small letter is that of itself and of one capital letter. -/
theorem eq_of_toLower {c : Char} (h : c.toLower = 'n') : c = 'n' ∨ c = 'N' := by
  unfold Char.toLower at h
  split at h
  · right
    have hval : c.val + 32 = 110 := congrArg Char.val h
    have hcapital : c.val = 78 := by
      rw [← UInt32.add_sub_cancel c.val 32, hval]
      rfl
    exact Char.ext hcapital
  · exact Or.inl h

/-- The word for what is not a number is not digits. -/
theorem readUnsigned?_of_word {s : List Char} (h : String.ofList (s.map Char.toLower) = "nan") :
    readUnsigned? s = none := by
  have hchars : s.map Char.toLower = ['n', 'a', 'n'] := String.ofList_injective h
  obtain ⟨c, rest, rfl, hc, -⟩ := List.map_eq_cons_iff.mp hchars
  have hletter := eq_of_toLower hc
  have hwhole : ¬ c.isDigit = true := by
    rcases hletter with rfl | rfl
    · decide
    · decide
  have hnone : splitFraction (c :: rest) = ([], c :: rest) := by
    unfold splitFraction
    split
    · next heq =>
      cases heq
      exact absurd hletter (by decide)
    · rfl
  rw [readUnsigned?_eq, List.takeWhile_cons_of_neg hwhole, List.dropWhile_cons_of_neg hwhole, hnone,
    if_pos ⟨rfl, rfl⟩]

theorem isNaN_of_readWord? {s : List Char} (h : readWord? s = some x) :
    x.isNaN = true ↔ String.ofList (s.map Char.toLower) = "nan" := by
  unfold readWord? at h
  split at h
  · next heq =>
    cases h
    rw [heq]
    decide
  · next heq =>
    cases h
    rw [heq]
    decide
  · next heq =>
    cases h
    rw [heq]
    decide
  · cases h

/-- **Only the word for it is read as what is not a number.** -/
theorem any_isNaN_read? (s : List Char) : (read? s).any Float.isNaN = true ↔ SpellsNaN s := by
  have hread : read? s = ((readUnsigned? (splitSign s).2).or (readWord? (splitSign s).2)).map
      (withSign (splitSign s).1) := by
    rw [Option.or_eq_orElse]
    rfl
  rw [SpellsNaN, hread, Option.any_map]
  cases hdigits : readUnsigned? (splitSign s).2 with
  | some x =>
    refine iff_of_false ?_ fun hword => ?_
    · show ¬ (withSign _ x).isNaN = true
      rw [isNaN_withSign, isNaN_of_readUnsigned? hdigits]
      exact Bool.false_ne_true
    · rw [readUnsigned?_of_word hword] at hdigits
      cases hdigits
  | none =>
    rw [Option.none_or]
    cases hword : readWord? (splitSign s).2 with
    | some x =>
      rw [← isNaN_of_readWord? hword, ← isNaN_withSign (splitSign s).1 x]
      rfl
    | none =>
      refine iff_of_false Bool.false_ne_true fun h => ?_
      rw [readWord?, h] at hword
      cases hword

end AgentPipeline.Decimal
