import AgentPipeline.Proofs.Decimal.Widening

/-!
# Doubles taken apart

The arithmetic of doubles is defined on numbers taken apart into a sign, a mantissa and an exponent,
and so is their text.  The two ways of taking a double apart agree: what a bit pattern consists of
decides both.

## Main definitions

* `Consists x negative m j` — the bit pattern of `x` is made of a sign, a mantissa and an exponent.

## Main results

* `exists_consists` — every finite double consists of a sign, a mantissa and an exponent.
* `Consists.unpack_eq`, `Consists.ofFloat_eq` — what arithmetic and printing make of it.
* `cases_of_double` — a double is not a number, or infinite, or finite.
-/

namespace AgentPipeline.Decimal

open Float.Model Float.Model.UnpackedFloat

/-! ### The parts of a bit pattern -/

/-- The sign of a number that is negative or not. -/
def signOf (negative : Bool) : Sign :=
  if negative then .negative else .positive

/-- The number `± m · 2 ^ e`, be it zero. -/
def unpacked (negative : Bool) (m : Nat) (e : Int) : UnpackedFloat :=
  if h : m = 0 then .zero (signOf negative)
  else .finite (signOf negative) m e (Nat.pos_of_ne_zero h)

theorem unpacked_zero (negative : Bool) (e : Int) :
    unpacked negative 0 e = .zero (signOf negative) :=
  rfl

theorem unpacked_of_ne_zero (negative : Bool) {m : Nat} (hm : m ≠ 0) (e : Int) :
    unpacked negative m e = .finite (signOf negative) m e (Nat.pos_of_ne_zero hm) :=
  dif_neg hm

/-- The fraction of a bit pattern. -/
theorem toNat_unpackMantissa {spec : Format} (b : BitVec spec.numBits) :
    (unpackMantissa b).toNat = b.toNat % 2 ^ spec.mantissaBitsWithoutImplicit := by
  rw [unpackMantissa_def, BitVec.extractLsb'_toNat, Nat.shiftRight_zero]

/-- The sign of a bit pattern. -/
theorem ofBitVec_unpackSign {spec : Format} (b : BitVec spec.numBits) :
    Sign.ofBitVec (unpackSign b) =
      signOf (b.toNat / 2 ^ (spec.mantissaBitsWithoutImplicit + spec.exponentBits) % 2 == 1) := by
  have hbit : (unpackSign b).toNat =
      b.toNat / 2 ^ (spec.mantissaBitsWithoutImplicit + spec.exponentBits) % 2 := by
    rw [unpackSign_def, BitVec.extractLsb'_toNat, Nat.shiftRight_eq_div_pow, Nat.pow_one]
  have hzero : unpackSign b = 0#1 ↔ (unpackSign b).toNat = 0 := by
    rw [← BitVec.toNat_inj]
    rfl
  rw [← hbit, Sign.ofBitVec, signOf]
  have hlt := (unpackSign b).isLt
  by_cases h : unpackSign b = 0#1
  · simp [h]
  · have hone : (unpackSign b).toNat = 1 := by
      rw [hzero] at h
      omega
    simp [h, hone]

/-! ### Finite doubles -/

/-- A double has the sign, the mantissa and the exponent given, the exponent being counted from the
least one. -/
structure Consists (x : Float) (negative : Bool) (m j : Nat) : Prop where
  represents : Layout.double.Represents m j
  bits : x.toBits.toNat = Layout.double.withSign negative (m + j * 2 ^ 52)

namespace Consists

variable {x y : Float} {negative : Bool} {m j : Nat}

/-- **What arithmetic takes a finite double for.** -/
theorem unpack_eq (h : Consists x negative m j) :
    x.toModel.unpack = unpacked negative m (Layout.double.leastExponent + j) := by
  have hlt : m < 2 ^ 53 := h.represents.lt
  have hfull : j = 0 ∨ 2 ^ 52 ≤ m := h.represents.full
  have hleast : Layout.double.leastExponent = -1074 := rfl
  obtain ⟨hfraction, hfield, hsign⟩ := Layout.fields_withSign h.represents.lt_two_pow negative
  have hnot : (m + j * 2 ^ 52) / 2 ^ 52 < 2047 := h.represents.field_lt
  have hbits : x.toBits.toBitVec.toNat = Layout.double.withSign negative (m + j * 2 ^ 52) := h.bits
  have hmantissa : (@unpackMantissa .binary64 x.toBits.toBitVec).toNat =
      (m + j * 2 ^ 52) % 2 ^ 52 := by
    rw [toNat_unpackMantissa, hbits]
    exact hfraction
  have hexponent : (@unpackExponent .binary64 x.toBits.toBitVec).toNat =
      (m + j * 2 ^ 52) / 2 ^ 52 := by
    rw [toNat_unpackExponent, hbits]
    exact hfield
  have hsignOf : Sign.ofBitVec (@unpackSign .binary64 x.toBits.toBitVec) = signOf negative := by
    rw [ofBitVec_unpackSign, hbits]
    exact congrArg signOf hsign
  have hnotFull : @unpackExponent .binary64 x.toBits.toBitVec ≠ -1#_ := by
    intro heq
    rw [heq] at hexponent
    have hall : (-1#(Format.exponentBits .binary64)).toNat = 2047 := by decide
    omega
  show UnpackedFloat.unpack .binary64 x.toBits.toBitVec = _
  unfold UnpackedFloat.unpack
  simp only [if_neg hnotFull, hsignOf]
  rcases Nat.lt_or_ge m (2 ^ 52) with hsmall | hlarge
  · -- The exponent is the least one, and the mantissa is all that the pattern holds.
    obtain rfl : j = 0 := hfull.resolve_right (Nat.not_le_of_lt hsmall)
    have hzero : @unpackExponent .binary64 x.toBits.toBitVec = 0#_ := by
      apply BitVec.eq_of_toNat_eq
      rw [hexponent, Nat.zero_mul, Nat.add_zero, Nat.div_eq_of_lt hsmall]
      rfl
    have hm : (@unpackMantissa .binary64 x.toBits.toBitVec).toNat = m := by
      rw [hmantissa, Nat.zero_mul, Nat.add_zero, Nat.mod_eq_of_lt hsmall]
    rw [if_pos hzero]
    by_cases hm0 : m = 0
    · have hnone : @unpackMantissa .binary64 x.toBits.toBitVec = 0#_ := by
        apply BitVec.eq_of_toNat_eq
        rw [hm, hm0]
        rfl
      rw [dif_pos hnone, hm0, unpacked_zero]
    · have hsome : @unpackMantissa .binary64 x.toBits.toBitVec ≠ 0#_ := by
        intro heq
        rw [heq] at hm
        exact hm0 hm.symm
      rw [dif_neg hsome, unpacked_of_ne_zero _ hm0]
      congr 1
      rw [hzero]
      rfl
  · have hfraction : (m + j * 2 ^ 52) % 2 ^ 52 = m - 2 ^ 52 := by omega
    have hfield : (m + j * 2 ^ 52) / 2 ^ 52 = j + 1 := by omega
    have hnonzero : @unpackExponent .binary64 x.toBits.toBitVec ≠ 0#_ := by
      intro heq
      rw [heq, hfield] at hexponent
      exact absurd hexponent.symm (Nat.succ_ne_zero j)
    have hm0 : m ≠ 0 := by omega
    rw [if_neg hnonzero, unpacked_of_ne_zero _ hm0]
    congr 1
    · have hor := Nat.two_pow_add_eq_or_of_lt
        (@unpackMantissa .binary64 x.toBits.toBitVec).isLt (1 : Nat)
      rw [BitVec.toNat_append, BitVec.toNat_ofNat]
      show 1 <<< 52 ||| _ = m
      rw [Nat.shiftLeft_eq, Nat.one_mul]
      rw [Nat.mul_one] at hor
      rw [← hor, hmantissa, hfraction]
      exact Nat.add_sub_cancel' hlarge
    · rw [hexponent, hfield]
      show ((j + 1 : Nat) : Int) - (1023 + 52) = -1074 + j
      omega

/-- **What printing takes a finite double for.** -/
theorem ofFloat_eq (h : Consists x negative m j) :
    Parts.ofFloat x = .finite negative m (Layout.double.leastExponent + j)
      (m == 2 ^ 52 && j != 0) := by
  rw [Parts.ofFloat, h.bits]
  exact h.represents.ofBits_eq_finite negative

/-- A bit pattern is all there is to a double. -/
theorem unique (hx : Consists x negative m j) (hy : Consists y negative m j) : x = y := by
  rw [← Float.toBits_inj, ← UInt64.toNat_inj, hx.bits, hy.bits]

end Consists

/-- **Every finite double consists of a sign, a mantissa and an exponent.** -/
theorem exists_consists {x : Float} (h : x.isFinite = true) :
    ∃ negative m j, Consists x negative m j := by
  obtain ⟨negative, m, j, hrepresents, hbits⟩ :=
    Layout.exists_represents (l := .double) x.toBits.toNat_lt ((isFinite_iff x).mp h)
  exact ⟨negative, m, j, hrepresents, hbits⟩

/-- There is a double of every sign, mantissa and exponent as doubles have them. -/
theorem exists_of_represents {m j : Nat} (h : Layout.double.Represents m j) (negative : Bool) :
    ∃ x, Consists x negative m j :=
  ⟨_, h, h.toBits_ofBits negative⟩

/-- Taken apart and put together again a double is what it was. -/
theorem ofModel_pack_unpack (x : Float) : Float.ofModel (.pack x.toModel.unpack) = x :=
  Float.ofBits_toBits x

/-! ### All doubles -/

/-- What a double that is not finite is, for arithmetic and for printing. -/
theorem cases_of_not_isFinite {x : Float} (h : ¬ x.isFinite = true) :
    (x.toModel.unpack = .notANumber ∧ Parts.ofFloat x = .notANumber) ∨
      ∃ negative, x.toModel.unpack = .infinity (signOf negative) ∧
        Parts.ofFloat x = .infinite negative := by
  have hfield : x.toBits.toNat / 2 ^ 52 % 2 ^ 11 = 2047 := by
    by_contra hne
    exact h ((isFinite_iff x).mpr hne)
  have hexponent : @unpackExponent .binary64 x.toBits.toBitVec = -1#_ := by
    apply BitVec.eq_of_toNat_eq
    rw [toNat_unpackExponent]
    exact hfield
  have hmantissa : @unpackMantissa .binary64 x.toBits.toBitVec = 0#_ ↔
      x.toBits.toNat % 2 ^ 52 = 0 := by
    rw [← BitVec.toNat_inj, toNat_unpackMantissa]
    rfl
  have hparts : Parts.ofFloat x = if x.toBits.toNat % 2 ^ 52 = 0 then
      .infinite (x.toBits.toNat / 2 ^ 63 % 2 == 1) else .notANumber :=
    if_pos hfield
  have hunpack : x.toModel.unpack = if @unpackMantissa .binary64 x.toBits.toBitVec = 0#_ then
      .infinity (Sign.ofBitVec (@unpackSign .binary64 x.toBits.toBitVec)) else .notANumber :=
    if_pos hexponent
  by_cases hzero : x.toBits.toNat % 2 ^ 52 = 0
  · right
    refine ⟨x.toBits.toNat / 2 ^ 63 % 2 == 1, ?_, ?_⟩
    · rw [hunpack, if_pos (hmantissa.mpr hzero), ofBitVec_unpackSign]
      rfl
    · rw [hparts, if_pos hzero]
  · left
    constructor
    · rw [hunpack, if_neg (mt hmantissa.mp hzero)]
    · rw [hparts, if_neg hzero]

/-- **A double is not a number, or infinite, or finite.** -/
theorem cases_of_double (x : Float) :
    (x.toModel.unpack = .notANumber ∧ Parts.ofFloat x = .notANumber) ∨
      (∃ negative, x.toModel.unpack = .infinity (signOf negative) ∧
        Parts.ofFloat x = .infinite negative) ∨
      ∃ negative m j, Consists x negative m j := by
  by_cases h : x.isFinite = true
  · exact Or.inr (Or.inr (exists_consists h))
  · rcases cases_of_not_isFinite h with hnan | hinf
    · exact Or.inl hnan
    · exact Or.inr (Or.inl hinf)

end AgentPipeline.Decimal
