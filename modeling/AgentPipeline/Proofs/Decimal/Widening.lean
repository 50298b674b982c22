import AgentPipeline.Proofs.Decimal.Nearest
import Mathlib

/-!
# Singles written as doubles

A single is written to a document as the double that equals it, and read back by rounding.  For a
finite single nothing is lost on the way, be it a zero with a sign or one of the smallest numbers,
and the double is finite as well, so that it has a written form.

## Main results

* `isFinite_iff`, `isFinite_single_iff` — which bit patterns are those of finite numbers.
* `toBits_ofBits` — the bit pattern of a finite double.
* `narrow_widen` — **a finite single is the single nearest to the double that equals it.**
-/

namespace AgentPipeline.Decimal

open Float.Model

/-! ### Bit patterns of finite numbers -/

/-- The exponent field of a bit pattern. -/
theorem toNat_unpackExponent {spec : Format} (b : BitVec spec.numBits) :
    (UnpackedFloat.unpackExponent b).toNat =
      b.toNat / 2 ^ spec.mantissaBitsWithoutImplicit % 2 ^ spec.exponentBits := by
  rw [UnpackedFloat.unpackExponent_def, BitVec.extractLsb'_toNat, Nat.shiftRight_eq_div_pow]

/-- Numbers are finite unless their exponent field is full. -/
theorem isFinite_unpack_iff {spec : Format} (b : BitVec spec.numBits) :
    (UnpackedFloat.unpack spec b).isFinite = true ↔
      b.toNat / 2 ^ spec.mantissaBitsWithoutImplicit % 2 ^ spec.exponentBits ≠
        2 ^ spec.exponentBits - 1 := by
  have hfull : UnpackedFloat.unpackExponent b = -1#_ ↔
      b.toNat / 2 ^ spec.mantissaBitsWithoutImplicit % 2 ^ spec.exponentBits =
        2 ^ spec.exponentBits - 1 := by
    rw [← BitVec.toNat_inj, toNat_unpackExponent, BitVec.neg_one_eq_allOnes, BitVec.toNat_allOnes]
  rw [ne_eq, ← not_congr hfull]
  unfold UnpackedFloat.unpack
  dsimp only
  by_cases hexponent : UnpackedFloat.unpackExponent b = -1#_
  · rw [if_pos hexponent]
    split
    · simp [UnpackedFloat.isFinite, hexponent]
    · simp [UnpackedFloat.isFinite, hexponent]
  · rw [if_neg hexponent]
    split
    · split
      · simp only [UnpackedFloat.isFinite, hexponent, not_false_eq_true]
      · simp only [UnpackedFloat.isFinite, hexponent, not_false_eq_true]
    · simp only [UnpackedFloat.isFinite, hexponent, not_false_eq_true]

theorem isFinite_iff (x : Float) : x.isFinite = true ↔
    x.toBits.toNat / 2 ^ 52 % 2 ^ 11 ≠ Layout.double.fullExponent :=
  @isFinite_unpack_iff .binary64 x.toBits.toBitVec

theorem isFinite_single_iff (x : Float32) : x.isFinite = true ↔
    x.toBits.toNat / 2 ^ 23 % 2 ^ 8 ≠ Layout.single.fullExponent :=
  @isFinite_unpack_iff .binary32 x.toBits.toBitVec

/-- A double made of a finite bit pattern has that pattern. -/
theorem toBits_ofBits {bits : UInt64}
    (h : bits.toNat / 2 ^ 52 % 2 ^ 11 ≠ Layout.double.fullExponent) :
    (Float.ofBits bits).toBits = bits := by
  have hpack : (Float.ofBits bits).toBits.toBitVec =
      (UnpackedFloat.unpack .binary64 bits.toBitVec).pack .binary64 := rfl
  have hnumber : ¬ @UnpackedFloat.isNaNBits .binary64 bits.toBitVec = true := by
    rw [UnpackedFloat.isNaNBits, decide_eq_true_eq]
    rintro ⟨hexponent, -⟩
    have hfull := congrArg BitVec.toNat hexponent
    rw [toNat_unpackExponent, BitVec.neg_one_eq_allOnes, BitVec.toNat_allOnes] at hfull
    exact h hfull
  rw [← UInt64.toBitVec_inj, hpack, UnpackedFloat.pack_unpack, if_neg hnumber]

/-- The double made of a sign, a mantissa and an exponent has the pattern of them. -/
theorem Layout.Represents.toBits_ofBits {m j : Nat} (h : double.Represents m j) (negative : Bool) :
    (Float.ofBits (UInt64.ofNat (double.withSign negative (m + j * 2 ^ 52)))).toBits.toNat =
      double.withSign negative (m + j * 2 ^ 52) := by
  have hbound : double.withSign negative (m + j * 2 ^ 52) < 2 ^ 64 :=
    withSign_lt h.lt_two_pow negative
  have hword : (UInt64.ofNat (double.withSign negative (m + j * 2 ^ 52))).toNat =
      double.withSign negative (m + j * 2 ^ 52) := UInt64.toNat_ofNat_of_lt hbound
  have hfield : double.withSign negative (m + j * 2 ^ 52) / 2 ^ 52 % 2 ^ 11 ≠
      double.fullExponent := by
    have hexponent := (fields_withSign h.lt_two_pow negative).2.1
    exact hexponent.trans_ne h.field_lt.ne
  rw [Decimal.toBits_ofBits (hword.symm ▸ hfield), hword]

/-- A double that has the pattern of a sign, a mantissa and an exponent is finite. -/
theorem Layout.Represents.isFinite {x : Float} {m j : Nat} {negative : Bool}
    (h : double.Represents m j)
    (hbits : x.toBits.toNat = double.withSign negative (m + j * 2 ^ 52)) : x.isFinite = true := by
  rw [isFinite_iff, hbits]
  exact (fields_withSign h.lt_two_pow negative).2.1.trans_ne h.field_lt.ne

/-! ### There and back -/

/-- **A finite single is the single nearest to the double that equals it**, and that double is
finite. -/
theorem narrow_widen {x : Float32} (h : x.isFinite = true) :
    narrow (widen x) = x ∧ (widen x).isFinite = true := by
  have hlt : x.toBits.toNat < 2 ^ (Layout.single.fractionBits + Layout.single.exponentBits + 1) :=
    x.toBits.toNat_lt
  obtain ⟨negative, m, j, hsingle, hbits⟩ :=
    Layout.exists_represents hlt ((isFinite_single_iff x).mp h)
  obtain ⟨m', j', hdouble, hwide, hback⟩ := exists_double_of_single hsingle
  obtain ⟨tight, hparts⟩ := hsingle.ofBits_eq negative
  obtain ⟨tight', hparts'⟩ := hdouble.ofBits_eq negative
  -- The double is made of a finite bit pattern, which it therefore has.
  have hwiden : widen x = Float.ofBits (UInt64.ofNat
      (Layout.double.withSign negative (m' + j' * 2 ^ 52))) := by
    rw [widen, Parts.ofFloat32, hbits, hparts, Layout.encode, hwide]
  have hpattern : (widen x).toBits.toNat =
      Layout.double.withSign negative (m' + j' * 2 ^ Layout.double.fractionBits) := by
    rw [hwiden]
    exact hdouble.toBits_ofBits negative
  refine ⟨?_, hdouble.isFinite hpattern⟩
  have hnarrow : Layout.single.encode (.ofFloat (widen x)) = x.toBits.toNat := by
    rw [Parts.ofFloat, hpattern, hparts', Layout.encode, hback, hbits]
    rfl
  rw [narrow, hnarrow, UInt32.ofNat_toNat, Float32.ofBits_toBits]

end AgentPipeline.Decimal
