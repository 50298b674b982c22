import AgentPipeline.Decimal.Reading
import AgentPipeline.Proofs.Decimal.Rounding

/-!
# Which double a decimal is read as

A decimal is read by multiplying or dividing by a power of ten, where this is exact on doubles and
otherwise on arbitrarily long mantissas.  Powers of ten far outside the range of a double are not
computed, but no decimal in the interval of a double other than zero needs them.  Either way the
decimal is read as the double in whose interval it lies.

## Main definitions

* `Stands u v` — what has been taken apart is the positive number `v`.

## Main results

* `div_eq`, `mul_eq` — quotients and products are rounded to the double in whose interval they lie.
* `ofScientific_eq`, `nearestFloat_eq` — **digits and an exponent are read as the double in whose
  interval the decimal lies.**
-/

namespace AgentPipeline.Decimal

open Float.Model Float.Model.UnpackedFloat

/-! ### The interval of a double -/

section Interval

variable {m j : ℕ} {x : ℚ}

/-- A number is rounded to itself. -/
theorem roundsTo_self (m : ℕ) (e : ℤ) (tight : Bool) : RoundsTo m e tight (m * 2 ^ e) := by
  have hpos : (0 : ℚ) < 2 ^ e := zpow_pos two_pos e
  refine ⟨.of_lt (mul_lt_mul_of_pos_right ?_ hpos), .of_lt (mul_lt_mul_of_pos_right ?_ hpos)⟩
  · split
    · linarith
    · linarith
  · linarith

/-- What is rounded to a positive double is neither too small nor too large. -/
theorem RoundsTo.bounds {tight : Bool} (hround : RoundsTo m (-1074 + j) tight x)
    (h : Layout.double.Represents m j) (hm : m ≠ 0) :
    (2 : ℚ) ^ (-1075 : ℤ) ≤ x ∧ x < 2 ^ (1024 : ℤ) := by
  have hpos : (0 : ℚ) < 2 ^ (-1074 + j : ℤ) := zpow_pos two_pos _
  have hone : (1 : ℚ) ≤ m := by exact_mod_cast Nat.one_le_iff_ne_zero.mpr hm
  constructor
  · calc (2 : ℚ) ^ (-1075 : ℤ) = 1 / 2 * 2 ^ (-1074 : ℤ) := by
          rw [one_div, ← zpow_neg_one, ← zpow_add₀ two_ne_zero]
          rfl
      _ ≤ 1 / 2 * 2 ^ (-1074 + j : ℤ) := by
          refine mul_le_mul_of_nonneg_left ?_ one_half_pos.le
          exact zpow_le_zpow_right₀ one_le_two (by omega)
      _ ≤ (m - if tight then 1 / 4 else 1 / 2) * 2 ^ (-1074 + j : ℤ) := by
          refine mul_le_mul_of_nonneg_right ?_ hpos.le
          split
          · linarith
          · linarith
      _ ≤ x := hround.1.le
  · have hj : j ≤ 2045 := by
      have hbounded : m + j * 2 ^ 52 < 2047 * 2 ^ 52 := h.bounded
      rcases h.full with rfl | hfull
      · exact Nat.zero_le _
      · have hfull : 2 ^ 52 ≤ m := hfull
        omega
    calc x < 2 ^ (53 + (-1074 + j) : ℤ) := hround.lt_zpow h.lt
      _ ≤ 2 ^ (1024 : ℤ) := zpow_le_zpow_right₀ one_le_two (by omega)

end Interval

/-! ### Quotients and products of positive numbers -/

/-- What has been taken apart is the positive number given. -/
def Stands (u : UnpackedFloat) (v : ℚ) : Prop :=
  ∃ (m : ℕ) (e : ℤ) (hm : 0 < m), u = .finite .positive m e hm ∧ m * 2 ^ e = v

theorem stands_finite {m : ℕ} (e : ℤ) (hm : 0 < m) :
    Stands (.finite .positive m e hm) (m * 2 ^ e) :=
  ⟨m, e, hm, rfl, rfl⟩

theorem cast_shiftLeft (m s : ℕ) : ((m <<< s : ℕ) : ℚ) = m * 2 ^ s := by
  rw [Nat.shiftLeft_eq]
  push_cast
  rfl

section Arithmetic

variable {m j : ℕ} {u u' : UnpackedFloat} {v v' : ℚ}

/-- A quotient is computed with so many bits that it can be rounded. -/
theorem divCore_exponent_le {m₁ m₂ : ℕ} (h₁ : 0 < m₁) (h₂ : 0 < m₂) (e₁ e₂ : ℤ) :
    (divCore .binary64 m₁ e₁ m₂ e₂).2.1 ≤ Format.binary64.targetExponent
      (totalExponent (divCore .binary64 m₁ e₁ m₂ e₂).1 (divCore .binary64 m₁ e₁ m₂ e₂).2.1) := by
  have hmin : Format.binary64.minExponent = -1074 := rfl
  have hbits : Format.binary64.mantissaBits = 53 := rfl
  rw [targetExponent_eq]
  dsimp only [divCore]
  simp only [Format.targetExponent, totalExponent, hmin, hbits]
  generalize hex : min (e₁ - e₂) (max ((m₁.log2 : ℤ) + 1 + e₁ - (m₂.log2 + 1 + e₂) - (53 : ℕ))
    (-1074)) = ex
  rcases le_or_gt ex (-1074) with hsmall | hlarge
  · exact hsmall.trans (le_max_right _ _)
  · refine le_max_of_le_left ?_
    -- The quotient has at least 53 bits.
    have hshift : m₂.log2 + 53 ≤ m₁.log2 + (e₁ - e₂ - ex).toNat := by omega
    have hquotient : 2 ^ 52 ≤ m₁ <<< (e₁ - e₂ - ex).toNat / m₂ := by
      rw [Nat.le_div_iff_mul_le h₂, Nat.shiftLeft_eq]
      calc 2 ^ 52 * m₂ ≤ 2 ^ 52 * 2 ^ (m₂.log2 + 1) := Nat.mul_le_mul_left _ Nat.lt_log2_self.le
        _ = 2 ^ (m₂.log2 + 53) := by rw [← Nat.pow_add, Nat.add_comm, Nat.add_assoc]
        _ ≤ 2 ^ (m₁.log2 + (e₁ - e₂ - ex).toNat) := Nat.pow_le_pow_right Nat.two_pos hshift
        _ = 2 ^ m₁.log2 * 2 ^ (e₁ - e₂ - ex).toNat := Nat.pow_add _ _ _
        _ ≤ m₁ * 2 ^ (e₁ - e₂ - ex).toNat := Nat.mul_le_mul_right _ (Nat.log2_self_le h₁.ne')
    have hlog : 52 ≤ (m₁ <<< (e₁ - e₂ - ex).toNat / m₂).log2 :=
      (Nat.le_log2 (by omega)).mpr hquotient
    omega

/-- **A quotient is rounded to the double in whose interval it lies.** -/
theorem div_eq (hu : Stands u v) (hu' : Stands u' v') (h : Layout.double.Represents m j)
    (hround : RoundsTo m (-1074 + j) (m == 2 ^ 52 && j != 0) (v / v')) :
    div .binary64 u u' = unpacked false m (-1074 + j) := by
  obtain ⟨m₁, e₁, h₁, rfl, rfl⟩ := hu
  obtain ⟨m₂, e₂, h₂, rfl, rfl⟩ := hu'
  let ex := (divCore .binary64 m₁ e₁ m₂ e₂).2.1
  let s := (e₁ - e₂ - ex).toNat
  have hle : ex ≤ e₁ - e₂ := min_le_left _ _
  have hquotient : ((m₁ <<< s : ℕ) / m₂ : ℚ) * 2 ^ ex = m₁ * 2 ^ e₁ / (m₂ * 2 ^ e₂) := by
    have hs : (s : ℤ) + ex = e₁ - e₂ := by omega
    rw [cast_shiftLeft, mul_div_right_comm, mul_assoc, two_pow_mul_zpow, hs, zpow_sub₀ two_ne_zero]
    ring
  rw [← hquotient] at hround
  exact roundWithAccuracy_eq h (.quotient (m₁ <<< s) h₂) (divCore_exponent_le h₁ h₂ e₁ e₂) hround
    false

/-- **A product is rounded to the double in whose interval it lies**, if its mantissa is not too
short. -/
theorem mul_eq {m₁ : ℕ} {e₁ : ℤ} (h₁ : 0 < m₁) (hlong : 2 ^ 52 ≤ m₁) (hu : Stands u v)
    (h : Layout.double.Represents m j)
    (hround : RoundsTo m (-1074 + j) (m == 2 ^ 52 && j != 0) (m₁ * 2 ^ e₁ * v)) :
    mul .binary64 (.finite .positive m₁ e₁ h₁) u = unpacked false m (-1074 + j) := by
  obtain ⟨m₂, e₂, h₂, rfl, rfl⟩ := hu
  have hlog : 52 ≤ (m₁ * m₂).log2 := by
    have hle : 2 ^ 52 ≤ m₁ * m₂ := hlong.trans (Nat.le_mul_of_pos_right m₁ h₂)
    exact (Nat.le_log2 (Nat.mul_pos h₁ h₂).ne').mpr hle
  refine roundWithAccuracy_eq h (.exact (m₁ * m₂)) ?_ ?_ false
  · rw [targetExponent_eq]
    omega
  · have hproduct : ((m₁ * m₂ : ℕ) : ℚ) * 2 ^ (e₁ + e₂) = m₁ * 2 ^ e₁ * (m₂ * 2 ^ e₂) := by
      rw [zpow_add₀ two_ne_zero]
      push_cast
      ring
    rw [hproduct]
    exact hround

end Arithmetic

/-! ### Decimals -/

section Decimals

variable {x : Float} {m j d : ℕ}

/-- What a product or a quotient is rounded to is the double that has been taken apart so. -/
theorem ofModel_pack_eq {u : UnpackedFloat} (h : Consists x false m j)
    (hu : u = unpacked false m (-1074 + j)) : Float.ofModel (.pack u) = x := by
  have hunpack : x.toModel.unpack = unpacked false m (-1074 + j) := h.unpack_eq
  rw [hu, ← hunpack]
  exact ofModel_pack_unpack x

/-- An integer of at most 53 bits is a double. -/
theorem unpack_toFloat {n : UInt64} (hn : n ≠ 0) (hlt : n.toNat < 2 ^ 53) :
    ∃ (m₁ : ℕ) (e₁ : ℤ) (h₁ : 0 < m₁), n.toFloat.toModel.unpack = .finite .positive m₁ e₁ h₁ ∧
      2 ^ 52 ≤ m₁ ∧ m₁ * 2 ^ e₁ = (n.toNat : ℚ) := by
  have hpos : n.toNat ≠ 0 := fun h => hn (UInt64.toNat_inj.mp h)
  have hlog : n.toNat.log2 < 53 := (Nat.log2_lt hpos).mpr hlt
  -- The mantissa is filled up.
  let k := 52 - n.toNat.log2
  have hbits : bitLength (n.toNat * 2 ^ k) = 52 + 1 := by
    rw [bitLength_mul_two_pow hpos, bitLength, if_neg hpos]
    omega
  obtain ⟨hfull, hless⟩ :=
    (bitLength_eq_iff (Nat.mul_ne_zero hpos (Nat.two_pow_pos k).ne')).mp hbits
  have hrepresents : Layout.double.Represents (n.toNat * 2 ^ k) (1022 + n.toNat.log2) := by
    refine ⟨hless, Or.inr hfull, ?_⟩
    show _ + (1022 + n.toNat.log2) * 2 ^ 52 < 2047 * 2 ^ 52
    omega
  have hexponent : (-1074 + ((1022 + n.toNat.log2 : ℕ) : ℤ)) = -(k : ℤ) := by omega
  have hdecrease : decreaseExponent n.toNat 0
      (Format.binary64.targetExponent (totalExponent n.toNat 0)) =
        (n.toNat * 2 ^ k, -(k : ℤ)) := by
    have hshift : (0 - max ((n.toNat.log2 : ℤ) + 0 - 52) (-1074)).toNat = k := by omega
    rw [targetExponent_eq, decreaseExponent, hshift, Nat.shiftLeft_eq, Int.zero_sub]
  have hnormalize : normalize .binary64 (n.toNat : ℤ) 0 .positive =
      unpacked false (n.toNat * 2 ^ k) (-1074 + ((1022 + n.toNat.log2 : ℕ) : ℤ)) := by
    have hcompare : compare (n.toNat : ℤ) 0 = .gt :=
      compare_gt_iff_gt.mpr (Int.natCast_pos.mpr (Nat.pos_of_ne_zero hpos))
    rw [UnpackedFloat.normalize, hcompare]
    dsimp only
    rw [Int.toNat_natCast, UnpackedFloat.round]
    dsimp only
    rw [hdecrease]
    refine roundWithAccuracy_eq hrepresents (.exact _) ?_ ?_ false
    · have hlog' : 52 ≤ (n.toNat * 2 ^ k).log2 := (Nat.le_log2 (by omega)).mpr hfull
      rw [targetExponent_eq]
      show -(k : ℤ) ≤ max (((n.toNat * 2 ^ k).log2 : ℤ) + -(k : ℤ) - 52) (-1074)
      omega
    · rw [hexponent]
      exact roundsTo_self _ _ _
  obtain ⟨y, hy⟩ := exists_of_represents hrepresents false
  have htoFloat : n.toFloat = y := ofModel_pack_eq hy hnormalize
  have hunpack : y.toModel.unpack =
      unpacked false (n.toNat * 2 ^ k) (-1074 + ((1022 + n.toNat.log2 : ℕ) : ℤ)) := hy.unpack_eq
  refine ⟨n.toNat * 2 ^ k, -(k : ℤ), by omega, ?_, hfull, ?_⟩
  · rw [htoFloat, hunpack, unpacked_of_ne_zero _ (by omega)]
    congr 1
  · rw [zpow_neg, zpow_natCast]
    push_cast
    exact mul_inv_cancel_right₀ (pow_ne_zero k two_ne_zero) _

/-- A double that is the integer given. -/
def isInteger (x : Float) (n : ℕ) : Bool :=
  match x.toModel.unpack with
  | .finite .positive m e _ => -52 ≤ e && m * 2 ^ (e + 52).toNat == n * 2 ^ 52
  | _ => false

/-- The powers of ten up to the 22nd are doubles. -/
theorem isInteger_powers : ∀ e : Fin Float.exactlyRepresentablePowersOfTen.size,
    isInteger Float.exactlyRepresentablePowersOfTen[e] (10 ^ e.val) = true := by
  decide

theorem stands_of_isInteger {n : ℕ} (h : isInteger x n = true) :
    Stands x.toModel.unpack n := by
  unfold isInteger at h
  split at h
  · next m e hm hunpack =>
    rw [Bool.and_eq_true, decide_eq_true_eq, beq_iff_eq] at h
    refine ⟨m, e, hm, hunpack, ?_⟩
    have hcast : (m : ℚ) * 2 ^ (e + 52).toNat = n * 2 ^ 52 := by exact_mod_cast h.2
    have hexponent : (((e + 52).toNat : ℕ) : ℤ) = e + 52 := Int.toNat_of_nonneg (by omega)
    rw [← zpow_natCast, hexponent, zpow_add₀ two_ne_zero, ← mul_assoc] at hcast
    exact mul_right_cancel₀ (zpow_ne_zero _ two_ne_zero) hcast
  · cases h

/-- The powers of ten that are not computed lie beyond what is rounded to a double. -/
theorem exponent_bounds {e : ℤ} {tight : Bool} (h : Layout.double.Represents m j) (hm : m ≠ 0)
    (hround : RoundsTo m (-1074 + j) tight (d * 10 ^ e)) :
    d ≠ 0 ∧ e ≤ 2048 ∧ -(2048 + d.log2 : ℤ) ≤ e := by
  obtain ⟨hlow, hhigh⟩ := hround.bounds h hm
  have hpow : (0 : ℚ) < 10 ^ e := zpow_pos (by norm_num) e
  have hd : d ≠ 0 := by
    rintro rfl
    rw [Nat.cast_zero, zero_mul] at hlow
    exact absurd hlow (not_le.mpr (zpow_pos two_pos _))
  refine ⟨hd, ?_, ?_⟩
  · by_contra hlarge
    have hone : (1 : ℚ) ≤ d := by exact_mod_cast Nat.one_le_iff_ne_zero.mpr hd
    have hlt : (2 : ℚ) ^ e < 2 ^ (1024 : ℤ) := by
      calc (2 : ℚ) ^ e ≤ 10 ^ e := zpow_le_zpow_left₀ (by omega) two_pos.le (by norm_num)
        _ ≤ d * 10 ^ e := le_mul_of_one_le_left hpow.le hone
        _ < 2 ^ (1024 : ℤ) := hhigh
    exact absurd (exponent_lt hlt) (by omega)
  · by_contra hsmall
    obtain ⟨k, rfl⟩ : ∃ k : ℕ, e = -k := ⟨(-e).toNat, by omega⟩
    have hbase : (10 : ℚ) ^ (-k : ℤ) ≤ 2 ^ (-k : ℤ) := by
      rw [zpow_neg, zpow_neg, zpow_natCast, zpow_natCast]
      exact inv_anti₀ (pow_pos two_pos k) (pow_le_pow_left₀ two_pos.le (by norm_num) k)
    have hlog : ((d : ℕ) : ℚ) < ((2 ^ (d.log2 + 1) : ℕ) : ℚ) := Nat.cast_lt.mpr Nat.lt_log2_self
    push_cast at hlog
    have hlt : (2 : ℚ) ^ (-1075 : ℤ) < 2 ^ ((d.log2 + 1 : ℕ) + -k : ℤ) := by
      calc (2 : ℚ) ^ (-1075 : ℤ) ≤ d * 10 ^ (-k : ℤ) := hlow
        _ < 2 ^ (d.log2 + 1) * 10 ^ (-k : ℤ) := mul_lt_mul_of_pos_right hlog hpow
        _ ≤ 2 ^ (d.log2 + 1) * 2 ^ (-k : ℤ) :=
            mul_le_mul_of_nonneg_left hbase (pow_nonneg two_pos.le _)
        _ = 2 ^ ((d.log2 + 1 : ℕ) + -k : ℤ) := two_pow_mul_zpow _ _
    have hlt := exponent_lt hlt
    omega

/-- **A decimal is rounded to the double in whose interval it lies**, by arithmetic on what has been
taken apart. -/
theorem model_ofScientific_eq {e : ℤ} (h : Layout.double.Represents m j) (hm : m ≠ 0)
    (hround : RoundsTo m (-1074 + j) (m == 2 ^ 52 && j != 0) (d * 10 ^ e)) :
    UnpackedFloat.ofScientific .binary64 d e = unpacked false m (-1074 + j) := by
  obtain ⟨hd, hlarge, hsmall⟩ := exponent_bounds h hm hround
  have hnotLarge : ¬ e > 2 ^ Format.binary64.exponentBits := by
    show ¬ e > 2048
    omega
  have hnotSmall : ¬ e < -((2 ^ Format.binary64.exponentBits : ℤ) + d.log2) := by
    show ¬ e < -(2048 + d.log2 : ℤ)
    omega
  unfold UnpackedFloat.ofScientific
  rw [dif_neg hd, if_neg hnotLarge, if_neg hnotSmall]
  have hpos : 0 < d := Nat.pos_of_ne_zero hd
  split
  · next hnonneg =>
    have hlong : 2 ^ 52 ≤ d <<< Format.binary64.mantissaBits := by
      show 2 ^ 52 ≤ d <<< 53
      rw [Nat.shiftLeft_eq]
      omega
    obtain ⟨k, rfl⟩ := Int.eq_ofNat_of_zero_le hnonneg
    refine mul_eq _ hlong (stands_finite 0 _) h ?_
    have hvalue : ((d <<< 53 : ℕ) : ℚ) * 2 ^ (-53 : ℤ) * ((10 ^ k : ℕ) * 2 ^ (0 : ℤ)) =
        d * 10 ^ (k : ℤ) := by
      rw [cast_shiftLeft, mul_assoc (d : ℚ), two_pow_mul_zpow, zpow_natCast]
      push_cast
      simp
    rw [← hvalue] at hround
    exact hround
  · next hneg =>
    obtain ⟨k, rfl⟩ : ∃ k : ℕ, e = -k := ⟨(-e).toNat, by omega⟩
    refine div_eq (stands_finite 0 _) (stands_finite 0 _) h ?_
    have hvalue : (d : ℚ) * 2 ^ (0 : ℤ) / ((10 ^ (- -(k : ℤ)).toNat : ℕ) * 2 ^ (0 : ℤ)) =
        d * 10 ^ (-(k : ℤ)) := by
      rw [neg_neg, Int.toNat_natCast, zpow_neg, zpow_natCast]
      push_cast
      simp [div_eq_mul_inv]
    rw [← hvalue] at hround
    exact hround

/-- **A decimal is read as the double in whose interval it lies.** -/
theorem ofScientific_eq {s : Bool} {k : ℕ} (h : Consists x false m j) (hm : m ≠ 0)
    (hround : RoundsTo m (-1074 + j) (m == 2 ^ 52 && j != 0)
      (d * 10 ^ (if s then -(k : ℤ) else k))) : Float.ofScientific d s k = x := by
  obtain ⟨hd, -, -⟩ := exponent_bounds h.represents hm hround
  unfold Float.ofScientific
  split
  · next hfast =>
    have hsize : Float.exactlyRepresentablePowersOfTen.size = 23 := rfl
    have hword : d.toUInt64.toNat = d := Nat.mod_eq_of_lt (hfast.1.trans (by norm_num))
    have hne : d.toUInt64 ≠ 0 := by
      intro hzero
      rw [hzero] at hword
      exact hd hword.symm
    obtain ⟨m₁, e₁, h₁, hunpack, hlong, hvalue⟩ := unpack_toFloat hne (hword.trans_lt hfast.1)
    rw [hword] at hvalue
    have hpower := stands_of_isInteger (isInteger_powers ⟨k, by omega⟩)
    push_cast at hpower
    cases s with
    | false =>
      refine ofModel_pack_eq h ?_
      rw [hunpack]
      refine mul_eq h₁ hlong hpower h.represents ?_
      rw [hvalue, ← zpow_natCast]
      exact hround
    | true =>
      refine ofModel_pack_eq h (div_eq ⟨m₁, e₁, h₁, hunpack, hvalue⟩ hpower h.represents ?_)
      rw [div_eq_mul_inv, ← zpow_natCast, ← zpow_neg]
      exact hround
  · refine ofModel_pack_eq h (model_ofScientific_eq h.represents hm ?_)
    cases s with
    | false => exact hround
    | true =>
      rw [Int.negOfNat_eq]
      exact hround

end Decimals

/-! ### The number of digits -/

theorem lt_pow_length (n : ℕ) : n < 10 ^ (Nat.toDigits 10 n).length :=
  (Nat.length_toDigits_le_iff (by norm_num) Nat.length_toDigits_pos).mp le_rfl

theorem pow_length_le {n : ℕ} (hn : n ≠ 0) : 10 ^ ((Nat.toDigits 10 n).length - 1) ≤ n := by
  rcases Nat.eq_zero_or_pos ((Nat.toDigits 10 n).length - 1) with hzero | hpos
  · rw [hzero]
    exact Nat.one_le_iff_ne_zero.mpr hn
  · by_contra hlt
    rw [not_le, ← Nat.length_toDigits_le_iff (by norm_num) hpos] at hlt
    omega

/-- All doubles lie within the powers of ten that are computed. -/
theorem two_pow_le_ten_pow : (2 : ℚ) ^ 1075 ≤ 10 ^ 330 := by
  have h : (2 : ℚ) ^ 215 ≤ 10 ^ 66 := by norm_num
  calc (2 : ℚ) ^ 1075 = (2 ^ 215) ^ 5 := by rw [← pow_mul]
    _ ≤ (10 ^ 66) ^ 5 := pow_le_pow_left₀ (by positivity) h 5
    _ = 10 ^ 330 := by rw [← pow_mul]

/-- **Digits and an exponent are read as the double in whose interval the decimal lies.** -/
theorem nearestFloat_eq {x : Float} {m j d : ℕ} {e : ℤ} (h : Consists x false m j) (hm : m ≠ 0)
    (hround : RoundsTo m (-1074 + j) (m == 2 ^ 52 && j != 0) (d * 10 ^ e)) :
    nearestFloat d e = x := by
  obtain ⟨hd, -, -⟩ := exponent_bounds h.represents hm hround
  obtain ⟨hlow, hhigh⟩ := hround.bounds h.represents hm
  have hten : (10 : ℚ) ≠ 0 := by norm_num
  have hpow : (0 : ℚ) < 10 ^ e := zpow_pos (by norm_num) e
  have hlength : 0 < (Nat.toDigits 10 d).length := Nat.length_toDigits_pos
  have hnotLarge : ¬ (400 : ℤ) < (Nat.toDigits 10 d).length + e := by
    intro hlarge
    have hle : ((10 ^ ((Nat.toDigits 10 d).length - 1) : ℕ) : ℚ) ≤ d :=
      Nat.cast_le.mpr (pow_length_le hd)
    push_cast at hle
    refine absurd hhigh (not_lt.mpr ?_)
    calc (2 : ℚ) ^ (1024 : ℤ) ≤ 2 ^ (1075 : ℤ) := zpow_le_zpow_right₀ one_le_two (by norm_num)
      _ ≤ 10 ^ (330 : ℤ) := two_pow_le_ten_pow
      _ ≤ 10 ^ (((Nat.toDigits 10 d).length - 1 : ℕ) + e : ℤ) :=
          zpow_le_zpow_right₀ (by norm_num) (by omega)
      _ = 10 ^ ((Nat.toDigits 10 d).length - 1) * 10 ^ e := by
          rw [zpow_add₀ hten, zpow_natCast]
      _ ≤ d * 10 ^ e := mul_le_mul_of_nonneg_right hle hpow.le
  have hnotSmall : ¬ ((Nat.toDigits 10 d).length + e : ℤ) < -400 := by
    intro hsmall
    have hlt : (d : ℚ) < ((10 ^ (Nat.toDigits 10 d).length : ℕ) : ℚ) :=
      Nat.cast_lt.mpr (lt_pow_length d)
    push_cast at hlt
    refine absurd hlow (not_le.mpr ?_)
    calc (d : ℚ) * 10 ^ e < 10 ^ (Nat.toDigits 10 d).length * 10 ^ e :=
          mul_lt_mul_of_pos_right hlt hpow
      _ = 10 ^ ((Nat.toDigits 10 d).length + e : ℤ) := by rw [zpow_add₀ hten, zpow_natCast]
      _ ≤ 10 ^ (-330 : ℤ) := zpow_le_zpow_right₀ (by norm_num) (by omega)
      _ ≤ 2 ^ (-1075 : ℤ) := inv_anti₀ (pow_pos two_pos _) two_pow_le_ten_pow
  unfold nearestFloat
  rw [if_neg hd]
  dsimp only
  rw [if_neg hnotLarge, if_neg hnotSmall]
  split
  · next hnonneg =>
    obtain ⟨k, rfl⟩ := Int.eq_ofNat_of_zero_le hnonneg
    refine ofScientific_eq h hm ?_
    have hvalue : ((d * Nat.pow 10 k : ℕ) : ℚ) * 10 ^ ((0 : ℕ) : ℤ) = d * 10 ^ (k : ℤ) := by
      rw [Nat.pow_eq, zpow_natCast, zpow_natCast]
      push_cast
      ring
    rw [← hvalue] at hround
    exact hround
  · next hneg =>
    refine ofScientific_eq h hm ?_
    have hexponent : -(((-e).toNat : ℕ) : ℤ) = e := by omega
    rw [if_pos rfl, hexponent]
    exact hround

end AgentPipeline.Decimal
