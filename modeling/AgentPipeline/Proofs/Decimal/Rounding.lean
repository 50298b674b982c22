import AgentPipeline.Proofs.Decimal.Unpacking

/-!
# Rounding to a double

Arithmetic on doubles computes a mantissa, which may be cut off, together with a round bit and a
sticky bit.  These tell where the exact number lies above the mantissa, and they are kept up when the
mantissa is shifted to the exponent of the result.  There it is rounded to the nearest integer, in
the middle to the even one.  So every number in the interval around a double is rounded to this
double.  Below a power of two the interval is only half as wide, since the numbers there are rounded
at the next smaller exponent; what is rounded up to the power of two loses a bit again.

## Main definitions

* `Before`, `Inside` — bounds that count or do not count.
* `Tells em x` — a mantissa and the two bits behind it tell where `x` lies.
* `RoundsTo m e tight x` — `x` lies in the interval around `m · 2 ^ e`.

## Main results

* `Tells.roundedMantissa_eq` — a mantissa is rounded to the nearest integer.
* `targetExponent_of_roundsTo` — at which exponent a number in an interval is rounded.
* `roundWithAccuracy_eq` — **a number is rounded to the double in whose interval it lies.**
-/

namespace AgentPipeline.Decimal

open Float.Model Float.Model.UnpackedFloat

/-! ### Between two bounds -/

/-- One number comes before another; it may be equal to it when `closed` is set. -/
def Before (closed : Bool) (x y : ℚ) : Prop :=
  if closed then x ≤ y else x < y

namespace Before

variable {closed : Bool} {x y z : ℚ}

theorem le (h : Before closed x y) : x ≤ y := by
  cases closed
  · exact le_of_lt h
  · exact h

theorem of_lt (h : x < y) : Before closed x y := by
  cases closed
  · exact h
  · exact le_of_lt h

theorem trans_le (h : Before closed x y) (hyz : y ≤ z) : Before closed x z := by
  cases closed
  · exact lt_of_lt_of_le h hyz
  · exact le_trans h hyz

theorem of_le_of_before (hxy : x ≤ y) (h : Before closed y z) : Before closed x z := by
  cases closed
  · exact lt_of_le_of_lt hxy h
  · exact le_trans hxy h

variable {c : ℚ} (hc : 0 < c)
include hc

theorem div_left_iff : Before closed (x / c) y ↔ Before closed x (y * c) := by
  cases closed
  · exact div_lt_iff₀ hc
  · exact div_le_iff₀ hc

theorem div_right_iff : Before closed x (y / c) ↔ Before closed (x * c) y := by
  cases closed
  · exact lt_div_iff₀ hc
  · exact le_div_iff₀ hc

end Before

/-- A number between two bounds; these count when `closed` is set. -/
def Inside (closed : Bool) (low high x : ℚ) : Prop :=
  Before closed low x ∧ Before closed x high

namespace Inside

variable {closed : Bool} {low high x : ℚ}

/-- A wider interval has all the numbers of a narrower one. -/
theorem mono {low' high' : ℚ} (h : Inside closed low high x) (hlow : low' ≤ low)
    (hhigh : high ≤ high') : Inside closed low' high' x :=
  ⟨.of_le_of_before hlow h.1, h.2.trans_le hhigh⟩

variable {c : ℚ} (hc : 0 < c)
include hc

/-- The bounds in another unit. -/
theorem div_iff : Inside closed low high (x / c) ↔ Inside closed (low * c) (high * c) x :=
  and_congr (Before.div_right_iff hc) (Before.div_left_iff hc)

end Inside

/-! ### The bits behind a mantissa -/

/-- A number that a mantissa is the whole part of, the round bit being its first bit behind it.  The
sticky bit tells whether there is any rest. -/
def Tells (em : ExtendedMantissa) (x : ℚ) : Prop :=
  ∃ rest : ℚ, x = em.mantissa + (if em.roundBit then 1 / 2 else 0) + rest ∧
    0 ≤ rest ∧ rest < 1 / 2 ∧ (em.stickyBit = true ↔ rest ≠ 0)

namespace Tells

variable {em : ExtendedMantissa} {x : ℚ}

/-- The bits are kept up when the mantissa loses one. -/
theorem shiftRightOne (h : Tells em x) : Tells em.shiftRightOne (x / 2) := by
  obtain ⟨rest, rfl, hnonneg, hlt, hsticky⟩ := h
  obtain ⟨m, r, s⟩ := em
  have hsplit : ((m % 2 : ℕ) : ℚ) + 2 * ((m / 2 : ℕ) : ℚ) = m := by
    exact_mod_cast Nat.mod_add_div m 2
  have hbit : (if (m % 2 != 0) = true then 1 / 2 else 0 : ℚ) = ((m % 2 : ℕ) : ℚ) / 2 := by
    rcases Nat.mod_two_eq_zero_or_one m with hm | hm
    · simp [hm]
    · simp [hm]
  -- What was the round bit is now part of the rest.
  refine ⟨(if r then 1 / 2 else 0) / 2 + rest / 2, ?_, ?_, ?_, ?_⟩
  · show _ = ((m / 2 : ℕ) : ℚ) + (if (m % 2 != 0) = true then 1 / 2 else 0) + _
    rw [hbit, ← hsplit]
    ring
  · cases r
    · simp only [Bool.false_eq_true, if_false]
      linarith
    · simp only [if_true]
      linarith
  · cases r
    · simp only [Bool.false_eq_true, if_false]
      linarith
    · simp only [if_true]
      linarith
  · show (r || s) = true ↔ _
    cases r
    · simpa using hsticky
    · simp only [Bool.true_or, if_true, true_iff]
      exact ne_of_gt (by linarith)

theorem shiftRight (h : Tells em x) (n : ℕ) : Tells (em >>> n) (x / 2 ^ n) := by
  induction n with
  | zero =>
    rw [pow_zero, div_one]
    exact h
  | succ n ih =>
    rw [pow_succ, ← div_div]
    exact ih.shiftRightOne

/-- The mantissa is the whole part of the number. -/
theorem bounds (h : Tells em x) : (em.mantissa : ℚ) ≤ x ∧ x < em.mantissa + 1 := by
  obtain ⟨rest, rfl, hnonneg, hlt, -⟩ := h
  cases em.roundBit
  · simp only [Bool.false_eq_true, if_false]
    exact ⟨by linarith, by linarith⟩
  · simp only [if_true]
    exact ⟨by linarith, by linarith⟩

/-- **A mantissa is rounded to the nearest integer**, in the middle to the even one. -/
theorem roundedMantissa_eq (h : Tells em x) {n : ℕ}
    (hn : Inside (n % 2 == 0) (n - 1 / 2) (n + 1 / 2) x) : em.roundedMantissa = n := by
  have hlow := hn.1.le
  have hhigh := hn.2.le
  have hlt {a b : ℕ} (hab : (a : ℚ) < b) : a < b := by exact_mod_cast hab
  obtain ⟨rest, rfl, hnonneg, hrest, hsticky⟩ := h
  obtain ⟨m, r, s⟩ := em
  cases s with
  | false =>
    have hzero : rest = 0 := by simpa using hsticky
    subst hzero
    cases r with
    | false =>
      simp only [Bool.false_eq_true, if_false] at hlow hhigh
      have hle : m < n + 1 := hlt (by push_cast; linarith)
      have hge : n < m + 1 := hlt (by push_cast; linarith)
      show m = n
      omega
    | true =>
      simp only [if_true] at hlow hhigh hn
      have hle : m < n + 1 := hlt (by push_cast; linarith)
      have hge : n < m + 2 := hlt (by push_cast; linarith)
      -- In the middle only the even one of the two neighbours has the number in its interval.
      have heven : n % 2 = 0 := by
        by_contra hodd
        have hopen : (n % 2 == 0) = false := by simpa using hodd
        rw [hopen] at hn
        have hleft : (n : ℚ) - 1 / 2 < m + 1 / 2 + 0 := hn.1
        have hright : (m : ℚ) + 1 / 2 + 0 < n + 1 / 2 := hn.2
        have hle : m < n := hlt (by linarith)
        have hge : n < m + 1 := hlt (by push_cast; linarith)
        omega
      show m + m % 2 = n
      omega
  | true =>
    have hpos : 0 < rest := lt_of_le_of_ne hnonneg (Ne.symm (by simpa using hsticky))
    cases r with
    | false =>
      simp only [Bool.false_eq_true, if_false] at hlow hhigh
      have hle : m < n + 1 := hlt (by push_cast; linarith)
      have hge : n < m + 1 := hlt (by push_cast; linarith)
      show m = n
      omega
    | true =>
      simp only [if_true] at hlow hhigh
      have hle : m < n := hlt (by linarith)
      have hge : n < m + 2 := hlt (by push_cast; linarith)
      show m + 1 = n
      omega

/-- A whole number has no rest. -/
theorem exact (m : ℕ) : Tells (.ofMantissaAndAccuracy m .exact) m := by
  refine ⟨0, ?_, le_refl 0, one_half_pos, ?_⟩
  · show (m : ℚ) = m + (if false = true then 1 / 2 else 0) + 0
    simp
  · show false = true ↔ (0 : ℚ) ≠ 0
    simp

/-- The rest of a division tells where the quotient lies. -/
theorem quotient (m : ℕ) {d : ℕ} (hd : 0 < d) :
    Tells (.ofMantissaAndAccuracy (m / d) (accuracyOfFraction (m % d) d)) (m / d : ℚ) := by
  have hd' : (0 : ℚ) < d := Nat.cast_pos.mpr hd
  have hsplit : (m / d : ℚ) = ((m / d : ℕ) : ℚ) + ((m % d : ℕ) : ℚ) / d := by
    rw [add_div' _ _ _ hd'.ne', mul_comm]
    congr 1
    exact_mod_cast (Nat.div_add_mod m d).symm
  have hhalf : ((m % d : ℕ) : ℚ) / d < 1 / 2 ↔ 2 * (m % d) < d := by
    rw [div_lt_div_iff₀ hd' two_pos, one_mul, mul_comm]
    exact_mod_cast Iff.rfl
  have hless : ((m % d : ℕ) : ℚ) / d < 1 := by
    rw [div_lt_one hd']
    exact_mod_cast Nat.mod_lt m hd
  have hmiddle : 2 * (m % d) = d → ((m % d : ℕ) : ℚ) / d = 1 / 2 := by
    intro heq
    rw [div_eq_div_iff hd'.ne' two_ne_zero, one_mul, mul_comm]
    exact_mod_cast heq
  rw [hsplit, accuracyOfFraction]
  by_cases hzero : m % d = 0
  · rw [if_pos hzero, hzero, Nat.cast_zero, zero_div, add_zero]
    exact exact _
  · have hpos : (0 : ℚ) < ((m % d : ℕ) : ℚ) / d :=
      div_pos (Nat.cast_pos.mpr (Nat.pos_of_ne_zero hzero)) hd'
    rw [if_neg hzero]
    rcases Nat.lt_trichotomy (2 * (m % d)) d with hlt | heq | hgt
    · rw [compare_lt_iff_lt.mpr hlt]
      refine ⟨((m % d : ℕ) : ℚ) / d, ?_, hpos.le, hhalf.mpr hlt, ?_⟩
      · show _ = ((m / d : ℕ) : ℚ) + (if false = true then 1 / 2 else 0) + _
        simp
      · show true = true ↔ _
        simpa using hpos.ne'
    · rw [compare_eq_iff_eq.mpr heq, hmiddle heq]
      refine ⟨0, ?_, le_refl 0, one_half_pos, ?_⟩
      · show _ = ((m / d : ℕ) : ℚ) + (if true = true then 1 / 2 else 0) + 0
        simp
      · show false = true ↔ _
        simp
    · have hmore : 1 / 2 < ((m % d : ℕ) : ℚ) / d := by
        rw [div_lt_div_iff₀ two_pos hd', one_mul, mul_comm]
        exact_mod_cast hgt
      rw [compare_gt_iff_gt.mpr hgt]
      refine ⟨((m % d : ℕ) : ℚ) / d - 1 / 2, ?_, by linarith, by linarith, ?_⟩
      · show _ = ((m / d : ℕ) : ℚ) + (if true = true then 1 / 2 else 0) + _
        simp
      · show true = true ↔ _
        simpa using (sub_pos.mpr hmore).ne'

end Tells

/-! ### Shifting to an exponent -/

/-- The numbers that are rounded to `m · 2 ^ e`. -/
def RoundsTo (m : ℕ) (e : ℤ) (tight : Bool) (x : ℚ) : Prop :=
  Inside (m % 2 == 0) ((m - if tight then 1 / 4 else 1 / 2) * 2 ^ e) ((m + 1 / 2) * 2 ^ e) x

theorem two_pow_mul_zpow (k : ℕ) (e : ℤ) : (2 : ℚ) ^ k * 2 ^ e = 2 ^ (k + e) := by
  rw [zpow_add₀ two_ne_zero, zpow_natCast]

theorem exponent_lt {k l : ℤ} (h : (2 : ℚ) ^ k < 2 ^ l) : k < l :=
  (zpow_lt_zpow_iff_right₀ one_lt_two).mp h

/-- What is rounded to a double has no more bits than the mantissa of one. -/
theorem RoundsTo.lt_zpow {m : ℕ} {e : ℤ} {tight : Bool} {x : ℚ} (hround : RoundsTo m e tight x)
    (hm : m < 2 ^ 53) : x < 2 ^ (53 + e) := by
  have hm' : ((m + 1 : ℕ) : ℚ) ≤ ((2 ^ 53 : ℕ) : ℚ) := Nat.cast_le.mpr hm
  push_cast at hm'
  calc x ≤ (m + 1 / 2) * 2 ^ e := hround.2.le
    _ < 2 ^ 53 * 2 ^ e := mul_lt_mul_of_pos_right (by linarith) (zpow_pos two_pos e)
    _ = 2 ^ (53 + e) := two_pow_mul_zpow 53 e

theorem targetExponent_eq (q : ℕ) (e : ℤ) :
    Format.binary64.targetExponent (totalExponent q e) = max (q.log2 + e - 52) (-1074) := by
  have hmin : Format.binary64.minExponent = -1074 := rfl
  have hbits : Format.binary64.mantissaBits = 53 := rfl
  rw [Format.targetExponent, totalExponent, hmin, hbits]
  congr 1
  omega

/-- Shifted to an exponent that is not below its own, a mantissa tells where the number lies in the
units of that exponent. -/
theorem shiftToExponent_eq {q : ℕ} {a : Accuracy} {y : ℚ} {e t : ℤ}
    (h : Tells (.ofMantissaAndAccuracy q a) y) (het : e ≤ t) :
    (shiftToExponent q e a t).2 = t ∧
      Tells (shiftToExponent q e a t).1 (y * 2 ^ e / 2 ^ t) := by
  have hamount : (((t - e).toNat : ℕ) : ℤ) = t - e := Int.toNat_of_nonneg (sub_nonneg.mpr het)
  have hpow : (2 : ℚ) ^ t = 2 ^ (t - e).toNat * 2 ^ e := by
    rw [← zpow_natCast, hamount, ← zpow_add₀ two_ne_zero, Int.sub_add_cancel]
  constructor
  · show e + (((t - e).toNat : ℕ) : ℤ) = t
    omega
  · rw [hpow, mul_div_mul_right _ _ (zpow_ne_zero e two_ne_zero)]
    exact h.shiftRight _

/-- A mantissa that is not too long stays. -/
theorem shiftToTargetExponent_of_lt {m : ℕ} (hm : m < 2 ^ 53) {e : ℤ} (he : -1074 ≤ e) :
    shiftToTargetExponent .binary64 m e .exact = (.ofMantissaAndAccuracy m .exact, e) := by
  have hlog : m.log2 < 53 := by
    rcases Nat.eq_zero_or_pos m with rfl | hpos
    · decide
    · exact (Nat.log2_lt hpos.ne').mpr hm
  have hnone : (max (m.log2 + e - 52) (-1074) - e).toNat = 0 := by omega
  rw [shiftToTargetExponent, targetExponent_eq, shiftToExponent, hnone]
  congr 1
  exact Int.add_zero e

/-- A mantissa that has become too long by rounding up loses one bit. -/
theorem shiftToTargetExponent_two_pow {e : ℤ} (he : -1074 ≤ e) :
    (shiftToTargetExponent .binary64 (2 ^ 53) e .exact).1.mantissa = 2 ^ 52 ∧
      (shiftToTargetExponent .binary64 (2 ^ 53) e .exact).2 = e + 1 := by
  have hone : (max (((2 ^ 53 : ℕ).log2 : ℤ) + e - 52) (-1074) - e).toNat = 1 := by
    rw [Nat.log2_two_pow]
    omega
  rw [shiftToTargetExponent, targetExponent_eq, shiftToExponent, hone]
  exact ⟨rfl, rfl⟩

/-! ### Rounding -/

section Rounding

variable {m j q : ℕ} {e : ℤ} {a : Accuracy} {y : ℚ}

/-- The exponent that a number is rounded at is the one of the double that it is rounded to, unless
that is a power of two and the number lies below it: then it is one less. -/
theorem targetExponent_of_roundsTo (h : Layout.double.Represents m j)
    (hlow : (q : ℚ) ≤ y) (hhigh : y < q + 1)
    (hround : RoundsTo m (-1074 + j) (m == 2 ^ 52 && j != 0) (y * 2 ^ e))
    (he : e ≤ max (q.log2 + e - 52) (-1074)) :
    max (q.log2 + e - 52) (-1074) = -1074 + j ∨
      max (q.log2 + e - 52) (-1074) = -1074 + j - 1 ∧ m = 2 ^ 52 ∧ 0 < j ∧
        y * 2 ^ e < 2 ^ 52 * 2 ^ (-1074 + j : ℤ) := by
  have hpos : (0 : ℚ) < 2 ^ (-1074 + j : ℤ) := zpow_pos two_pos _
  -- The number has as many bits as its whole part.
  have hless : y * 2 ^ e < 2 ^ (q.log2 + 1 + e) := by
    have hq : ((q + 1 : ℕ) : ℚ) ≤ ((2 ^ (q.log2 + 1) : ℕ) : ℚ) := Nat.cast_le.mpr Nat.lt_log2_self
    push_cast at hq
    calc y * 2 ^ e < 2 ^ (q.log2 + 1) * 2 ^ e :=
          mul_lt_mul_of_pos_right (hhigh.trans_le hq) (zpow_pos two_pos e)
      _ = 2 ^ (q.log2 + 1 + e) := two_pow_mul_zpow (q.log2 + 1) e
  have hmost {l : ℤ} (hl : y * 2 ^ e < 2 ^ l) : q = 0 ∨ q.log2 + e < l := by
    refine (Nat.eq_zero_or_pos q).imp_right fun hq => exponent_lt (lt_of_le_of_lt ?_ hl)
    have hle : ((2 ^ q.log2 : ℕ) : ℚ) ≤ (q : ℚ) := Nat.cast_le.mpr (Nat.log2_self_le hq.ne')
    push_cast at hle
    calc (2 : ℚ) ^ (q.log2 + e) = 2 ^ q.log2 * 2 ^ e := (two_pow_mul_zpow _ e).symm
      _ ≤ y * 2 ^ e := mul_le_mul_of_nonneg_right (hle.trans hlow) (zpow_pos two_pos e).le
  have hupper : y * 2 ^ e < 2 ^ (53 + (-1074 + j) : ℤ) := hround.lt_zpow h.lt
  have hlog0 : Nat.log2 0 = 0 := rfl
  by_cases hfull : 2 ^ 52 * 2 ^ (-1074 + j : ℤ) ≤ y * 2 ^ e
  · have hbits : (52 : ℤ) + (-1074 + j) < q.log2 + 1 + e :=
      exponent_lt ((two_pow_mul_zpow 52 _).symm.trans_lt (hfull.trans_lt hless))
    rcases hmost hupper with rfl | hlt
    · omega
    · omega
  · rw [not_le] at hfull
    rcases Nat.eq_zero_or_pos j with rfl | hj
    · rcases hmost hupper with rfl | hlt
      · omega
      · omega
    · -- All smaller numbers with this exponent are rounded to smaller doubles.
      have hge : 2 ^ 52 ≤ m := h.full.resolve_left hj.ne'
      have hm : m = 2 ^ 52 := by
        by_contra hne
        have hmore : ((2 ^ 52 + 1 : ℕ) : ℚ) ≤ m := Nat.cast_le.mpr (by omega)
        push_cast at hmore
        refine absurd hround.1.le (not_le.mpr (hfull.trans_le ?_))
        refine mul_le_mul_of_nonneg_right ?_ hpos.le
        split
        · linarith
        · linarith
      subst hm
      have htight : (2 ^ 52 == 2 ^ 52 && j != 0) = true := by
        simpa using hj.ne'
      have hhalf : (2 : ℚ) ^ 51 * 2 ^ (-1074 + j : ℤ) ≤ y * 2 ^ e := by
        refine le_trans (mul_le_mul_of_nonneg_right ?_ hpos.le) hround.1.le
        rw [htight]
        norm_num
      have hbits : (51 : ℤ) + (-1074 + j) < q.log2 + 1 + e :=
        exponent_lt ((two_pow_mul_zpow 51 _).symm.trans_lt (hhalf.trans_lt hless))
      rw [two_pow_mul_zpow 52 _] at hfull
      rcases hmost hfull with rfl | hlt
      · omega
      · rw [← two_pow_mul_zpow 52 _] at hfull
        exact Or.inr ⟨by omega, rfl, hj, hfull⟩

/-- Rounding shifts, rounds, and shifts once more in case that the mantissa has become too long. -/
theorem roundWithAccuracy_eq_unpacked (negative : Bool) (q : ℕ) (e : ℤ) (a : Accuracy) :
    roundWithAccuracy .binary64 (signOf negative) q e a =
      let first := shiftToTargetExponent .binary64 q e a
      let final := shiftToTargetExponent .binary64 first.1.roundedMantissa first.2 .exact
      unpacked negative final.1.mantissa final.2 :=
  rfl

theorem mantissa_ofMantissaAndAccuracy (q : ℕ) (a : Accuracy) :
    (ExtendedMantissa.ofMantissaAndAccuracy q a).mantissa = q := by
  cases a with
  | exact => rfl
  | inexact o => cases o <;> rfl

/-- **A number is rounded to the double in whose interval it lies.** -/
theorem roundWithAccuracy_eq (h : Layout.double.Represents m j)
    (hy : Tells (.ofMantissaAndAccuracy q a) y)
    (he : e ≤ Format.binary64.targetExponent (totalExponent q e))
    (hround : RoundsTo m (-1074 + j) (m == 2 ^ 52 && j != 0) (y * 2 ^ e)) (negative : Bool) :
    roundWithAccuracy .binary64 (signOf negative) q e a = unpacked negative m (-1074 + j) := by
  have hbounds := hy.bounds
  rw [mantissa_ofMantissaAndAccuracy] at hbounds
  obtain ⟨hexponent, htells⟩ := shiftToExponent_eq hy he
  have hpos : (0 : ℚ) < 2 ^ (-1074 + j : ℤ) := zpow_pos two_pos _
  have hfirst : shiftToTargetExponent .binary64 q e a =
      shiftToExponent q e a (Format.binary64.targetExponent (totalExponent q e)) := rfl
  rw [roundWithAccuracy_eq_unpacked, hfirst]
  dsimp only
  rw [hexponent]
  rw [targetExponent_eq] at htells he ⊢
  rcases targetExponent_of_roundsTo h hbounds.1 hbounds.2 hround he with htarget |
    ⟨htarget, rfl, hj, hless⟩
  · have hinside : Inside (m % 2 == 0) (m - 1 / 2) (m + 1 / 2)
        (y * 2 ^ e / 2 ^ (-1074 + j : ℤ)) := by
      refine (Inside.div_iff hpos).mpr (hround.mono ?_ le_rfl)
      refine mul_le_mul_of_nonneg_right ?_ hpos.le
      split
      · linarith
      · exact le_rfl
    rw [htarget] at htells ⊢
    rw [htells.roundedMantissa_eq hinside, shiftToTargetExponent_of_lt h.lt (by omega)]
    rfl
  · -- The number is rounded up to the power of two.
    have hsplit : (2 : ℚ) ^ (-1074 + j : ℤ) = 2 * 2 ^ (-1074 + j - 1 : ℤ) := by
      rw [← zpow_one_add₀ two_ne_zero, add_sub_cancel]
    have htight : (2 ^ 52 == 2 ^ 52 && j != 0) = true := by
      simpa using hj.ne'
    have hlow := hround.1.le
    rw [htight, hsplit] at hlow
    rw [hsplit] at hless
    have hinside : Inside ((2 ^ 53 : ℕ) % 2 == 0) (((2 ^ 53 : ℕ) : ℚ) - 1 / 2)
        (((2 ^ 53 : ℕ) : ℚ) + 1 / 2) (y * 2 ^ e / 2 ^ (-1074 + j - 1 : ℤ)) := by
      show Inside true _ _ _
      have hpos : (0 : ℚ) < 2 ^ (-1074 + j - 1 : ℤ) := zpow_pos two_pos _
      refine (Inside.div_iff hpos).mpr ⟨?_, ?_⟩
      · show _ ≤ _
        refine le_trans (le_of_eq ?_) hlow
        push_cast
        rw [if_pos rfl]
        ring
      · show _ ≤ _
        refine hless.le.trans ?_
        rw [← mul_assoc]
        refine mul_le_mul_of_nonneg_right ?_ hpos.le
        norm_num
    obtain ⟨hmantissa, hnext⟩ := shiftToTargetExponent_two_pow (e := -1074 + j - 1) (by omega)
    rw [htarget] at htells ⊢
    rw [htells.roundedMantissa_eq hinside, hmantissa, hnext, Int.sub_add_cancel]

end Rounding

/-! ### The double that a number is rounded to -/

/-- Every number has a nearest integer, in the middle the even one. -/
theorem exists_nearest {y : ℚ} (hy : 0 ≤ y) :
    ∃ n : ℕ, Inside (n % 2 == 0) (n - 1 / 2) (n + 1 / 2) y := by
  have hle : ((⌊y⌋₊ : ℕ) : ℚ) ≤ y := Nat.floor_le hy
  have hlt : y < (⌊y⌋₊ : ℕ) + 1 := Nat.lt_floor_add_one y
  generalize ⌊y⌋₊ = n at hle hlt
  rcases lt_trichotomy (y - n) (1 / 2) with hless | heq | hmore
  · exact ⟨n, .of_lt (by linarith), .of_lt (by linarith)⟩
  · rcases Nat.mod_two_eq_zero_or_one n with heven | hodd
    · refine ⟨n, ?_⟩
      rw [heven]
      show _ ≤ _ ∧ _ ≤ _
      exact ⟨by linarith, by linarith⟩
    · refine ⟨n + 1, ?_⟩
      have heven : (n + 1) % 2 = 0 := by omega
      rw [heven]
      show _ ≤ _ ∧ _ ≤ _
      push_cast
      exact ⟨by linarith, by linarith⟩
  · refine ⟨n + 1, .of_lt ?_, .of_lt ?_⟩
    · push_cast
      linarith
    · push_cast
      linarith

/-- What is rounded up to a power of two lies in its interval at the next larger exponent. -/
theorem roundsTo_two_pow {x : ℚ} {e : ℤ} (hlow : (2 ^ 53 - 1 / 2) * 2 ^ e ≤ x)
    (hhigh : x ≤ 2 ^ 53 * 2 ^ e) : RoundsTo (2 ^ 52) (e + 1) true x := by
  have hpos : (0 : ℚ) < 2 ^ e := zpow_pos two_pos e
  rw [RoundsTo, zpow_add_one₀ two_ne_zero]
  show _ ≤ _ ∧ _ ≤ _
  push_cast
  simp only [if_true]
  constructor
  · linarith
  · linarith

/-- **Every number in the range of doubles lies in the interval of one**, other than zero. -/
theorem exists_roundsTo {x : ℚ} (hlow : 2 ^ (-1075 : ℤ) < x)
    (hhigh : x < (2 ^ 53 - 1) * 2 ^ (971 : ℤ)) : ∃ m j, Layout.double.Represents m j ∧ m ≠ 0 ∧
      RoundsTo m (-1074 + j) (m == 2 ^ 52 && j != 0) x := by
  have hx : 0 < x := (zpow_pos two_pos _).trans hlow
  have hbinade : (2 : ℚ) ^ Int.log 2 x ≤ x := Int.zpow_log_le_self one_lt_two hx
  have hnext : x < (2 : ℚ) ^ (Int.log 2 x + 1) := Int.lt_zpow_succ_log_self one_lt_two x
  generalize Int.log 2 x = l at hbinade hnext
  -- The exponent is that of a mantissa of 53 bits, unless it would be too small.
  obtain ⟨j, hj⟩ : ∃ j : ℕ, max (l - 52) (-1074) = -1074 + j :=
    ⟨(max (l - 52) (-1074) + 1074).toNat, by omega⟩
  have hpos : (0 : ℚ) < 2 ^ (-1074 + j : ℤ) := zpow_pos two_pos _
  have hjle : j ≤ 2045 := by
    have hlt : (2 : ℚ) ^ l < 2 ^ (1024 : ℤ) := by
      calc (2 : ℚ) ^ l ≤ x := hbinade
        _ < (2 ^ 53 - 1) * 2 ^ (971 : ℤ) := hhigh
        _ ≤ 2 ^ 53 * 2 ^ (971 : ℤ) :=
            mul_le_mul_of_nonneg_right (by norm_num) (zpow_pos two_pos _).le
        _ = 2 ^ (1024 : ℤ) := two_pow_mul_zpow 53 971
    have hl := exponent_lt hlt
    omega
  have hless : x / 2 ^ (-1074 + j : ℤ) < 2 ^ 53 := by
    rw [div_lt_iff₀ hpos, two_pow_mul_zpow]
    exact hnext.trans_le (zpow_le_zpow_right₀ one_le_two (by push_cast; omega))
  have hfull : j ≠ 0 → 2 ^ 52 ≤ x / 2 ^ (-1074 + j : ℤ) := by
    intro hne
    rw [le_div_iff₀ hpos, two_pow_mul_zpow]
    exact le_trans (zpow_le_zpow_right₀ one_le_two (by push_cast; omega)) hbinade
  obtain ⟨n, hn⟩ := exists_nearest (div_pos hx hpos).le
  have hbelow := hn.1.le
  have habove := hn.2.le
  have hcast {a b : ℕ} (hab : (a : ℚ) < b) : a < b := by exact_mod_cast hab
  have hnle : n < 2 ^ 53 + 1 := hcast (by push_cast; linarith)
  by_cases hcarry : n = 2 ^ 53
  · -- The number is rounded up to a power of two.
    subst hcarry
    push_cast at hbelow
    rw [le_div_iff₀ hpos] at hbelow
    rw [div_lt_iff₀ hpos] at hless
    have hlt : j < 2045 := by
      refine lt_of_le_of_ne hjle ?_
      rintro rfl
      refine absurd hhigh (not_lt.mpr (le_trans ?_ hbelow))
      exact mul_le_mul_of_nonneg_right (by norm_num) hpos.le
    refine ⟨2 ^ 52, j + 1, ⟨by decide, Or.inr le_rfl, ?_⟩, by decide, ?_⟩
    · show 2 ^ 52 + (j + 1) * 2 ^ 52 < 2047 * 2 ^ 52
      omega
    · have htight : (2 ^ 52 == 2 ^ 52 && j + 1 != 0) = true := by simp
      have hexponent : (-1074 + ((j + 1 : ℕ) : ℤ)) = -1074 + j + 1 := by omega
      rw [htight, hexponent]
      exact roundsTo_two_pow hbelow hless.le
  · have hround := (Inside.div_iff hpos).mp hn
    have hmantissa : j ≠ 0 → 2 ^ 52 ≤ n := by
      intro hne
      have hle := hfull hne
      have hlt : 2 ^ 52 < n + 1 := hcast (by push_cast; linarith)
      omega
    refine ⟨n, j, ⟨?_, ?_, ?_⟩, ?_, ?_⟩
    · show n < 2 ^ 53
      omega
    · exact (Nat.eq_zero_or_pos j).imp_right fun hlt => hmantissa hlt.ne'
    · show n + j * 2 ^ 52 < 2047 * 2 ^ 52
      omega
    · rintro rfl
      have hj0 : j = 0 := by
        by_contra hne
        exact absurd (hmantissa hne) (by decide)
      subst hj0
      have hhalf : ((0 : ℕ) + 1 / 2 : ℚ) * 2 ^ (-1074 + (0 : ℕ) : ℤ) = 2 ^ (-1075 : ℤ) := by
        rw [Nat.cast_zero, zero_add, one_div, ← zpow_neg_one, ← zpow_add₀ two_ne_zero]
        rfl
      rw [div_le_iff₀ hpos] at habove
      exact absurd (habove.trans_eq hhalf) (not_le.mpr hlow)
    · cases htight : (n == 2 ^ 52 && j != 0) with
      | false => exact hround
      | true =>
        rw [Bool.and_eq_true, beq_iff_eq, bne_iff_ne] at htight
        obtain ⟨rfl, hne⟩ := htight
        refine ⟨.of_lt ?_, hround.2⟩
        have hle := hfull hne
        rw [le_div_iff₀ hpos] at hle
        push_cast
        simp only [if_true]
        linarith

end AgentPipeline.Decimal
