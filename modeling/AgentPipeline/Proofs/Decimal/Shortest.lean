import AgentPipeline.Decimal.Format
import AgentPipeline.Proofs.Decimal.Reading

/-!
# The shortest digits lie in the interval

The search for the fewest digits goes through grids of decimals, each ten times finer than the one
before.  On every grid it looks at the two neighbours of the number, and it takes one only if it lies
in the interval of the number.  Seventeen digits behind the first are finer than even the smaller
half of the interval, so the search ends with a decimal in the interval at the latest there.

## Main definitions

* `Ratio.value`, `Digits.value` — the numbers that ratios and decimals are.

## Main results

* `onGrid_inside` — what is found on a grid lies in the interval.
* `roundsTo_shortest` — **the shortest digits are a decimal in the interval of the number.**
-/

namespace AgentPipeline.Decimal

/-! ### Ratios and decimals -/

namespace Ratio

/-- The number that a ratio is. -/
def value (r : Ratio) : ℚ :=
  r.num / r.den

theorem value_quarters (m : ℕ) (e : ℤ) : (quarters m e).value = m / 4 * 2 ^ e := by
  unfold quarters value
  split
  · next hnonneg =>
    obtain ⟨k, rfl⟩ := Int.eq_ofNat_of_zero_le hnonneg
    simp only [Int.toNat_natCast, Nat.pow_eq, zpow_natCast]
    push_cast
    ring
  · next hneg =>
    obtain ⟨k, rfl⟩ : ∃ k : ℕ, e = -k := ⟨(-e).toNat, by omega⟩
    simp only [neg_neg, Int.toNat_natCast, Nat.pow_eq, zpow_neg, zpow_natCast]
    push_cast
    field_simp

theorem den_quarters_pos (m : ℕ) (e : ℤ) : 0 < (quarters m e).den := by
  unfold quarters
  split
  · exact Nat.succ_pos 3
  · exact Nat.mul_pos (Nat.succ_pos 3) (Nat.two_pow_pos _)

theorem value_inUnits (r : Ratio) (s : ℤ) : (r.inUnits s).value = r.value / 10 ^ s := by
  unfold inUnits value
  split
  · next hnonneg =>
    obtain ⟨k, rfl⟩ := Int.eq_ofNat_of_zero_le hnonneg
    simp only [Int.toNat_natCast, Nat.pow_eq, zpow_natCast]
    push_cast
    rw [div_div]
  · next hneg =>
    obtain ⟨k, rfl⟩ : ∃ k : ℕ, s = -k := ⟨(-s).toNat, by omega⟩
    simp only [neg_neg, Int.toNat_natCast, Nat.pow_eq, zpow_neg, zpow_natCast]
    push_cast
    rw [div_inv_eq_mul, mul_div_right_comm]

theorem den_inUnits_pos {r : Ratio} (hr : 0 < r.den) (s : ℤ) : 0 < (r.inUnits s).den := by
  unfold inUnits
  split
  · exact Nat.mul_pos hr (Nat.pow_pos (by norm_num))
  · exact hr

/-- Ratios are compared with integers by multiplying. -/
theorem before_natCast_iff {r : Ratio} (hr : 0 < r.den) (closed : Bool) (n : ℕ) :
    Before closed r.value n ↔ if closed then r.num ≤ n * r.den else r.num < n * r.den := by
  cases closed
  · refine (Before.div_left_iff (Nat.cast_pos.mpr hr)).trans ?_
    show (r.num : ℚ) < n * r.den ↔ r.num < n * r.den
    exact_mod_cast Iff.rfl
  · refine (Before.div_left_iff (Nat.cast_pos.mpr hr)).trans ?_
    show (r.num : ℚ) ≤ n * r.den ↔ r.num ≤ n * r.den
    exact_mod_cast Iff.rfl

theorem natCast_before_iff {r : Ratio} (hr : 0 < r.den) (closed : Bool) (n : ℕ) :
    Before closed n r.value ↔ if closed then n * r.den ≤ r.num else n * r.den < r.num := by
  cases closed
  · refine (Before.div_right_iff (Nat.cast_pos.mpr hr)).trans ?_
    show (n * r.den : ℚ) < r.num ↔ n * r.den < r.num
    exact_mod_cast Iff.rfl
  · refine (Before.div_right_iff (Nat.cast_pos.mpr hr)).trans ?_
    show (n * r.den : ℚ) ≤ r.num ↔ n * r.den ≤ r.num
    exact_mod_cast Iff.rfl

/-- The whole part of a ratio is the next smaller integer. -/
theorem whole_bounds {r : Ratio} (hr : 0 < r.den) :
    ((r.num / r.den : ℕ) : ℚ) ≤ r.value ∧ r.value < (r.num / r.den + 1 : ℕ) := by
  constructor
  · exact (natCast_before_iff hr true _).mpr (Nat.div_mul_le_self _ _)
  · exact (before_natCast_iff hr false _).mpr (Nat.lt_mul_of_div_lt (Nat.lt_succ_self _) hr)

/-- The magnitude of a ratio is at most the power of ten above it. -/
theorem le_value_of_magnitude {r : Ratio} (hr : 0 < r.den) (places : ℕ)
    (hsmall : (10 : ℚ) ^ (-places : ℤ) ≤ r.value) :
    (10 : ℚ) ^ (r.magnitude places - 1) ≤ r.value := by
  have hten : (10 : ℚ) ≠ 0 := by norm_num
  have hpow : (0 : ℚ) < 10 ^ places := pow_pos (by norm_num) places
  let n := r.num * Nat.pow 10 places / r.den
  have hn : n ≠ 0 := by
    rw [zpow_neg, zpow_natCast, value, le_div_iff₀ (Nat.cast_pos.mpr hr), inv_mul_le_iff₀ hpow,
      mul_comm] at hsmall
    have hle : r.den ≤ r.num * Nat.pow 10 places := by
      rw [Nat.pow_eq]
      exact_mod_cast hsmall
    exact (Nat.div_pos hle hr).ne'
  have hlength : 0 < (Nat.toDigits 10 n).length := Nat.length_toDigits_pos
  have hmagnitude : r.magnitude places - 1 =
      (((Nat.toDigits 10 n).length - 1 : ℕ) : ℤ) + -(places : ℤ) := by
    show (((Nat.toDigits 10 n).length : ℕ) : ℤ) - places - 1 = _
    omega
  have hdigits : ((10 ^ ((Nat.toDigits 10 n).length - 1) : ℕ) : ℚ) ≤ n :=
    Nat.cast_le.mpr (pow_length_le hn)
  have hwhole : (n : ℚ) ≤ r.value * 10 ^ places := by
    rw [value, div_mul_eq_mul_div, le_div_iff₀ (Nat.cast_pos.mpr hr)]
    have hle : n * r.den ≤ r.num * 10 ^ places := Nat.div_mul_le_self _ _
    exact_mod_cast hle
  rw [hmagnitude, zpow_add₀ hten, zpow_neg, zpow_natCast, zpow_natCast, ← div_eq_mul_inv,
    div_le_iff₀ hpow]
  push_cast at hdigits
  exact hdigits.trans hwhole

end Ratio

/-- The number that a decimal is. -/
def Digits.value (d : Digits) : ℚ :=
  d.digits * 10 ^ d.exponent

theorem Digits.value_stripped (fuel : ℕ) (d : Digits) : (d.stripped fuel).value = d.value := by
  induction fuel generalizing d with
  | zero => rfl
  | succ fuel ih =>
    unfold stripped
    split
    · next hzero =>
      obtain ⟨k, hk⟩ := Nat.dvd_of_mod_eq_zero hzero.2
      rw [ih, value, value, hk, Nat.mul_div_cancel_left k (by norm_num), zpow_add_one₀ (by norm_num)]
      push_cast
      ring
    · rfl

/-! ### Grids -/

section Grid

variable {low value high : Ratio} {closed : Bool} {s : ℤ} {d : Digits}

/-- On a grid one of the two neighbours of the value is taken, if it is not beyond its bound. -/
theorem onGrid_cases (hlow : 0 < low.den) (hhigh : 0 < high.den) (closed : Bool) (s : ℤ) {n : ℕ}
    (hn : (value.inUnits s).num / (value.inUnits s).den = n) :
    (onGrid low value high closed s = some ⟨n, s⟩ ∧ Before closed (low.inUnits s).value n) ∨
      (onGrid low value high closed s = some ⟨n + 1, s⟩ ∧
        Before closed (n + 1 : ℕ) (high.inUnits s).value) ∨
      (onGrid low value high closed s = none ∧ ¬ Before closed (low.inUnits s).value n) := by
  rw [Ratio.before_natCast_iff (Ratio.den_inUnits_pos hlow s),
    Ratio.natCast_before_iff (Ratio.den_inUnits_pos hhigh s)]
  cases closed
  all_goals
    unfold onGrid
    simp only [Bool.false_eq_true, if_false, if_true, hn]
    split
    · next hbelow => exact Or.inl ⟨rfl, hbelow.1⟩
    · next hnot =>
      split
      · next habove => exact Or.inr (Or.inl ⟨rfl, habove⟩)
      · next hnone => exact Or.inr (Or.inr ⟨rfl, fun hin => hnot ⟨hin, Or.inl hnone⟩⟩)

/-- **What is found on a grid lies in the interval**, and on a grid finer than the lower half of the
interval something is found. -/
theorem onGrid_inside (hlow : 0 < low.den) (hvalue : 0 < value.den) (hhigh : 0 < high.den)
    (hleft : low.value < value.value) (hright : value.value < high.value) :
    (∀ d, onGrid low value high closed s = some d → Inside closed low.value high.value d.value) ∧
      ((10 : ℚ) ^ s < value.value - low.value → onGrid low value high closed s ≠ none) := by
  have hpow : (0 : ℚ) < 10 ^ s := zpow_pos (by norm_num) s
  obtain ⟨hbelow, habove⟩ := Ratio.whole_bounds (Ratio.den_inUnits_pos hvalue s)
  generalize hn : (value.inUnits s).num / (value.inUnits s).den = n at hbelow habove
  have hcases := onGrid_cases hlow hhigh closed s hn
  rw [Ratio.value_inUnits] at hbelow habove
  rw [Ratio.value_inUnits, Ratio.value_inUnits, Before.div_left_iff hpow,
    Before.div_right_iff hpow] at hcases
  rw [le_div_iff₀ hpow] at hbelow
  rw [div_lt_iff₀ hpow] at habove
  rcases hcases with ⟨hsome, hin⟩ | ⟨hsome, hin⟩ | ⟨hnone, hout⟩
  · rw [hsome]
    refine ⟨fun d hd => ?_, fun _ => Option.some_ne_none _⟩
    cases hd
    exact ⟨hin, .of_lt (hbelow.trans_lt hright)⟩
  · rw [hsome]
    refine ⟨fun d hd => ?_, fun _ => Option.some_ne_none _⟩
    cases hd
    exact ⟨.of_lt (hleft.trans habove), hin⟩
  · refine ⟨fun d hd => absurd (hnone.symm.trans hd) nofun, fun hfine => absurd ?_ hout⟩
    push_cast at habove
    exact .of_lt (by linarith)

/-- **The search ends on a grid** that has a point of the interval, if the last grid is fine
enough. -/
theorem firstOnGrid_inside (hlow : 0 < low.den) (hvalue : 0 < value.den) (hhigh : 0 < high.den)
    (hright : value.value < high.value) (tries : ℕ)
    (hfine : (10 : ℚ) ^ (s - tries) < value.value - low.value) :
    Inside closed low.value high.value (firstOnGrid low value high closed (tries + 1) s).value := by
  have hleft : low.value < value.value := by
    have hpow : (0 : ℚ) < 10 ^ (s - tries) := zpow_pos (by norm_num) _
    linarith
  induction tries generalizing s with
  | zero =>
    unfold firstOnGrid
    cases hgrid : onGrid low value high closed s with
    | some d => exact (onGrid_inside hlow hvalue hhigh hleft hright).1 d hgrid
    | none =>
      rw [Nat.cast_zero, sub_zero] at hfine
      exact absurd hgrid ((onGrid_inside hlow hvalue hhigh hleft hright).2 hfine)
  | succ tries ih =>
    unfold firstOnGrid
    cases hgrid : onGrid low value high closed s with
    | some d => exact (onGrid_inside hlow hvalue hhigh hleft hright).1 d hgrid
    | none =>
      refine ih ?_
      have hexponent : s - 1 - tries = s - ((tries + 1 : ℕ) : ℤ) := by omega
      rw [hexponent]
      exact hfine

end Grid

/-- **The shortest digits are a decimal in the interval of the number.** -/
theorem roundsTo_shortest {m j : ℕ} (h : Layout.double.Represents m j) (hm : m ≠ 0)
    (tight : Bool) : RoundsTo m (-1074 + j) tight (shortest m (-1074 + j) tight).value := by
  let e : ℤ := -1074 + j
  let value := Ratio.quarters (4 * m) e
  let low := Ratio.quarters (4 * m - if tight then 1 else 2) e
  let high := Ratio.quarters (4 * m + 2) e
  have hpow : (0 : ℚ) < 2 ^ e := zpow_pos two_pos e
  have hone : (1 : ℚ) ≤ m := by exact_mod_cast Nat.one_le_iff_ne_zero.mpr hm
  have hvalue : value.value = m * 2 ^ e := by
    rw [Ratio.value_quarters]
    push_cast
    ring
  have hlow : low.value = (m - if tight then 1 / 4 else 1 / 2) * 2 ^ e := by
    have hle : (if tight then 1 else 2) ≤ 4 * m := by
      split
      · omega
      · omega
    rw [Ratio.value_quarters, Nat.cast_sub hle]
    cases tight
    · simp only [Bool.false_eq_true, if_false]
      push_cast
      ring
    · simp only [if_true]
      push_cast
      ring
  have hhigh : high.value = (m + 1 / 2) * 2 ^ e := by
    rw [Ratio.value_quarters]
    push_cast
    ring
  have hsmall : (10 : ℚ) ^ (-(330 : ℕ) : ℤ) ≤ value.value := by
    calc (10 : ℚ) ^ (-(330 : ℕ) : ℤ) ≤ 2 ^ (-1075 : ℤ) :=
          inv_anti₀ (pow_pos two_pos _) two_pow_le_ten_pow
      _ ≤ value.value := by
          rw [hvalue]
          exact ((roundsTo_self m e tight).bounds h hm).1
  have hmagnitude := Ratio.le_value_of_magnitude (Ratio.den_quarters_pos (4 * m) e) 330 hsmall
  -- Seventeen digits behind the first one are finer than the lower half of the interval.
  have hfine : (10 : ℚ) ^ (value.magnitude 330 - 1 - (17 : ℕ)) < value.value - low.value := by
    have hmlt : (m : ℚ) < 2 ^ 53 := by exact_mod_cast h.lt
    have hwidth : 1 / 4 * 2 ^ e ≤ value.value - low.value := by
      rw [hvalue, hlow, ← sub_mul]
      refine mul_le_mul_of_nonneg_right ?_ hpow.le
      split
      · linarith
      · linarith
    calc (10 : ℚ) ^ (value.magnitude 330 - 1 - (17 : ℕ)) =
          10 ^ (value.magnitude 330 - 1) / 10 ^ 17 := by
            rw [zpow_sub₀ (by norm_num), zpow_natCast]
      _ ≤ m * 2 ^ e / 10 ^ 17 := by
          rw [← hvalue]
          exact div_le_div_of_nonneg_right hmagnitude (by norm_num)
      _ < 2 ^ 53 * 2 ^ e / 10 ^ 17 :=
          div_lt_div_of_pos_right (mul_lt_mul_of_pos_right hmlt hpow) (by norm_num)
      _ = 2 ^ 53 / 10 ^ 17 * 2 ^ e := by ring
      _ ≤ 1 / 4 * 2 ^ e := mul_le_mul_of_nonneg_right (by norm_num) hpow.le
      _ ≤ value.value - low.value := hwidth
  have hfound : Inside (m % 2 == 0) low.value high.value
      (firstOnGrid low value high (m % 2 == 0) 18 (value.magnitude 330 - 1)).value := by
    refine firstOnGrid_inside (Ratio.den_quarters_pos _ _) (Ratio.den_quarters_pos _ _)
      (Ratio.den_quarters_pos _ _) ?_ 17 hfine
    rw [hvalue, hhigh]
    exact mul_lt_mul_of_pos_right (by linarith) hpow
  unfold shortest
  rw [if_neg hm]
  dsimp only
  rw [Digits.value_stripped, RoundsTo, ← hlow, ← hhigh]
  exact hfound

end AgentPipeline.Decimal
