import AgentPipeline.Decimal.Binary
import Mathlib.Data.Nat.Log
import Mathlib.Tactic.Ring

/-!
# Numbers of a binary format

Every finite bit pattern of a format stands for a mantissa and an exponent, and back: rounding to the
format what it stands for yields the pattern again.  Rounding depends on the number alone and not on
how it is split into a mantissa and a power of two.  A single has fewer mantissa bits than a double
and a smaller range, so as a double it is the same number, and rounded back it is the same single.

## Main definitions

* `scaled` — a number times a power of two, rounded to an integer.
* `Layout.Represents` — a mantissa and an exponent as a finite bit pattern has them.

## Main results

* `Layout.nearest_mul_two_pow` — rounding depends on the number alone.
* `Layout.Represents.nearest_eq` — what a bit pattern has is rounded to itself.
* `Layout.exists_represents`, `Layout.Represents.ofBits_eq` — finite bit patterns and what they have.
* `exists_double_of_single` — **every finite single is a double that is rounded to it.**
-/

namespace AgentPipeline.Decimal

/-! ### Rounding quotients -/

theorem divNearest_mul_mul (num den : Nat) {c : Nat} (hc : 0 < c) :
    divNearest (num * c) (den * c) = divNearest num den := by
  have hrest : 2 * (num * c % (den * c)) = 2 * (num % den) * c := by
    rw [Nat.mul_mod_mul_right, Nat.mul_assoc]
  unfold divNearest
  dsimp only
  rw [Nat.mul_div_mul_right _ _ hc, hrest]
  simp only [Nat.mul_lt_mul_right hc, Nat.mul_left_inj hc.ne']

theorem divNearest_mul_self (q : Nat) {den : Nat} (hden : 0 < den) :
    divNearest (q * den) den = q := by
  have hquotient : q * den / den = q := Nat.mul_div_cancel q hden
  have hrest : 2 * (q * den % den) < den := by
    rw [Nat.mul_mod_left]
    exact hden
  unfold divNearest
  dsimp only
  rw [if_pos (Or.inl hrest), hquotient]

/-! ### Binary digits -/

theorem bitLength_eq_iff {n k : Nat} (hn : n ≠ 0) :
    bitLength n = k + 1 ↔ 2 ^ k ≤ n ∧ n < 2 ^ (k + 1) := by
  rw [bitLength, if_neg hn, Nat.add_right_cancel_iff, Nat.log2_eq_iff hn]

theorem bitLength_le {n k : Nat} (h : n < 2 ^ k) : bitLength n ≤ k := by
  rw [bitLength]
  split
  · exact Nat.zero_le k
  · next hn => exact (Nat.log2_lt hn).mpr h

theorem bitLength_pos {n : Nat} (hn : n ≠ 0) : 0 < bitLength n := by
  rw [bitLength, if_neg hn]
  exact Nat.succ_pos _

/-- A power of two as a factor is so many digits more. -/
theorem bitLength_mul_two_pow {n : Nat} (hn : n ≠ 0) (k : Nat) :
    bitLength (n * 2 ^ k) = bitLength n + k := by
  obtain ⟨j, hj⟩ : ∃ j, bitLength n = j + 1 := Nat.exists_eq_add_one.mpr (bitLength_pos hn)
  have hbounds := (bitLength_eq_iff hn).mp hj
  have hne : n * 2 ^ k ≠ 0 := Nat.mul_ne_zero hn (Nat.two_pow_pos k).ne'
  rw [hj, Nat.add_right_comm, bitLength_eq_iff hne]
  constructor
  · rw [Nat.pow_add]
    exact Nat.mul_le_mul_right _ hbounds.1
  · rw [Nat.add_right_comm, Nat.pow_add]
    exact Nat.mul_lt_mul_of_pos_right hbounds.2 (Nat.two_pow_pos k)

/-! ### Rounding to a format -/

/-- The number `m · 2 ^ shift` rounded to the nearest integer. -/
def scaled (m : Nat) (shift : Int) : Nat :=
  if 0 ≤ shift then m * Nat.pow 2 shift.toNat else divNearest m (Nat.pow 2 (-shift).toNat)

@[simp] theorem scaled_zero (m : Nat) : scaled m 0 = m :=
  Nat.mul_one m

/-- Rounding depends on the number alone. -/
theorem scaled_mul_two_pow (m : Nat) (shift : Int) (k : Nat) :
    scaled (m * 2 ^ k) (shift - k) = scaled m shift := by
  simp only [scaled, Nat.pow_eq]
  by_cases hnonneg : 0 ≤ shift
  · rw [if_pos hnonneg]
    by_cases hle : 0 ≤ shift - k
    · have hsum : shift.toNat = k + (shift - k).toNat := by omega
      rw [if_pos hle, Nat.mul_assoc, ← Nat.pow_add, ← hsum]
    · -- The number is an integer, and so is what it is divided by.
      have hsum : k = shift.toNat + (-(shift - k)).toNat := by omega
      have hsplit : m * 2 ^ k = m * 2 ^ shift.toNat * 2 ^ (-(shift - k)).toNat := by
        rw [Nat.mul_assoc, ← Nat.pow_add, ← hsum]
      rw [if_neg hle, hsplit, divNearest_mul_self _ (Nat.two_pow_pos _)]
  · have hle : ¬ 0 ≤ shift - k := by omega
    have hsum : (-(shift - k)).toNat = (-shift).toNat + k := by omega
    rw [if_neg hnonneg, if_neg hle, hsum, Nat.pow_add, divNearest_mul_mul _ _ (Nat.two_pow_pos k)]

namespace Layout

variable {l : Layout} {m j : Nat} {e : Int}

/-- The exponent of the last digit that a number keeps in a format. -/
def lastExponent (l : Layout) (m : Nat) (e : Int) : Int :=
  max (bitLength m + e - (l.fractionBits + 1)) l.leastExponent

theorem nearest_of_ne_zero (hm : m ≠ 0) : l.nearest m e =
    min (scaled m (e - l.lastExponent m e) +
      (l.lastExponent m e - l.leastExponent).toNat * 2 ^ l.fractionBits)
        (l.fullExponent * 2 ^ l.fractionBits) := by
  rw [nearest, if_neg hm]
  rfl

/-- **Rounding depends on the number alone**, not on how it is split up. -/
theorem nearest_mul_two_pow (l : Layout) (m : Nat) (e : Int) (k : Nat) :
    l.nearest (m * 2 ^ k) (e - k) = l.nearest m e := by
  by_cases hm : m = 0
  · rw [hm, Nat.zero_mul]
    rfl
  · have hne : m * 2 ^ k ≠ 0 := Nat.mul_ne_zero hm (Nat.two_pow_pos k).ne'
    have hlast : l.lastExponent (m * 2 ^ k) (e - k) = l.lastExponent m e := by
      rw [lastExponent, lastExponent, bitLength_mul_two_pow hm]
      congr 1
      push_cast
      ring
    have hshift : e - k - l.lastExponent m e = e - l.lastExponent m e - k := by omega
    rw [nearest_of_ne_zero hm, nearest_of_ne_zero hne, hlast, hshift, scaled_mul_two_pow]

/-! ### Bit patterns -/

/-- A mantissa and an exponent, counted from the least one, as a finite bit pattern has them: the
mantissa has all its bits unless the exponent is the least one. -/
structure Represents (l : Layout) (m j : Nat) : Prop where
  lt : m < 2 ^ (l.fractionBits + 1)
  full : j = 0 ∨ 2 ^ l.fractionBits ≤ m
  bounded : m + j * 2 ^ l.fractionBits < l.fullExponent * 2 ^ l.fractionBits

theorem fullExponent_lt (l : Layout) : l.fullExponent < 2 ^ l.exponentBits :=
  Nat.sub_one_lt (Nat.two_pow_pos _).ne'

/-- The fields of a bit pattern with its sign. -/
theorem fields_withSign {n : Nat} (hn : n < 2 ^ (l.fractionBits + l.exponentBits))
    (negative : Bool) :
    l.withSign negative n % 2 ^ l.fractionBits = n % 2 ^ l.fractionBits ∧
      l.withSign negative n / 2 ^ l.fractionBits % 2 ^ l.exponentBits = n / 2 ^ l.fractionBits ∧
      (l.withSign negative n / 2 ^ (l.fractionBits + l.exponentBits) % 2 == 1) = negative := by
  have hfield : n / 2 ^ l.fractionBits < 2 ^ l.exponentBits := by
    rw [Nat.div_lt_iff_lt_mul (Nat.two_pow_pos _), ← Nat.pow_add, Nat.add_comm]
    exact hn
  have hpos := Nat.two_pow_pos (l.fractionBits + l.exponentBits)
  cases negative with
  | false =>
    have hsame : l.withSign false n = n := Nat.add_zero n
    rw [hsame, Nat.mod_eq_of_lt hfield, Nat.div_eq_of_lt hn]
    exact ⟨rfl, rfl, rfl⟩
  | true =>
    have hsign : l.withSign true n = n + 2 ^ (l.fractionBits + l.exponentBits) := rfl
    have hsplit : 2 ^ (l.fractionBits + l.exponentBits) = 2 ^ l.exponentBits * 2 ^ l.fractionBits := by
      rw [Nat.add_comm, Nat.pow_add]
    refine ⟨?_, ?_, ?_⟩
    · rw [hsign, hsplit, Nat.add_mul_mod_self_right]
    · rw [hsign, hsplit, Nat.add_mul_div_right _ _ (Nat.two_pow_pos _), Nat.add_mod_right,
        Nat.mod_eq_of_lt hfield]
    · rw [hsign, Nat.add_div_right _ hpos, Nat.div_eq_of_lt hn]
      rfl

theorem withSign_lt {n : Nat} (hn : n < 2 ^ (l.fractionBits + l.exponentBits)) (negative : Bool) :
    l.withSign negative n < 2 ^ (l.fractionBits + l.exponentBits + 1) := by
  have hle : l.withSign negative n ≤ n + 2 ^ (l.fractionBits + l.exponentBits) := by
    refine Nat.add_le_add_left ?_ n
    split
    · exact Nat.le_refl _
    · exact Nat.zero_le _
  rw [Nat.pow_succ]
  omega

namespace Represents

/-- What a bit pattern has is rounded to itself. -/
theorem nearest_eq (h : l.Represents m j) :
    l.nearest m (l.leastExponent + j) = m + j * 2 ^ l.fractionBits := by
  by_cases hm : m = 0
  · have hj : j = 0 := by
      rcases h.full with hj | hle
      · exact hj
      · rw [hm, Nat.le_zero] at hle
        exact absurd hle (Nat.two_pow_pos _).ne'
    rw [hm, hj, Nat.zero_mul]
    rfl
  · have hdigits := bitLength_le h.lt
    -- The last digit that is kept is the last one of the mantissa.
    have hlast : l.lastExponent m (l.leastExponent + j) = l.leastExponent + j := by
      rw [lastExponent]
      rcases h.full with rfl | hle
      · omega
      · have hall := (bitLength_eq_iff hm).mpr ⟨hle, h.lt⟩
        omega
    have hfield : (l.leastExponent + j - l.leastExponent).toNat = j := by omega
    rw [nearest_of_ne_zero hm, hlast, Int.sub_self, scaled_zero, hfield,
      Nat.min_eq_left h.bounded.le]

theorem lt_two_pow (h : l.Represents m j) :
    m + j * 2 ^ l.fractionBits < 2 ^ (l.fractionBits + l.exponentBits) := by
  have hlt := Nat.mul_lt_mul_of_pos_right l.fullExponent_lt (Nat.two_pow_pos l.fractionBits)
  rw [Nat.add_comm l.fractionBits, Nat.pow_add]
  exact h.bounded.trans hlt

/-- The exponent field of a bit pattern is not the full one. -/
theorem field_lt (h : l.Represents m j) :
    (m + j * 2 ^ l.fractionBits) / 2 ^ l.fractionBits < l.fullExponent := by
  rw [Nat.div_lt_iff_lt_mul (Nat.two_pow_pos _)]
  exact h.bounded

/-- A bit pattern has the mantissa and the exponent that it is made of.  The next smaller number is
nearer where the mantissa is the least one with all its bits, unless the exponent is the least. -/
theorem ofBits_eq_finite (h : l.Represents m j) (negative : Bool) :
    Parts.ofBits l (l.withSign negative (m + j * 2 ^ l.fractionBits)) =
      .finite negative m (l.leastExponent + j) (m == 2 ^ l.fractionBits && j != 0) := by
  obtain ⟨hfraction, hfield, hsign⟩ := fields_withSign h.lt_two_pow negative
  have hnot := h.field_lt.ne
  unfold Parts.ofBits
  simp only [Nat.pow_eq, hfraction, hfield, hsign, if_neg hnot]
  have hpos := Nat.two_pow_pos l.fractionBits
  rcases Nat.lt_or_ge m (2 ^ l.fractionBits) with hlt | hge
  · -- The mantissa lacks its leading bit, so its exponent is the least one.
    obtain rfl : j = 0 := h.full.resolve_right (Nat.not_le_of_lt hlt)
    have hzero : (m + 0 * 2 ^ l.fractionBits) / 2 ^ l.fractionBits = 0 := by
      rw [Nat.zero_mul, Nat.add_zero]
      exact Nat.div_eq_of_lt hlt
    rw [if_pos hzero, Nat.zero_mul, Nat.add_zero, Nat.mod_eq_of_lt hlt, Int.natCast_zero,
      Int.add_zero, bne_self_eq_false, Bool.and_false]
  · obtain ⟨r, rfl⟩ := Nat.exists_eq_add_of_le hge
    have hr : r < 2 ^ l.fractionBits := by
      have hlt := h.lt
      rw [Nat.pow_succ] at hlt
      omega
    have hbits : 2 ^ l.fractionBits + r + j * 2 ^ l.fractionBits =
        r + (j + 1) * 2 ^ l.fractionBits := by ring
    have hone : (r + (j + 1) * 2 ^ l.fractionBits) / 2 ^ l.fractionBits = j + 1 := by
      rw [Nat.add_mul_div_right _ _ hpos, Nat.div_eq_of_lt hr, Nat.zero_add]
    have hexponent : l.leastExponent + ((j + 1 : Nat) : Int) - 1 = l.leastExponent + j := by omega
    -- The fraction is zero when the mantissa is its leading bit alone.
    have hleading : (2 ^ l.fractionBits + r == 2 ^ l.fractionBits) = (r == 0) := by
      simp [Bool.beq_eq_decide_eq]
    have hnext : (j + 1 != 1) = (j != 0) := by
      simp [bne, Bool.beq_eq_decide_eq]
    rw [hbits, hone, if_neg (Nat.succ_ne_zero j), Nat.add_mul_mod_self_right, Nat.mod_eq_of_lt hr,
      hexponent, hleading, hnext]

/-- A bit pattern has the mantissa and the exponent that it is made of. -/
theorem ofBits_eq (h : l.Represents m j) (negative : Bool) : ∃ tight,
    Parts.ofBits l (l.withSign negative (m + j * 2 ^ l.fractionBits)) =
      .finite negative m (l.leastExponent + j) tight :=
  ⟨_, h.ofBits_eq_finite negative⟩

end Represents

/-- **A finite bit pattern has a mantissa and an exponent** of which it is made. -/
theorem exists_represents {bits : Nat} (hbits : bits < 2 ^ (l.fractionBits + l.exponentBits + 1))
    (hfield : bits / 2 ^ l.fractionBits % 2 ^ l.exponentBits ≠ l.fullExponent) :
    ∃ negative m j, l.Represents m j ∧
      bits = l.withSign negative (m + j * 2 ^ l.fractionBits) := by
  obtain ⟨negative, n, hn, rfl⟩ : ∃ negative n, n < 2 ^ (l.fractionBits + l.exponentBits) ∧
      bits = l.withSign negative n := by
    rcases Nat.lt_or_ge bits (2 ^ (l.fractionBits + l.exponentBits)) with hlt | hge
    · exact ⟨false, bits, hlt, rfl⟩
    · refine ⟨true, bits - 2 ^ (l.fractionBits + l.exponentBits), ?_, (Nat.sub_add_cancel hge).symm⟩
      rw [Nat.pow_succ] at hbits
      omega
  have hpos := Nat.two_pow_pos l.fractionBits
  obtain ⟨-, hexponent, -⟩ := fields_withSign hn negative
  rw [hexponent] at hfield
  have hlt : n / 2 ^ l.fractionBits < l.fullExponent := by
    have hle : n / 2 ^ l.fractionBits < 2 ^ l.exponentBits := by
      rw [Nat.div_lt_iff_lt_mul hpos, ← Nat.pow_add, Nat.add_comm]
      exact hn
    have hfull : l.fullExponent = 2 ^ l.exponentBits - 1 := rfl
    omega
  have hsplit : n = n % 2 ^ l.fractionBits + n / 2 ^ l.fractionBits * 2 ^ l.fractionBits :=
    (Nat.mod_add_div' n _).symm
  have hrest := Nat.mod_lt n hpos
  have hbounded := (Nat.div_lt_iff_lt_mul hpos).mp hlt
  cases hfieldn : n / 2 ^ l.fractionBits with
  | zero =>
    rw [hfieldn, Nat.zero_mul, Nat.add_zero] at hsplit
    refine ⟨negative, n, 0, ⟨?_, Or.inl rfl, ?_⟩, ?_⟩
    · rw [Nat.pow_succ]
      omega
    · rwa [Nat.zero_mul, Nat.add_zero]
    · rw [Nat.zero_mul, Nat.add_zero]
  | succ j =>
    -- The leading bit of the mantissa stands for the one in the exponent field.
    have hmantissa : n = 2 ^ l.fractionBits + n % 2 ^ l.fractionBits + j * 2 ^ l.fractionBits := by
      rw [hfieldn, Nat.succ_mul] at hsplit
      omega
    refine ⟨negative, 2 ^ l.fractionBits + n % 2 ^ l.fractionBits, j,
      ⟨?_, Or.inr (Nat.le_add_right _ _), ?_⟩, ?_⟩
    · rw [Nat.pow_succ]
      omega
    · rwa [← hmantissa]
    · rw [← hmantissa]

end Layout

/-! ### Singles as doubles -/

/-- A double has enough mantissa bits and a large enough range for a single other than zero: its
mantissa only has to be filled up. -/
theorem Layout.Represents.fill {m j : Nat} (h : single.Represents m j) (hm : m ≠ 0) :
    double.Represents (m * 2 ^ (53 - bitLength m)) (925 + j - (53 - bitLength m)) := by
  have hdigits : bitLength m ≤ 24 := bitLength_le h.lt
  have hpos := bitLength_pos hm
  have hne : m * 2 ^ (53 - bitLength m) ≠ 0 := Nat.mul_ne_zero hm (Nat.two_pow_pos _).ne'
  have hall : bitLength (m * 2 ^ (53 - bitLength m)) = 52 + 1 := by
    rw [bitLength_mul_two_pow hm]
    omega
  obtain ⟨hge, hlt⟩ := (bitLength_eq_iff hne).mp hall
  refine ⟨hlt, Or.inr hge, ?_⟩
  have hbounded : m + j * 2 ^ 23 < 255 * 2 ^ 23 := h.bounded
  have hdouble : double.fullExponent * 2 ^ double.fractionBits = 2047 * 2 ^ 52 := rfl
  rw [hdouble]
  change _ + _ * 2 ^ 52 < _
  omega

/-- **Every finite single is a double that is rounded to it.** -/
theorem exists_double_of_single {m j : Nat} (h : Layout.single.Represents m j) :
    ∃ m' j', Layout.double.Represents m' j' ∧
      Layout.double.nearest m (Layout.single.leastExponent + j) = m' + j' * 2 ^ 52 ∧
      Layout.single.nearest m' (Layout.double.leastExponent + j') = m + j * 2 ^ 23 := by
  by_cases hm : m = 0
  · have hsingle := h.nearest_eq
    subst hm
    refine ⟨0, 0, ⟨Nat.two_pow_pos _, Or.inl rfl, by decide⟩, rfl, ?_⟩
    -- Rounded to any format zero is zero.
    have hzero : 0 = 0 + j * 2 ^ 23 := hsingle
    exact hzero
  · have hfill := h.fill hm
    have hdigits : bitLength m ≤ 24 := bitLength_le h.lt
    have hexponent : Layout.double.leastExponent + ((925 + j - (53 - bitLength m) : Nat) : Int) =
        Layout.single.leastExponent + j - ((53 - bitLength m : Nat) : Int) := by
      have hdouble : Layout.double.leastExponent = -1074 := rfl
      have hsingle : Layout.single.leastExponent = -149 := rfl
      omega
    refine ⟨_, _, hfill, ?_, ?_⟩
    · rw [← Layout.nearest_mul_two_pow _ _ _ (53 - bitLength m), ← hexponent]
      exact hfill.nearest_eq
    · rw [hexponent, Layout.nearest_mul_two_pow]
      exact h.nearest_eq

end AgentPipeline.Decimal
