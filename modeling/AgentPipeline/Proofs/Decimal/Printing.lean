import AgentPipeline.Decimal.Format
import AgentPipeline.Proofs.Decimal.Shortest
import AgentPipeline.Proofs.Decimal.Numbers
import AgentPipeline.Proofs.Text.Splitting

/-!
# Printed doubles are read back

A double is printed with its shortest digits, at their positions: with zeros behind them, with a
point among them, or with a point and zeros before them.  Whichever it is, the text spells the
number that the digits and their exponent are, and so it is read as the double in whose interval this
number lies.

## Main definitions

* `Spells s whole fraction v` — a text is made of digits and spells the number `v`.

## Main results

* `Digits.exists_spells` — a decimal is spelled by its positional text.
* `read?_plain` — **a finite double is printed so that it can be read back.**
-/

namespace AgentPipeline.Decimal

open Text

/-! ### Digits as numbers -/

theorem natOfDigits_toDigits (n : ℕ) : natOfDigits (Nat.toDigits 10 n) = n :=
  Nat.ofDigitChars_ten_toDigits

theorem natOfDigits_append_zeros (ds : List Char) (k : ℕ) :
    natOfDigits (ds ++ zeros k) = 10 ^ k * natOfDigits ds :=
  (Nat.ofDigitChars_append 0).trans Nat.ofDigitChars_replicate_zero

theorem natOfDigits_zeros_append (k : ℕ) (ds : List Char) :
    natOfDigits (zeros k ++ ds) = natOfDigits ds := by
  have hzeros : natOfDigits (zeros k) = 0 := Nat.ofDigitChars_replicate_zero
  have happend : natOfDigits (zeros k ++ ds) = Nat.ofDigitChars 10 ds (natOfDigits (zeros k)) :=
    Nat.ofDigitChars_append 0
  rw [happend, hzeros]
  rfl

theorem isDigit_of_mem_zeros {k : ℕ} {c : Char} (hc : c ∈ zeros k) : c.isDigit = true := by
  rw [List.eq_of_mem_replicate hc]
  rfl

theorem isDigit_of_mem_toDigits {n : ℕ} {c : Char} (hc : c ∈ Nat.toDigits 10 n) :
    c.isDigit = true :=
  Nat.isDigit_of_mem_toDigits (by norm_num) le_rfl hc

/-! ### Positional texts -/

/-- A text is made of digits and further digits behind a point, if there are any, and spells a
number. -/
structure Spells (s whole fraction : List Char) (v : ℚ) : Prop where
  text : s = whole ++ if fraction = [] then [] else '.' :: fraction
  ne_nil : whole ≠ []
  isDigit_whole : ∀ c ∈ whole, c.isDigit = true
  isDigit_fraction : ∀ c ∈ fraction, c.isDigit = true
  value : natOfDigits (whole ++ fraction) * (10 : ℚ) ^ (-(fraction.length : ℤ)) = v

section Positions

variable {ds : List Char} (hdigits : ∀ c ∈ ds, c.isDigit = true)
include hdigits

/-- Digits alone spell an integer. -/
theorem spells_integer (hne : ds ≠ []) : Spells ds ds [] (natOfDigits ds) := by
  refine ⟨(List.append_nil ds).symm, hne, hdigits, List.forall_mem_nil _, ?_⟩
  rw [List.append_nil, List.length_nil, Nat.cast_zero, neg_zero, zpow_zero, mul_one]

/-- A point among digits divides by a power of ten. -/
theorem spells_point {k : ℕ} (hk : 0 < k) (hlt : k < ds.length) :
    Spells (ds.take (ds.length - k) ++ '.' :: ds.drop (ds.length - k)) (ds.take (ds.length - k))
      (ds.drop (ds.length - k)) (natOfDigits ds * 10 ^ (-(k : ℤ))) := by
  have hlength : (ds.drop (ds.length - k)).length = k := by
    rw [List.length_drop]
    omega
  have hsome : ds.drop (ds.length - k) ≠ [] := by
    rw [← List.length_pos_iff, hlength]
    exact hk
  refine ⟨?_, ?_, fun c hc => hdigits c (List.mem_of_mem_take hc),
    fun c hc => hdigits c (List.mem_of_mem_drop hc), ?_⟩
  · rw [if_neg hsome]
  · rw [← List.length_pos_iff, List.length_take]
    omega
  · rw [List.take_append_drop, hlength]

/-- Where there are too few digits, zeros are put in front of them. -/
theorem spells_padded {k : ℕ} (hne : ds ≠ []) (hle : ds.length ≤ k) :
    Spells ('0' :: '.' :: zeros (k - ds.length) ++ ds) ['0'] (zeros (k - ds.length) ++ ds)
      (natOfDigits ds * 10 ^ (-(k : ℤ))) := by
  have hlength : (zeros (k - ds.length) ++ ds).length = k := by
    rw [List.length_append, zeros, List.length_replicate]
    exact Nat.sub_add_cancel hle
  have hvalue : natOfDigits (['0'] ++ (zeros (k - ds.length) ++ ds)) = natOfDigits ds :=
    natOfDigits_zeros_append (k - ds.length) ds
  refine ⟨?_, List.cons_ne_nil _ _, List.forall_mem_singleton.mpr rfl, ?_, ?_⟩
  · rw [if_neg (List.append_ne_nil_of_right_ne_nil _ hne)]
    rfl
  · intro c hc
    rcases List.mem_append.mp hc with hc | hc
    · exact isDigit_of_mem_zeros hc
    · exact hdigits c hc
  · rw [hvalue, hlength]

end Positions

/-- **A decimal is spelled by its positional text.** -/
theorem Digits.exists_spells (d : Digits) :
    ∃ whole fraction, Spells d.positional whole fraction d.value := by
  have hdigits : ∀ c ∈ digitChars d.digits, c.isDigit = true :=
    fun c hc => isDigit_of_mem_toDigits hc
  have hne : digitChars d.digits ≠ [] := Nat.toDigits_ne_nil
  have hnumber : natOfDigits (digitChars d.digits) = d.digits := natOfDigits_toDigits _
  unfold positional
  dsimp only
  split
  · next hnonneg =>
    obtain ⟨k, hk⟩ := Int.eq_ofNat_of_zero_le hnonneg
    split
    · next hzero =>
      have hvalue : d.value = natOfDigits (digitChars d.digits) := by
        rw [hnumber, value, hzero, Nat.cast_zero, zero_mul]
      rw [hvalue]
      exact ⟨_, _, spells_integer hdigits hne⟩
    · have hall : ∀ c ∈ digitChars d.digits ++ zeros d.exponent.toNat, c.isDigit = true := by
        intro c hc
        rcases List.mem_append.mp hc with hc | hc
        · exact hdigits c hc
        · exact isDigit_of_mem_zeros hc
      have hvalue : d.value = natOfDigits (digitChars d.digits ++ zeros d.exponent.toNat) := by
        rw [natOfDigits_append_zeros, hnumber, value, hk, zpow_natCast, Int.toNat_natCast, mul_comm]
        push_cast
        rfl
      rw [hvalue]
      exact ⟨_, _, spells_integer hall (List.append_ne_nil_of_left_ne_nil hne _)⟩
  · next hneg =>
    have hvalue : d.value =
        natOfDigits (digitChars d.digits) * 10 ^ (-((-d.exponent).toNat : ℤ)) := by
      rw [hnumber, Int.toNat_of_nonneg (by omega), neg_neg]
      rfl
    rw [hvalue]
    split
    · next hlt => exact ⟨_, _, spells_point hdigits (by omega) hlt⟩
    · next hge => exact ⟨_, _, spells_padded hdigits hne (Nat.le_of_not_lt hge)⟩

section Spells

variable {s whole fraction : List Char} {v : ℚ}

/-- Neither a point nor the end of a text is a digit. -/
theorem startsOutside_fraction (fraction : List Char) :
    StartsOutside Char.isDigit (if fraction = [] then [] else '.' :: fraction) := by
  split
  · exact nofun
  · rintro _ ⟨rfl⟩
    rfl

/-- Digits with a point are read as the double nearest to the number that they spell. -/
theorem Spells.readUnsigned?_eq (h : Spells s whole fraction v) : readUnsigned? s =
    some (nearestFloat (natOfDigits (whole ++ fraction)) (-(fraction.length : ℤ))) := by
  have hwhole : s.takeWhile Char.isDigit = whole := by
    rw [h.text]
    exact takeWhile_append_of_startsOutside h.isDigit_whole (startsOutside_fraction fraction)
  have hrest : s.dropWhile Char.isDigit = if fraction = [] then [] else '.' :: fraction := by
    rw [h.text]
    exact dropWhile_append_of_startsOutside h.isDigit_whole (startsOutside_fraction fraction)
  have hsplit : splitFraction (if fraction = [] then [] else '.' :: fraction) = (fraction, []) := by
    split
    · next hnone =>
      rw [hnone]
      rfl
    · have hnil : StartsOutside Char.isDigit [] := nofun
      have htake := takeWhile_append_of_startsOutside h.isDigit_fraction hnil
      have hdrop := dropWhile_append_of_startsOutside h.isDigit_fraction hnil
      rw [List.append_nil] at htake hdrop
      rw [splitFraction, htake, hdrop]
  rw [Decimal.readUnsigned?_eq, hwhole, hrest, hsplit, if_neg fun hnone => h.ne_nil hnone.1]
  show some (nearestFloat _ (0 - (fraction.length : ℤ))) = _
  rw [zero_sub]

/-- The sign in front of digits is split off. -/
theorem Spells.splitSign_signed (h : Spells s whole fraction v) (negative : Bool) :
    splitSign (signed negative s) = (negative, s) := by
  obtain ⟨c, rest, hcons⟩ := List.exists_cons_of_ne_nil h.ne_nil
  have hc : c.isDigit = true := h.isDigit_whole c (by rw [hcons]; exact List.mem_cons_self)
  have hs : s = c :: (rest ++ if fraction = [] then [] else '.' :: fraction) := by
    rw [h.text, hcons]
    rfl
  rw [hs]
  cases negative with
  | true => rfl
  | false =>
    show splitSign (c :: _) = _
    unfold splitSign
    split
    · next heq =>
      cases heq
      exact absurd hc (by decide)
    · next heq =>
      cases heq
      exact absurd hc (by decide)
    · rfl

/-- A sign and digits are read as the nearest double with that sign. -/
theorem Spells.read?_signed (h : Spells s whole fraction v) (negative : Bool) :
    read? (signed negative s) = some (withSign negative
      (nearestFloat (natOfDigits (whole ++ fraction)) (-(fraction.length : ℤ)))) := by
  rw [read?, h.splitSign_signed negative]
  dsimp only
  rw [h.readUnsigned?_eq]
  rfl

end Spells

/-! ### Doubles -/

section Doubles

variable {x y : Float} {negative : Bool} {m j : ℕ}

/-- A double is its absolute value with its sign. -/
theorem withSign_eq (hy : Consists y false m j) (hx : Consists x negative m j) :
    withSign negative y = x := by
  cases negative with
  | false => exact hy.unique hx
  | true =>
    have hneg : -y = Float.ofModel (.pack y.toModel.unpack.neg) := rfl
    have hunpack : y.toModel.unpack.neg = x.toModel.unpack := by
      rw [hy.unpack_eq, hx.unpack_eq]
      by_cases hm : m = 0
      · subst hm
        rfl
      · rw [unpacked_of_ne_zero _ hm, unpacked_of_ne_zero _ hm]
        rfl
    show -y = x
    rw [hneg, hunpack]
    exact ofModel_pack_unpack x

/-- Zero is the positive zero. -/
theorem consists_zero : Consists 0 false 0 0 :=
  ⟨⟨Nat.two_pow_pos _, Or.inl rfl, by decide⟩, rfl⟩

/-- **The shortest digits of a number are read as it.** -/
theorem nearestFloat_of_value (hy : Consists y false m j) {n : ℕ} {e : ℤ}
    (hvalue : n * (10 : ℚ) ^ e =
      (shortest m (-1074 + j) (m == 2 ^ 52 && j != 0)).value) : nearestFloat n e = y := by
  by_cases hm : m = 0
  · subst hm
    have hzero : (shortest 0 (-1074 + j) (0 == 2 ^ 52 && j != 0)).value = 0 := by
      show ((0 : ℕ) : ℚ) * 10 ^ (0 : ℤ) = 0
      rw [Nat.cast_zero, zero_mul]
    have hten : (10 : ℚ) ^ e ≠ 0 := zpow_ne_zero e (by norm_num)
    rw [hzero, mul_eq_zero_iff_right hten, Nat.cast_eq_zero] at hvalue
    have hj : j = 0 := hy.represents.full.resolve_right (Nat.not_le_of_lt (Nat.two_pow_pos 52))
    subst hvalue hj
    exact consists_zero.unique hy
  · refine nearestFloat_eq hy hm ?_
    rw [hvalue]
    exact roundsTo_shortest hy.represents hm _

/-- **A finite double is printed so that it can be read back.** -/
theorem read?_plain (h : x.isFinite = true) : read? (plain x).toList = some x := by
  obtain ⟨negative, m, j, hx⟩ := exists_consists h
  obtain ⟨y, hy⟩ := exists_of_represents hx.represents false
  obtain ⟨whole, fraction, hspells⟩ :=
    (shortest m (-1074 + j) (m == 2 ^ 52 && j != 0)).exists_spells
  have hplain : (plain x).toList = signed negative
      (shortest m (-1074 + j) (m == 2 ^ 52 && j != 0)).positional := by
    have hparts : Parts.ofFloat x = .finite negative m (-1074 + j) (m == 2 ^ 52 && j != 0) :=
      hx.ofFloat_eq
    rw [plain, hparts, String.toList_ofList]
    rfl
  rw [hplain, hspells.read?_signed, nearestFloat_of_value hy hspells.value, withSign_eq hy hx]

end Doubles

end AgentPipeline.Decimal
