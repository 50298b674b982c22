import AgentPipeline.Proofs.Decimal.Unpacking

/-!
# Comparing doubles

Every finite double is a whole multiple of the smallest positive one.  Counted in these units, and
with the infinities at both ends, the doubles that are numbers are ordered as the numbers they stand
for; what is not a number is neither less nor greater than anything.

## Main definitions

* `exact x` — the number that a double stands for.

## Main results

* `lt_iff`, `le_iff` — comparing doubles compares the numbers they stand for.
* `le_iff_not_lt` — of two numbers, one is at most the other unless it is greater.
-/

namespace AgentPipeline.Decimal

open Float.Model Float.Model.UnpackedFloat

/-- Numbers counted in units of the smallest positive double, between the two infinities.  What is
not a number has a place below them all. -/
abbrev Exact := WithBot (WithBot (WithTop ℤ))

/-- The number `± m · 2 ^ j`. -/
def units (negative : Bool) (m j : Nat) : ℤ :=
  if negative then -(m * 2 ^ j : ℕ) else (m * 2 ^ j : ℕ)

@[simp] theorem units_zero (negative : Bool) (j : Nat) : units negative 0 j = 0 := by
  cases negative <;> simp [units]

theorem units_pos {m j : Nat} (h : 0 < m * 2 ^ j) : 0 < units false m j :=
  Int.natCast_pos.mpr h

theorem units_neg {m j : Nat} (h : 0 < m * 2 ^ j) : units true m j < 0 :=
  Int.neg_neg_of_pos (Int.natCast_pos.mpr h)

/-- The number that has been taken apart. -/
def exactParts : Parts → Exact
  | .notANumber => ⊥
  | .infinite true => ((⊥ : WithBot (WithTop ℤ)) : Exact)
  | .infinite false => (((⊤ : WithTop ℤ) : WithBot (WithTop ℤ)) : Exact)
  | .finite negative m e _ =>
    (((units negative m (e - Layout.double.leastExponent).toNat : WithTop ℤ) :
      WithBot (WithTop ℤ)) : Exact)

/-- The number that a double stands for; every finite one is a multiple of the smallest. -/
def exact (x : Float) : Exact :=
  exactParts (.ofFloat x)

/-! ### The order of finite doubles -/

section Finite

variable {negative negative' : Bool} {m m' j j' : Nat}

/-- Of two numbers as doubles have them the one with the larger exponent is larger. -/
theorem mul_two_pow_lt (h : Layout.double.Represents m j) (h' : Layout.double.Represents m' j')
    (hj : j < j') : m * 2 ^ j < m' * 2 ^ j' := by
  have hlt : m < 2 ^ 53 := h.lt
  have hfull : 2 ^ 52 ≤ m' := h'.full.resolve_left (by omega)
  obtain ⟨k, rfl⟩ := Nat.exists_eq_add_of_lt hj
  calc m * 2 ^ j < 2 ^ 53 * 2 ^ j := Nat.mul_lt_mul_of_pos_right hlt (Nat.two_pow_pos j)
    _ = 2 ^ 52 * 2 ^ (j + 1) := by ring
    _ ≤ m' * 2 ^ (j + k + 1) :=
      Nat.mul_le_mul hfull (Nat.pow_le_pow_right Nat.two_pos (by omega))

/-- Comparing the exponents first and then the mantissas compares the numbers. -/
theorem compare_exponent_then (h : Layout.double.Represents m j)
    (h' : Layout.double.Represents m' j') :
    (compare (Layout.double.leastExponent + j) (Layout.double.leastExponent + j')).then
      (compare m m') = compare (m * 2 ^ j) (m' * 2 ^ j') := by
  rcases Nat.lt_trichotomy j j' with hlt | rfl | hgt
  · have hexponent : Layout.double.leastExponent + (j : ℤ) < Layout.double.leastExponent + j' := by
      omega
    rw [compare_lt_iff_lt.mpr hexponent, compare_lt_iff_lt.mpr (mul_two_pow_lt h h' hlt)]
    rfl
  · rw [compare_eq_iff_eq.mpr rfl]
    show compare m m' = _
    have hpos := Nat.two_pow_pos j
    rcases Nat.lt_trichotomy m m' with hm | rfl | hm
    · rw [compare_lt_iff_lt.mpr hm, compare_lt_iff_lt.mpr (Nat.mul_lt_mul_of_pos_right hm hpos)]
    · rw [compare_eq_iff_eq.mpr rfl, compare_eq_iff_eq.mpr rfl]
    · rw [compare_gt_iff_gt.mpr hm, compare_gt_iff_gt.mpr (Nat.mul_lt_mul_of_pos_right hm hpos)]
  · have hexponent : Layout.double.leastExponent + (j' : ℤ) < Layout.double.leastExponent + j := by
      omega
    rw [compare_gt_iff_gt.mpr hexponent, compare_gt_iff_gt.mpr (mul_two_pow_lt h' h hgt)]
    rfl

/-- Comparing natural numbers compares the integers that they are. -/
theorem compare_natCast (a b : ℕ) : compare (a : ℤ) b = compare a b := by
  rw [← cmp_eq_compare, ← cmp_eq_compare]
  exact Nat.strictMono_cast.cmp_map_eq a b

/-- Opposite numbers compare the other way. -/
theorem compare_neg_neg (a b : ℤ) : compare (-a) (-b) = (compare a b).swap := by
  rw [← cmp_eq_compare, ← cmp_eq_compare, cmp_swap]
  have hanti : StrictAnti fun n : ℤ => -n := fun _ _ h => Int.neg_lt_neg h
  exact hanti.cmp_map_eq a b

/-- **Finite doubles are compared as the numbers they stand for.** -/
theorem compare_unpacked (h : Layout.double.Represents m j)
    (h' : Layout.double.Represents m' j') :
    (unpacked negative m (Layout.double.leastExponent + j)).compare
      (unpacked negative' m' (Layout.double.leastExponent + j')) =
        some (compare (units negative m j) (units negative' m' j')) := by
  have hthen := compare_exponent_then h h'
  -- Of two numbers that differ in sign, or one of which is zero, the signs decide.
  rcases Nat.eq_zero_or_pos m with rfl | hm
  · rcases Nat.eq_zero_or_pos m' with rfl | hm'
    · rw [unpacked_zero, unpacked_zero]
      cases negative <;> cases negative' <;> simp [units, UnpackedFloat.compare]
    · have hpos : 0 < m' * 2 ^ j' := Nat.mul_pos hm' (Nat.two_pow_pos j')
      rw [unpacked_zero, unpacked_of_ne_zero _ hm'.ne', units_zero]
      cases negative'
      · show some Ordering.lt = _
        rw [compare_lt_iff_lt.mpr (units_pos hpos)]
      · show some Ordering.gt = _
        rw [compare_gt_iff_gt.mpr (units_neg hpos)]
  · have hpos : 0 < m * 2 ^ j := Nat.mul_pos hm (Nat.two_pow_pos j)
    rcases Nat.eq_zero_or_pos m' with rfl | hm'
    · rw [unpacked_zero, unpacked_of_ne_zero _ hm.ne', units_zero]
      cases negative
      · show some Ordering.gt = _
        rw [compare_gt_iff_gt.mpr (units_pos hpos)]
      · show some Ordering.lt = _
        rw [compare_lt_iff_lt.mpr (units_neg hpos)]
    · have hpos' : 0 < m' * 2 ^ j' := Nat.mul_pos hm' (Nat.two_pow_pos j')
      rw [unpacked_of_ne_zero _ hm.ne', unpacked_of_ne_zero _ hm'.ne']
      cases negative <;> cases negative'
      · show some ((compare _ _).then (compare m m')) =
          some (compare ((m * 2 ^ j : ℕ) : ℤ) ((m' * 2 ^ j' : ℕ) : ℤ))
        rw [hthen, compare_natCast]
      · show some Ordering.gt = _
        rw [compare_gt_iff_gt.mpr ((units_neg hpos').trans (units_pos hpos))]
      · show some Ordering.lt = _
        rw [compare_lt_iff_lt.mpr ((units_neg hpos).trans (units_pos hpos'))]
      · show some ((compare _ _).then (compare m m')).swap =
          some (compare (-((m * 2 ^ j : ℕ) : ℤ)) (-((m' * 2 ^ j' : ℕ) : ℤ)))
        rw [hthen, compare_neg_neg, compare_natCast]

end Finite

/-! ### The order of all doubles -/

variable {x y : Float}

theorem exact_of_consists {negative : Bool} {m j : Nat} (h : Consists x negative m j) :
    exact x = (((units negative m j : WithTop ℤ) : WithBot (WithTop ℤ)) : Exact) := by
  have hexponent : (Layout.double.leastExponent + (j : ℤ) - Layout.double.leastExponent).toNat =
      j := by omega
  rw [exact, h.ofFloat_eq, exactParts, hexponent]

theorem exact_eq_bot_iff : exact x = ⊥ ↔ x.isNaN = true := by
  have hnan : x.isNaN = x.toModel.unpack.isNaN := rfl
  rcases cases_of_double x with ⟨hunpack, hparts⟩ | ⟨negative, hunpack, hparts⟩ |
    ⟨negative, m, j, h⟩
  · rw [hnan, hunpack, exact, hparts]
    exact iff_of_true rfl rfl
  · rw [hnan, hunpack, exact, hparts]
    cases negative <;> simp [exactParts, UnpackedFloat.isNaN]
  · rw [hnan, h.unpack_eq, exact_of_consists h]
    by_cases hm : m = 0
    · simp [hm, unpacked_zero, UnpackedFloat.isNaN]
    · simp [unpacked_of_ne_zero _ hm, UnpackedFloat.isNaN]

/-- Whole numbers compare as they do between the infinities. -/
theorem compare_coe (a b : ℤ) :
    compare (((a : WithTop ℤ) : WithBot (WithTop ℤ)) : Exact)
      (((b : WithTop ℤ) : WithBot (WithTop ℤ)) : Exact) = compare a b := by
  rw [← cmp_eq_compare, ← cmp_eq_compare]
  have hmono : StrictMono fun n : ℤ => (((n : WithTop ℤ) : WithBot (WithTop ℤ)) : Exact) :=
    WithBot.coe_strictMono.comp (WithBot.coe_strictMono.comp WithTop.coe_strictMono)
  exact hmono.cmp_map_eq a b

/-- **Doubles that are numbers are compared as the numbers they stand for.** -/
theorem compare_eq (hx : x.isNaN = false) (hy : y.isNaN = false) :
    x.toModel.unpack.compare y.toModel.unpack = some (compare (exact x) (exact y)) := by
  have hx' : x.toModel.unpack.isNaN = false := hx
  have hy' : y.toModel.unpack.isNaN = false := hy
  rcases cases_of_double x with ⟨hunpack, -⟩ | ⟨negative, hunpack, hparts⟩ | ⟨negative, m, j, h⟩
  · simp [hunpack, UnpackedFloat.isNaN] at hx'
  · rcases cases_of_double y with ⟨hunpack', -⟩ | ⟨negative', hunpack', hparts'⟩ |
      ⟨negative', m', j', h'⟩
    · simp [hunpack', UnpackedFloat.isNaN] at hy'
    · rw [hunpack, hunpack', exact, exact, hparts, hparts']
      cases negative <;> cases negative' <;> rfl
    · rw [hunpack, h'.unpack_eq, exact, hparts, exact_of_consists h']
      by_cases hm : m' = 0
      · subst hm
        rw [unpacked_zero]
        cases negative <;> rfl
      · rw [unpacked_of_ne_zero _ hm]
        cases negative <;> cases negative' <;> rfl
  · rcases cases_of_double y with ⟨hunpack', -⟩ | ⟨negative', hunpack', hparts'⟩ |
      ⟨negative', m', j', h'⟩
    · simp [hunpack', UnpackedFloat.isNaN] at hy'
    · rw [hunpack', h.unpack_eq, exact_of_consists h, exact, hparts']
      by_cases hm : m = 0
      · subst hm
        rw [unpacked_zero]
        cases negative' <;> rfl
      · rw [unpacked_of_ne_zero _ hm]
        cases negative <;> cases negative' <;> rfl
    · rw [h.unpack_eq, h'.unpack_eq, exact_of_consists h, exact_of_consists h', compare_coe]
      exact compare_unpacked h.represents h'.represents

/-- What is not a number compares with nothing. -/
theorem compare_eq_none (h : x.isNaN = true ∨ y.isNaN = true) :
    x.toModel.unpack.compare y.toModel.unpack = none := by
  have hunpack : ∀ z : Float, z.isNaN = true → z.toModel.unpack = .notANumber :=
    fun z hz => UnpackedFloat.isNaN_iff.mp hz
  rcases h with hx | hy
  · rw [hunpack x hx]
    rfl
  · rw [hunpack y hy]
    cases x.toModel.unpack with
    | infinity s => cases s <;> rfl
    | finite s => cases s <;> rfl
    | _ => rfl

/-- The relations of doubles in terms of their comparison. -/
theorem lt_iff_compare : x < y ↔ x.toModel.unpack.compare y.toModel.unpack = some .lt := by
  show decide (x.toModel < y.toModel) = true ↔ _
  rw [decide_eq_true_iff]
  show (_ == _) = true ↔ _
  rw [beq_iff_eq]

theorem le_iff_compare :
    x ≤ y ↔ (x.toModel.unpack.compare y.toModel.unpack).any (·.isLE) = true := by
  show decide (x.toModel ≤ y.toModel) = true ↔ _
  rw [decide_eq_true_iff]
  rfl

/-- **One double is less than another** when both are numbers, and the first stands for less. -/
theorem lt_iff : x < y ↔ x.isNaN = false ∧ y.isNaN = false ∧ exact x < exact y := by
  rw [lt_iff_compare]
  by_cases hnan : x.isNaN = true ∨ y.isNaN = true
  · rw [compare_eq_none hnan]
    grind
  · rw [not_or, Bool.not_eq_true, Bool.not_eq_true] at hnan
    rw [compare_eq hnan.1 hnan.2, Option.some.injEq, compare_lt_iff_lt]
    exact ⟨fun h => ⟨hnan.1, hnan.2, h⟩, fun h => h.2.2⟩

theorem le_iff : x ≤ y ↔ x.isNaN = false ∧ y.isNaN = false ∧ exact x ≤ exact y := by
  rw [le_iff_compare]
  by_cases hnan : x.isNaN = true ∨ y.isNaN = true
  · rw [compare_eq_none hnan]
    grind
  · rw [not_or, Bool.not_eq_true, Bool.not_eq_true] at hnan
    rw [compare_eq hnan.1 hnan.2, Option.any_some, Ordering.isLE_iff_ne_gt,
      ← ne_eq, compare_le_iff_le]
    exact ⟨fun h => ⟨hnan.1, hnan.2, h⟩, fun h => h.2.2⟩

/-- **Of two doubles that are numbers, the one is greater or at most the other**, and not both. -/
theorem le_iff_not_lt (hx : x.isNaN = false) (hy : y.isNaN = false) : x ≤ y ↔ ¬ y < x := by
  rw [le_iff, lt_iff, ← not_lt]
  simp only [hx, hy, true_and]

end AgentPipeline.Decimal
