import Mathlib.Data.String.Basic

/-!
# The order of bytes

Strings are compared character by character.  In UTF-8 that is the order of their bytes: a character
that takes more bytes begins with a greater one, and of two that take equally many the lesser one is
the lesser number in digits of six bits, the most significant digit first.

## Main definitions

* `bytes` — the bytes of a string.
* `Ascends` — rows of bytes that grow with a number.

## Main results

* `utf8EncodeChar_append_lt` — the bytes of characters are in the order of the characters.
* `lt_iff_bytes_lt` — **strings are in the order of their bytes.**
-/

namespace AgentPipeline.Text

/-- The bytes of a string in UTF-8. -/
def bytes (s : String) : List UInt8 :=
  s.toUTF8.data.toList

theorem bytes_eq_flatMap (s : String) : bytes s = s.toList.flatMap String.utf8EncodeChar := by
  rw [bytes, String.toUTF8, ← String.utf8Encode_toList, List.utf8Encode,
    List.toList_data_toByteArray]

/-! ### Digits of six bits -/

theorem ofNat_cons_lt_cons_iff {m n : Nat} (hm : m < 256) (hn : n < 256) {s t : List UInt8} :
    UInt8.ofNat m :: s < UInt8.ofNat n :: t ↔ m < n ∨ m = n ∧ s < t := by
  rw [List.cons_lt_cons_iff, UInt8.lt_iff_toNat_lt, ← UInt8.toNat_inj,
    UInt8.toNat_ofNat_of_lt' (by simpa using hm), UInt8.toNat_ofNat_of_lt' (by simpa using hn)]

/-- Rows of bytes that grow with a number below a bound, whatever follows them. -/
def Ascends (bound : Nat) (f : Nat → List UInt8) : Prop :=
  ∀ ⦃m n⦄, m < n → n < bound → ∀ s t, f m ++ s < f n ++ t

/-- A first byte holds what its mark leaves room for. -/
theorem ascends_first (bound mark : Nat) (hroom : bound + mark ≤ 256) :
    Ascends bound fun v => [UInt8.ofNat (v % bound + mark)] := by
  intro m n hmn hn s t
  show UInt8.ofNat (m % bound + mark) :: s < UInt8.ofNat (n % bound + mark) :: t
  rw [Nat.mod_eq_of_lt hn, Nat.mod_eq_of_lt (hmn.trans hn),
    ofNat_cons_lt_cons_iff (by omega) (by omega)]
  exact Or.inl (by omega)

/-- A further byte holds six bits. -/
theorem Ascends.further {bound : Nat} {f : Nat → List UInt8} (hf : Ascends bound f) :
    Ascends (64 * bound) fun v => f (v / 64) ++ [UInt8.ofNat (v % 64 + 128)] := by
  intro m n hmn hn s t
  have hdigits : m / 64 < n / 64 ∨ m / 64 = n / 64 ∧ m % 64 < n % 64 := by omega
  dsimp only
  rw [List.append_assoc, List.append_assoc]
  rcases hdigits with hlt | ⟨heq, hlt⟩
  · exact hf hlt (by omega) _ _
  · rw [heq]
    refine List.append_left_lt ?_
    rw [List.singleton_append, List.singleton_append,
      ofNat_cons_lt_cons_iff (by omega) (by omega)]
    exact Or.inl (by omega)

/-! ### Characters -/

/-- The first byte of a character tells how many there are. -/
theorem exists_first (c : Char) : ∃ first rest,
    String.utf8EncodeChar c = UInt8.ofNat first :: rest ∧ first < 256 ∧
      (c.toNat ≤ 0x7F → first ≤ 0x7F) ∧ (0x7F < c.toNat → 0xC0 ≤ first) ∧
      (c.toNat ≤ 0x7FF → first < 0xE0) ∧ (0x7FF < c.toNat → 0xE0 ≤ first) ∧
      (c.toNat ≤ 0xFFFF → first < 0xF0) ∧ (0xFFFF < c.toNat → 0xF0 ≤ first) := by
  rw [String.utf8EncodeChar, ← Char.toNat]
  split_ifs
  · exact ⟨_, _, rfl, by omega⟩
  · exact ⟨_, _, rfl, by omega⟩
  · exact ⟨_, _, rfl, by omega⟩
  · exact ⟨_, _, rfl, by omega⟩

/-- The bytes of characters are in the order of the characters, whatever follows them. -/
theorem utf8EncodeChar_append_lt {a b : Char} (hab : a < b) (s t : List UInt8) :
    String.utf8EncodeChar a ++ s < String.utf8EncodeChar b ++ t := by
  have hlt : a.toNat < b.toNat := hab
  have hlast : b.toNat < 0x110000 := b.valid.elim (fun h => h.trans (by decide)) (fun h => h.2)
  obtain ⟨first, rest, ha, hfirst, ha1, -, ha2, -, ha3, -⟩ := exists_first a
  obtain ⟨first', rest', hb, hfirst', -, hb1, -, hb2, -, hb3⟩ := exists_first b
  by_cases hgreater : first < first'
  · rw [ha, hb, List.cons_append, List.cons_append, ofNat_cons_lt_cons_iff hfirst hfirst']
    exact Or.inl hgreater
  clear ha hb
  -- Both take equally many bytes, and the digits decide.
  have htwo := (ascends_first 0x20 0xC0 (by decide)).further
  have hthree := (ascends_first 0x10 0xE0 (by decide)).further.further
  have hfour := (ascends_first 8 0xF0 (by decide)).further.further.further
  simp only [Nat.div_div_eq_div_mul, Nat.reduceMul] at htwo hthree hfour
  rw [String.utf8EncodeChar, String.utf8EncodeChar, ← Char.toNat, ← Char.toNat]
  by_cases hfits1 : b.toNat ≤ 0x7F
  · rw [if_pos hfits1, if_pos (by omega), List.singleton_append, List.singleton_append,
      ofNat_cons_lt_cons_iff (by omega) (by omega)]
    exact Or.inl hlt
  rw [if_neg hfits1, if_neg (by omega)]
  by_cases hfits2 : b.toNat ≤ 0x7FF
  · rw [if_pos hfits2, if_pos (by omega)]
    exact htwo hlt (by omega) s t
  rw [if_neg hfits2, if_neg (by omega)]
  by_cases hfits3 : b.toNat ≤ 0xFFFF
  · rw [if_pos hfits3, if_pos (by omega)]
    exact hthree hlt (by omega) s t
  · rw [if_neg hfits3, if_neg (by omega)]
    exact hfour hlt (by omega) s t

/-! ### Strings -/

theorem flatMap_utf8EncodeChar_lt {s t : List Char} (h : s < t) :
    s.flatMap String.utf8EncodeChar < t.flatMap String.utf8EncodeChar := by
  induction s generalizing t with
  | nil =>
    cases t with
    | nil => exact absurd h (List.not_lt_nil _)
    | cons b t =>
      obtain ⟨first, rest, hb, -⟩ := exists_first b
      rw [List.flatMap_cons, hb]
      exact List.nil_lt_cons _ _
  | cons a s ih =>
    cases t with
    | nil => exact absurd h (List.not_lt_nil _)
    | cons b t =>
      rw [List.flatMap_cons, List.flatMap_cons]
      rcases List.cons_lt_cons_iff.mp h with hab | ⟨rfl, hst⟩
      · exact utf8EncodeChar_append_lt hab _ _
      · exact List.append_left_lt (ih hst)

/-- **Strings are in the order of their bytes.** -/
theorem lt_iff_bytes_lt {s t : String} : s < t ↔ bytes s < bytes t := by
  have hmono : ∀ {s t : String}, s < t → bytes s < bytes t := by
    intro s t h
    rw [bytes_eq_flatMap, bytes_eq_flatMap]
    exact flatMap_utf8EncodeChar_lt (String.lt_iff_toList_lt.mp h)
  refine ⟨hmono, fun h => ?_⟩
  rcases lt_trichotomy s t with hlt | rfl | hgt
  · exact hlt
  · exact absurd h (List.lt_irrefl _)
  · exact absurd (hmono hgt) (List.lt_asymm h)

end AgentPipeline.Text
