import AgentPipeline.Json.Reader
import AgentPipeline.Proofs.Decimal.Numbers

/-!
# What the values of JSON texts are like

Whatever a text holds, the fields of its objects come out sorted with no key twice, at every depth,
and no number in it fails to be one.  The tokenizer and the automaton behind it keep this at every
step; a key that comes twice replaces the older value.

## Main definitions

* `Json.WellFormed` — sorted fields and proper numbers, at every depth.

## Main results

* `Json.insertField_sorted` — a field more leaves the fields sorted.
* `Json.wellFormed_of_read?` — **what a text is read as is well-formed.**
-/

namespace AgentPipeline.Json

open Decimal

/-- Every number is a number, and the fields of every object are sorted with no key twice. -/
inductive WellFormed : Json → Prop where
  | null : WellFormed null
  | bool (b : Bool) : WellFormed (bool b)
  | int (n : Int) : WellFormed (int n)
  | float {x : Float} (h : x.isNaN = false) : WellFormed (float x)
  | str (s : String) : WellFormed (str s)
  | arr {items : List Json} (h : ∀ v ∈ items, WellFormed v) : WellFormed (arr items)
  | obj {fields : List (String × Json)} (sorted : fields.Pairwise fun f g => f.1 < g.1)
    (h : ∀ f ∈ fields, WellFormed f.2) : WellFormed (obj fields)

/-! ### Fields -/

theorem eq_or_mem_of_mem_insertField {key : String} {value : Json}
    {fields : List (String × Json)} {f : String × Json} (h : f ∈ insertField key value fields) :
    f = (key, value) ∨ f ∈ fields := by
  induction fields with
  | nil => exact Or.inl (List.mem_singleton.mp h)
  | cons g fields ih =>
    unfold insertField at h
    split at h
    · exact List.mem_cons.mp h
    · split at h
      · exact (List.mem_cons.mp h).imp_right (List.mem_cons_of_mem _)
      · rcases List.mem_cons.mp h with rfl | hmem
        · exact Or.inr List.mem_cons_self
        · exact (ih hmem).imp_right (List.mem_cons_of_mem _)

/-- A field more leaves the fields sorted. -/
theorem insertField_sorted (key : String) (value : Json) {fields : List (String × Json)}
    (h : fields.Pairwise fun f g => f.1 < g.1) :
    (insertField key value fields).Pairwise fun f g => f.1 < g.1 := by
  induction h with
  | nil => exact List.pairwise_singleton _ _
  | @cons f fields hlt hsorted ih =>
    unfold insertField
    split
    · next hbefore =>
      refine List.Pairwise.cons (fun g hg => ?_) (List.Pairwise.cons hlt hsorted)
      rcases List.mem_cons.mp hg with rfl | hg
      · exact hbefore
      · exact hbefore.trans (hlt g hg)
    · next hnot =>
      split
      · next heq =>
        subst heq
        exact List.Pairwise.cons hlt hsorted
      · next hne =>
        have hbehind : f.1 < key := (lt_trichotomy key f.1).resolve_left hnot |>.resolve_left hne
        refine List.Pairwise.cons (fun g hg => ?_) ih
        rcases eq_or_mem_of_mem_insertField hg with rfl | hg
        · exact hbehind
        · exact hlt g hg

/-- Fields that an object may have. -/
structure FieldsWellFormed (fields : List (String × Json)) : Prop where
  sorted : fields.Pairwise fun f g => f.1 < g.1
  values : ∀ f ∈ fields, WellFormed f.2

theorem FieldsWellFormed.insert {fields : List (String × Json)} (h : FieldsWellFormed fields)
    (key : String) {value : Json} (hvalue : WellFormed value) :
    FieldsWellFormed (insertField key value fields) where
  sorted := insertField_sorted key value h.sorted
  values := by
    intro f hf
    rcases eq_or_mem_of_mem_insertField hf with rfl | hf
    · exact hvalue
    · exact h.values f hf

theorem mem_of_lookup {key : String} {value : Json} {fields : List (String × Json)}
    (h : lookup key fields = some value) : (key, value) ∈ fields := by
  induction fields with
  | nil => cases h
  | cons f fields ih =>
    unfold lookup at h
    split at h
    · next heq =>
      cases h
      exact heq ▸ List.mem_cons_self
    · exact List.mem_cons_of_mem _ (ih h)

/-- The values of an object are well-formed. -/
theorem WellFormed.field? {v value : Json} (hv : v.WellFormed) {key : String}
    (h : v.field? key = some value) : value.WellFormed := by
  cases hv with
  | obj hsorted hvalues => exact hvalues _ (mem_of_lookup h)
  | _ => cases h

/-! ### Numbers -/

/-- The powers of ten that numbers are scaled by are doubles other than zero. -/
theorem isNonzero_power {k : Nat} (hk : k ≤ 308) : IsNonzero (nearestFloat 1 k) = true := by
  have hone : (1 : ℚ) ≤ 10 ^ k := one_le_pow₀ (by norm_num)
  have hmost : (10 : ℚ) ^ k ≤ 10 ^ 308 := pow_le_pow_right₀ (by norm_num) hk
  have hrange : (10 : ℚ) ^ 308 < (2 ^ 53 - 1) * 2 ^ 971 := by
    have hlt : 10 ^ 308 + 2 ^ 971 < 2 ^ (53 + 971) := by decide +kernel
    rw [sub_mul, one_mul, ← pow_add, lt_sub_iff_add_lt]
    exact_mod_cast hlt
  refine isNonzero_nearestFloat ?_ ?_
  · rw [Nat.cast_one, one_mul, zpow_natCast]
    exact (zpow_lt_one_of_neg₀ one_lt_two (by norm_num)).trans_le hone
  · rw [Nat.cast_one, one_mul, zpow_natCast]
    exact hmost.trans_lt hrange

/-- What is finite is a number. -/
theorem isNaN_of_isFinite {x : Float} (h : x.isFinite = true) : x.isNaN = false := by
  obtain ⟨negative, m, j, hx⟩ := exists_consists h
  have hunpack : x.isNaN = x.toModel.unpack.isNaN := rfl
  rw [hunpack, hx.unpack_eq]
  by_cases hm : m = 0
  · rw [hm, unpacked_zero]
    rfl
  · rw [unpacked_of_ne_zero _ hm]
    rfl

/-- Scaling divides by powers of ten that are numbers other than zero. -/
theorem isNaN_of_scaled? {m : Nat} {e : Int} {x : Float} (h : scaled? m e = some x) :
    x.isNaN = false := by
  unfold scaled? at h
  dsimp only at h
  split at h
  · cases h
    exact isNaN_ofNat 0
  split at h
  · cases h
  split at h
  · split at h
    · next hfinite =>
      cases h
      exact isNaN_of_isFinite hfinite
    · cases h
  · next hlarge hsmall =>
    -- The exponent is negative, and its opposite is split where it passes the range of a double.
    have hpower : ∀ k : Int, 0 ≤ k → k ≤ 308 → IsNonzero (nearestFloat 1 k) = true := by
      intro k hk hle
      obtain ⟨n, rfl⟩ := Int.eq_ofNat_of_zero_le hk
      exact isNonzero_power (by omega)
    split at h
    · cases h
      rw [isNaN_div (hpower _ (by omega) (by omega))]
      exact isNaN_ofNat m
    · cases h
      rw [isNaN_div (hpower _ (by omega) (by omega)), isNaN_div (hpower 308 (by omega) (by omega))]
      exact isNaN_ofNat m

theorem isNaN_floatOfInt (n : Int) : (floatOfInt n).isNaN = false := by
  unfold floatOfInt
  split
  · exact isNaN_neg.trans (isNaN_ofNat _)
  · exact isNaN_ofNat _

theorem wellFormed_of_ofDecimal? {negative : Bool} {whole fraction : List Char} {e : Int} {v : Json}
    (h : ofDecimal? negative whole fraction e = some v) : WellFormed v := by
  obtain ⟨x, hx, rfl⟩ := Option.map_eq_some_iff.mp h
  exact .float ((isNaN_withSign negative x).trans (isNaN_of_scaled? hx))

theorem wellFormed_of_ofInteger? {negative : Bool} {whole : List Char} {v : Json}
    (h : ofInteger? negative whole = some v) : WellFormed v := by
  unfold ofInteger? at h
  dsimp only at h
  split at h
  · exact wellFormed_of_ofDecimal? h
  split at h
  · split at h
    · cases h
      exact .float (isNaN_neg.trans (isNaN_ofNat _))
    · cases h
      exact .int _
  · cases h
    exact .int _

theorem wellFormed_of_number? {s : List Char} {v : Json} (h : number? s = some v) :
    WellFormed v := by
  unfold number? at h
  dsimp only at h
  split at h
  all_goals
    split at h
    · cases h
    split at h
    · exact wellFormed_of_ofInteger? h
    · split at h
      · cases h
      · obtain ⟨e, -, he⟩ := Option.bind_eq_some_iff.mp h
        exact wellFormed_of_ofDecimal? he
    · obtain ⟨e, -, he⟩ := Option.bind_eq_some_iff.mp h
      exact wellFormed_of_ofDecimal? he

/-- Words and numbers are well-formed. -/
theorem wellFormed_of_plain? {s : List Char} {v : Json} (h : plain? s = some v) : WellFormed v := by
  unfold plain? at h
  split at h
  · cases h
    exact .null
  · cases h
    exact .bool true
  · cases h
    exact .bool false
  · exact wellFormed_of_number? h

/-! ### Tokens -/

/-- The value that a token holds, if any, is well-formed. -/
def Token.WellFormed (t : Token) : Prop :=
  ∀ v, t = .plain v → Json.WellFormed v

theorem wellFormed_of_punctuation? {c : Char} {t : Token} (h : punctuation? c = some t) :
    t.WellFormed := by
  unfold punctuation? at h
  intro v hv
  subst hv
  split at h
  all_goals cases h

theorem wellFormed_of_startToken? {c : Char} {state : Scan} {tokens : List Token}
    (h : startToken? c = some (state, tokens)) : ∀ t ∈ tokens, t.WellFormed := by
  unfold startToken? at h
  split at h
  · cases h
    simp
  split at h
  · cases h
    simp
  split at h
  · next t ht =>
    cases h
    intro t' ht'
    rw [List.mem_singleton.mp ht']
    exact wellFormed_of_punctuation? ht
  · cases h
    simp

/-- A step of the tokenizer completes well-formed tokens. -/
theorem wellFormed_of_scan {state next : Scan} {c : Char} {tokens : List Token}
    (h : state.step? c = some (next, tokens)) : ∀ t ∈ tokens, t.WellFormed := by
  intro t ht v hv
  subst hv
  unfold Scan.step? at h
  split at h
  · exact wellFormed_of_startToken? h _ ht v rfl
  · split at h
    · -- The character ends a number or a word.
      simp only [Option.bind_eq_bind, Option.bind_eq_some_iff, Option.pure_def, Option.some.injEq,
        Prod.mk.injEq, Prod.exists] at h
      obtain ⟨value, hvalue, state', tokens', hstart, -, rfl⟩ := h
      rcases List.mem_cons.mp ht with heq | ht
      · cases heq
        exact wellFormed_of_plain? hvalue
      · exact wellFormed_of_startToken? hstart _ ht v rfl
    · cases h
      cases ht
  · -- Within a string only its end completes a token, and that is a string.
    split at h
    · cases h
      cases List.mem_singleton.mp ht
    split at h
    · cases h
      cases ht
    split at h
    · cases h
    · cases h
      cases ht
  · split at h
    · cases h
      cases ht
    · cases h
  · split at h
    · cases h
      cases ht
    split at h
    · cases h
    · obtain ⟨e, -, he⟩ := Option.map_eq_some_iff.mp h
      cases he
      cases ht
  · obtain ⟨d, -, hd⟩ := Option.bind_eq_some_iff.mp h
    dsimp only at hd
    split at hd
    · obtain ⟨next', -, hnext⟩ := Option.bind_eq_some_iff.mp hd
      cases hnext
      cases ht
    · cases hd
      cases ht

theorem wellFormed_of_tokensFrom? {state : Scan} {found tokens : List Token} {s : List Char}
    (hfound : ∀ t ∈ found, t.WellFormed) (h : tokensFrom? state found s = some tokens) :
    ∀ t ∈ tokens, t.WellFormed := by
  induction s generalizing state found with
  | nil =>
    unfold tokensFrom? at h
    split at h
    · cases h
      intro t ht
      exact hfound t (List.mem_reverse.mp ht)
    · obtain ⟨v, hv, rfl⟩ := Option.map_eq_some_iff.mp h
      intro t ht
      rcases List.mem_cons.mp (List.mem_reverse.mp ht) with rfl | ht
      · intro w hw
        cases hw
        exact wellFormed_of_plain? hv
      · exact hfound t ht
    · cases h
  | cons c s ih =>
    unfold tokensFrom? at h
    split at h
    · cases h
    · next next tokens' hstep =>
      refine ih (fun t ht => ?_) h
      rcases List.mem_append.mp ht with ht | ht
      · exact wellFormed_of_scan hstep t (List.mem_reverse.mp ht)
      · exact hfound t ht

/-! ### Values -/

/-- What an open collection holds so far is well-formed. -/
def Frame.WellFormed : Frame → Prop
  | .array items => ∀ v ∈ items, Json.WellFormed v
  | .object fields => FieldsWellFormed fields
  | .keyed fields _ => FieldsWellFormed fields

/-- All that has been put together so far is well-formed. -/
structure Build.WellFormed (b : Build) : Prop where
  frames : ∀ f ∈ b.open_, f.WellFormed
  result : ∀ v, b.result = some v → Json.WellFormed v

namespace Build.WellFormed

variable {b b' : Build} {t : Token} {v : Json}

theorem complete (hb : b.WellFormed) (hv : Json.WellFormed v) (h : b.complete v = some b') :
    b'.WellFormed := by
  unfold Build.complete at h
  have hframes := hb.frames
  split at h
  · cases h
    refine ⟨by simp, fun w hw => ?_⟩
    cases hw
    exact hv
  · next items more hopen =>
    cases h
    rw [hopen, List.forall_mem_cons] at hframes
    refine ⟨List.forall_mem_cons.mpr ⟨?_, hframes.2⟩, nofun⟩
    exact List.forall_mem_cons.mpr ⟨hv, hframes.1⟩
  · next fields key more hopen =>
    cases h
    rw [hopen, List.forall_mem_cons] at hframes
    exact ⟨List.forall_mem_cons.mpr ⟨FieldsWellFormed.insert hframes.1 key hv, hframes.2⟩, nofun⟩
  · cases h

theorem begin (hb : b.WellFormed) {frame : Frame} (hframe : frame.WellFormed) {expect : Expect}
    (h : b.begin frame expect = some b') : b'.WellFormed := by
  unfold Build.begin at h
  split at h
  · cases h
    exact ⟨List.forall_mem_cons.mpr ⟨hframe, hb.frames⟩, nofun⟩
  · cases h

theorem value? (hb : b.WellFormed) (ht : t.WellFormed) (h : b.value? t = some b') :
    b'.WellFormed := by
  unfold Build.value? at h
  split at h
  · exact hb.begin (by simp [Frame.WellFormed]) h
  · exact hb.begin (show Frame.WellFormed (.object []) from ⟨List.Pairwise.nil, by simp⟩) h
  · exact hb.complete (.str _) h
  · exact hb.complete (ht _ rfl) h
  · cases h

theorem key? (hb : b.WellFormed) (h : b.key? t = some b') : b'.WellFormed := by
  unfold Build.key? at h
  split at h
  · split at h
    · next fields more hopen =>
      cases h
      have hframes := hb.frames
      rw [hopen, List.forall_mem_cons] at hframes
      exact ⟨List.forall_mem_cons.mpr hframes, nofun⟩
    · cases h
  · cases h

theorem close? (hb : b.WellFormed) (h : b.close? t = some b') : b'.WellFormed := by
  unfold Build.close? at h
  have hframes := hb.frames
  split at h
  · next items more hopen =>
    rw [hopen, List.forall_mem_cons] at hframes
    have hmore : Build.WellFormed { b with open_ := more } := ⟨hframes.2, hb.result⟩
    exact hmore.complete (.arr fun v hv => hframes.1 v (List.mem_reverse.mp hv)) h
  · next fields more hopen =>
    rw [hopen, List.forall_mem_cons] at hframes
    have hmore : Build.WellFormed { b with open_ := more } := ⟨hframes.2, hb.result⟩
    exact hmore.complete (.obj hframes.1.sorted hframes.1.values) h
  · cases h

/-- A step keeps what has been put together well-formed. -/
theorem step? (hb : b.WellFormed) (ht : t.WellFormed) (h : b.step? t = some b') :
    b'.WellFormed := by
  unfold Build.step? at h
  split at h
  · exact hb.value? ht h
  · exact hb.close? h
  · exact hb.value? ht h
  · exact hb.close? h
  · exact hb.key? h
  · exact hb.key? h
  · cases h
    exact ⟨hb.frames, hb.result⟩
  · cases h
  · split at h
    · cases h
      exact ⟨hb.frames, hb.result⟩
    · cases h
      exact ⟨hb.frames, hb.result⟩
    · cases h
  · exact hb.close? h

theorem foldlM (hb : b.WellFormed) {tokens : List Token} (ht : ∀ t ∈ tokens, t.WellFormed)
    (h : tokens.foldlM Build.step? b = some b') : b'.WellFormed := by
  induction tokens generalizing b with
  | nil =>
    cases h
    exact hb
  | cons t tokens ih =>
    rw [List.foldlM_cons, Option.bind_eq_bind, Option.bind_eq_some_iff] at h
    obtain ⟨next, hstep, hrest⟩ := h
    rw [List.forall_mem_cons] at ht
    exact ih (hb.step? ht.1 hstep) ht.2 hrest

end Build.WellFormed

/-- **What a text is read as is well-formed.** -/
theorem wellFormed_of_read? {text : String} {v : Json} (h : read? text = some v) :
    WellFormed v := by
  obtain ⟨tokens, htokens, hbuilt⟩ := Option.bind_eq_some_iff.mp h
  obtain ⟨b, hb, hresult⟩ := Option.bind_eq_some_iff.mp hbuilt
  have hempty : Build.WellFormed ⟨[], .value, none⟩ := ⟨by simp, nofun⟩
  exact (hempty.foldlM (wellFormed_of_tokensFrom? (by simp) htokens) hb).result v hresult

end AgentPipeline.Json
