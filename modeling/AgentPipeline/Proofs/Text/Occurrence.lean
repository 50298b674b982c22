import AgentPipeline.Proofs.Text.Matching
import AgentPipeline.Text.Basic

/-!
# Where patterns and words occur

A text may be taken apart without making or breaking a match: at a character that no match holds,
and in front of or behind a character that no match begins or ends with, as long as these are no
part of words.  Elsewhere a match in a piece is a match in the whole unless a boundary is lost, and
that takes two word characters where the pieces meet.  A plain word is found where it is a
contiguous part, so a character that it does not have parts a text in two as well.

## Main definitions

* `Pattern.consumes`, `Pattern.requires` — characters that matches may and must hold.
* `Pattern.nullable`, `Pattern.mayStart`, `Pattern.mayEnd` — how matches may begin and end.
* `SplitsWord` — two pieces of text meet inside a word.

## Main results

* `Pattern.occursIn_append_cons` — **a character that no match holds parts a text in two.**
* `Pattern.occursIn_cons`, `Pattern.occursIn_concat` — characters that may be left out at the ends.
* `Pattern.occursIn_append_of_left`, `Pattern.occursIn_append_of_right` — a match in one of two
  pieces is lost only when they meet inside a word.
* `occurs_append_cons` — **a character that a word does not have parts a text in two.**
-/

namespace AgentPipeline.Text

/-- A stretch without `c` lies on one side of a `c`. -/
theorem stretch_beside {x y before m after : List Char} {c : Char}
    (h : x ++ c :: y = before ++ m ++ after) (hc : c ∉ m) :
    (∃ rest, x = before ++ m ++ rest ∧ after = rest ++ c :: y) ∨
      ∃ rest, y = rest ++ m ++ after ∧ before = x ++ c :: rest := by
  rcases List.append_eq_append_iff.mp h with ⟨inside, hinside, hafter⟩ | ⟨rest, hx, hafter⟩
  · cases inside with
    | nil =>
      rw [List.append_nil] at hinside
      exact Or.inl ⟨[], by rw [List.append_nil, hinside], hafter.symm⟩
    | cons d inside =>
      obtain ⟨rfl, rfl⟩ := List.cons_eq_cons.mp (hafter.trans (List.cons_append ..))
      -- The character itself lies in front of the stretch, not inside it.
      rcases List.append_eq_append_iff.mp hinside with ⟨part, -, hm⟩ | ⟨part, hbefore, hpart⟩
      · rw [hm] at hc
        exact absurd (List.mem_append_right part List.mem_cons_self) hc
      · cases part with
        | nil =>
          rw [List.nil_append] at hpart
          rw [← hpart] at hc
          exact absurd List.mem_cons_self hc
        | cons e part =>
          obtain ⟨rfl, rfl⟩ := List.cons_eq_cons.mp (hpart.trans (List.cons_append ..))
          exact Or.inr ⟨part, rfl, hbefore⟩
  · exact Or.inl ⟨rest, hx, hafter⟩

/-- Two pieces of text meet inside a word. -/
def SplitsWord (x y : List Char) : Prop :=
  x.getLast?.any isWordChar = true ∧ y.head?.any isWordChar = true

namespace Pattern

/-! ### What matches hold -/

/-- Whether some match may hold a character. -/
def consumes : Pattern → Char → Bool
  | word letters, c => letters.contains (foldLetter c)
  | blanks _, c => isBlank c
  | boundary, _ => false
  | andThen first second, c => first.consumes c || second.consumes c
  | either left right, c => left.consumes c || right.consumes c
  | optional part, c => part.consumes c

/-- Whether every match must hold a character that is the given one up to case. -/
def requires : Pattern → Char → Bool
  | word letters, l => letters.contains l
  | blanks _, _ => false
  | boundary, _ => false
  | andThen first second, l => first.requires l || second.requires l
  | either left right, l => left.requires l && right.requires l
  | optional _, _ => false

/-- Whether the empty text may be a match. -/
def nullable : Pattern → Bool
  | word letters => letters.isEmpty
  | blanks least => least == 0
  | boundary => true
  | andThen first second => first.nullable && second.nullable
  | either left right => left.nullable || right.nullable
  | optional _ => true

/-- Whether a match may begin with a character. -/
def mayStart : Pattern → Char → Bool
  | word letters, c => letters.head? == some (foldLetter c)
  | blanks _, c => isBlank c
  | boundary, _ => false
  | andThen first second, c => first.mayStart c || first.nullable && second.mayStart c
  | either left right, c => left.mayStart c || right.mayStart c
  | optional part, c => part.mayStart c

/-- Whether a match may end with a character. -/
def mayEnd : Pattern → Char → Bool
  | word letters, c => letters.getLast? == some (foldLetter c)
  | blanks _, c => isBlank c
  | boundary, _ => false
  | andThen first second, c => second.mayEnd c || second.nullable && first.mayEnd c
  | either left right, c => left.mayEnd c || right.mayEnd c
  | optional part, c => part.mayEnd c

variable {p : Pattern} {b a : Option Char} {m : List Char} {c : Char}

theorem Matches.consumes_of_mem (h : p.Matches b m a) (hc : c ∈ m) : p.consumes c = true := by
  induction p generalizing b a m with
  | word letters =>
    rw [consumes, List.contains_iff_mem, ← h]
    exact List.mem_map_of_mem hc
  | blanks least => exact h.2 c hc
  | boundary =>
    rw [h.1] at hc
    exact absurd hc List.not_mem_nil
  | andThen first second ihFirst ihSecond =>
    obtain ⟨m₁, m₂, rfl, hfirst, hsecond⟩ := h
    rw [consumes, Bool.or_eq_true]
    exact (List.mem_append.mp hc).imp (ihFirst hfirst) (ihSecond hsecond)
  | either left right ihLeft ihRight =>
    rw [consumes, Bool.or_eq_true]
    exact h.imp (fun h => ihLeft h hc) fun h => ihRight h hc
  | optional part ih =>
    rcases h with rfl | h
    · exact absurd hc List.not_mem_nil
    · exact ih h hc

theorem Matches.exists_of_requires (h : p.Matches b m a) {l : Char} (hl : p.requires l = true) :
    ∃ c ∈ m, foldLetter c = l := by
  induction p generalizing b a m with
  | word letters =>
    rw [requires, List.contains_iff_mem, ← h] at hl
    exact List.mem_map.mp hl
  | blanks least => cases hl
  | boundary => cases hl
  | andThen first second ihFirst ihSecond =>
    obtain ⟨m₁, m₂, rfl, hfirst, hsecond⟩ := h
    rcases Bool.or_eq_true_iff.mp hl with hl | hl
    · obtain ⟨c, hc, hfold⟩ := ihFirst hfirst hl
      exact ⟨c, List.mem_append_left _ hc, hfold⟩
    · obtain ⟨c, hc, hfold⟩ := ihSecond hsecond hl
      exact ⟨c, List.mem_append_right _ hc, hfold⟩
  | either left right ihLeft ihRight =>
    obtain ⟨hleft, hright⟩ := Bool.and_eq_true_iff.mp hl
    rcases h with h | h
    · exact ihLeft h hleft
    · exact ihRight h hright
  | optional part => cases hl

theorem Matches.nullable (h : p.Matches b [] a) : p.nullable = true := by
  induction p generalizing b a with
  | word letters =>
    rw [Matches, List.map_nil] at h
    rw [Pattern.nullable, ← h]
    rfl
  | blanks least =>
    rw [Pattern.nullable, beq_iff_eq]
    exact Nat.le_zero.mp h.1
  | boundary => rfl
  | andThen first second ihFirst ihSecond =>
    obtain ⟨m₁, m₂, hnil, hfirst, hsecond⟩ := h
    obtain ⟨rfl, rfl⟩ := List.append_eq_nil_iff.mp hnil.symm
    rw [Pattern.nullable, ihFirst hfirst, ihSecond hsecond]
    rfl
  | either left right ihLeft ihRight =>
    rw [Pattern.nullable, Bool.or_eq_true]
    exact h.imp ihLeft ihRight
  | optional part => rfl

theorem Matches.mayStart (h : p.Matches b (c :: m) a) : p.mayStart c = true := by
  induction p generalizing b a m with
  | word letters =>
    rw [Pattern.mayStart, ← h, List.map_cons, List.head?_cons, beq_self_eq_true]
  | blanks least => exact h.2 c List.mem_cons_self
  | boundary => cases h.1
  | andThen first second ihFirst ihSecond =>
    obtain ⟨m₁, m₂, hm, hfirst, hsecond⟩ := h
    rw [Pattern.mayStart, Bool.or_eq_true, Bool.and_eq_true]
    cases m₁ with
    | nil =>
      rw [List.nil_append] at hm
      rw [← hm] at hsecond
      exact Or.inr ⟨hfirst.nullable, ihSecond hsecond⟩
    | cons d m₁ =>
      obtain ⟨rfl, -⟩ := List.cons_eq_cons.mp hm
      exact Or.inl (ihFirst hfirst)
  | either left right ihLeft ihRight =>
    rw [Pattern.mayStart, Bool.or_eq_true]
    exact h.imp ihLeft ihRight
  | optional part ih =>
    rcases h with h | h
    · cases h
    · exact ih h

theorem Matches.mayEnd (h : p.Matches b (m ++ [c]) a) : p.mayEnd c = true := by
  induction p generalizing b a m with
  | word letters =>
    rw [Pattern.mayEnd, ← h, List.map_append, List.map_singleton, List.getLast?_concat,
      beq_self_eq_true]
  | blanks least => exact h.2 c List.mem_concat_self
  | boundary => exact absurd h.1 (List.concat_ne_nil c m)
  | andThen first second ihFirst ihSecond =>
    obtain ⟨m₁, m₂, hm, hfirst, hsecond⟩ := h
    rw [Pattern.mayEnd, Bool.or_eq_true, Bool.and_eq_true]
    rcases List.eq_nil_or_concat m₂ with rfl | ⟨m₂, d, rfl⟩
    · rw [List.append_nil] at hm
      rw [← hm] at hfirst
      exact Or.inr ⟨hsecond.nullable, ihFirst hfirst⟩
    · rw [List.concat_eq_append, ← List.append_assoc] at hm
      rw [List.concat_eq_append] at hsecond
      obtain ⟨-, hd⟩ := List.append_inj' hm rfl
      obtain rfl : c = d := List.singleton_inj.mp hd
      exact Or.inl (ihSecond hsecond)
  | either left right ihLeft ihRight =>
    rw [Pattern.mayEnd, Bool.or_eq_true]
    exact h.imp ihLeft ihRight
  | optional part ih =>
    rcases h with h | h
    · exact absurd h (List.concat_ne_nil c m)
    · exact ih h

/-! ### Occurrences -/

variable {x y s : List Char}

/-- A text without a required character has no match. -/
theorem occursIn_eq_false_of_requires {l : Char} (hl : p.requires l = true)
    (hs : ∀ c ∈ s, foldLetter c ≠ l) : p.occursIn s = false := by
  rw [← Bool.not_eq_true, occursIn_iff]
  rintro ⟨x, m, y, rfl, hmatch⟩
  obtain ⟨c, hc, hfold⟩ := hmatch.exists_of_requires hl
  exact hs c (List.mem_append_left _ (List.mem_append_right _ hc)) hfold

/-- The end of a text that is a boundary stays one unless it comes to lie inside a word. -/
theorem isBoundary_of_end (h : isBoundary b none = true)
    (hsplit : ¬ (b.any isWordChar = true ∧ a.any isWordChar = true)) : isBoundary b a = true := by
  have hb : b.any isWordChar = true := by simpa [isBoundary] using h
  have ha : a.any isWordChar = false := by
    rw [← Bool.not_eq_true]
    exact fun ha => hsplit ⟨hb, ha⟩
  rw [isBoundary, hb, ha]
  rfl

/-- The start of a text that is a boundary stays one unless it comes to lie inside a word. -/
theorem isBoundary_of_start (h : isBoundary none a = true)
    (hsplit : ¬ (b.any isWordChar = true ∧ a.any isWordChar = true)) : isBoundary b a = true := by
  have ha : a.any isWordChar = true := by simpa [isBoundary] using h
  have hb : b.any isWordChar = false := by
    rw [← Bool.not_eq_true]
    exact fun hb => hsplit ⟨hb, ha⟩
  rw [isBoundary, hb, ha]
  rfl

/-- A match in the left one of two pieces is lost only when they meet inside a word. -/
theorem occursIn_append_of_left (h : p.occursIn x = true) (hsplit : ¬ SplitsWord x y) :
    p.occursIn (x ++ y) = true := by
  rw [occursIn_iff] at h ⊢
  obtain ⟨before, m, after, rfl, hmatch⟩ := h
  refine ⟨before, m, after ++ y, by rw [List.append_assoc], ?_⟩
  cases after with
  | cons d after => exact hmatch
  | nil =>
    -- The match ends where the pieces meet.
    rw [SplitsWord, List.append_nil, List.getLast?_append] at hsplit
    refine hmatch.of_neighbours ?_ fun hend => isBoundary_of_end hend hsplit
    cases m with
    | nil => exact fun hstart => isBoundary_of_end hstart hsplit
    | cons c m => exact id

/-- A match in the right one of two pieces is lost only when they meet inside a word. -/
theorem occursIn_append_of_right (h : p.occursIn y = true) (hsplit : ¬ SplitsWord x y) :
    p.occursIn (x ++ y) = true := by
  rw [occursIn_iff] at h ⊢
  obtain ⟨before, m, after, rfl, hmatch⟩ := h
  refine ⟨x ++ before, m, after, by simp only [List.append_assoc], ?_⟩
  cases before with
  | cons d before =>
    rw [List.getLast?_append, List.getLast?_cons, Option.some_or]
    rwa [List.getLast?_cons] at hmatch
  | nil =>
    -- The match begins where the pieces meet.
    rw [SplitsWord, List.nil_append, List.head?_append] at hsplit
    rw [List.append_nil]
    refine hmatch.of_neighbours (fun hstart => isBoundary_of_start hstart hsplit) ?_
    cases m with
    | nil => exact fun hend => isBoundary_of_start hend hsplit
    | cons c m =>
      rw [List.getLast?_cons]
      exact id

theorem not_splitsWord_cons (hword : isWordChar c = false) : ¬ SplitsWord x (c :: y) := by
  rintro ⟨-, hc⟩
  rw [List.head?_cons, Option.any_some, hword] at hc
  cases hc

theorem not_splitsWord_concat (hword : isWordChar c = false) : ¬ SplitsWord (x ++ [c]) y := by
  rintro ⟨hc, -⟩
  rw [List.getLast?_concat, Option.any_some, hword] at hc
  cases hc

theorem any_head?_append_cons (hword : isWordChar c = false) :
    (x ++ c :: y).head?.any isWordChar = x.head?.any isWordChar := by
  cases x with
  | nil => exact hword
  | cons d x => rfl

theorem any_getLast?_append_cons (hword : isWordChar c = false) :
    (x ++ c :: y).getLast?.any isWordChar = y.getLast?.any isWordChar := by
  rw [List.getLast?_append, List.getLast?_cons]
  cases hlast : y.getLast? with
  | none => exact hword
  | some d => rfl

/-- A character that is no part of words and that no match holds parts a text in two. -/
theorem occursIn_append_cons (hconsumes : p.consumes c = false) (hword : isWordChar c = false) :
    p.occursIn (x ++ c :: y) = (p.occursIn x || p.occursIn y) := by
  rw [Bool.eq_iff_iff, Bool.or_eq_true]
  constructor
  · intro h
    obtain ⟨before, m, after, hs, hmatch⟩ := occursIn_iff.mp h
    have hc : c ∉ m := by
      intro hc
      rw [hmatch.consumes_of_mem hc] at hconsumes
      cases hconsumes
    rcases stretch_beside hs hc with ⟨rest, hx, rfl⟩ | ⟨rest, hy, rfl⟩
    · exact Or.inl (occursIn_iff.mpr ⟨before, m, rest, hx,
        hmatch.congr_neighbours rfl (any_head?_append_cons hword)⟩)
    · exact Or.inr (occursIn_iff.mpr ⟨rest, m, after, hy,
        hmatch.congr_neighbours (any_getLast?_append_cons hword) rfl⟩)
  · rintro (h | h)
    · exact occursIn_append_of_left h (not_splitsWord_cons hword)
    · rw [← List.singleton_append, ← List.append_assoc]
      exact occursIn_append_of_right h (not_splitsWord_concat hword)

/-- A character that is no part of words and with which no match begins may be left out in front. -/
theorem occursIn_cons (hnullable : p.nullable = false) (hstart : p.mayStart c = false)
    (hword : isWordChar c = false) : p.occursIn (c :: y) = p.occursIn y := by
  rw [Bool.eq_iff_iff]
  constructor
  · intro h
    obtain ⟨before, m, after, hs, hmatch⟩ := occursIn_iff.mp h
    cases before with
    | nil =>
      cases m with
      | nil =>
        rw [hmatch.nullable] at hnullable
        cases hnullable
      | cons d m =>
        obtain ⟨rfl, -⟩ := List.cons_eq_cons.mp hs
        rw [hmatch.mayStart] at hstart
        cases hstart
    | cons d before =>
      obtain ⟨rfl, hy⟩ := List.cons_eq_cons.mp hs
      exact occursIn_iff.mpr ⟨before, m, after, hy,
        hmatch.congr_neighbours (any_getLast?_append_cons (x := []) hword) rfl⟩
  · intro h
    exact occursIn_append_of_right (x := [c]) h (not_splitsWord_concat (x := []) hword)

/-- A character that is no part of words and with which no match ends may be left out at the end. -/
theorem occursIn_concat (hnullable : p.nullable = false) (hend : p.mayEnd c = false)
    (hword : isWordChar c = false) : p.occursIn (x ++ [c]) = p.occursIn x := by
  rw [Bool.eq_iff_iff]
  constructor
  · intro h
    obtain ⟨before, m, after, hs, hmatch⟩ := occursIn_iff.mp h
    rcases List.eq_nil_or_concat after with rfl | ⟨after, d, rfl⟩
    · rcases List.eq_nil_or_concat m with rfl | ⟨m, d, rfl⟩
      · rw [hmatch.nullable] at hnullable
        cases hnullable
      · rw [List.append_nil, List.concat_eq_append, ← List.append_assoc] at hs
        rw [List.concat_eq_append] at hmatch
        obtain ⟨-, hd⟩ := List.append_inj' hs rfl
        obtain rfl : c = d := List.singleton_inj.mp hd
        rw [hmatch.mayEnd] at hend
        cases hend
    · rw [List.concat_eq_append, ← List.append_assoc] at hs
      rw [List.concat_eq_append] at hmatch
      obtain ⟨hx, hd⟩ := List.append_inj' hs rfl
      obtain rfl : c = d := List.singleton_inj.mp hd
      exact occursIn_iff.mpr ⟨before, m, after, hx,
        hmatch.congr_neighbours rfl (any_head?_append_cons hword)⟩
  · intro h
    exact occursIn_append_of_left h (not_splitsWord_cons hword)

end Pattern

/-! ### Where words are found -/

/-- A word is found where it is a contiguous part. -/
theorem occurs_eq_true_iff {w s : List Char} : occurs w s = true ↔ w <:+: s := by
  induction s with
  | nil => rw [occurs, List.isEmpty_iff, List.infix_nil]
  | cons c s ih =>
    rw [occurs, Bool.or_eq_true, List.isPrefixOf_iff_prefix, ih, List.infix_cons_iff]

/-- A character that a word does not have parts a text in two. -/
theorem occurs_append_cons {w : List Char} {c : Char} (hc : c ∉ w) (x y : List Char) :
    occurs w (x ++ c :: y) = (occurs w x || occurs w y) := by
  rw [Bool.eq_iff_iff, Bool.or_eq_true, occurs_eq_true_iff, occurs_eq_true_iff, occurs_eq_true_iff]
  constructor
  · rintro ⟨before, after, h⟩
    rcases stretch_beside h.symm hc with ⟨rest, hx, -⟩ | ⟨rest, hy, -⟩
    · exact Or.inl ⟨before, rest, hx.symm⟩
    · exact Or.inr ⟨rest, after, hy.symm⟩
  · rintro (h | h)
    · exact h.trans (List.prefix_append x _).isInfix
    · exact h.trans ((List.suffix_cons c y).trans (List.suffix_append x _)).isInfix

theorem infix_append_cons_iff {w x y : List Char} {c : Char} (hc : c ∉ w) :
    w <:+: x ++ c :: y ↔ w <:+: x ∨ w <:+: y := by
  rw [← occurs_eq_true_iff, occurs_append_cons hc, Bool.or_eq_true, occurs_eq_true_iff,
    occurs_eq_true_iff]

end AgentPipeline.Text
