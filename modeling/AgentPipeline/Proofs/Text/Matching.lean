import AgentPipeline.Text.Pattern

/-!
# What patterns match

A pattern says where its matches may end.  What it matches is a stretch of text between two
neighbours, and of these it only asks, at the very ends of the stretch, whether they are word
characters.  So a match lives on between other neighbours when no boundary is lost there.

## Main definitions

* `Pattern.Matches` — a pattern matches a stretch of text between two neighbours.
* `Pattern.Behind` — a place lies behind another one with a stretch of text in between.

## Main results

* `Pattern.mem_ends_iff` — **where matches end**, in terms of what is matched.
* `Pattern.occursIn_iff` — a pattern occurs in a text that holds a stretch which it matches.
* `Pattern.Matches.of_neighbours` — a match between other neighbours.
-/

namespace AgentPipeline.Text

/-! ### Stretches of text -/

theorem getLast?_cons_or (c : Char) (m : List Char) (b : Option Char) :
    (c :: m).getLast?.or b = m.getLast?.or (some c) := by
  cases m with
  | nil => rfl
  | cons d m => rw [List.getLast?_cons_cons, List.getLast?_cons, Option.some_or, Option.some_or]

theorem getLast?_append_or (m n : List Char) (b : Option Char) :
    (m ++ n).getLast?.or b = n.getLast?.or (m.getLast?.or b) := by
  rw [List.getLast?_append, Option.or_assoc]

theorem head?_append_or (m n : List Char) (a : Option Char) :
    (m ++ n).head?.or a = m.head?.or (n.head?.or a) := by
  rw [List.head?_append, Option.or_assoc]

namespace Pattern

/-! ### Matches -/

/-- Whether a pattern matches a stretch of text between two neighbours. -/
def Matches : Pattern → Option Char → List Char → Option Char → Prop
  | word letters, _, m, _ => m.map foldLetter = letters
  | blanks least, _, m, _ => least ≤ m.length ∧ ∀ c ∈ m, isBlank c = true
  | boundary, before, m, after => m = [] ∧ isBoundary before after = true
  | andThen first second, before, m, after =>
    ∃ m₁ m₂, m = m₁ ++ m₂ ∧ first.Matches before m₁ (m₂.head?.or after) ∧
      second.Matches (m₁.getLast?.or before) m₂ after
  | either left right, before, m, after => left.Matches before m after ∨ right.Matches before m after
  | optional part, before, m, after => m = [] ∨ part.Matches before m after

/-- A place lies behind another one with a stretch of text in between. -/
def Behind (b a : Place) (m : List Char) : Prop :=
  a.rest = m ++ b.rest ∧ b.before = m.getLast?.or a.before

theorem behind_nil {a b : Place} : Behind b a [] ↔ b = a := by
  obtain ⟨before, rest⟩ := a
  obtain ⟨before', rest'⟩ := b
  simp [Behind, eq_comm, and_comm]

theorem behind_append {a c : Place} {m n : List Char} :
    Behind c a (m ++ n) ↔ ∃ b, Behind b a m ∧ Behind c b n := by
  constructor
  · rintro ⟨hrest, hbefore⟩
    refine ⟨⟨m.getLast?.or a.before, n ++ c.rest⟩, ⟨?_, rfl⟩, rfl, ?_⟩
    · rw [hrest, List.append_assoc]
    · rw [hbefore, getLast?_append_or]
  · rintro ⟨b, ⟨hrest, hbefore⟩, hrest', hbefore'⟩
    refine ⟨?_, ?_⟩
    · rw [hrest, hrest', List.append_assoc]
    · rw [hbefore', hbefore, getLast?_append_or]

/-- Nothing lies behind the end of a text. -/
theorem behind_end {b : Place} {before : Option Char} {m : List Char} :
    Behind b ⟨before, []⟩ m ↔ m = [] ∧ b = ⟨before, []⟩ := by
  constructor
  · intro h
    obtain ⟨rfl, -⟩ := List.append_eq_nil_iff.mp h.1.symm
    exact ⟨rfl, behind_nil.mp h⟩
  · rintro ⟨rfl, rfl⟩
    exact behind_nil.mpr rfl

/-- A stretch of text that goes on with `c` is empty or begins with it. -/
theorem behind_cons {b : Place} {before : Option Char} {c : Char} {rest m : List Char} :
    Behind b ⟨before, c :: rest⟩ m ↔
      m = [] ∧ b = ⟨before, c :: rest⟩ ∨ ∃ m', m = c :: m' ∧ Behind b ⟨some c, rest⟩ m' := by
  cases m with
  | nil => simp [behind_nil]
  | cons d m =>
    rw [Behind, getLast?_cons_or, List.cons_append, List.cons_eq_cons]
    constructor
    · rintro ⟨⟨rfl, hrest⟩, hbefore⟩
      exact Or.inr ⟨m, rfl, hrest, hbefore⟩
    · rintro (⟨hnil, -⟩ | ⟨m', hm, hrest, hbefore⟩)
      · cases hnil
      · cases hm
        exact ⟨⟨rfl, hrest⟩, hbefore⟩

theorem afterWord_eq_some_iff {letters : List Char} {a b : Place} :
    afterWord letters a = some b ↔ ∃ m, Behind b a m ∧ m.map foldLetter = letters := by
  induction letters generalizing a with
  | nil =>
    rw [afterWord, Option.some_inj]
    constructor
    · rintro rfl
      exact ⟨[], behind_nil.mpr rfl, rfl⟩
    · rintro ⟨m, hm, hmap⟩
      rw [List.map_eq_nil_iff] at hmap
      subst hmap
      exact (behind_nil.mp hm).symm
  | cons l letters ih =>
    obtain ⟨before, rest⟩ := a
    cases rest with
    | nil =>
      refine iff_of_false (by simp [afterWord]) ?_
      rintro ⟨m, hm, hmap⟩
      obtain ⟨rfl, -⟩ := behind_end.mp hm
      cases hmap
    | cons c rest =>
      have hletters : (∃ m, Behind b ⟨before, c :: rest⟩ m ∧ m.map foldLetter = l :: letters) ↔
          foldLetter c = l ∧ ∃ m, Behind b ⟨some c, rest⟩ m ∧ m.map foldLetter = letters := by
        constructor
        · rintro ⟨m, hm, hmap⟩
          rcases behind_cons.mp hm with ⟨rfl, -⟩ | ⟨m', rfl, hm'⟩
          · cases hmap
          · rw [List.map_cons, List.cons_eq_cons] at hmap
            exact ⟨hmap.1, m', hm', hmap.2⟩
        · rintro ⟨hfold, m, hm, hmap⟩
          refine ⟨c :: m, behind_cons.mpr (Or.inr ⟨m, rfl, hm⟩), ?_⟩
          rw [List.map_cons, hfold, hmap]
      rw [hletters, ← ih, afterWord]
      dsimp only
      split
      · next hfold => exact (and_iff_right hfold).symm
      · next hfold => exact iff_of_false (by simp) fun h => hfold h.1

theorem mem_afterBlanks_iff {least : Nat} {before : Option Char} {rest : List Char} {b : Place} :
    b ∈ afterBlanks least before rest ↔
      ∃ m, Behind b ⟨before, rest⟩ m ∧ least ≤ m.length ∧ ∀ c ∈ m, isBlank c = true := by
  induction rest generalizing least before with
  | nil =>
    have hnil : (∃ m, Behind b ⟨before, []⟩ m ∧ least ≤ m.length ∧ ∀ c ∈ m, isBlank c = true) ↔
        least = 0 ∧ b = ⟨before, []⟩ := by
      simp [behind_end, and_comm, and_assoc]
    rw [hnil, afterBlanks]
    split
    · next hleast => simp [hleast]
    · next hleast => simp [hleast]
  | cons c rest ih =>
    have hcons : (∃ m, Behind b ⟨before, c :: rest⟩ m ∧ least ≤ m.length ∧
          ∀ d ∈ m, isBlank d = true) ↔
        least = 0 ∧ b = ⟨before, c :: rest⟩ ∨ isBlank c = true ∧
          ∃ m, Behind b ⟨some c, rest⟩ m ∧ least - 1 ≤ m.length ∧ ∀ d ∈ m, isBlank d = true := by
      constructor
      · rintro ⟨m, hm, hlength, hblank⟩
        rcases behind_cons.mp hm with ⟨rfl, rfl⟩ | ⟨m', rfl, hm'⟩
        · exact Or.inl ⟨Nat.le_zero.mp hlength, rfl⟩
        · rw [List.length_cons] at hlength
          rw [List.forall_mem_cons] at hblank
          exact Or.inr ⟨hblank.1, m', hm', by omega, hblank.2⟩
      · rintro (⟨rfl, rfl⟩ | ⟨hblank, m, hm, hlength, hall⟩)
        · exact ⟨[], behind_nil.mpr rfl, Nat.le_refl 0, by simp⟩
        · refine ⟨c :: m, behind_cons.mpr (Or.inr ⟨m, rfl, hm⟩), ?_, ?_⟩
          · rw [List.length_cons]
            omega
          · exact List.forall_mem_cons.mpr ⟨hblank, hall⟩
    have hhere : b ∈ (if least = 0 then [(⟨before, c :: rest⟩ : Place)] else []) ↔
        least = 0 ∧ b = ⟨before, c :: rest⟩ := by
      split
      · next hleast => simp [hleast]
      · next hleast => simp [hleast]
    rw [hcons, ← ih, afterBlanks]
    split
    · next hblank => rw [List.mem_append, hhere, and_iff_right hblank]
    · next hblank =>
      rw [hhere]
      simp [hblank]

/-- **Where matches end**: behind a stretch of text that the pattern matches. -/
theorem mem_ends_iff {p : Pattern} {a b : Place} :
    b ∈ p.ends a ↔ ∃ m, Behind b a m ∧ p.Matches a.before m b.rest.head? := by
  induction p generalizing a b with
  | word letters => rw [ends, Option.mem_toList, afterWord_eq_some_iff]; rfl
  | blanks least => exact mem_afterBlanks_iff
  | boundary =>
    rw [ends]
    split
    · next hboundary =>
      rw [List.mem_singleton]
      constructor
      · rintro rfl
        exact ⟨[], behind_nil.mpr rfl, rfl, hboundary⟩
      · rintro ⟨m, hm, rfl, -⟩
        exact behind_nil.mp hm
    · next hboundary =>
      refine iff_of_false List.not_mem_nil ?_
      rintro ⟨m, hm, rfl, hmatch⟩
      rw [behind_nil.mp hm] at hmatch
      exact hboundary hmatch
  | andThen first second ihFirst ihSecond =>
    rw [ends, List.mem_flatMap]
    constructor
    · rintro ⟨c, hc, hb⟩
      obtain ⟨m, hm, hfirst⟩ := ihFirst.mp hc
      obtain ⟨n, hn, hsecond⟩ := ihSecond.mp hb
      rw [hn.1, List.head?_append] at hfirst
      rw [hm.2] at hsecond
      exact ⟨m ++ n, behind_append.mpr ⟨c, hm, hn⟩, m, n, rfl, hfirst, hsecond⟩
    · rintro ⟨_, hmn, m, n, rfl, hfirst, hsecond⟩
      obtain ⟨c, hm, hn⟩ := behind_append.mp hmn
      refine ⟨c, ihFirst.mpr ⟨m, hm, ?_⟩, ihSecond.mpr ⟨n, hn, ?_⟩⟩
      · rw [hn.1, List.head?_append]
        exact hfirst
      · rw [hm.2]
        exact hsecond
  | either left right ihLeft ihRight =>
    rw [ends, List.mem_append, ihLeft, ihRight, ← exists_or]
    simp only [Matches, and_or_left]
  | optional part ih =>
    rw [ends, List.mem_cons, ih]
    constructor
    · rintro (rfl | ⟨m, hm, hmatch⟩)
      · exact ⟨[], behind_nil.mpr rfl, Or.inl rfl⟩
      · exact ⟨m, hm, Or.inr hmatch⟩
    · rintro ⟨m, hm, rfl | hmatch⟩
      · exact Or.inl (behind_nil.mp hm)
      · exact Or.inr ⟨m, hm, hmatch⟩

/-- A match begins at a place when the text goes on with a stretch that the pattern matches. -/
theorem ends_ne_nil_iff {p : Pattern} {before : Option Char} {s : List Char} :
    p.ends ⟨before, s⟩ ≠ [] ↔ ∃ m after, s = m ++ after ∧ p.Matches before m after.head? := by
  constructor
  · intro hne
    obtain ⟨b, hb⟩ := List.exists_mem_of_ne_nil _ hne
    obtain ⟨m, hm, hmatch⟩ := mem_ends_iff.mp hb
    exact ⟨m, b.rest, hm.1, hmatch⟩
  · rintro ⟨m, after, hs, hmatch⟩
    have hbehind : Behind ⟨m.getLast?.or before, after⟩ ⟨before, s⟩ m := ⟨hs, rfl⟩
    exact List.ne_nil_of_mem (mem_ends_iff.mpr ⟨m, hbehind, hmatch⟩)

theorem occursAfter_iff {p : Pattern} {before : Option Char} {s : List Char} :
    p.occursAfter before s = true ↔ ∃ x m y, s = x ++ m ++ y ∧
      p.Matches (x.getLast?.or before) m y.head? := by
  induction s generalizing before with
  | nil =>
    rw [occursAfter, Bool.not_eq_true', List.isEmpty_eq_false_iff, ends_ne_nil_iff]
    constructor
    · rintro ⟨m, y, hs, hmatch⟩
      exact ⟨[], m, y, hs, hmatch⟩
    · rintro ⟨x, m, y, hs, hmatch⟩
      rw [List.append_assoc] at hs
      obtain ⟨rfl, hmy⟩ := List.append_eq_nil_iff.mp hs.symm
      exact ⟨m, y, hmy.symm, hmatch⟩
  | cons c s ih =>
    rw [occursAfter, Bool.or_eq_true, Bool.not_eq_true', List.isEmpty_eq_false_iff,
      ends_ne_nil_iff, ih]
    constructor
    · rintro (⟨m, y, hs, hmatch⟩ | ⟨x, m, y, rfl, hmatch⟩)
      · exact ⟨[], m, y, hs, hmatch⟩
      · rw [← getLast?_cons_or c x before] at hmatch
        exact ⟨c :: x, m, y, rfl, hmatch⟩
    · rintro ⟨x, m, y, hs, hmatch⟩
      cases x with
      | nil => exact Or.inl ⟨m, y, hs, hmatch⟩
      | cons d x =>
        obtain ⟨rfl, hrest⟩ := List.cons_eq_cons.mp hs
        rw [getLast?_cons_or] at hmatch
        exact Or.inr ⟨x, m, y, hrest, hmatch⟩

/-- A pattern occurs in a text that holds a stretch which it matches. -/
theorem occursIn_iff {p : Pattern} {s : List Char} :
    p.occursIn s = true ↔ ∃ x m y, s = x ++ m ++ y ∧ p.Matches x.getLast? m y.head? := by
  rw [occursIn, occursAfter_iff]
  simp only [Option.or_none]

/-! ### Neighbours -/

/-- A match between other neighbours.  Only at its very ends a match asks for its neighbours, so it
lives on when no boundary is lost there. -/
theorem Matches.of_neighbours {p : Pattern} {b b' a a' : Option Char} {m : List Char}
    (h : p.Matches b m a)
    (hstart : isBoundary b (m.head?.or a) = true → isBoundary b' (m.head?.or a') = true)
    (hend : isBoundary (m.getLast?.or b) a = true → isBoundary (m.getLast?.or b') a' = true) :
    p.Matches b' m a' := by
  induction p generalizing b b' a a' m with
  | word letters => exact h
  | blanks least => exact h
  | boundary =>
    obtain ⟨rfl, hboundary⟩ := h
    exact ⟨rfl, hstart hboundary⟩
  | andThen first second ihFirst ihSecond =>
    obtain ⟨m, n, rfl, hfirst, hsecond⟩ := h
    rw [head?_append_or, head?_append_or] at hstart
    rw [getLast?_append_or, getLast?_append_or] at hend
    have hmiddle : isBoundary (m.getLast?.or b) (n.head?.or a) = true →
        isBoundary (m.getLast?.or b') (n.head?.or a') = true := by
      cases m with
      | nil => exact hstart
      | cons c m =>
        cases n with
        | nil => exact hend
        | cons d n =>
          rw [List.getLast?_cons]
          exact id
    exact ⟨m, n, rfl, ihFirst hfirst hstart hmiddle, ihSecond hsecond hmiddle hend⟩
  | either left right ihLeft ihRight =>
    exact h.imp (fun h => ihLeft h hstart hend) fun h => ihRight h hstart hend
  | optional part ih => exact h.imp_right fun h => ih h hstart hend

/-- A match does not tell neighbours apart that are both word characters or both none. -/
theorem Matches.congr_neighbours {p : Pattern} {b b' a a' : Option Char} {m : List Char}
    (h : p.Matches b m a) (hb : b.any isWordChar = b'.any isWordChar)
    (ha : a.any isWordChar = a'.any isWordChar) : p.Matches b' m a' := by
  refine h.of_neighbours ?_ ?_
  · cases m with
    | nil => simp [isBoundary, hb, ha]
    | cons c m => simp [isBoundary, hb]
  · cases hlast : m.getLast? with
    | none => simp [isBoundary, hb, ha]
    | some c => simp [isBoundary, ha]

end Pattern

end AgentPipeline.Text
