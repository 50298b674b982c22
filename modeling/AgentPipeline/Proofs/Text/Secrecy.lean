import AgentPipeline.Proofs.Text.Occurrence

/-!
# What redacting hides and leaves

Replacing goes through a text from left to right: where the part that is looked for begins, the new
one is put in its place and the text goes on behind it; any other character is kept.  If the new
part is enclosed in two marks, a word without these marks cannot reach across an end of it.  So such
a word is in the result only if it was in the text or is between the marks, and the part that was
looked for is not even there if it was in the text.

Secrets are replaced one after the other, and each time the text changes that the next one is looked
for in.  Secrets may be parts of one another and may overlap, but what is put in for one of them is
enclosed in brackets.  A secret without brackets that is no part of what is between them is
therefore gone when its turn is over, and does not come back later.  Cutting the text at its end
does not bring it back either, as the dots that are put there are no part of it.

A text that redacting or cutting has changed shows it: the first bracket of some marker is in it, or
a dot.

## Main definitions

* `Text.Replaced` — what becomes of a text in which parts are replaced.
* `Secrets.IsLong` — the secrets that are replaced.
* `Secrets.Unmarked` — a secret that no marker and no dots can be taken for.
* `Secrets.FreeOf` — a text without the secrets that are replaced.

## Main results

* `Text.Replaced.infix_inner_or_source` — words of the result are words of the text or between the
  marks.
* `Text.Replaced.not_infix_result` — **what has been replaced is gone.**
* `Secrets.freeOf_redact` — **a redacted text is free of secrets.**
* `Secrets.redact_of_freeOf` — a text that is free of secrets is left alone.
* `Secrets.FreeOf.truncateError` — cutting a text keeps it free of secrets.
* `Secrets.redact_eq_or_mem` — a redacted text is the text itself or has a bracket.
* `Text.truncateError_eq_or_mem` — a text that has been cut has a dot.
-/

/-! ### Replacing parts of a text -/

namespace AgentPipeline.Text

/-- What becomes of a text in which `old` is replaced by `new` from left to right. -/
inductive Replaced (old new : List Char) : List Char → List Char → Prop where
  | nil : Replaced old new [] []
  /-- Where `old` begins, `new` comes in its place. -/
  | hit {s t : List Char} : Replaced old new s t → Replaced old new (old ++ s) (new ++ t)
  /-- A character with which `old` does not begin is kept. -/
  | keep {c : Char} {s t : List Char} :
      ¬ old <+: c :: s → Replaced old new s t → Replaced old new (c :: s) (c :: t)

variable {old new s t w : List Char}

/-- What `replaceAll` makes of a text. -/
theorem replaced_replaceAll (hold : old ≠ []) : Replaced old new s (replaceAll old new s) := by
  have hfrom : ∀ skip s, Replaced old new (s.drop skip) (replaceFrom old new skip s) := by
    intro skip s
    fun_induction replaceFrom old new skip s with
    | case1 skip =>
      rw [List.drop_nil]
      exact .nil
    | case2 skip c s ih => exact ih
    | case3 c s hprefix ih =>
      obtain ⟨rest, hrest⟩ := List.isPrefixOf_iff_prefix.mp hprefix
      have hdrop : s.drop (old.length - 1) = rest := by
        obtain ⟨a, old, rfl⟩ := List.exists_cons_of_ne_nil hold
        obtain ⟨-, rfl⟩ := List.cons_eq_cons.mp hrest
        exact List.drop_left
      rw [hdrop] at ih
      rw [List.drop_zero, ← hrest]
      exact ih.hit
    | case4 c s hprefix ih =>
      exact ih.keep fun hold => hprefix (List.isPrefixOf_iff_prefix.mpr hold)
  exact hfrom 0 s

/-- A text without the part that is looked for is left alone. -/
theorem Replaced.eq_of_absent (h : Replaced old new s t) (hs : ¬ old <:+: s) : t = s := by
  induction h with
  | nil => rfl
  | hit => exact absurd (List.prefix_append old _).isInfix hs
  | keep _ _ ih => rw [ih fun hold => hs (List.infix_cons hold)]

theorem replaceAll_of_absent (hs : ¬ old <:+: s) : replaceAll old new s = s := by
  have hold : old ≠ [] := by
    rintro rfl
    exact hs (List.nil_infix)
  exact (replaced_replaceAll hold).eq_of_absent hs

/-! ### A new part between two marks -/

section

variable {a z : Char} {inner : List Char}

/-- A word without the first mark at the start of the result was at the start of the text. -/
theorem Replaced.prefix_source (h : Replaced old (a :: inner) s t) (ha : a ∉ w) (hw : w <+: t) :
    w <+: s := by
  induction h generalizing w with
  | nil => exact hw
  | hit =>
    rcases List.prefix_cons_iff.mp hw with rfl | ⟨w, rfl, -⟩
    · exact List.nil_prefix
    · exact absurd List.mem_cons_self ha
  | keep _ _ ih =>
    rcases List.prefix_cons_iff.mp hw with rfl | ⟨w, rfl, hrest⟩
    · exact List.nil_prefix
    · have ha' : a ∉ w := fun hmem => ha (List.mem_cons_of_mem _ hmem)
      exact List.cons_prefix_cons.mpr ⟨rfl, ih ha' hrest⟩

/-- A word without the marks does not reach across one. -/
theorem infix_enclosed (ha : a ∉ w) (hz : z ∉ w) (hw : w <:+: a :: (inner ++ [z]) ++ t) :
    w = [] ∨ w <:+: inner ∨ w <:+: t := by
  have hparts : a :: (inner ++ [z]) ++ t = [] ++ a :: (inner ++ z :: t) := by
    rw [List.nil_append, List.cons_append, List.append_assoc, List.singleton_append]
  rw [hparts, infix_append_cons_iff ha, infix_append_cons_iff hz] at hw
  exact hw.imp_left List.infix_nil.mp

/-- A word without the marks that is in the result is between the marks or was in the text. -/
theorem Replaced.infix_inner_or_source (h : Replaced old (a :: (inner ++ [z])) s t) (ha : a ∉ w)
    (hz : z ∉ w) (hw : w <:+: t) : w <:+: inner ∨ w <:+: s := by
  induction h with
  | nil => exact Or.inr hw
  | hit _ ih =>
    rcases infix_enclosed ha hz hw with rfl | hinner | ht
    · exact Or.inr List.nil_infix
    · exact Or.inl hinner
    · exact (ih ht).imp_right fun hs => hs.trans (List.suffix_append _ _).isInfix
  | keep hkeep hrest ih =>
    rcases List.infix_cons_iff.mp hw with hprefix | ht
    · exact Or.inr ((hrest.keep hkeep).prefix_source ha hprefix).isInfix
    · exact (ih ht).imp_right List.infix_cons

/-- **What has been replaced is gone**, unless it is between the marks. -/
theorem Replaced.not_infix_result (h : Replaced old (a :: (inner ++ [z])) s t) (hold : old ≠ [])
    (ha : a ∉ old) (hz : z ∉ old) (hinner : ¬ old <:+: inner) : ¬ old <:+: t := by
  induction h with
  | nil => exact fun ht => hold (List.infix_nil.mp ht)
  | hit _ ih =>
    intro ht
    rcases infix_enclosed ha hz ht with hnil | hold | ht
    · exact hold hnil
    · exact hinner hold
    · exact ih ht
  | keep hkeep hrest ih =>
    intro ht
    rcases List.infix_cons_iff.mp ht with hprefix | ht
    · exact hkeep ((hrest.keep hkeep).prefix_source ha hprefix)
    · exact ih ht

end

end AgentPipeline.Text

/-! ### What is hidden -/

namespace AgentPipeline.Secrets

/-- A secret is long enough to be replaced. -/
def IsLong (secret : String) : Prop :=
  leastBytes ≤ Text.byteLength secret.toList

instance (secret : String) : Decidable (IsLong secret) :=
  inferInstanceAs (Decidable (leastBytes ≤ Text.byteLength secret.toList))

/-- No part of a marker and no dots can be taken for a secret or for an end of it. -/
structure Unmarked (secret : String) : Prop where
  opening : '[' ∉ secret.toList
  closing : ']' ∉ secret.toList
  dot : '.' ∉ secret.toList
  word : ¬ secret.toList <:+: "REDACTED".toList

/-- A text in which there is none of the secrets that are long enough to be replaced. -/
def FreeOf (secrets : List String) (text : String) : Prop :=
  ∀ secret ∈ secrets, IsLong secret → ¬ secret.toList <:+: text.toList

variable {secret : String} {secrets : List String} {text : String} {s : List Char}

theorem IsLong.ne_nil (hlong : IsLong secret) : secret.toList ≠ [] := by
  intro hnil
  rw [IsLong, hnil] at hlong
  exact absurd hlong (by decide)

theorem redactOne_of_isLong (hlong : IsLong secret) : redactOne s secret.toList =
    Text.replaceAll secret.toList ('[' :: ("REDACTED".toList ++ [']'])) s :=
  if_pos hlong

theorem redactOne_of_not_isLong (hshort : ¬ IsLong secret) : redactOne s secret.toList = s :=
  if_neg hshort

/-- Replacing a secret does not bring another one back. -/
theorem not_infix_redactOne {other : String} (hunmarked : Unmarked secret)
    (hs : ¬ secret.toList <:+: s) : ¬ secret.toList <:+: redactOne s other.toList := by
  by_cases hlong : IsLong other
  · rw [redactOne_of_isLong hlong]
    intro hin
    rcases (Text.replaced_replaceAll hlong.ne_nil).infix_inner_or_source hunmarked.opening
      hunmarked.closing hin with hword | hin
    · exact hunmarked.word hword
    · exact hs hin
  · rwa [redactOne_of_not_isLong hlong]

/-- A secret that has been replaced is gone. -/
theorem not_infix_redactOne_self (hlong : IsLong secret) (hunmarked : Unmarked secret) :
    ¬ secret.toList <:+: redactOne s secret.toList := by
  rw [redactOne_of_isLong hlong]
  exact (Text.replaced_replaceAll hlong.ne_nil).not_infix_result hlong.ne_nil hunmarked.opening
    hunmarked.closing hunmarked.word

/-- A secret that is not in a text is not brought back by replacing any others. -/
theorem not_infix_foldl (hunmarked : Unmarked secret) (hs : ¬ secret.toList <:+: s) :
    ¬ secret.toList <:+: secrets.foldl (fun t secret => redactOne t secret.toList) s :=
  List.foldlRecOn secrets _ (motive := fun t => ¬ secret.toList <:+: t) hs
    fun _ ht _ _ => not_infix_redactOne hunmarked ht

/-- **A redacted text is free of secrets**, if these are not marked. -/
theorem freeOf_redact (hsecrets : ∀ secret ∈ secrets, IsLong secret → Unmarked secret)
    (text : String) : FreeOf secrets (redact secrets text) := by
  intro secret hmem hlong
  have hunmarked := hsecrets secret hmem hlong
  rw [redact, String.toList_ofList]
  -- It is gone after its own turn, and stays so.
  obtain ⟨before, after, rfl⟩ := List.append_of_mem hmem
  rw [List.foldl_append, List.foldl_cons]
  exact not_infix_foldl hunmarked (not_infix_redactOne_self hlong hunmarked)

/-- A text that is free of secrets is left alone. -/
theorem redact_of_freeOf (hfree : FreeOf secrets text) : redact secrets text = text := by
  have hfold : secrets.foldl (fun t secret => redactOne t secret.toList) text.toList =
      text.toList := by
    refine List.foldlRecOn secrets _ (motive := fun t => t = text.toList) rfl ?_
    rintro _ rfl secret hmem
    by_cases hlong : IsLong secret
    · rw [redactOne_of_isLong hlong, Text.replaceAll_of_absent (hfree secret hmem hlong)]
    · exact redactOne_of_not_isLong hlong
  rw [redact, hfold, String.ofList_toList]

/-- Cutting a text keeps it free of secrets. -/
theorem FreeOf.truncateError (hfree : FreeOf secrets text)
    (hsecrets : ∀ secret ∈ secrets, IsLong secret → Unmarked secret) :
    FreeOf secrets (String.ofList (Text.truncateError text.toList)) := by
  intro secret hmem hlong hin
  have hdot := (hsecrets secret hmem hlong).dot
  rw [String.toList_ofList, Text.truncateError] at hin
  split at hin
  · exact hfree secret hmem hlong hin
  · have hdots : "...".toList = '.' :: ['.', '.'] := rfl
    rw [hdots, Text.infix_append_cons_iff hdot] at hin
    rcases hin with hhead | htail
    · exact hfree secret hmem hlong (hhead.trans (List.take_prefix _ _).isInfix)
    · obtain ⟨c, hc⟩ := List.exists_mem_of_ne_nil _ hlong.ne_nil
      have hcdot : c = '.' := by simpa using htail.subset hc
      exact hdot (hcdot ▸ hc)

end AgentPipeline.Secrets

/-! ### What is left -/

namespace AgentPipeline

namespace Text

variable {old new s : List Char}

/-- Replacing leaves a text alone or puts the new one in. -/
theorem replaceAll_eq_or_subset : replaceAll old new s = s ∨ new ⊆ replaceAll old new s := by
  unfold replaceAll
  induction s with
  | nil => exact Or.inl rfl
  | cons c s ih =>
    rw [replaceFrom]
    split
    · exact Or.inr (List.subset_append_left _ _)
    · rcases ih with heq | hsub
      · exact Or.inl (by rw [heq])
      · exact Or.inr fun x hx => List.mem_cons_of_mem c (hsub hx)

/-- A text that has been cut has a dot. -/
theorem truncateError_eq_or_mem : truncateError s = s ∨ '.' ∈ truncateError s := by
  unfold truncateError
  split
  · exact Or.inl rfl
  · exact Or.inr (List.mem_append_right _ (by decide))

end Text

namespace Secrets

theorem redactOne_eq_or_mem (text secret : List Char) :
    redactOne text secret = text ∨ '[' ∈ redactOne text secret := by
  unfold redactOne
  split
  · refine Text.replaceAll_eq_or_subset.imp_right fun hsub => hsub ?_
    decide
  · exact Or.inl rfl

/-- **A redacted text is the text itself or has a bracket**, that of a marker which has been put in
last. -/
theorem redact_eq_or_mem (secrets : List String) (text : String) :
    redact secrets text = text ∨ '[' ∈ (redact secrets text).toList := by
  unfold redact
  rw [String.toList_ofList]
  -- One secret after the other leaves the text alone or puts a marker in.
  have hfold : secrets.foldl (fun t secret => redactOne t secret.toList) text.toList = text.toList ∨
      '[' ∈ secrets.foldl (fun t secret => redactOne t secret.toList) text.toList := by
    refine List.foldlRecOn secrets _ (motive := fun t => t = text.toList ∨ '[' ∈ t) (Or.inl rfl) ?_
    intro t ht secret _
    rcases redactOne_eq_or_mem t secret.toList with heq | hmem
    · rwa [heq]
    · exact Or.inr hmem
  refine hfold.imp_left fun heq => ?_
  rw [heq, String.ofList_toList]

end Secrets

end AgentPipeline
