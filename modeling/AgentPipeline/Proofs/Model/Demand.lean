import AgentPipeline.Message
import AgentPipeline.Proofs.Text.Joined

/-!
# How demanding conversations are

A conversation is as demanding as what its user says: long texts and certain words ask for a higher
tier.  Further messages of the user bring further words and may bring keywords, and as messages are
joined by blanks, they neither make one word of two nor part a keyword.  So the tier can only rise.

Words are looked for in small letters.  What the small letter of a character is may depend on its
surroundings, as it does for the Greek sigma; but that concerns characters that no keyword has, and
so makes no difference to the tier.

## Main definitions

* `Inserted` — a list with further elements at any positions.
* `Tier.ofSmall` — the tier of a text in small letters.
* `Tier.Neutral`, `Tier.SmallForm` — the small forms that a text may have.

## Main results

* `Tier.rank_ofSmall_le` — more words and more keywords never lower the tier.
* `Tier.SmallForm.ofSmall_eq` — all small forms of a text have its tier.
* `Message.tier_of_inserted` — **further messages never lower the tier of a conversation**, and
  change it only if some are the user's.
-/

namespace AgentPipeline

/-! ### Insertions -/

/-- `Inserted l further whole` says that `whole` is `l` with the elements of `further` inserted, in
this order, at any positions. -/
inductive Inserted {α : Type} : List α → List α → List α → Prop
  /-- Nothing is left. -/
  | nil : Inserted [] [] []
  /-- An element that was there before. -/
  | keep {l further whole : List α} (a : α) :
      Inserted l further whole → Inserted (a :: l) further (a :: whole)
  /-- A further element. -/
  | insert {l further whole : List α} (a : α) :
      Inserted l further whole → Inserted l (a :: further) (a :: whole)

namespace Inserted

variable {α : Type} {l further whole : List α}

theorem sublist (h : Inserted l further whole) : l.Sublist whole := by
  induction h with
  | nil => exact List.Sublist.refl []
  | keep a _ ih => exact ih.cons_cons a
  | insert a _ ih => exact ih.cons a

/-- What a filter lets through is the same if it lets none of the further elements through. -/
theorem filter_eq {p : α → Bool} (h : Inserted l further whole) (hp : ∀ a ∈ further, p a = false) :
    whole.filter p = l.filter p := by
  induction h with
  | nil => rfl
  | keep a _ ih => simp only [List.filter_cons, ih hp]
  | insert a _ ih =>
    rw [List.forall_mem_cons] at hp
    rw [List.filter_cons_of_neg (by simp [hp.1]), ih hp.2]

end Inserted

/-! ### The tier of a text in small letters -/

namespace Tier

variable {s t w : List Char}

/-- The words that a text is searched for. -/
def keywords : List String :=
  complexKeywords ++ generationKeywords

/-- Keywords can be found inside joined texts: they are not empty and have no blanks. -/
theorem ne_nil_of_mem_keywords {k : String} (hk : k ∈ keywords) :
    k.toList ≠ [] ∧ ' ' ∉ k.toList := by
  have hall : ∀ k ∈ keywords, k.toList ≠ [] ∧ ' ' ∉ k.toList := by decide
  exact hall k hk

/-- The tier of a text in small letters. -/
def ofSmall (s : List Char) : Tier :=
  if Text.wordCount s > complexWords || mentions s complexKeywords then complex
  else if Text.wordCount s > standardWords || mentions s generationKeywords then standard
  else simple

theorem ofText_eq_ofSmall (s : List Char) : ofText s = ofSmall (Text.lower s) := by
  simp [ofText, ofSmall]

theorem two_le_rank_ofSmall_iff : 2 ≤ (ofSmall s).rank ↔
    complexWords < Text.wordCount s ∨ mentions s complexKeywords = true := by
  unfold ofSmall
  split
  · simp_all [rank]
  · split <;> simp_all [rank]

theorem one_le_rank_ofSmall_iff : 1 ≤ (ofSmall s).rank ↔
    (complexWords < Text.wordCount s ∨ mentions s complexKeywords = true) ∨
      standardWords < Text.wordCount s ∨ mentions s generationKeywords = true := by
  unfold ofSmall
  split
  · simp_all [rank]
  · split <;> simp_all [rank]

theorem rank_le_two (tier : Tier) : tier.rank ≤ 2 := by
  cases tier <;> decide

theorem mentions_mono {ks : List String} (hsub : ks ⊆ keywords)
    (hfound : ∀ k ∈ keywords, Text.occurs k.toList s = true → Text.occurs k.toList t = true)
    (hs : mentions s ks = true) : mentions t ks = true := by
  unfold mentions at hs ⊢
  rw [List.any_eq_true] at hs ⊢
  obtain ⟨k, hk, hs⟩ := hs
  exact ⟨k, hk, hfound k (hsub hk) hs⟩

/-- **More words and more keywords never lower the tier.** -/
theorem rank_ofSmall_le (hwords : Text.wordCount s ≤ Text.wordCount t)
    (hfound : ∀ k ∈ keywords, Text.occurs k.toList s = true → Text.occurs k.toList t = true) :
    (ofSmall s).rank ≤ (ofSmall t).rank := by
  have hcomplex : mentions s complexKeywords = true → mentions t complexKeywords = true :=
    mentions_mono (List.subset_append_left _ _) hfound
  have hgeneration : mentions s generationKeywords = true → mentions t generationKeywords = true :=
    mentions_mono (List.subset_append_right _ _) hfound
  have htwo : 2 ≤ (ofSmall s).rank → 2 ≤ (ofSmall t).rank := by
    rw [two_le_rank_ofSmall_iff, two_le_rank_ofSmall_iff]
    exact Or.imp (fun h => h.trans_le hwords) hcomplex
  have hone : 1 ≤ (ofSmall s).rank → 1 ≤ (ofSmall t).rank := by
    rw [one_le_rank_ofSmall_iff, one_le_rank_ofSmall_iff]
    exact Or.imp (Or.imp (fun h => h.trans_le hwords) hcomplex)
      (Or.imp (fun h => h.trans_le hwords) hgeneration)
  have hbound := rank_le_two (ofSmall s)
  omega

theorem rank_injective {a b : Tier} (h : a.rank = b.rank) : a = b := by
  revert h
  cases a <;> cases b <;> decide

/-- The same number of words and the same keywords give the same tier. -/
theorem ofSmall_congr (hwords : Text.wordCount s = Text.wordCount t)
    (hfound : ∀ k ∈ keywords, Text.occurs k.toList s = Text.occurs k.toList t) :
    ofSmall s = ofSmall t := by
  refine rank_injective (Nat.le_antisymm (rank_ofSmall_le hwords.le fun k hk h => ?_)
    (rank_ofSmall_le hwords.ge fun k hk h => ?_))
  · rwa [← hfound k hk]
  · rwa [hfound k hk]

/-! ### Small forms -/

/-- A character that neither is in a keyword nor parts words. -/
def Neutral (c : Char) : Prop :=
  Text.isBlank c = false ∧ ∀ k ∈ keywords, c ∉ k.toList

instance (c : Char) : Decidable (Neutral c) :=
  inferInstanceAs (Decidable (_ ∧ ∀ k ∈ keywords, c ∉ k.toList))

/-- `SmallForm s t` says that `t` may be the text `s` in small letters.  Capitals of ASCII, the Kelvin
sign and the dotted capital I have the small forms in which words are looked for; for any other
neutral character, its surroundings may decide which neutral characters stand for it. -/
inductive SmallForm : List Char → List Char → Prop
  | nil : SmallForm [] []
  /-- A character has its own small form. -/
  | plain {s t : List Char} (c : Char) : SmallForm s t → SmallForm (c :: s) (Text.lowerChar c ++ t)
  /-- A neutral character has a form that is made of neutral characters. -/
  | neutral {s t w : List Char} {c d : Char} (hlower : Text.lowerChar c = [c]) (hc : Neutral c)
      (hd : Neutral d) (hw : ∀ e ∈ w, Neutral e) : SmallForm s t → SmallForm (c :: s) (d :: w ++ t)

theorem smallForm_lower (s : List Char) : SmallForm s (Text.lower s) := by
  induction s with
  | nil => exact .nil
  | cons c s ih => exact .plain c ih

/-- Characters that are not blank carry on the word that they follow. -/
theorem wordsStarting_true_append (hw : ∀ e ∈ w, Neutral e) (t : List Char) :
    Text.wordsStarting true (w ++ t) = Text.wordsStarting true t := by
  induction w with
  | nil => rfl
  | cons d w ih =>
    rw [List.forall_mem_cons] at hw
    simp [Text.wordsStarting, hw.1.1, ih hw.2]

/-- All small forms of a text have as many words. -/
theorem SmallForm.wordsStarting_eq (h : SmallForm s t) :
    ∀ inWord, Text.wordsStarting inWord t = Text.wordsStarting inWord (Text.lower s) := by
  induction h with
  | nil => exact fun _ => rfl
  | plain c _ ih => exact Text.wordsStarting_append_congr ih
  | @neutral s t w c d hlower hc hd hw _ ih =>
    intro inWord
    simp only [Text.lower_cons_of_eq hlower, List.cons_append, Text.wordsStarting, hc.1, hd.1,
      Bool.false_eq_true, if_false, wordsStarting_true_append hw, ih]

/-- Neutral characters in front of a text are not part of a keyword that is found. -/
theorem occurs_append_neutral {k : List Char} (hw : ∀ e ∈ w, e ∉ k) (hne : k ≠ []) (t : List Char) :
    Text.occurs k (w ++ t) = Text.occurs k t := by
  induction w with
  | nil => rfl
  | cons d w ih =>
    rw [List.forall_mem_cons] at hw
    have hparts := Text.occurs_append_cons hw.1 [] (w ++ t)
    have hnil : Text.occurs k [] = false := by simpa [Text.occurs] using hne
    rwa [hnil, Bool.false_or, List.nil_append, ih hw.2] at hparts

/-- In all small forms of a text, the same keywords are found, whatever precedes the text. -/
theorem SmallForm.occurs_eq (h : SmallForm s t) {k : String} (hk : k ∈ keywords) :
    ∀ x, Text.occurs k.toList (x ++ t) = Text.occurs k.toList (x ++ Text.lower s) := by
  induction h with
  | nil => exact fun _ => rfl
  | plain c _ ih =>
    intro x
    have hx := ih (x ++ Text.lowerChar c)
    rwa [List.append_assoc, List.append_assoc] at hx
  | @neutral s t w c d hlower hc hd hw _ ih =>
    intro x
    -- The word is found in front of the neutral characters or behind them.
    rw [Text.lower_cons_of_eq hlower, List.cons_append, Text.occurs_append_cons (hd.2 k hk),
      Text.occurs_append_cons (hc.2 k hk),
      occurs_append_neutral (fun e he => (hw e he).2 k hk) (ne_nil_of_mem_keywords hk).1]
    exact congrArg _ (ih [])

/-- **All small forms of a text have its tier.** -/
theorem SmallForm.ofSmall_eq (h : SmallForm s t) : ofSmall t = ofText s := by
  rw [ofText_eq_ofSmall]
  exact ofSmall_congr (h.wordsStarting_eq false) fun k hk => h.occurs_eq hk []

end Tier

/-! ### Conversations -/

namespace Message

variable {conversation further whole : List Message}

theorem rank_tier_le (h : conversation.Sublist whole) :
    (tier conversation).rank ≤ (tier whole).rank := by
  have hparts := ((h.filter isUser).map fun m => m.content.toList).map Text.lower
  rw [tier, tier, Tier.ofText_eq_ofSmall, Tier.ofText_eq_ofSmall, userText, userText,
    Text.lower_intercalate, Text.lower_intercalate]
  refine Tier.rank_ofSmall_le (Text.wordCount_intercalate_le hparts) fun k hk hfound => ?_
  obtain ⟨hne, hblank⟩ := Tier.ne_nil_of_mem_keywords hk
  exact Text.occurs_intercalate_mono hne hblank hparts hfound

/-- Further messages at any positions never lower the tier of a conversation, and only messages of
the user can change it.  That is so whatever small forms the characters of the messages have. -/
theorem tier_of_inserted (h : Inserted conversation further whole) :
    (tier conversation).rank ≤ (tier whole).rank ∧
      ((∀ m ∈ further, m.role ≠ "user") → tier whole = tier conversation) ∧
      ∀ messages small, Tier.SmallForm (userText messages) small →
        Tier.ofSmall small = tier messages := by
  refine ⟨rank_tier_le h.sublist, fun hroles => ?_, fun messages small hsmall => hsmall.ofSmall_eq⟩
  have hfilter : whole.filter isUser = conversation.filter isUser :=
    h.filter_eq fun m hm => by simpa [isUser] using hroles m hm
  rw [tier, tier, userText, userText, hfilter]

/-- Instructions to analyze do not make a conversation complex in which the user asks for a text,
whichever small sigma is taken. -/
theorem tier_of_inserted_instructions :
    Inserted [user "Σ write"] [system "analyze"] [system "analyze", user "Σ write"] ∧
      (∀ m ∈ [system "analyze"], m.role ≠ "user") ∧
      Tier.SmallForm (userText [user "Σ write"]) "ς write".toList ∧
      (tier [user "Σ write"]).rank ≤ (tier [system "analyze", user "Σ write"]).rank ∧
      tier [system "analyze", user "Σ write"] = tier [user "Σ write"] ∧
      Tier.ofSmall "ς write".toList = tier [user "Σ write"] := by
  have hinserted :
      Inserted [user "Σ write"] [system "analyze"] [system "analyze", user "Σ write"] :=
    .insert _ (.keep _ .nil)
  have hroles : ∀ m ∈ [system "analyze"], m.role ≠ "user" := by decide
  have hsmall : Tier.SmallForm ('Σ' :: " write".toList) ('ς' :: [] ++ Text.lower " write".toList) :=
    .neutral (by decide) (by decide) (by decide) (List.forall_mem_nil _) (Tier.smallForm_lower _)
  obtain ⟨hrank, hsame, hform⟩ := tier_of_inserted hinserted
  exact ⟨hinserted, hroles, hsmall, hrank, hsame hroles, hform _ _ hsmall⟩

end Message

end AgentPipeline
