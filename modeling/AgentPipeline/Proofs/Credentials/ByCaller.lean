import AgentPipeline.Proofs.Credentials.Entries
import AgentPipeline.Proofs.Text.Bytes
import Mathlib.Data.Bool.Basic
import Mathlib.Data.List.Nodup
import Mathlib.Data.Prod.Lex
import Mathlib.Order.BooleanAlgebra.Basic

/-!
# The keys that a caller hands in

A caller hands in keys under names, in no order that could be relied on.  Several names may mean one
vendor, so that one of its keys has to be chosen, and the choice must not depend on the order in
which the names come.  It does not, since the names are ranked: the vendor's own name comes before
any other, and names of the same sort come in the order of their bytes.  No two names have one rank.

## Main definitions

* `Vendor.aliases`, `Vendor.Offers` — the names that mean a vendor, and the keys handed in for it.
* `Vendor.Prefers` — which of two names is preferred for a vendor's key.
* `Vendor.rank` — what the names are ranked by.

## Main results

* `Vendor.prefers_iff_rank_lt` — names are preferred by their rank.
* `Credentials.mostPreferred_eq_some_iff` — the key that is chosen.
* `Credentials.ofCaller_of_perm` — **the keys of a caller do not depend on their order**, and which
  ones there are.
-/

namespace AgentPipeline

/-! ### Names -/

namespace Vendor

variable {v : Vendor} {a b : String}

/-- The words that mean a vendor: its own name and that of its models. -/
def aliases : Vendor → List String
  | anthropic => ["anthropic", "claude"]
  | openai => ["openai", "gpt"]
  | google => ["google", "gemini"]

theorem ofWord?_eq_some_iff {word : String} : ofWord? word = some v ↔ word ∈ v.aliases := by
  constructor
  · intro h
    unfold ofWord? at h
    split at h <;> cases h <;> decide
  · intro h
    cases v with
    | anthropic => rcases List.mem_pair.mp h with rfl | rfl <;> rfl
    | openai => rcases List.mem_pair.mp h with rfl | rfl <;> rfl
    | google => rcases List.mem_pair.mp h with rfl | rfl <;> rfl

/-- A key is handed in for a vendor: its name means the vendor, up to blanks around it and case, and
it is not empty. -/
def Offers (v : Vendor) (k : String × String) : Prop :=
  normalized k.1 ∈ v.aliases ∧ k.2 ≠ ""

/-- One name is preferred to another for a vendor's key: the vendor's own name to any other, and of
names of the same sort the one whose bytes come first. -/
def Prefers (v : Vendor) (a b : String) : Prop :=
  (normalized a = v.name ∧ normalized b ≠ v.name) ∨
    ((normalized a = v.name ↔ normalized b = v.name) ∧ Text.bytes a < Text.bytes b)

/-- What the names are ranked by: whether it is another than the vendor's own, and the name itself. -/
def rank (v : Vendor) (name : String) : Bool ×ₗ String :=
  toLex (normalized name != v.name, name)

theorem rank_injective (v : Vendor) : Function.Injective v.rank :=
  fun _ _ h => congrArg Prod.snd (toLex.injective h)

/-- Names are preferred by their rank. -/
theorem prefers_iff_rank_lt : v.Prefers a b ↔ v.rank a < v.rank b := by
  rw [Prefers, ← Text.lt_iff_bytes_lt, rank, rank, Prod.Lex.toLex_lt_toLex, Bool.lt_iff]
  dsimp only
  rw [bne_eq_false_iff_eq, bne_iff_ne, Bool.eq_iff_iff, bne_iff_ne, bne_iff_ne, not_iff_not]

theorem preferred_eq_true_iff : Credentials.preferred v a b = true ↔ v.Prefers a b := by
  rw [Credentials.preferred, Prefers, ← Text.lt_iff_bytes_lt]
  by_cases ha : normalized a = v.name
  · by_cases hb : normalized b = v.name
    · simp [ha, hb]
    · simp [ha, hb]
  · by_cases hb : normalized b = v.name
    · simp [ha, hb]
    · simp [ha, hb]

end Vendor

/-! ### The choice of a key -/

namespace Credentials

variable {v : Vendor} {keys : List (String × String)} {k : String × String}

/-- Of some pairs one is found, with a rank as low as any. -/
theorem exists_mostPreferred (v : Vendor) (hne : keys ≠ []) : ∃ k, mostPreferred v keys = some k ∧
    k ∈ keys ∧ ∀ other ∈ keys, v.rank k.1 ≤ v.rank other.1 := by
  induction keys with
  | nil => exact absurd rfl hne
  | cons first keys ih =>
    rw [mostPreferred]
    by_cases hkeys : keys = []
    · subst hkeys
      refine ⟨first, rfl, List.mem_cons_self, fun other hother => ?_⟩
      rw [List.mem_singleton.mp hother]
    · obtain ⟨best, hbest, hmem, hle⟩ := ih hkeys
      rw [hbest]
      dsimp only
      by_cases hpreferred : preferred v best.1 first.1 = true
      · rw [if_pos hpreferred]
        have hlt := Vendor.prefers_iff_rank_lt.mp (Vendor.preferred_eq_true_iff.mp hpreferred)
        refine ⟨best, rfl, List.mem_cons_of_mem first hmem, fun other hother => ?_⟩
        rcases List.mem_cons.mp hother with rfl | hother
        · exact hlt.le
        · exact hle other hother
      · rw [if_neg hpreferred]
        have hfirst : v.rank first.1 ≤ v.rank best.1 := by
          rwa [Vendor.preferred_eq_true_iff, Vendor.prefers_iff_rank_lt, not_lt] at hpreferred
        refine ⟨first, rfl, List.mem_cons_self, fun other hother => ?_⟩
        rcases List.mem_cons.mp hother with rfl | hother
        · exact le_rfl
        · exact hfirst.trans (hle other hother)

/-- Among pairs with different names, the one that is found is preferred to all others. -/
theorem mostPreferred_eq_some_iff (hnames : (keys.map Prod.fst).Nodup) :
    mostPreferred v keys = some k ↔
      k ∈ keys ∧ ∀ other ∈ keys, other ≠ k → v.Prefers k.1 other.1 := by
  have hbest : ∀ best ∈ keys, (∀ other ∈ keys, v.rank best.1 ≤ v.rank other.1) →
      ∀ other ∈ keys, other ≠ best → v.Prefers best.1 other.1 := by
    intro best hmem hle other hother hne
    rw [Vendor.prefers_iff_rank_lt]
    refine lt_of_le_of_ne (hle other hother) fun hrank => hne ?_
    exact List.inj_on_of_nodup_map hnames hother hmem (v.rank_injective hrank).symm
  constructor
  · intro hfind
    have hne : keys ≠ [] := by
      rintro rfl
      cases hfind
    obtain ⟨best, hsome, hmem, hle⟩ := exists_mostPreferred v hne
    obtain rfl := Option.some.inj (hfind.symm.trans hsome)
    exact ⟨hmem, hbest k hmem hle⟩
  · rintro ⟨hmem, hall⟩
    obtain ⟨best, hsome, hmem', hle⟩ := exists_mostPreferred v (List.ne_nil_of_mem hmem)
    rw [hsome, Option.some.injEq]
    by_contra hne
    have hlt := Vendor.prefers_iff_rank_lt.mp (hall best hmem' hne)
    exact absurd (hle k hmem) (not_le.mpr hlt)

/-- The choice does not depend on the order of the pairs. -/
theorem mostPreferred_perm {keys' : List (String × String)} (hnames : (keys.map Prod.fst).Nodup)
    (hperm : keys'.Perm keys) : mostPreferred v keys' = mostPreferred v keys := by
  have hnames' : (keys'.map Prod.fst).Nodup := (hperm.map Prod.fst).nodup_iff.mpr hnames
  ext k
  rw [mostPreferred_eq_some_iff hnames, mostPreferred_eq_some_iff hnames']
  simp only [hperm.mem_iff]

/-! ### The keys of a caller -/

theorem mem_filter_offers : k ∈ keys.filter (fun k => Vendor.ofAlias? k.1 == some v && !k.2.isEmpty) ↔
    k ∈ keys ∧ v.Offers k := by
  rw [List.mem_filter, Bool.and_eq_true, beq_iff_eq, Vendor.ofAlias?, Vendor.ofWord?_eq_some_iff,
    Bool.not_eq_true', ← Bool.not_eq_true, String.isEmpty_iff, Vendor.Offers]

/-- The entry of a vendor has the key whose name is preferred among those that are handed in for it. -/
theorem callerEntry_eq_some_iff (hnames : (keys.map Prod.fst).Nodup) {e : Credential} :
    callerEntry keys v = some e ↔ e.vendor = v ∧ e.baseUrl = none ∧
      ∃ k ∈ keys, v.Offers k ∧ e.apiKey = k.2 ∧
        ∀ other ∈ keys, v.Offers other → other ≠ k → v.Prefers k.1 other.1 := by
  have hnames' : ((keys.filter fun k =>
      Vendor.ofAlias? k.1 == some v && !k.2.isEmpty).map Prod.fst).Nodup :=
    hnames.sublist (List.filter_sublist.map Prod.fst)
  rw [callerEntry, Option.map_eq_some_iff]
  simp only [mostPreferred_eq_some_iff hnames', mem_filter_offers, and_imp]
  constructor
  · rintro ⟨k, ⟨⟨hmem, hoffers⟩, hall⟩, rfl⟩
    exact ⟨rfl, rfl, k, hmem, hoffers, rfl, hall⟩
  · rintro ⟨rfl, hbase, k, hmem, hoffers, hkey, hall⟩
    exact ⟨k, ⟨⟨hmem, hoffers⟩, hall⟩, by rw [← hbase, ← hkey]⟩

theorem callerEntry_perm {keys' : List (String × String)} (hnames : (keys.map Prod.fst).Nodup)
    (hperm : keys'.Perm keys) : callerEntry keys' v = callerEntry keys v := by
  rw [callerEntry, callerEntry, mostPreferred_perm _ (hperm.filter _)]
  exact hnames.sublist (List.filter_sublist.map Prod.fst)

/-- A vendor has a key just when one is handed in for it. -/
theorem exists_callerEntry_iff : (∃ e, callerEntry keys v = some e) ↔ ∃ k ∈ keys, v.Offers k := by
  simp only [callerEntry, Option.map_eq_some_iff]
  constructor
  · rintro ⟨_, k, hfind, -⟩
    have hne : keys.filter (fun k => Vendor.ofAlias? k.1 == some v && !k.2.isEmpty) ≠ [] := by
      intro hnil
      rw [hnil] at hfind
      cases hfind
    obtain ⟨k, hk⟩ := List.exists_mem_of_ne_nil _ hne
    exact ⟨k, mem_filter_offers.mp hk⟩
  · rintro ⟨k, hk⟩
    obtain ⟨best, hbest, -⟩ := exists_mostPreferred v (List.ne_nil_of_mem (mem_filter_offers.mpr hk))
    exact ⟨_, best, hbest, rfl⟩

/-- **The keys of a caller do not depend on their order.**  Under names that are all different, any
order gives the same keys: at most one for each vendor, in registration order, and without an
address.  A vendor has a key just when one is handed in for it, and that is the one whose name is
preferred to those of all others. -/
theorem ofCaller_of_perm (hnames : (keys.map Prod.fst).Nodup) :
    (∀ keys' : List (String × String), keys'.Perm keys → ofCaller keys' = ofCaller keys) ∧
    (ofCaller keys).mode = .byCaller ∧ (ofCaller keys).InOrder ∧
    (∀ v, (∃ e ∈ (ofCaller keys).entries, e.vendor = v) ↔ ∃ k ∈ keys, v.Offers k) ∧
    ∀ e ∈ (ofCaller keys).entries, e.baseUrl = none ∧
      ∃ k ∈ keys, e.vendor.Offers k ∧ e.apiKey = k.2 ∧
        ∀ other ∈ keys, e.vendor.Offers other → other ≠ k → e.vendor.Prefers k.1 other.1 := by
  have hown : ∀ v e, callerEntry keys v = some e → e.vendor = v :=
    fun v e h => ((callerEntry_eq_some_iff hnames).mp h).1
  refine ⟨fun keys' hperm => ?_, rfl, inOrder_of_walk hown .byCaller, fun v => ?_, fun e he => ?_⟩
  · have hentries : callerEntry keys' = callerEntry keys :=
      funext fun v => callerEntry_perm hnames hperm
    rw [ofCaller, ofCaller, hentries]
  · rw [ofCaller, exists_mem_walk_iff hown, exists_callerEntry_iff]
  · exact ((callerEntry_eq_some_iff hnames).mp ((mem_walk_iff hown).mp he)).2

/-- Keys under several names: two mean Anthropic, one of them its own name, and two mean Google,
neither of them its own name. -/
def namesakeKeys : List (String × String) :=
  [("claude", "a-alias"), ("Anthropic", "a-own"), ("gemini", "g-small"), ("GEMINI ", "g-capital")]

/-- In reverse order they give the same keys: the one under the vendor's own name, and the one whose
name begins with a capital. -/
theorem ofCaller_of_perm_namesakes : (namesakeKeys.map Prod.fst).Nodup ∧
    ofCaller namesakeKeys.reverse = ofCaller namesakeKeys ∧
    (ofCaller namesakeKeys).entries =
      [⟨.anthropic, "a-own", none⟩, ⟨.google, "g-capital", none⟩] := by
  have hnames : (namesakeKeys.map Prod.fst).Nodup := by decide
  exact ⟨hnames, (ofCaller_of_perm hnames).1 _ (List.reverse_perm _), by decide⟩

end Credentials

end AgentPipeline
