import AgentPipeline.Graph.Summary
import Mathlib.Data.List.Nodup
import Mathlib.Data.List.Perm.Subperm
import Mathlib.Order.Bounds.Basic

/-!
# Names of nodes are distinct

A name that has been seen gets a suffix.  Different suffixes give different names, so among one more
candidate than there are taken names some candidate is free, and the search for a suffix finds the
first of them.  Every name that is given is thus the first occurrence of a declared name or was not
taken before, and whatever is given later is neither.

## Main results

* `suffixed_injective` — different suffixes give different names.
* `isLeast_freeSuffix` — the search for a suffix finds the smallest one that is free.
* `nodup_uniqueNames` — **the names of nodes are distinct.**
-/

namespace AgentPipeline

/-! ### Suffixes -/

/-- Different suffixes give different names. -/
theorem suffixed_injective (name : String) : Function.Injective (suffixed name) := by
  intro j k h
  have hlists : (suffixed name j).toList = (suffixed name k).toList := by rw [h]
  have hdigits : Nat.toDigits 10 j = Nat.toDigits 10 k := by
    simpa [suffixed, ToString.toString] using hlists
  -- A number can be read back off its digits.
  calc
    j = Nat.ofDigitChars 10 (Nat.toDigits 10 j) 0 := Nat.ofDigitChars_ten_toDigits.symm
    _ = Nat.ofDigitChars 10 (Nat.toDigits 10 k) 0 := by rw [hdigits]
    _ = k := Nat.ofDigitChars_ten_toDigits

/-- Among one more candidate than there are taken names there is a free one. -/
theorem exists_free_suffix (name : String) (taken : List String) :
    ∃ k ∈ List.range' 2 (taken.length + 1), suffixed name k ∉ taken := by
  -- Otherwise all the candidates, which are distinct, would be among the fewer taken names.
  by_contra hnone
  push Not at hnone
  have hnodup : ((List.range' 2 (taken.length + 1)).map (suffixed name)).Nodup :=
    List.Nodup.map (suffixed_injective name) List.nodup_range'
  have hsub : (List.range' 2 (taken.length + 1)).map (suffixed name) ⊆ taken := by
    intro x hx
    obtain ⟨k, hk, rfl⟩ := List.mem_map.mp hx
    exact hnone k hk
  have hlength := (List.subperm_of_subset hnodup hsub).length_le
  rw [List.length_map, List.length_range'] at hlength
  omega

/-- The search for a suffix finds the smallest one that is free. -/
theorem isLeast_freeSuffix (name : String) (taken : List String) :
    IsLeast {k | 2 ≤ k ∧ suffixed name k ∉ taken} (freeSuffix name taken) ∧
      freeSuffix name taken ≤ taken.length + 2 := by
  obtain ⟨k, hk, hfree⟩ := exists_free_suffix name taken
  cases hfind : (List.range' 2 (taken.length + 1)).find? fun k =>
      !taken.contains (suffixed name k) with
  | none =>
    rw [List.find?_eq_none] at hfind
    exact absurd hfree (by simpa using hfind k hk)
  | some j =>
    obtain ⟨hj, hrange, hbefore⟩ := List.find?_range'_eq_some.mp hfind
    rw [List.mem_range'_1] at hrange
    rw [freeSuffix, hfind, Option.getD_some]
    refine ⟨⟨⟨hrange.1, by simpa using hj⟩, ?_⟩, by omega⟩
    rintro i ⟨hi, hifree⟩
    by_contra hlt
    rw [Nat.not_le] at hlt
    -- Whatever comes before the one that is found is taken.
    exact hifree (by simpa using hbefore i hi hlt)

theorem suffixed_freeSuffix_not_mem (name : String) (taken : List String) :
    suffixed name (freeSuffix name taken) ∉ taken :=
  (isLeast_freeSuffix name taken).1.1.2

/-! ### The names that are given -/

/-- Whatever name is given is declared and has not been seen, or was not taken. -/
theorem mem_uniqueNamesFrom {taken seen names : List String} {x : String}
    (hx : x ∈ uniqueNamesFrom taken seen names) : x ∈ names ∧ x ∉ seen ∨ x ∉ taken := by
  induction names generalizing taken seen with
  | nil => exact absurd hx List.not_mem_nil
  | cons name names ih =>
    unfold uniqueNamesFrom at hx
    split at hx
    · -- The name has been seen: its suffixed form was free and is taken from then on.
      rcases List.mem_cons.mp hx with rfl | hx
      · exact Or.inr (suffixed_freeSuffix_not_mem name taken)
      · rcases ih hx with ⟨hmem, hnew⟩ | hfree
        · exact Or.inl ⟨List.mem_cons_of_mem _ hmem, hnew⟩
        · exact Or.inr fun htaken => hfree (List.mem_cons_of_mem _ htaken)
    · next hseen =>
      rw [List.contains_iff_mem] at hseen
      rcases List.mem_cons.mp hx with rfl | hx
      · exact Or.inl ⟨List.mem_cons_self, hseen⟩
      · rcases ih hx with ⟨hmem, hnew⟩ | hfree
        · exact Or.inl ⟨List.mem_cons_of_mem _ hmem, fun h => hnew (List.mem_cons_of_mem _ h)⟩
        · exact Or.inr hfree

theorem nodup_uniqueNamesFrom {taken seen names : List String} (htaken : names ⊆ taken) :
    (uniqueNamesFrom taken seen names).Nodup := by
  induction names generalizing taken seen with
  | nil => exact List.nodup_nil
  | cons name names ih =>
    have hrest : names ⊆ taken := fun x hx => htaken (List.mem_cons_of_mem _ hx)
    unfold uniqueNamesFrom
    split
    · -- What is given later is declared, hence taken, or not even the new name.
      have hfree := suffixed_freeSuffix_not_mem name taken
      refine List.nodup_cons.mpr ⟨fun hmem => ?_, ih fun x hx => List.mem_cons_of_mem _ (hrest hx)⟩
      rcases mem_uniqueNamesFrom hmem with ⟨hdeclared, -⟩ | hnew
      · exact hfree (hrest hdeclared)
      · exact hnew List.mem_cons_self
    · -- From now on the name has been seen, and it is taken as it is declared.
      refine List.nodup_cons.mpr ⟨fun hmem => ?_, ih hrest⟩
      rcases mem_uniqueNamesFrom hmem with ⟨-, hseen⟩ | hnew
      · exact hseen List.mem_cons_self
      · exact hnew (htaken List.mem_cons_self)

/-- **The names of nodes are distinct.** -/
theorem nodup_uniqueNames (names : List String) : (uniqueNames names).Nodup :=
  nodup_uniqueNamesFrom fun _ hx => hx

end AgentPipeline
