import AgentPipeline.Proofs.Graph.Names
import AgentPipeline.Proofs.Graph.WellFormed

/-!
# What nodes are called

The first agent with a name keeps it.  Every later one gets its name with the smallest suffix that
gives one which no agent declares, be it earlier or later in the list, and which no earlier agent
has got.

The search for a suffix looks at the declared names and at the suffixed ones that have been given so
far.  Names that agents have kept are declared, so these are the declared names and all those that
have been given so far.

## Main definitions

* `LeastFree name taken k` — the smallest suffix that gives a name which is not taken.

## Main results

* `getElem?_uniqueNamesFrom` — what an agent is called, whatever has been taken and seen before.
* `uniqueNames_leastFree` — **the names of nodes are distinct and stable, and their suffixes the
  smallest ones that are free.**
-/

namespace AgentPipeline

/-- The smallest suffix from 2 on that gives a name which is not taken. -/
def LeastFree (name : String) (taken : List String) (k : Nat) : Prop :=
  IsLeast {k | 2 ≤ k ∧ suffixed name k ∉ taken} k

/-- Which suffixes are free depends on the names that are taken, not on their order. -/
theorem LeastFree.congr {name : String} {taken taken' : List String} {k : Nat}
    (h : LeastFree name taken k) (hsame : ∀ x, x ∈ taken ↔ x ∈ taken') :
    LeastFree name taken' k := by
  simpa only [LeastFree, hsame] using h

/-- An element is not missed where it occurs before. -/
theorem mem_append_cons_iff {α : Type} {l r : List α} {a x : α} (ha : a ∈ l) :
    x ∈ l ++ a :: r ↔ x ∈ l ++ r := by
  rw [List.perm_middle.mem_iff, List.mem_cons, or_iff_right_iff_imp]
  rintro rfl
  exact List.mem_append_left r ha

/-- What an agent is called, if some names have been taken and seen before: its own name if it comes
for the first time, else that with the smallest suffix that is free. -/
theorem getElem?_uniqueNamesFrom {taken : List String} (seen : List String) {names : List String}
    (hsub : names ⊆ taken) {i : Nat} {name : String} (hname : names[i]? = some name) :
    (name ∉ seen ++ names.take i → (uniqueNamesFrom taken seen names)[i]? = some name) ∧
      (name ∈ seen ++ names.take i → ∃ k ≤ taken.length + i + 2,
        LeastFree name (taken ++ (uniqueNamesFrom taken seen names).take i) k ∧
          (uniqueNamesFrom taken seen names)[i]? = some (suffixed name k)) := by
  induction names generalizing taken seen i with
  | nil => cases hname
  | cons first names ih =>
    have hrest : names ⊆ taken := fun x hx => hsub (List.mem_cons_of_mem _ hx)
    unfold uniqueNamesFrom
    split
    · next hseen =>
      rw [List.contains_iff_mem] at hseen
      cases i with
      | zero =>
        obtain rfl := Option.some.inj hname
        obtain ⟨hleast, hle⟩ := isLeast_freeSuffix first taken
        rw [List.take_zero, List.append_nil, List.take_zero, List.append_nil]
        exact ⟨fun hnew => absurd hseen hnew, fun _ => ⟨_, hle, hleast, rfl⟩⟩
      | succ i =>
        -- The suffixed name is given here and taken from now on.
        obtain ⟨hkeeps, hgets⟩ := ih seen (List.subset_cons_of_subset _ hrest) hname
        rw [List.take_succ_cons, mem_append_cons_iff hseen]
        refine ⟨hkeeps, fun hold => ?_⟩
        obtain ⟨k, hk, hleast, hgiven⟩ := hgets hold
        rw [List.length_cons] at hk
        exact ⟨k, by omega, hleast.congr fun x => List.perm_middle.mem_iff.symm, hgiven⟩
    · next hseen =>
      rw [List.contains_iff_mem] at hseen
      cases i with
      | zero =>
        obtain rfl := Option.some.inj hname
        rw [List.take_zero, List.append_nil]
        exact ⟨fun _ => rfl, fun hold => absurd hold hseen⟩
      | succ i =>
        -- The name is given here and seen from now on; as it is declared, it is taken already.
        obtain ⟨hkeeps, hgets⟩ := ih (first :: seen) hrest hname
        rw [List.take_succ_cons, List.perm_middle.mem_iff]
        refine ⟨hkeeps, fun hold => ?_⟩
        obtain ⟨k, hk, hleast, hgiven⟩ := hgets hold
        refine ⟨k, by omega, hleast.congr fun x => ?_, hgiven⟩
        exact (mem_append_cons_iff (hsub List.mem_cons_self)).symm

/-- The first agent with a name keeps it. -/
theorem getElem?_uniqueNames_of_first {names : List String} {i : Nat} {name : String}
    (hname : names[i]? = some name) (hfirst : name ∉ names.take i) :
    (uniqueNames names)[i]? = some name :=
  (getElem?_uniqueNamesFrom [] (fun _ hx => hx) hname).1 hfirst

/-- **The names of nodes are distinct and stable, and their suffixes the smallest ones that are
free.**  There is one name for every agent.  The first agent with a name keeps it; every later one
gets it with the smallest suffix from 2 on that gives a name which no agent declares and no earlier
agent has got.  The search for it comes to an end, after at most one suffix more than there are
agents and earlier agents together. -/
theorem uniqueNames_leastFree (names : List String) :
    (uniqueNames names).length = names.length ∧ (uniqueNames names).Nodup ∧
      ∀ (i : Nat) (name : String), names[i]? = some name →
        (name ∉ names.take i → (uniqueNames names)[i]? = some name) ∧
        (name ∈ names.take i → ∃ k ≤ names.length + i + 2,
          LeastFree name (names ++ (uniqueNames names).take i) k ∧
            (uniqueNames names)[i]? = some (suffixed name k)) := by
  refine ⟨length_uniqueNamesFrom names [] names, nodup_uniqueNames names, fun i name hname => ?_⟩
  exact ⟨getElem?_uniqueNames_of_first hname,
    (getElem?_uniqueNamesFrom [] (fun _ hx => hx) hname).2⟩

/-- Two names that are repeated, one of which looks like the other with a suffix. -/
def repeats : List String :=
  ["a", "a", "a_2", "a", "a_2"]

theorem uniqueNames_repeats : uniqueNames repeats = ["a", "a_3", "a_2", "a_4", "a_2_2"] := by
  decide +kernel

/-- The third agent keeps its name, as it is the first one that has it; the fifth gets it with the
suffix 2, which is free. -/
theorem uniqueNames_leastFree_repeats :
    (repeats[2]? = some "a_2" ∧ "a_2" ∉ repeats.take 2 ∧ (uniqueNames repeats)[2]? = some "a_2") ∧
    repeats[4]? = some "a_2" ∧ "a_2" ∈ repeats.take 4 ∧
      LeastFree "a_2" (repeats ++ ["a", "a_3", "a_2", "a_4"]) 2 ∧
      (uniqueNames repeats)[4]? = some "a_2_2" := by
  obtain ⟨-, -, hcalled⟩ := uniqueNames_leastFree repeats
  have hthird := (hcalled 2 "a_2" rfl).1 (by decide)
  obtain ⟨k, -, hleast, hfifth⟩ := (hcalled 4 "a_2" rfl).2 (by decide)
  rw [uniqueNames_repeats] at hleast hfifth
  obtain rfl : k = 2 := suffixed_injective "a_2" (Option.some.inj hfifth).symm
  exact ⟨⟨rfl, by decide, hthird⟩, rfl, by decide, hleast, hfifth⟩

end AgentPipeline
