import AgentPipeline.Credentials
import Mathlib.Data.List.Basic

/-!
# One key for each vendor

Wherever keys come from, the vendors are walked in registration order and each is asked for its key.
So a vendor has a key exactly if it answers with one, and it has no second one.

## Main definitions

* `Credentials.InOrder` — at most one key for each vendor, in registration order.

## Main results

* `Credentials.inOrder_of_walk` — a walk over the vendors finds keys in order.
* `Credentials.mem_walk_iff` — it finds the answer of each vendor.
-/

namespace AgentPipeline

theorem Vendor.mem_all (v : Vendor) : v ∈ all := by
  cases v with
  | anthropic => decide
  | openai => decide
  | google => decide

namespace Credentials

/-- There is at most one key for each vendor, and vendors come in registration order. -/
structure InOrder (c : Credentials) : Prop where
  nodup : (c.entries.map Credential.vendor).Nodup
  order : (c.entries.map Credential.vendor).Sublist Vendor.all

section

variable {answer : Vendor → Option Credential}
  (hown : ∀ v e, answer v = some e → e.vendor = v)
include hown

theorem map_vendor_filterMap_sublist (vendors : List Vendor) :
    ((vendors.filterMap answer).map Credential.vendor).Sublist vendors := by
  induction vendors with
  | nil => exact List.Sublist.slnil
  | cons v vendors ih =>
    cases hanswer : answer v with
    | none =>
      rw [List.filterMap_cons_none hanswer]
      exact ih.cons v
    | some e =>
      rw [List.filterMap_cons_some hanswer, List.map_cons, hown v e hanswer]
      exact ih.cons_cons v

/-- A walk over the vendors finds keys in order. -/
theorem inOrder_of_walk (mode : CredentialMode) :
    InOrder ⟨mode, Vendor.all.filterMap answer⟩ where
  nodup := (map_vendor_filterMap_sublist hown Vendor.all).nodup (by decide)
  order := map_vendor_filterMap_sublist hown Vendor.all

/-- A walk over the vendors finds the answer of each. -/
theorem mem_walk_iff {e : Credential} :
    e ∈ Vendor.all.filterMap answer ↔ answer e.vendor = some e := by
  rw [List.mem_filterMap]
  constructor
  · rintro ⟨v, -, hanswer⟩
    rwa [hown v e hanswer]
  · exact fun hanswer => ⟨e.vendor, Vendor.mem_all _, hanswer⟩

/-- A vendor has a key exactly if it answers with one. -/
theorem exists_mem_walk_iff {v : Vendor} :
    (∃ e ∈ Vendor.all.filterMap answer, e.vendor = v) ↔ ∃ e, answer v = some e := by
  constructor
  · rintro ⟨e, he, rfl⟩
    exact ⟨e, (mem_walk_iff hown).mp he⟩
  · rintro ⟨e, hanswer⟩
    have hv := hown v e hanswer
    exact ⟨e, (mem_walk_iff hown).mpr (hv ▸ hanswer), hv⟩

end

end Credentials

end AgentPipeline
