import AgentPipeline.Proofs.Credentials.Entries

/-!
# The keys of the whole process

A vendor should have the key that is configured for it, and if none is, the first value that its
variables hold.  Of the variables, though, only the first one that is set is looked at, and it may
be empty: then it hides whatever the later ones hold.  That can only happen to a vendor with two
variables.

## Main definitions

* `Config.HasKey` — a configuration has a key for a vendor.
* `Environment.Holds`, `Environment.FirstHeld` — what variables hold.
* `Config.Supplies` — the key that a vendor should have.
* `Environment.Hides`, `Config.Overlooks` — when it does not get it.

## Main results

* `Credentials.environmentKey_eq_some_iff` — the key that the variables of a vendor give.
* `Credentials.sharedEntry_eq_some_iff` — the key that a vendor has.
* `Credentials.shared_finds_iff` — **every vendor has the key that is supplied for it unless an
  empty variable hides it.**
* `google_overlooked` — a key that is not found.
-/

namespace AgentPipeline

/-! ### What is supplied -/

/-- A text may be used as a key: it is not empty and does not name a variable. -/
def IsUsable (key : String) : Prop :=
  key ≠ "" ∧ key.toList.head? ≠ some '$'

/-- A configuration has a key for a vendor: what it sets for the vendor, with the value in place of a
variable, may be used as a key. -/
def Config.HasKey (config : Config) (env : Environment) (v : Vendor) (key : String) : Prop :=
  ∃ settings set, config.providers.get v = some settings ∧ settings.apiKey = some set ∧
    key = resolveKey env set ∧ IsUsable key

namespace Environment

/-- A variable is set and not empty. -/
def Holds (env : Environment) (name value : String) : Prop :=
  env.get name = some value ∧ value ≠ ""

/-- The value of the first of some variables that is set and not empty. -/
def FirstHeld (env : Environment) (names : List String) (value : String) : Prop :=
  ∃ before name after, names = before ++ name :: after ∧ env.Holds name value ∧
    ∀ other ∈ before, ∀ value, ¬ env.Holds other value

/-- The first of some variables that is set is empty, and another one holds a value. -/
def Hides (env : Environment) (names : List String) : Prop :=
  names.findSome? env.get = some "" ∧ ∃ name ∈ names, ∃ value, env.Holds name value

end Environment

namespace Config

/-- The key that a vendor should have: the configured one, else the first value that its variables
hold. -/
def Supplies (config : Config) (env : Environment) (v : Vendor) (key : String) : Prop :=
  config.HasKey env v key ∨
    (∀ other, ¬ config.HasKey env v other) ∧ env.FirstHeld v.envVars key

/-- A key of a vendor is not found: none is configured, and an empty variable hides it. -/
def Overlooks (config : Config) (env : Environment) (v : Vendor) : Prop :=
  (∀ key, ¬ config.HasKey env v key) ∧ env.Hides v.envVars

end Config

/-! ### Variables -/

namespace Environment

variable {env : Environment} {names : List String} {value : String}

theorem holds_iff {name : String} :
    env.Holds name value ↔ (env.get name).filter (· ≠ "") = some value := by
  rw [Option.filter_eq_some_iff, decide_eq_true_eq, Holds]

/-- The first value that is held, as a search for it. -/
theorem firstHeld_iff : env.FirstHeld names value ↔
    names.findSome? (fun name => (env.get name).filter (· ≠ "")) = some value := by
  simp only [List.findSome?_eq_some_iff, Option.eq_none_iff_forall_ne_some, ne_eq, ← holds_iff]
  rfl

theorem exists_firstHeld_iff :
    (∃ value, env.FirstHeld names value) ↔ ∃ name ∈ names, ∃ value, env.Holds name value := by
  simp only [firstHeld_iff, holds_iff, ← Option.isSome_iff_exists, List.findSome?_isSome_iff]

/-- A value that is looked for and held is the first one that is held. -/
theorem firstHeld_of_findSome? (hfind : names.findSome? env.get = some value)
    (hvalue : value ≠ "") : env.FirstHeld names value := by
  obtain ⟨before, name, after, hnames, hget, hbefore⟩ := List.findSome?_eq_some_iff.mp hfind
  refine ⟨before, name, after, hnames, ⟨hget, hvalue⟩, ?_⟩
  rintro other hother value ⟨hset, -⟩
  rw [hbefore other hother] at hset
  cases hset

theorem FirstHeld.unique {other : String} (hvalue : env.FirstHeld names value)
    (hother : env.FirstHeld names other) : value = other :=
  Option.some.inj ((firstHeld_iff.mp hvalue).symm.trans (firstHeld_iff.mp hother))

/-- The first variable that is set gives the first value that is held, unless it hides it. -/
theorem filter_findSome?_eq_some_iff :
    (names.findSome? env.get).filter (fun key => !key.isEmpty) = some value ↔
      env.FirstHeld names value ∧ ¬ env.Hides names := by
  rw [Option.filter_eq_some_iff, Bool.not_eq_true', ← Bool.not_eq_true, String.isEmpty_iff]
  constructor
  · rintro ⟨hfind, hvalue⟩
    refine ⟨firstHeld_of_findSome? hfind hvalue, fun hhides => hvalue ?_⟩
    exact Option.some.inj (hfind.symm.trans hhides.1)
  · rintro ⟨hfirst, hhides⟩
    have hheld := exists_firstHeld_iff.mp ⟨value, hfirst⟩
    cases hfind : names.findSome? env.get with
    | none =>
      obtain ⟨name, hname, _, hget, -⟩ := hheld
      rw [List.findSome?_eq_none_iff.mp hfind name hname] at hget
      cases hget
    | some found =>
      have hfound : found ≠ "" := by
        rintro rfl
        exact hhides ⟨hfind, hheld⟩
      rw [hfirst.unique (firstHeld_of_findSome? hfind hfound)]
      exact ⟨rfl, hfound⟩

/-- A single variable hides nothing. -/
theorem not_hides_singleton {name : String} : ¬ env.Hides [name] := by
  rintro ⟨hfind, other, hother, value, hget, hvalue⟩
  rw [List.findSome?_singleton] at hfind
  rw [List.mem_singleton.mp hother, hfind] at hget
  exact hvalue (Option.some.inj hget).symm

end Environment

/-! ### Keys -/

theorem beginsWithDollar_eq_true_iff {s : String} :
    beginsWithDollar s = true ↔ s.toList.head? = some '$' := by
  rw [beginsWithDollar, beq_iff_eq]

namespace Credentials

variable {config : Config} {env : Environment} {v : Vendor} {key : String}

/-- The configured key of a vendor is passed on if it may be used. -/
theorem configuredKey_eq_some_iff :
    configuredKey env (config.providers.get v) = some key ↔ config.HasKey env v key := by
  have husable : (!key.isEmpty && !beginsWithDollar key) = true ↔ IsUsable key := by
    rw [Bool.and_eq_true, Bool.not_eq_true', Bool.not_eq_true', ← Bool.not_eq_true,
      ← Bool.not_eq_true, String.isEmpty_iff, beginsWithDollar_eq_true_iff, IsUsable]
  rw [configuredKey, Option.filter_eq_some_iff, husable, Option.map_eq_some_iff]
  constructor
  · rintro ⟨⟨set, hset, rfl⟩, hkey⟩
    obtain ⟨settings, hsettings, hset⟩ := Option.bind_eq_some_iff.mp hset
    exact ⟨settings, set, hsettings, hset, rfl, hkey⟩
  · rintro ⟨settings, set, hsettings, hset, rfl, hkey⟩
    exact ⟨⟨set, Option.bind_eq_some_iff.mpr ⟨settings, hsettings, hset⟩, rfl⟩, hkey⟩

/-- The variables of a vendor give the first value that they hold, unless it is hidden. -/
theorem environmentKey_eq_some_iff :
    environmentKey env v = some key ↔ env.FirstHeld v.envVars key ∧ ¬ env.Hides v.envVars :=
  Environment.filter_findSome?_eq_some_iff

theorem orElse_environmentKey_eq_some_iff :
    ((configuredKey env (config.providers.get v)).orElse fun _ => environmentKey env v) = some key ↔
      config.Supplies env v key ∧ ¬ config.Overlooks env v := by
  cases hconfigured : configuredKey env (config.providers.get v) with
  | some found =>
    have hfound := configuredKey_eq_some_iff.mp hconfigured
    have hkey : config.HasKey env v key ↔ found = key := by
      rw [← configuredKey_eq_some_iff, hconfigured, Option.some.injEq]
    rw [Option.orElse_some, Option.some.injEq, Config.Supplies, Config.Overlooks, hkey]
    constructor
    · exact fun heq => ⟨Or.inl heq, fun hnone => hnone.1 found hfound⟩
    · rintro ⟨heq | hnone, -⟩
      · exact heq
      · exact absurd hfound (hnone.1 found)
  | none =>
    have hnone : ∀ other, ¬ config.HasKey env v other := by
      intro other hother
      rw [configuredKey_eq_some_iff.mpr hother] at hconfigured
      cases hconfigured
    rw [Option.orElse_none, environmentKey_eq_some_iff, Config.Supplies, Config.Overlooks,
      or_iff_right (hnone key), and_iff_right hnone, and_iff_right hnone]

/-- The entry of a vendor has the key that is supplied for it, unless that is overlooked. -/
theorem sharedEntry_eq_some_iff {e : Credential} : sharedEntry config env v = some e ↔
    e.vendor = v ∧ e.baseUrl = (config.providers.get v).bind ProviderSettings.baseUrl ∧
      config.Supplies env v e.apiKey ∧ ¬ config.Overlooks env v := by
  rw [sharedEntry, Option.map_eq_some_iff]
  simp only [orElse_environmentKey_eq_some_iff]
  constructor
  · rintro ⟨key, hkey, rfl⟩
    exact ⟨rfl, rfl, hkey⟩
  · rintro ⟨rfl, hbase, hkey⟩
    exact ⟨e.apiKey, hkey, by rw [← hbase]⟩

theorem exists_supplies_iff : (∃ key, config.Supplies env v key) ↔
    (∃ key, config.HasKey env v key) ∨
      ∃ name ∈ v.envVars, ∃ value, env.Holds name value := by
  rw [← Environment.exists_firstHeld_iff]
  constructor
  · rintro ⟨key, hkey | ⟨-, hkey⟩⟩
    · exact Or.inl ⟨key, hkey⟩
    · exact Or.inr ⟨key, hkey⟩
  · intro h
    by_cases hconfigured : ∃ key, config.HasKey env v key
    · obtain ⟨key, hkey⟩ := hconfigured
      exact ⟨key, Or.inl hkey⟩
    · obtain ⟨key, hkey⟩ := h.resolve_left hconfigured
      exact ⟨key, Or.inr ⟨not_exists.mp hconfigured, hkey⟩⟩

/-- Only a vendor with two variables is overlooked. -/
theorem eq_google_of_overlooks (h : config.Overlooks env v) : v = .google := by
  cases v with
  | anthropic => exact absurd h.2 Environment.not_hides_singleton
  | openai => exact absurd h.2 Environment.not_hides_singleton
  | google => rfl

/-- **Every vendor has the key that is supplied for it unless an empty variable hides it.**  There is
at most one key for each vendor, in registration order, and each is the one that is supplied.  A
vendor has a key just when a usable one is configured for it or one of its variables holds a value,
and no empty variable hides that value. -/
theorem shared_finds_iff (config : Config) (env : Environment) :
    (shared config env).mode = .shared ∧ (shared config env).InOrder ∧
    (∀ e ∈ (shared config env).entries, config.Supplies env e.vendor e.apiKey) ∧
    (∀ v, (∃ e ∈ (shared config env).entries, e.vendor = v) ↔
      ((∃ key, config.HasKey env v key) ∨ ∃ name ∈ v.envVars, ∃ value, env.Holds name value) ∧
        ¬ config.Overlooks env v) ∧
    ∀ v, config.Overlooks env v → v = .google := by
  have hown : ∀ v e, sharedEntry config env v = some e → e.vendor = v :=
    fun v e h => (sharedEntry_eq_some_iff.mp h).1
  refine ⟨rfl, inOrder_of_walk hown .shared, fun e he => ?_, fun v => ?_,
    fun v => eq_google_of_overlooks⟩
  · exact (sharedEntry_eq_some_iff.mp ((mem_walk_iff hown).mp he)).2.2.1
  · rw [← exists_supplies_iff, shared, exists_mem_walk_iff hown]
    simp only [sharedEntry_eq_some_iff]
    constructor
    · rintro ⟨e, -, -, hkey, hseen⟩
      exact ⟨⟨e.apiKey, hkey⟩, hseen⟩
    · rintro ⟨⟨key, hkey⟩, hseen⟩
      exact ⟨⟨v, key, _⟩, rfl, rfl, hkey, hseen⟩

end Credentials

/-! ### An empty variable -/

/-- The two variables of Google, the first of them empty. -/
def halfSet : Environment :=
  [("GOOGLE_API_KEY", ""), ("GEMINI_API_KEY", "g-key")]

/-- A key that is not found: nothing is configured, `GEMINI_API_KEY` holds a key and
`GOOGLE_API_KEY`, which is looked at first, is set to the empty text. -/
theorem google_overlooked : "GEMINI_API_KEY" ∈ Vendor.google.envVars ∧
    Environment.Holds halfSet "GEMINI_API_KEY" "g-key" ∧
    ∀ e ∈ (Credentials.shared {} halfSet).entries, e.vendor ≠ .google := by
  refine ⟨by decide, ⟨by decide, by decide⟩, ?_⟩
  decide

end AgentPipeline
