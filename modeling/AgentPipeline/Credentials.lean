import AgentPipeline.Config.Basic
import AgentPipeline.Failure
import AgentPipeline.Text.Diagnostic

/-!
# Credentials

A run may use the keys of the whole process, from the configuration and the environment, or only
those that a caller hands in.  In both cases there is at most one key for each vendor, in
registration order.

## Main definitions

* `Environment` — the environment variables that can be seen.
* `resolveKey` — a key that may name an environment variable.
* `Credentials.shared`, `Credentials.ofCaller` — the two sources of keys.
* `Credentials.restrict` — the key of one vendor only.
-/

namespace AgentPipeline

/-- The environment variables that can be seen, as pairs of name and value. -/
abbrev Environment := List (String × String)

/-- What follows the first equals sign behind a name in the line of a variable, if the line begins
with that name and the sign. -/
def valueInLine? (name : String) (entry : String × String) : Option String :=
  let front := (name ++ "=").toList
  let line := (entry.1 ++ "=" ++ entry.2).toList
  if front.isPrefixOf line then some (String.ofList (line.drop front.length)) else none

/-- The value of a variable.  Variables are kept as lines of name, equals sign and value, and a name
that holds an equals sign itself is looked for in the whole line. -/
def Environment.get (env : Environment) (name : String) : Option String :=
  env.findSome? (valueInLine? name)

/-- Whether a text begins with a dollar sign. -/
def beginsWithDollar (s : String) : Bool :=
  s.toList.head? == some '$'

/-- A key: a text that begins with a dollar sign names a variable and stands for its value if it is
set; any other text stands for itself. -/
def resolveKey (env : Environment) (value : String) : String :=
  match value.toList with
  | '$' :: name => (env.get (String.ofList name)).getD value
  | _ => value

/-- Whose keys are used. -/
inductive CredentialMode where
  /-- Those of the whole process. -/
  | shared
  /-- Only those that the caller handed in. -/
  | byCaller
deriving Repr, DecidableEq

/-- The name of a mode. -/
def CredentialMode.name : CredentialMode → String
  | shared => "shared"
  | byCaller => "scoped"

/-- The key of a vendor. -/
structure Credential where
  vendor : Vendor
  apiKey : String
  baseUrl : Option String
deriving DecidableEq

/-- A description that does not give the key away. -/
def Credential.description (c : Credential) : String :=
  "ProviderCredential \x7b provider: " ++ c.vendor.title ++
    ", api_key: \"[REDACTED]\", base_url: " ++
    (match c.baseUrl with
      | some url => "Some(" ++ Text.diagnostic url ++ ")"
      | none => "None") ++ " \x7d"

/-- The keys of a run. -/
structure Credentials where
  mode : CredentialMode
  /-- At most one key for each vendor, in registration order. -/
  entries : List Credential
deriving DecidableEq

namespace Credentials

/-- The configured key of a vendor, if it resolves to something that may be a key. -/
def configuredKey (env : Environment) (settings : Option ProviderSettings) : Option String :=
  ((settings.bind ProviderSettings.apiKey).map (resolveKey env)).filter fun k =>
    !k.isEmpty && !beginsWithDollar k

/-- The first variable of a vendor that is set, unless it is empty. -/
def environmentKey (env : Environment) (vendor : Vendor) : Option String :=
  (vendor.envVars.findSome? env.get).filter fun k => !k.isEmpty

/-- The key of a vendor in the whole process: the configured one, else that of the environment. -/
def sharedEntry (config : Config) (env : Environment) (vendor : Vendor) : Option Credential :=
  let settings := config.providers.get vendor
  ((configuredKey env settings).orElse fun _ => environmentKey env vendor).map fun key =>
    ⟨vendor, key, settings.bind ProviderSettings.baseUrl⟩

/-- The keys of the whole process. -/
def shared (config : Config) (env : Environment) : Credentials :=
  ⟨.shared, Vendor.all.filterMap (sharedEntry config env)⟩

/-- Whether one name is preferred to another for a vendor's key: the canonical name to any alias,
then the smaller name. -/
def preferred (vendor : Vendor) (a b : String) : Bool :=
  let aIsCanonical := Vendor.normalized a == vendor.name
  let bIsCanonical := Vendor.normalized b == vendor.name
  if aIsCanonical == bIsCanonical then a < b else aIsCanonical

/-- The pair with the most preferred name; of equal names the first. -/
def mostPreferred (vendor : Vendor) : List (String × String) → Option (String × String)
  | [] => none
  | k :: keys =>
    match mostPreferred vendor keys with
    | none => some k
    | some best => some (if preferred vendor best.1 k.1 then best else k)

/-- The key of a vendor among those that a caller handed in. -/
def callerEntry (keys : List (String × String)) (vendor : Vendor) : Option Credential :=
  (mostPreferred vendor
    (keys.filter fun k => Vendor.ofAlias? k.1 == some vendor && !k.2.isEmpty)).map fun k =>
    ⟨vendor, k.2, none⟩

/-- The keys that a caller handed in, as pairs of name and key. -/
def ofCaller (keys : List (String × String)) : Credentials :=
  ⟨.byCaller, Vendor.all.filterMap (callerEntry keys)⟩

/-- The names that are no vendor's. -/
def unknownNames (keys : List (String × String)) : List String :=
  (keys.map (·.1)).filter fun name => (Vendor.ofAlias? name).isNone

/-- The key of one vendor only. -/
def restrictTo (c : Credentials) (vendor : Vendor) : Credentials :=
  { c with entries := c.entries.filter fun e => e.vendor == vendor }

/-- The key of the vendor that a word names. -/
def restrict (c : Credentials) (word : String) : Except Failure Credentials :=
  match Vendor.ofAlias? word with
  | some vendor => .ok (c.restrictTo vendor)
  | none => .error (.of .config ("Unknown provider: " ++ word))

/-- Whether there is no key at all. -/
def isEmpty (c : Credentials) : Bool :=
  c.entries.isEmpty

/-- The keys themselves. -/
def secrets (c : Credentials) : List String :=
  c.entries.map Credential.apiKey

end Credentials

end AgentPipeline
