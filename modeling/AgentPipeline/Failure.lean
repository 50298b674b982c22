/-!
# Failures

Everything that can go wrong in a run, in a document or on the command line ends in a `Failure`: one
of fourteen kinds with a detail.  The kind alone decides how a failure is announced, whether another
attempt makes sense and whether it ends the whole run.

## Main definitions

* `FailureKind` and its `label`, `className`, `retryable` and `endsRun`.
* `Failure` and its `message`.
-/

namespace AgentPipeline

/-- What sort of thing went wrong. -/
inductive FailureKind where
  | config
  | authentication
  | service
  | rateLimit
  | billing
  | network
  | timeout
  | noProvider
  | compile
  | security
  | file
  | json
  | yaml
  | internal
deriving Repr, DecidableEq, Inhabited

namespace FailureKind

/-- How a failure of this kind is announced. -/
def label : FailureKind → String
  | config => "Configuration error: "
  | authentication => "Authentication error: "
  | service => "LLM API error: "
  | rateLimit => "Rate limited: "
  | billing => "Billing/quota error: "
  | network => "Network error: "
  | timeout => "Timeout: "
  | noProvider => "No provider configured: "
  | compile => "Compile error: "
  | security => "SECURITY_REJECTED: "
  | file => "IO error: "
  | json => "JSON error: "
  | yaml => "YAML error: "
  | internal => "Internal error: "

/-- The short name of a kind. -/
def name : FailureKind → String
  | config => "Config"
  | authentication => "Authentication"
  | service => "LLMApi"
  | rateLimit => "RateLimit"
  | billing => "Billing"
  | network => "Network"
  | timeout => "Timeout"
  | noProvider => "NoProvider"
  | compile => "Compile"
  | security => "Security"
  | file => "Io"
  | json => "Json"
  | yaml => "Yaml"
  | internal => "Internal"

/-- The name under which failures of this kind are counted. -/
def className (k : FailureKind) : String :=
  k.name ++ "Error"

/-- All kinds. -/
def all : List FailureKind :=
  [config, authentication, service, rateLimit, billing, network, timeout, noProvider, compile,
    security, file, json, yaml, internal]

/-- The kind with a given short name. -/
def ofName? (s : String) : Option FailureKind :=
  all.find? fun k => k.name = s

/-- Whether another attempt may succeed where this one failed. -/
def retryable : FailureKind → Bool
  | service | rateLimit | billing | network | timeout | file | json | internal => true
  | config | authentication | noProvider | compile | security | yaml => false

/-- Whether a failure of this kind ends the whole run and not just one step of it. -/
def endsRun (k : FailureKind) : Bool :=
  k == noProvider

/-- The status with which the command line ends after a failure of this kind. -/
def exitCode : FailureKind → Nat
  | config | yaml | json => 2
  | compile => 3
  | noProvider => 4
  | _ => 1

end FailureKind

/-- Something that went wrong. -/
structure Failure where
  kind : FailureKind
  /-- What exactly went wrong.  None when the cause is a place in a file or in a text that could not
  be read, for such places are not kept. -/
  detail : Option String
deriving Repr, DecidableEq

namespace Failure

/-- A failure with a detail. -/
def of (kind : FailureKind) (detail : String) : Failure :=
  ⟨kind, some detail⟩

/-- A file or text that could not be read. -/
def unreadable (kind : FailureKind) : Failure :=
  ⟨kind, none⟩

/-- The announcement of a failure. -/
def message (f : Failure) : String :=
  f.kind.label ++ f.detail.getD "unreadable input"

end Failure

end AgentPipeline
