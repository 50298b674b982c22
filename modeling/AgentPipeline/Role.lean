import AgentPipeline.Design.Basic
import AgentPipeline.Text.Basic

/-!
# Roles

The open role tag of an agent is resolved to one of six behaviours.  A tag that means nothing counts
as that of an analyzer; an agent with a role of its own is always custom.

## Main definitions

* `Role`, `Role.ofTag`, `Role.ofSpec` — the roles and how they are found.
* `Role.producesOutput` — whether the output of a tag's role is the answer of the whole pipeline.
* `Role.instructions` — the instructions that a role gives the model.
-/

namespace AgentPipeline

/-- What an agent does. -/
inductive Role where
  | collector
  | analyzer
  | validator
  | reporter
  | synthesizer
  | custom
deriving Repr, DecidableEq, Inhabited

namespace Role

/-- The name of a role. -/
def name : Role → String
  | collector => "collector"
  | analyzer => "analyzer"
  | validator => "validator"
  | reporter => "reporter"
  | synthesizer => "synthesizer"
  | custom => "custom"

/-- All roles. -/
def all : List Role :=
  [collector, analyzer, validator, reporter, synthesizer, custom]

/-- The role with a given name. -/
def ofName? (s : String) : Option Role :=
  all.find? fun r => r.name = s

/-- The role of a word in small letters. -/
def ofWord : String → Role
  | "collector" => collector
  | "analyzer" | "analyst" => analyzer
  | "validator" | "critic" | "reviewer" => validator
  | "reporter" | "writer" => reporter
  | "synthesizer" => synthesizer
  | "custom" => custom
  | _ => analyzer

/-- The role of a tag, up to case and blanks around it. -/
def ofTag (tag : String) (isCustomRole : Bool) : Role :=
  if isCustomRole then custom
  else ofWord (String.ofList (Text.lower (Text.trim tag.toList)))

/-- The role of an agent. -/
def ofSpec (spec : AgentSpec) : Role :=
  ofTag spec.role spec.isCustomRole

/-- Whether a role answers for the whole pipeline. -/
def isFinal : Role → Bool
  | reporter | synthesizer => true
  | _ => false

/-- Whether a tag is that of a role that answers for the whole pipeline. -/
def producesOutput (tag : String) : Bool :=
  (ofTag tag false).isFinal

/-- The instructions that a role gives the model. -/
def instructions : Role → String
  | collector =>
    "You are a research collector. Gather the facts, sources and raw material " ++
      "the task needs. Be thorough and keep your notes structured."
  | analyzer =>
    "You are an analyst. Examine the material you are given, find patterns and " ++
      "draw well-supported conclusions."
  | validator =>
    "You are a critical reviewer. Check the previous step's output for errors, " ++
      "gaps and unsupported claims, then state what should change."
  | reporter =>
    "You are a report writer. Turn the material you are given into a clear, " ++
      "well-organised report for the reader."
  | synthesizer =>
    "You are a synthesizer. Combine every earlier contribution into one " ++
      "coherent final answer, resolving any disagreements."
  | custom =>
    "You are a helpful assistant working as one step of a larger pipeline."

end Role

end AgentPipeline
