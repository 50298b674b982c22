import AgentPipeline.Injection
import AgentPipeline.Message
import AgentPipeline.Role
import AgentPipeline.State.Basic
import AgentPipeline.Text.Basic

/-!
# Prompts

What an agent is asked: the instructions of its role, and a user message made of the pipeline's name
and goal, the agent's task and those outputs of earlier agents that its role looks at.  Earlier
outputs are not trusted: each is screened and then cut to a bearable length.

## Main definitions

* `Role.sources` — which earlier successes a role looks at.
* `Prompt.inserted` — what is passed on of an earlier output.
* `Prompt.messages` — the messages of an agent.
-/

namespace AgentPipeline

/-- Which of the earlier successes a role looks at, given all of them in order. -/
def Role.sources (role : Role) (successes : List AgentResult) : List AgentResult :=
  match role with
  | collector => []
  | analyzer =>
    match successes.filter fun r => ofTag r.role false = collector with
    | [] => successes
    | collected => collected
  | validator => successes.getLast?.toList
  | reporter | synthesizer | custom => successes

namespace Prompt

/-- What is passed on of an earlier output: screened, then cut. -/
def inserted (content : String) : List Char :=
  Text.truncateOutput (Injection.screen content.toList)

/-- A part of the user message that is left out when its text is empty. -/
def part (heading text : String) : String :=
  if text.isEmpty then "" else "\n## " ++ heading ++ "\n" ++ text ++ "\n"

/-- The part of the user message that passes an earlier output on. -/
def outputPart (r : AgentResult) : String :=
  "\n## Output from " ++ r.agentName ++ " (" ++ r.role ++ ")\n" ++
    String.ofList (inserted r.content) ++ "\n"

/-- The instructions of an agent: its own prompt if its role is custom and it has one that is not
blank, else those of the role. -/
def instructions (role : Role) (spec : AgentSpec) : String :=
  match role, spec.customPrompt with
  | .custom, some prompt =>
    if Text.allBlank prompt.toList then role.instructions else prompt
  | _, _ => role.instructions

/-- The user message of an agent. -/
def question (role : Role) (spec : AgentSpec) (s : RunState) : String :=
  "## Pipeline\n" ++ s.design.name ++ "\n" ++ part "Goal" s.design.description ++
    part "Your task" spec.description ++
    String.join ((role.sources (s.agentResults.filter AgentResult.isSuccess)).map outputPart)

/-- The messages of an agent, given the run so far. -/
def messages (role : Role) (spec : AgentSpec) (s : RunState) : List Message :=
  [.system (instructions role spec), .user (question role spec s)]

end Prompt

end AgentPipeline
