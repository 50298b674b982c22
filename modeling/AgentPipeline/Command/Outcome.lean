import AgentPipeline.Command.Basic
import AgentPipeline.Figures
import AgentPipeline.Config.Format
import AgentPipeline.Credentials
import AgentPipeline.Design.Document
import AgentPipeline.Injection
import AgentPipeline.Simulation.Engine

/-!
# What commands do

A command sees files and variables and leaves lines and perhaps a failure behind.  Whatever speaks
to the vendors is a backend that is handed in, so that the outcome of a command is a function of
what it sees and of what the vendors answer.

## Main definitions

* `Surroundings` — what a command sees.
* `Printout` — what a command leaves behind.
* `RunRequest.plan` — everything that a run needs, or what stands in its way.
* `Command.perform` — does what a command asks for.
-/

namespace AgentPipeline

/-- What a command sees. -/
structure Surroundings where
  /-- What is found under a path. -/
  file : String → FileContent
  env : Environment
  /-- Whether lines are coloured. -/
  coloured : Bool := false
  /-- The time of day at the end of a run, if reports are to tell times. -/
  timeOfDay : Option String := none
  /-- The name of the run that may be made. -/
  runId : String := ""

/-- What a command leaves behind. -/
structure Printout where
  lines : List String := []
  failure : Option Failure := none
  /-- What a run told while it was going on. -/
  events : List Event := []

namespace Printout

/-- A failure and nothing else. -/
def ofFailure (f : Failure) : Printout :=
  { failure := some f }

/-- Lines, or a failure and nothing else. -/
def ofLines : Except Failure (List String) → Printout
  | .ok lines => { lines }
  | .error f => ofFailure f

/-- The lines in one text. -/
def text (p : Printout) : String :=
  String.join (p.lines.map (· ++ "\n"))

/-- The status with which the program ends. -/
def exitCode (p : Printout) : Nat :=
  match p.failure with
  | some f => f.kind.exitCode
  | none => 0

end Printout

/-! ### Listing models -/

/-- The tiers that are asked for. -/
def Tier.asked : Option String → Except Failure (List Tier)
  | none => .ok Tier.all
  | some word =>
    match Tier.ofName? word with
    | some tier => .ok [tier]
    | none => .error (.of .config ("Unknown tier: " ++ word))

/-- The models of the tiers that are asked for. -/
def modelListing (coloured : Bool) (word : Option String) : Except Failure (List String) :=
  (Tier.asked word).map fun tiers => tiers.flatMap (Tier.listing coloured)

/-! ### Validating a design -/

/-- The graph of a design, or why there is none. -/
def Design.checked (d : Design) : Except Failure Graph :=
  d.compile.mapError Defect.failure

/-- The design of a path, shown with its graph. -/
def validation (w : Surroundings) (path : String) : Except Failure (List String) := do
  let d ← Design.ofFile path (w.file path)
  let g ← d.checked
  return g.overview w.coloured d.name ++
    (if d.injection.isSome then [injectionWarning w.coloured] else [])

/-! ### Running a design -/

/-- Everything that a run needs. -/
structure RunPlan where
  design : Design
  limits : RunLimits
  /-- At least one key. -/
  credentials : Credentials

namespace RunRequest

/-- The configuration that is asked for. -/
def configuration (r : RunRequest) (w : Surroundings) : Except Failure Config :=
  match r.config with
  | none => .ok {}
  | some path => Config.ofFile path (w.file path)

/-- The limits that are asked for, a zero counting as one; those of the configuration where nothing
is asked for. -/
def limits (r : RunRequest) (c : Config) : RunLimits :=
  let settings := c.engine.limits
  { settings with
    maxSteps := (r.maxSteps.map (max 1)).getD settings.maxSteps
    timeoutMs := (r.timeout.map fun seconds => 1000 * max 1 seconds).getD settings.timeoutMs }

/-- The keys of the vendors that may be used. -/
def credentials (r : RunRequest) (c : Config) (env : Environment) : Except Failure Credentials := do
  let all := Credentials.shared c env
  let usable ← match r.provider with
    | none => pure all
    | some word => all.restrict word
  if usable.isEmpty then
    .error (.of .noProvider ("set ANTHROPIC_API_KEY, OPENAI_API_KEY or GOOGLE_API_KEY, " ++
      "or add keys to the config file"))
  else .ok usable

/-- Everything that a run needs, or what stands in its way: the configuration, then the design and
its graph, then the keys. -/
def plan (r : RunRequest) (w : Surroundings) : Except Failure RunPlan := do
  let config ← r.configuration w
  let design ← Design.ofFile r.design (w.file r.design)
  let _ ← design.checked
  let credentials ← r.credentials config w.env
  return ⟨design, r.limits config, credentials⟩

/-- The lines of a report in the format that is asked for. -/
def reportLines (r : RunRequest) (w : Surroundings) (report : RunReport) : List String :=
  match r.output with
  | .text => report.lines w.coloured w.timeOfDay
  | .json => [report.toJson.pretty]

end RunRequest

/-- The failure with which a command ends after a run: none if the run is complete. -/
def RunReport.failure (r : RunReport) : Option Failure :=
  match r.status with
  | .completed => none
  | .timeout => some (.of .timeout (r.error.getD ""))
  | .pending | .running | .failed => some (.of .internal (r.error.getD "pipeline failed"))

variable {σ : Type}

/-- A run from its plan to its report. -/
def RunPlan.execute (backend : Credentials → Backend σ) (start : σ) (runId : String) (p : RunPlan) :
    Outcome × σ :=
  let (outcome, clock) := p.design.simulate (backend p.credentials)
    (Router.ofCredentials p.credentials) p.limits runId start
  (outcome, clock.backend)

/-! ### All commands -/

/-- Does what a command asks for; a backend for the keys in use answers for the vendors. -/
def Command.perform (backend : Credentials → Backend σ) (start : σ) (w : Surroundings) :
    Command → Printout × σ
  | .models word => (.ofLines (modelListing w.coloured word), start)
  | .validate path => (.ofLines (validation w path), start)
  | .run request =>
    match request.plan w with
    | .error f => (.ofFailure f, start)
    | .ok plan =>
      let (outcome, finish) := plan.execute backend start w.runId
      ({ lines := request.reportLines w outcome.report
         failure := outcome.report.failure
         events := outcome.events }, finish)

/-- The paths that a command may read. -/
def Command.paths : Command → List String
  | .models _ => []
  | .validate path => [path]
  | .run request => request.config.toList ++ [request.design]

/-- The variables that keys may come from: those that a configuration names and those of the
vendors. -/
def Config.variables (c : Config) : List String :=
  Vendor.all.flatMap fun vendor =>
    (match (((c.providers.get vendor).bind ProviderSettings.apiKey).getD "").toList with
      | '$' :: name => [String.ofList name]
      | _ => []) ++ vendor.envVars

/-- The variables that a command may look at, given what is found under paths. -/
def Command.variables (file : String → FileContent) : Command → List String
  | .models _ | .validate _ => []
  | .run request =>
    match request.configuration { file, env := [] } with
    | .ok config => config.variables
    | .error _ => []

end AgentPipeline
