/-!
# Commands

## Main definitions

* `Command` — what the program is asked to do.
* `CommandLine` — a command with the options that all commands share.
* `Flag`, `Setting` — the options, without and with a value.
* `Usage` — why the words of a command line amount to no command.
-/

namespace AgentPipeline

/-- How the report of a run is printed. -/
inductive ReportFormat where
  | text
  | json
deriving Repr, DecidableEq

namespace ReportFormat

/-- The name of a format. -/
def name : ReportFormat → String
  | text => "text"
  | json => "json"

/-- The format with a given name. -/
def ofName? : String → Option ReportFormat
  | "text" => some text
  | "json" => some json
  | _ => none

end ReportFormat

/-- What is asked for in a run. -/
structure RunRequest where
  /-- The path of the design. -/
  design : String
  /-- The path of the configuration. -/
  config : Option String := none
  maxSteps : Option Nat := none
  /-- A time limit in seconds. -/
  timeout : Option Nat := none
  /-- A word for the only vendor that may be used. -/
  provider : Option String := none
  output : ReportFormat := .text
deriving Repr, DecidableEq

/-- What the program is asked to do. -/
inductive Command where
  /-- Runs a design. -/
  | run (request : RunRequest)
  /-- Compiles the design of a path and shows its graph. -/
  | validate (design : String)
  /-- Lists the models of one tier or of all. -/
  | models (tier : Option String)
deriving Repr, DecidableEq

/-- A command with the options that all commands share. -/
structure CommandLine where
  /-- How often more detail was asked for. -/
  verbose : Nat
  quiet : Bool
  noColour : Bool
  logJson : Bool
  command : Command
deriving Repr, DecidableEq

/-! ### Options -/

/-- An option without a value. -/
inductive Flag where
  | help
  | version
  | verbose
  | quiet
  | noColour
  | logJson
deriving Repr, DecidableEq

namespace Flag

/-- The name behind two hyphens. -/
def long : Flag → String
  | help => "help"
  | version => "version"
  | verbose => "verbose"
  | quiet => "quiet"
  | noColour => "no-color"
  | logJson => "log-json"

/-- The letter behind one hyphen. -/
def short? : Flag → Option Char
  | help => some 'h'
  | version => some 'V'
  | verbose => some 'v'
  | quiet => some 'q'
  | noColour | logJson => none

end Flag

/-- An option with a value. -/
inductive Setting where
  | config
  | maxSteps
  | timeout
  | provider
  | output
  | tier
deriving Repr, DecidableEq

namespace Setting

/-- The name behind two hyphens. -/
def long : Setting → String
  | config => "config"
  | maxSteps => "max-steps"
  | timeout => "timeout"
  | provider => "provider"
  | output => "output"
  | tier => "tier"

/-- The letter behind one hyphen. -/
def short? : Setting → Option Char
  | config => some 'c'
  | output => some 'o'
  | maxSteps | timeout | provider | tier => none

end Setting

/-- The parts of a command line, each with options of its own. -/
inductive Part where
  /-- Before the name of the command. -/
  | opening
  | run
  | validate
  | models
deriving Repr, DecidableEq

namespace Part

/-- The flags of a part; that for the version is known only before the name of the command. -/
def flags : Part → List Flag
  | opening => [.help, .version, .verbose, .quiet, .noColour, .logJson]
  | run | validate | models => [.help, .verbose, .quiet, .noColour, .logJson]

/-- The options with a value of a part. -/
def settings : Part → List Setting
  | opening | validate => []
  | run => [.config, .maxSteps, .timeout, .provider, .output]
  | models => [.tier]

/-- Whether a part names a design. -/
def takesDesign : Part → Bool
  | run | validate => true
  | opening | models => false

/-- The part that follows the name of a command. -/
def ofName? : String → Option Part
  | "run" => some run
  | "validate" => some validate
  | "models" => some models
  | _ => none

end Part

/-! ### Words that amount to no command -/

/-- Why the words of a command line amount to no command. -/
inductive Usage where
  /-- Help is asked for. -/
  | help
  /-- The version is asked for. -/
  | version
  /-- Nothing is asked for. -/
  | nothing
  /-- There are options, but no command. -/
  | noCommand
  | unknownCommand (word : String)
  /-- An unknown option, or a word that has no place. -/
  | unknownArgument (word : String)
  | noDesign
  | noValue (setting : Setting)
  /-- A value that is none of those to choose from. -/
  | badChoice (setting : Setting) (value : String)
  /-- A value that is no number in the range of the option. -/
  | badNumber (setting : Setting) (value : String)
  | repeatedFlag (flag : Flag)
  | repeatedSetting (setting : Setting)
  /-- A value for an option that takes none. -/
  | needlessValue (flag : Flag) (value : String)
deriving Repr, DecidableEq

namespace Usage

/-- What the user is told. -/
def message : Usage → String
  | help | nothing => "usage: agentflow [OPTIONS] <run DESIGN | validate DESIGN | models>"
  | version => "agentflow"
  | noCommand => "error: a command is required"
  | unknownCommand word => s!"error: unknown command '{word}'"
  | unknownArgument word => s!"error: unexpected argument '{word}'"
  | noDesign => "error: a design is required"
  | noValue setting => s!"error: --{setting.long} requires a value"
  | badChoice setting value | badNumber setting value =>
    s!"error: invalid value '{value}' for --{setting.long}"
  | repeatedFlag flag => s!"error: --{flag.long} is given more than once"
  | repeatedSetting setting => s!"error: --{setting.long} is given more than once"
  | needlessValue flag value => s!"error: --{flag.long} takes no value, but '{value}' is given"

/-- The status with which the program ends; asking for help or for the version is no mistake. -/
def exitCode : Usage → Nat
  | help | version => 0
  | _ => 2

end Usage

end AgentPipeline
