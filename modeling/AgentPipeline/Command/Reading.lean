import AgentPipeline.Command.Basic
import AgentPipeline.Decimal.Reading

/-!
# Reading command lines

Options come as words of their own: `--name`, `--name value`, `--name=value`, or as letters behind
one hyphen, of which the last may take the rest of the word or the next word as its value.  Behind a
word `--` there are no options any more.  Words are read one after another and the first mistake
counts, with one exception: a value in a word of its own is checked only when the next word has
turned out to be in its place.

## Main definitions

* `Given` — what has been read of one part of a command line.
* `Part.words` — reads the words behind the name of a command.
* `CommandLine.ofWords` — reads a command line.
-/

namespace AgentPipeline

/-- The option behind a name or letter. -/
inductive OptionName where
  | flag (flag : Flag)
  | setting (setting : Setting)
deriving Repr, DecidableEq

/-- What has been read of one part of a command line. -/
structure Given where
  verbose : Nat := 0
  quiet : Bool := false
  noColour : Bool := false
  logJson : Bool := false
  design : Option String := none
  config : Option String := none
  maxSteps : Option Nat := none
  timeout : Option Nat := none
  provider : Option String := none
  output : Option ReportFormat := none
  tier : Option String := none
  /-- The latest option with a value, as long as that has not been checked; and the value, as soon
  as it has been read. -/
  pending : Option (Setting × Option String) := none
deriving Repr, DecidableEq

/-- A count below a bound in decimal digits, perhaps behind a plus sign. -/
def readCount? (bound : Nat) (s : String) : Option Nat :=
  let digits := match s.toList with
    | '+' :: ds => ds
    | ds => ds
  if digits ≠ [] ∧ digits.all Char.isDigit ∧ Decimal.natOfDigits digits < bound then
    some (Decimal.natOfDigits digits)
  else none

/-- A count below a bound in the notation of an integer: zero may have a minus sign. -/
def readInteger? (bound : Nat) (s : String) : Option Nat :=
  match s.toList with
  | '-' :: digits => if digits ≠ [] ∧ digits.all (· = '0') then some 0 else none
  | _ => readCount? bound s

namespace Given

/-- Whether there is no option. -/
def isUntouched (g : Given) : Bool :=
  g.verbose == 0 && !g.quiet && !g.noColour && !g.logJson

/-- Keeps a value that has not been given before. -/
def once {α : Type} (setting : Setting) (before : Option α) (value : Except Usage α) :
    Except Usage (Option α) :=
  if before.isSome then .error (.repeatedSetting setting) else value.map some

/-- Keeps a flag that has not been given before. -/
def onceFlag (flag : Flag) (before : Bool) : Except Usage Bool :=
  if before then .error (.repeatedFlag flag) else .ok true

/-- A number, or the reason why the text is none. -/
def number (setting : Setting) (text : String) (n : Option Nat) : Except Usage Nat :=
  match n with
  | some n => .ok n
  | none => .error (.badNumber setting text)

/-- A format, or the reason why the text is none. -/
def format (text : String) : Except Usage ReportFormat :=
  match ReportFormat.ofName? text with
  | some f => .ok f
  | none => .error (.badChoice .output text)

/-- Puts the value of an option in.  Steps are integers of 32 bits and seconds of 64 bits. -/
def put (g : Given) (setting : Setting) (text : String) : Except Usage Given :=
  match setting with
  | .config => (once setting g.config (.ok text)).map fun v => { g with config := v }
  | .maxSteps =>
    (once setting g.maxSteps (number setting text (readInteger? (Nat.pow 2 32) text))).map fun v =>
      { g with maxSteps := v }
  | .timeout =>
    (once setting g.timeout (number setting text (readCount? (Nat.pow 2 64) text))).map fun v =>
      { g with timeout := v }
  | .provider => (once setting g.provider (.ok text)).map fun v => { g with provider := v }
  | .output => (once setting g.output (format text)).map fun v => { g with output := v }
  | .tier => (once setting g.tier (.ok text)).map fun v => { g with tier := v }

/-- Checks the pending option. -/
def settle (g : Given) : Except Usage Given :=
  match g.pending with
  | none => .ok g
  | some (setting, none) => .error (.noValue setting)
  | some (setting, some text) => { g with pending := none }.put setting text

/-- Puts a flag in; more than 255 requests for detail count as 255. -/
def raise (g : Given) (flag : Flag) : Except Usage Given := do
  let g ← g.settle
  match flag with
  | .help => .error .help
  | .version => .error .version
  | .verbose => .ok { g with verbose := min 255 (g.verbose + 1) }
  | .quiet => (onceFlag flag g.quiet).map fun v => { g with quiet := v }
  | .noColour => (onceFlag flag g.noColour).map fun v => { g with noColour := v }
  | .logJson => (onceFlag flag g.logJson).map fun v => { g with logJson := v }

/-- Puts an option in, whose value stands in the same word. -/
def attach (g : Given) (setting : Setting) (text : String) : Except Usage Given := do
  let g ← g.settle
  g.put setting text

/-- Puts an option in, whose value is expected in the next word. -/
def await (g : Given) (setting : Setting) : Except Usage Given := do
  let g ← g.settle
  .ok { g with pending := some (setting, none) }

/-- Puts a word in that is neither an option nor a value of one. -/
def place (g : Given) (part : Part) (word : String) : Except Usage Given :=
  if part.takesDesign ∧ g.design.isNone then do
    let g ← g.settle
    .ok { g with design := some word }
  else .error (.unknownArgument word)

end Given

namespace Part

/-- The option of a name. -/
def long? (part : Part) (name : String) : Option OptionName :=
  ((part.flags.find? fun f => f.long = name).map .flag).orElse fun _ =>
    (part.settings.find? fun s => s.long = name).map .setting

/-- The option of a letter. -/
def short? (part : Part) (letter : Char) : Option OptionName :=
  ((part.flags.find? fun f => f.short? = some letter).map .flag).orElse fun _ =>
    (part.settings.find? fun s => s.short? = some letter).map .setting

/-- Reads a word of letters that stand for options. -/
def letters (part : Part) (g : Given) : List Char → Except Usage Given
  | [] => .ok g
  | c :: rest =>
    match part.short? c with
    | none => .error (.unknownArgument (String.ofList ['-', c]))
    | some (.flag flag) => do
      let g ← g.raise flag
      part.letters g rest
    | some (.setting setting) =>
      match rest with
      | [] => g.await setting
      | '=' :: value => g.attach setting (String.ofList value)
      | value => g.attach setting (String.ofList value)

/-- Reads an option by its name, perhaps with a value behind an equals sign. -/
def named (part : Part) (g : Given) (body : List Char) : Except Usage Given :=
  let name := String.ofList (body.takeWhile (· ≠ '='))
  match part.long? name, body.dropWhile (· ≠ '=') with
  | none, _ => .error (.unknownArgument ("--" ++ name))
  | some (.flag flag), [] => g.raise flag
  | some (.flag flag), _ :: value => .error (.needlessValue flag (String.ofList value))
  | some (.setting setting), [] => g.await setting
  | some (.setting setting), _ :: value => g.attach setting (String.ofList value)

/-- Reads a word if it is an option: one that begins with a hyphen and has more behind it. -/
def option? (part : Part) (g : Given) (word : String) : Option (Except Usage Given) :=
  match word.toList with
  | '-' :: '-' :: body => some (part.named g body)
  | '-' :: c :: rest => some (part.letters g (c :: rest))
  | _ => none

/-- Reads words among which there are no options. -/
def plainWords (part : Part) (g : Given) : List String → Except Usage Given
  | [] => g.settle
  | w :: ws => do
    let g ← g.place part w
    part.plainWords g ws

/-- Reads the words behind the name of a command. -/
def words (part : Part) (g : Given) : List String → Except Usage Given
  | [] => g.settle
  | w :: ws =>
    if w = "--" then part.plainWords g ws
    else
      match part.option? g w, g.pending with
      | some read, _ => do
        let g ← read
        part.words g ws
      | none, some (setting, none) => part.words { g with pending := some (setting, some w) } ws
      | none, _ => do
        let g ← g.place part w
        part.words g ws

/-- The design that was given. -/
def designOf (g : Given) : Except Usage String :=
  match g.design with
  | some design => .ok design
  | none => .error .noDesign

/-- The command that was given. -/
def command (part : Part) (g : Given) : Except Usage Command :=
  match part with
  | opening => .error .noCommand
  | run => (designOf g).map fun design => .run {
      design, config := g.config, maxSteps := g.maxSteps, timeout := g.timeout,
      provider := g.provider, output := g.output.getD .text }
  | validate => (designOf g).map .validate
  | models => .ok (.models g.tier)

end Part

/-- Whether a word asks for help on commands. -/
def asksForHelp (word : String) : Bool :=
  word == "help"

/-- Help on the command that words name; help itself is a command without further ones. -/
def helpOn : List String → Usage
  | [] => .help
  | [w] => if (Part.ofName? w).isSome || asksForHelp w then .help else .unknownCommand w
  | w :: v :: _ => if (Part.ofName? w).isSome || asksForHelp w then .unknownCommand v
    else .unknownCommand w

/-- The command that is given behind the opening; a count of requests for detail replaces that of
the opening. -/
def CommandLine.ofParts (opening : Given) (part : Part) (words : List String) :
    Except Usage CommandLine := do
  let g ← part.words {} words
  let command ← part.command g
  .ok {
    verbose := if g.verbose = 0 then opening.verbose else g.verbose
    quiet := opening.quiet || g.quiet
    noColour := opening.noColour || g.noColour
    logJson := opening.logJson || g.logJson
    command }

/-- Why an opening without a command is none. -/
def Given.unfinished (g : Given) : Usage :=
  if g.isUntouched then .nothing else .noCommand

/-- Why words behind `--` are no command, though they may be the name of one. -/
def Given.misplaced (g : Given) : List String → Usage
  | [] => g.unfinished
  | w :: _ =>
    if (Part.ofName? w).isSome || asksForHelp w then .unknownArgument w else .unknownCommand w

/-- Reads the words of a command line behind the given part of its opening. -/
def CommandLine.readOn (g : Given) : List String → Except Usage CommandLine
  | [] => .error g.unfinished
  | w :: ws =>
    match Part.ofName? w with
    | some part => CommandLine.ofParts g part ws
    | none =>
      if asksForHelp w then .error (helpOn ws)
      else if w = "--" then .error (g.misplaced ws)
      else
        match Part.opening.option? g w with
        | some read => do
          let g ← read
          CommandLine.readOn g ws
        | none => .error (.unknownCommand w)

/-- Reads a command line. -/
def CommandLine.ofWords (words : List String) : Except Usage CommandLine :=
  CommandLine.readOn {} words

end AgentPipeline
