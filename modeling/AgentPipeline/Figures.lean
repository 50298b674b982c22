import AgentPipeline.Decimal.Format
import AgentPipeline.Graph.Summary
import AgentPipeline.Model.Catalog
import AgentPipeline.Run.Ending

/-!
# What people are shown

Durations and amounts of money, colours, and the lines that stand for events, models, graphs and
reports on a terminal.  A styled text is put between escape sequences that switch a colour on and
everything off again; where colours are off it is the text itself.

## Main definitions

* `Figures.duration`, `Figures.cost`, `Figures.price` — durations and money.
* `Style.paint` — a text in a style.
* `Event.line` — the line of an event.
* `Tier.listing` — the models of a tier, under its name.
* `Graph.overview` — a design that compiles, with one line for every node.
* `RunReport.lines` — the report of a run.
-/

namespace AgentPipeline

/-! ### Durations and money -/

namespace Figures

/-- A duration in its largest fitting unit: milliseconds, seconds with one place, minutes and
seconds, or hours and minutes. -/
def duration (ms : Nat) : String :=
  if ms < 1000 then s!"{ms}ms"
  else if ms < 60000 then Decimal.fixed 1 (Float.ofNat ms / 1000.0) ++ "s"
  else if ms < 3600000 then s!"{ms / 60000}m {ms % 60000 / 1000}s"
  else s!"{ms / 3600000}h {ms % 3600000 / 60000}m"

/-- A cost in dollars, without its sign; below a cent with four places. -/
def cost (usd : Float) : String :=
  let usd := usd.abs
  "$" ++ Decimal.fixed (if usd < 0.01 then 4 else 2) usd

/-- A price for a million tokens. -/
def price (perMillion : Float) : String :=
  "$" ++ Decimal.fixed 2 perMillion ++ "/1M"

end Figures

/-! ### Colours -/

/-- The colours in use. -/
inductive Colour where
  | red
  | green
  | yellow
  | cyan
  | white
deriving Repr, DecidableEq

/-- The number by which a terminal knows a text colour. -/
def Colour.number : Colour → Nat
  | red => 31
  | green => 32
  | yellow => 33
  | cyan => 36
  | white => 37

/-- How a text stands out. -/
structure Style where
  colour : Colour
  bold : Bool := false
deriving Repr, DecidableEq

namespace Style

/-- The sequence that sets a graphic mode of the terminal. -/
def mode (number : Nat) : String :=
  s!"\x1b[{number}m"

/-- A text in a style, if colours are on.  An empty text is put between the sequences too. -/
def paint (style : Style) (coloured : Bool) (text : String) : String :=
  if coloured then
    mode style.colour.number ++ (if style.bold then mode 1 else "") ++ text ++ mode 0
  else text

end Style

/-! ### Events -/

/-- The line of an event. -/
def Event.line (coloured : Bool) : Event → String
  | started runId designName agentCount =>
    Style.paint ⟨.green, true⟩ coloured "▶" ++ " Running " ++
      Style.paint ⟨.white, true⟩ coloured designName ++ s!" ({agentCount} agents, run " ++
      Style.paint ⟨.cyan, false⟩ coloured runId ++ ")"
  | agentCompleted agentName .success durationMs costUsd =>
    "  " ++ Style.paint ⟨.green, false⟩ coloured "✓" ++ " " ++
      Style.paint ⟨.green, false⟩ coloured agentName ++ " (" ++ Figures.duration durationMs ++
      " | " ++ Figures.cost costUsd ++ ")"
  | agentCompleted agentName .failed durationMs _ =>
    "  " ++ Style.paint ⟨.red, false⟩ coloured "✗" ++ " " ++
      Style.paint ⟨.red, false⟩ coloured agentName ++ " (" ++ Figures.duration durationMs ++ ")"
  | completed totalCostUsd totalTokens durationMs =>
    s!"Pipeline complete: {totalTokens} tokens | " ++ Figures.cost totalCostUsd ++ " | " ++
      Figures.duration durationMs
  | failed error => Style.paint ⟨.red, true⟩ coloured "Pipeline failed:" ++ " " ++ error
  | timedOut timeoutSecs =>
    Style.paint ⟨.yellow, true⟩ coloured "Pipeline timed out" ++ s!" after {timeoutSecs}s"

/-! ### The catalogue -/

/-- A text with blanks behind it up to a width. -/
def padRight (width : Nat) (s : String) : String :=
  s ++ String.ofList (List.replicate (width - s.length) ' ')

/-- A text with blanks before it up to a width. -/
def padLeft (width : Nat) (s : String) : String :=
  String.ofList (List.replicate (width - s.length) ' ') ++ s

/-- The line of a model: its name, vendor, prices and limit. -/
def Model.line (m : Model) : String :=
  "  " ++ padRight 28 m.id ++ " " ++ padRight 10 m.vendor.name ++
    " in " ++ padLeft 12 (Figures.price m.inputPrice) ++
    "  out " ++ padLeft 12 (Figures.price m.outputPrice) ++ s!"  max {m.maxTokens}"

/-- The models of a tier, under its name. -/
def Tier.listing (coloured : Bool) (tier : Tier) : List String :=
  Style.paint ⟨.cyan, true⟩ coloured tier.name :: tier.models.map Model.line

/-! ### Graphs -/

/-- A design that compiles, by its name and its graph. -/
def Graph.overview (coloured : Bool) (designName : String) (g : Graph) : List String :=
  (Style.paint ⟨.green, false⟩ coloured "✓" ++ " " ++
    Style.paint ⟨.white, true⟩ coloured designName ++ s!" ({g.size} agents, " ++
    (if g.explicit then "explicit edges" else "sequential") ++ ")") ::
  g.summary.map ("  " ++ ·)

/-- The line that warns of a design whose texts look like an injection. -/
def injectionWarning (coloured : Bool) : String :=
  Style.paint ⟨.yellow, true⟩ coloured "warning:" ++
    " design text matches the prompt-injection catalogue; " ++
    "every agent will be rejected at run time"

/-! ### Reports -/

/-- The style of the status of a run. -/
def RunStatus.style : RunStatus → Style
  | completed => ⟨.green, true⟩
  | timeout => ⟨.yellow, true⟩
  | pending | running | failed => ⟨.red, true⟩

/-- The report of a run.  It tells how long the run took and when it ended only if the time of day
is given. -/
def RunReport.lines (coloured : Bool) (timeOfDay : Option String) (r : RunReport) : List String :=
  ["", Style.paint ⟨.white, true⟩ coloured r.designName ++ " " ++
      r.status.style.paint coloured r.status.name,
    s!"  {r.agentResults.length} agents | {r.totalTokens} tokens | " ++ Figures.cost r.totalCost ++
      (if timeOfDay.isSome then " | " ++ Figures.duration r.totalDurationMs else "")] ++
  (timeOfDay.map ("  finished " ++ ·)).toList ++
  (r.error.map fun e => "  " ++ Style.paint ⟨.red, false⟩ coloured "errors:" ++ " " ++ e).toList ++
  (if r.output.isEmpty then [] else ["", r.output])

end AgentPipeline
