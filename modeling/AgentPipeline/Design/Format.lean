import AgentPipeline.Design.Basic
import AgentPipeline.Failure
import AgentPipeline.Json.Misfit
import AgentPipeline.Json.Reader
import AgentPipeline.Schema

/-!
# Designs as documents

A design is written as a JSON object.  Optional parts that are absent are left out, all others are
written.  When a document is read, its shape is first checked against `Design.schema`, so that all
violations can be reported together, and then put into a design.

## Main definitions

* `Design.toJson` — a design as a value.
* `Design.schema` — the shape of a document.
* `Design.ofJson` — the design of a value, or why there is none.
* `Design.ofDocument` — both steps.
-/

namespace AgentPipeline

/-- A field that is left out when it has no value. -/
def optionalField (key : String) (value : Option Json) : List (String × Json) :=
  (value.map fun v => (key, v)).toList

/-- A double as a value; what is no finite number has no JSON form and becomes null. -/
def Json.ofFloat (x : Float) : Json :=
  if x.isFinite then .float x else .null

/-- An agent as a value. -/
def AgentSpec.toJson (a : AgentSpec) : Json :=
  .obj (optionalField "custom_prompt" (a.customPrompt.map .str) ++
    [("description", .str a.description),
      ("is_custom_role", .bool a.isCustomRole),
      ("max_output_tokens", .nat a.maxOutputTokens),
      ("model", .str a.model),
      ("name", .str a.name),
      ("retry_count", .nat a.retryCount),
      ("role", .str a.role),
      ("temperature", .ofFloat (Decimal.widen a.temperature))])

/-- An edge as a value. -/
def EdgeSpec.toJson (e : EdgeSpec) : Json :=
  .obj (optionalField "condition" (e.condition.map .str) ++
    [("source", .str e.source), ("target", .str e.target)])

/-- A design as a value. -/
def Design.toJson (d : Design) : Json :=
  .obj ([("agents", .arr (d.agents.map AgentSpec.toJson)),
      ("description", .str d.description)] ++
    optionalField "edges" (d.edges.map fun edges => .arr (edges.map EdgeSpec.toJson)) ++
    [("name", .str d.name)])

/-! ### The shape of a document -/

/-- A value of one kind. -/
def Schema.simple (type : JsonType) : Schema :=
  .leaf [type] none

/-- The shape of an agent. -/
def AgentSpec.schema : Schema :=
  .record [.object] ["name", "role"] false
    [("custom_prompt", .leaf [.null, .string] none),
      ("description", .simple .string),
      ("is_custom_role", .simple .boolean),
      ("max_output_tokens", .simple .integer),
      ("model", .simple .string),
      ("name", .simple .string),
      ("retry_count", .simple .integer),
      ("role", .simple .string),
      ("temperature", .simple .number)]

/-- The shape of an edge. -/
def EdgeSpec.schema : Schema :=
  .record [.object] ["source", "target"] false
    [("condition", .leaf [.null, .string] none),
      ("source", .simple .string),
      ("target", .simple .string)]

/-- The shape of a design.  Bounds on numbers and the graph of the edges are checked later. -/
def Design.schema : Schema :=
  .record [.object] ["name", "agents"] false
    [("agents", .list [.array] AgentSpec.schema),
      ("description", .simple .string),
      ("edges", .list [.array, .null] EdgeSpec.schema),
      ("name", .simple .string)]

/-! ### Reading -/

/-- The fields of an agent, in order; all but the name and the role have defaults. -/
def AgentSpec.shape : RecordShape where
  type := "AgentSpec"
  fields := [("name", false), ("role", false), ("model", true), ("description", true),
    ("temperature", true), ("max_output_tokens", true), ("retry_count", true),
    ("custom_prompt", true), ("is_custom_role", true)]

/-- The fields of an agent that have been seen. -/
structure AgentSpec.Draft where
  name : Option String := none
  role : Option String := none
  model : Option String := none
  description : Option String := none
  temperature : Option Float32 := none
  maxOutputTokens : Option Nat := none
  retryCount : Option Nat := none
  customPrompt : Option (Option String) := none
  isCustomRole : Option Bool := none

namespace AgentSpec.Draft

/-- Puts the model in, which may be given under one of two names but not under both. -/
def putModel (d : Draft) (v : Json) : Except Misfit Draft :=
  match d.model with
  | some _ => .error (.repeated "model")
  | none => (Decode.text v).map fun s => { d with model := some s }

/-- Puts a field in; unknown fields are passed over. -/
def put (d : Draft) (f : String × Json) : Except Misfit Draft :=
  match f.1 with
  | "name" => (Decode.text f.2).map fun s => { d with name := some s }
  | "role" => (Decode.text f.2).map fun s => { d with role := some s }
  | "model" => d.putModel f.2
  | "model_identifier" => d.putModel f.2
  | "description" => (Decode.text f.2).map fun s => { d with description := some s }
  | "temperature" => (Decode.single f.2).map fun x => { d with temperature := some x }
  | "max_output_tokens" => (Decode.nat 32 f.2).map fun n => { d with maxOutputTokens := some n }
  | "retry_count" => (Decode.nat 32 f.2).map fun n => { d with retryCount := some n }
  | "custom_prompt" =>
    (Decode.optional Decode.text f.2).map fun s => { d with customPrompt := some s }
  | "is_custom_role" => (Decode.boolean f.2).map fun b => { d with isCustomRole := some b }
  | _ => .ok d

/-- The agent of a draft, with defaults for all fields but the name and the role. -/
def finish (d : Draft) : Except Misfit AgentSpec := do
  let name ← Decode.required "name" d.name
  let role ← Decode.required "role" d.role
  let plain : AgentSpec := { name, role }
  return { plain with
    model := d.model.getD plain.model
    description := d.description.getD plain.description
    temperature := d.temperature.getD plain.temperature
    maxOutputTokens := d.maxOutputTokens.getD plain.maxOutputTokens
    retryCount := d.retryCount.getD plain.retryCount
    customPrompt := d.customPrompt.getD plain.customPrompt
    isCustomRole := d.isCustomRole.getD plain.isCustomRole }

end AgentSpec.Draft

/-- The agent of a value. -/
def AgentSpec.ofJson (v : Json) : Except Misfit AgentSpec := do
  let draft ← Decode.record AgentSpec.shape {} AgentSpec.Draft.put v
  draft.finish

/-- The fields of an edge, in order. -/
def EdgeSpec.shape : RecordShape where
  type := "EdgeSpec"
  fields := [("source", false), ("target", false), ("condition", true)]

/-- The fields of an edge that have been seen. -/
structure EdgeSpec.Draft where
  source : Option String := none
  target : Option String := none
  condition : Option (Option String) := none

namespace EdgeSpec.Draft

/-- Puts a field in; unknown fields are passed over. -/
def put (d : Draft) (f : String × Json) : Except Misfit Draft :=
  match f.1 with
  | "source" => (Decode.text f.2).map fun s => { d with source := some s }
  | "target" => (Decode.text f.2).map fun s => { d with target := some s }
  | "condition" => (Decode.optional Decode.text f.2).map fun s => { d with condition := some s }
  | _ => .ok d

/-- The edge of a draft. -/
def finish (d : Draft) : Except Misfit EdgeSpec := do
  let source ← Decode.required "source" d.source
  let target ← Decode.required "target" d.target
  return { source, target, condition := d.condition.getD none }

end EdgeSpec.Draft

/-- The edge of a value. -/
def EdgeSpec.ofJson (v : Json) : Except Misfit EdgeSpec := do
  let draft ← Decode.record EdgeSpec.shape {} EdgeSpec.Draft.put v
  draft.finish

/-- The fields of a design, in order. -/
def Design.shape : RecordShape where
  type := "Design"
  fields := [("name", false), ("description", true), ("agents", false), ("edges", true)]

/-- The fields of a design that have been seen. -/
structure Design.Draft where
  name : Option String := none
  description : Option String := none
  agents : Option (List AgentSpec) := none
  edges : Option (Option (List EdgeSpec)) := none

namespace Design.Draft

/-- Puts a field in; unknown fields are passed over. -/
def put (d : Draft) (f : String × Json) : Except Misfit Draft :=
  match f.1 with
  | "name" => (Decode.text f.2).map fun s => { d with name := some s }
  | "description" => (Decode.text f.2).map fun s => { d with description := some s }
  | "agents" => (Decode.list AgentSpec.ofJson f.2).map fun l => { d with agents := some l }
  | "edges" =>
    (Decode.optional (Decode.list EdgeSpec.ofJson) f.2).map fun l => { d with edges := some l }
  | _ => .ok d

/-- The design of a draft. -/
def finish (d : Draft) : Except Misfit Design := do
  let name ← Decode.required "name" d.name
  let agents ← Decode.required "agents" d.agents
  return { name, description := d.description.getD "", agents, edges := d.edges.getD none }

end Design.Draft

/-- The design of a value. -/
def Design.ofJson (v : Json) : Except Misfit Design := do
  let draft ← Decode.record Design.shape {} Design.Draft.put v
  draft.finish

/-- The failure that a misfit in a JSON value amounts to. -/
def Misfit.failure (m : Misfit) : Failure :=
  .of .json (m.message Json.wording)

/-- The design of a document that has been read: its shape is checked first. -/
def Design.ofDocument (v : Json) : Except Failure Design :=
  match Design.schema.violations v with
  | [] => (Design.ofJson v).mapError Misfit.failure
  | violations =>
    .error (.of .config
      ("Invalid design: " ++ "; ".intercalate (violations.map Violation.message)))

/-- The failure that a defect of a design amounts to. -/
def Defect.failure (d : Defect) : Failure :=
  .of .compile d.message

/-- The design of a JSON text. -/
def Design.ofJsonText (text : String) : Except Failure Design :=
  match Json.read? text with
  | none => .error (.unreadable .json)
  | some v => Design.ofDocument v

end AgentPipeline
