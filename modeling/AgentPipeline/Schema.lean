import AgentPipeline.Decimal.Binary
import AgentPipeline.Json.Printer

/-!
# Schemas of documents

A schema describes the shape of a JSON value.  Checking a value yields every violation, in a fixed
order: those of the fields in ascending order of their names, those of the items in order, then
those of the value itself.

## Main definitions

* `Schema` — the schemas.
* `Schema.violations` — the violations of a value.
* `Violation.message` — a violation in words, with the place where it was found.
-/

namespace AgentPipeline

/-- The kinds of values that a schema tells apart. -/
inductive JsonType where
  | array
  | boolean
  | integer
  | null
  | number
  | object
  | string
deriving Repr, DecidableEq

/-- The name of a kind. -/
def JsonType.name : JsonType → String
  | array => "array"
  | boolean => "boolean"
  | integer => "integer"
  | null => "null"
  | number => "number"
  | object => "object"
  | string => "string"

/-- Whether a double has no fraction. -/
def isIntegral (x : Float) : Bool :=
  match Decimal.Parts.ofFloat x with
  | .finite _ m e _ => 0 ≤ e || m % Nat.pow 2 (-e).toNat == 0
  | _ => false

/-- Whether a value is of a kind.  A double without a fraction counts as an integer. -/
def JsonType.admits : JsonType → Json → Bool
  | array, .arr _ => true
  | boolean, .bool _ => true
  | integer, .int _ => true
  | integer, .float x => isIntegral x
  | null, .null => true
  | number, .int _ => true
  | number, .float _ => true
  | object, .obj _ => true
  | string, .str _ => true
  | _, _ => false

/-- The shape of a value.  What a schema asks of numbers, items or fields concerns values of that
kind only; `types` says which kinds are allowed. -/
inductive Schema where
  /-- A simple value, with the least number allowed if there is one. -/
  | leaf (types : List JsonType) (minimum : Option Nat)
  /-- A list. -/
  | list (types : List JsonType) (items : Schema)
  /-- A record with fields that it needs and fields whose shape is known; if `closed`, it has no
  others. -/
  | record (types : List JsonType) (required : List String) (closed : Bool)
      (fields : List (String × Schema))

/-- Where in a value something is: the keys and indices that lead there. -/
abbrev Path := List String

/-- A path with a slash in front of each step. -/
def Path.text (p : Path) : String :=
  String.join (p.map fun step => "/" ++ step)

/-- What is wrong at a place. -/
inductive ViolationCause where
  | wrongType (value : Json) (types : List JsonType)
  | missing (field : String)
  | belowMinimum (value : Json) (minimum : Nat)
  | unexpected (fields : List String)

/-- A place at which a value has not the shape of a schema. -/
structure Violation where
  path : Path
  cause : ViolationCause

/-- What is wrong, in words. -/
def ViolationCause.message : ViolationCause → String
  | wrongType value [t] => value.compact ++ " is not of type \"" ++ t.name ++ "\""
  | wrongType value types =>
    value.compact ++ " is not of types " ++
      ", ".intercalate (types.map fun t => "\"" ++ t.name ++ "\"")
  | missing field => Json.quoted field ++ " is a required property"
  | belowMinimum value minimum => value.compact ++ s!" is less than the minimum of {minimum}"
  | unexpected fields =>
    "Additional properties are not allowed (" ++
      ", ".intercalate (fields.map fun f => "'" ++ f ++ "'") ++
      (if fields.length = 1 then " was unexpected)" else " were unexpected)")

/-- A violation in words, with its place. -/
def Violation.message (v : Violation) : String :=
  v.cause.message ++ " at " ++ v.path.text

namespace Schema

/-- The violation of the kinds that are allowed, if there is one. -/
def typeViolations (types : List JsonType) (path : Path) (v : Json) : List Violation :=
  if types.any fun t => t.admits v then [] else [⟨path, .wrongType v types⟩]

/-- Whether a number is below a minimum. -/
def isBelow (minimum : Nat) : Json → Bool
  | .int n => n < minimum
  | .float x => x < Float.ofNat minimum
  | _ => false

/-- The violation of a minimum, if there is one. -/
def minimumViolations (minimum : Option Nat) (path : Path) (v : Json) : List Violation :=
  match minimum with
  | some least => if isBelow least v then [⟨path, .belowMinimum v least⟩] else []
  | none => []

/-- The fields that a record needs and an object lacks. -/
def missingViolations (required : List String) (path : Path)
    (fields : List (String × Json)) : List Violation :=
  (required.filter fun f => (Json.lookup f fields).isNone).map fun f => ⟨path, .missing f⟩

/-- The fields of an object that a closed record does not know. -/
def unexpectedViolations (closed : Bool) (known : List String) (path : Path)
    (fields : List (String × Json)) : List Violation :=
  match if closed then (fields.map (·.1)).filter fun f => !known.contains f else [] with
  | [] => []
  | unexpected => [⟨path, .unexpected unexpected⟩]

/-- The violations of the items of a list, from the index given on. -/
def itemViolations (check : Path → Json → List Violation) (path : Path) :
    Nat → List Json → List Violation
  | _, [] => []
  | i, v :: items => check (path ++ [toString i]) v ++ itemViolations check path (i + 1) items

mutual

/-- The violations of a value at a place. -/
def violationsAt (path : Path) (v : Json) : Schema → List Violation
  | leaf types minimum => minimumViolations minimum path v ++ typeViolations types path v
  | list types items =>
    (match v with
      | .arr vs => itemViolations (fun p x => violationsAt p x items) path 0 vs
      | _ => []) ++ typeViolations types path v
  | record types required closed fields =>
    (match v with
      | .obj given =>
        fieldViolations path given fields ++
          unexpectedViolations closed (fields.map (·.1)) path given ++
          missingViolations required path given
      | _ => []) ++ typeViolations types path v

/-- The violations of the fields whose shape is known. -/
def fieldViolations (path : Path) (given : List (String × Json)) :
    List (String × Schema) → List Violation
  | [] => []
  | (name, schema) :: fields =>
    (match Json.lookup name given with
      | some v => violationsAt (path ++ [name]) v schema
      | none => []) ++ fieldViolations path given fields

end

/-- The violations of a value. -/
def violations (s : Schema) (v : Json) : List Violation :=
  s.violationsAt [] v

end Schema

end AgentPipeline
