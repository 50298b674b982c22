import AgentPipeline.Decimal.Format
import AgentPipeline.Json.Basic
import AgentPipeline.Text.Diagnostic

/-!
# Values that do not fit a record

A value that was read from a document may not fit the record that is expected in its place.  A
`Misfit` says why; the wording differs a little between document formats, which a `Wording` records.

## Main definitions

* `Found` — what was found instead of what was expected.
* `Misfit` and `Misfit.message`.
* `Found.asText` and its kind — simple values: strings, truth values, numbers.
* `RecordShape` — the fields of a record in their order, for a list in place of the record.
* `Decode` — readers of JSON values: simple ones, lists, names, records.
-/

namespace AgentPipeline

/-- What was found in a document. -/
inductive Found where
  | null
  | bool (value : Bool)
  | integer (value : Int)
  | float (value : Float)
  | str (value : String)
  | sequence
  | map
deriving DecidableEq

/-- Why a value does not fit. -/
inductive Misfit where
  /-- A value of another kind. -/
  | wrongKind (found : Found) (expected : String)
  /-- An integer out of range. -/
  | outOfRange (value : Int) (expected : String)
  | missing (field : String)
  /-- A list of another length. -/
  | wrongLength (length : Nat) (expected : String)
  /-- A field that is given under two names. -/
  | repeated (field : String)
  /-- A word that is none of the known ones. -/
  | unknownName (found : String) (known : List String)
  /-- An object in place of a name that has not exactly one field. -/
  | notOneField
deriving DecidableEq

/-- How a document format words what was found. -/
structure Wording where
  nullText : String
  floatText : Float → String

/-- The wording of JSON documents. -/
def Json.wording : Wording where
  nullText := "null"
  floatText x := (Decimal.scientific? x).getD (Decimal.plain x)

/-- What was found, in words. -/
def Found.describe (w : Wording) : Found → String
  | null => w.nullText
  | bool b => s!"boolean `{b}`"
  | integer n => s!"integer `{n}`"
  | float x => "floating point `" ++ w.floatText x ++ "`"
  | str s => "string " ++ Text.diagnostic s
  | sequence => "sequence"
  | map => "map"

/-- A name between backquotes. -/
def backquoted (s : String) : String :=
  "`" ++ s ++ "`"

/-- A misfit, in words. -/
def Misfit.message (w : Wording) : Misfit → String
  | wrongKind found expected => "invalid type: " ++ found.describe w ++ ", expected " ++ expected
  | outOfRange value expected => s!"invalid value: integer `{value}`, expected {expected}"
  | missing field => "missing field " ++ backquoted field
  | wrongLength length expected => s!"invalid length {length}, expected " ++ expected
  | repeated field => "duplicate field " ++ backquoted field
  | unknownName found known =>
    "unknown variant " ++ backquoted found ++ ", expected " ++
      match known with
      | [a, b] => backquoted a ++ " or " ++ backquoted b
      | _ => "one of " ++ ", ".intercalate (known.map backquoted)
  | notOneField => "invalid value: map, expected map with a single key"

/-- An integer of at most `bits` bits without a sign. -/
def boundedNat (bits : Nat) (n : Int) : Except Misfit Nat :=
  if 0 ≤ n ∧ n < Nat.pow 2 bits then .ok n.toNat else .error (.outOfRange n s!"u{bits}")

namespace Found

/-- A string. -/
def asText : Found → Except Misfit String
  | str s => .ok s
  | found => .error (.wrongKind found "a string")

/-- A truth value. -/
def asBool : Found → Except Misfit Bool
  | bool b => .ok b
  | found => .error (.wrongKind found "a boolean")

/-- An integer of at most 32 or 64 bits without a sign. -/
def asNat (bits : Nat) : Found → Except Misfit Nat
  | integer n => boundedNat bits n
  | found => .error (.wrongKind found s!"u{bits}")

/-- A double; integers are rounded. -/
def asDouble : Found → Except Misfit Float
  | integer n => .ok (Json.floatOfInt n)
  | float x => .ok x
  | found => .error (.wrongKind found "f64")

/-- A single; integers and doubles are rounded. -/
def asSingle : Found → Except Misfit Float32
  | integer n => .ok (Decimal.singleOfInt n)
  | float x => .ok (Decimal.narrow x)
  | found => .error (.wrongKind found "f32")

end Found

/-- What a JSON value is when it is not what was expected. -/
def Json.found : Json → Found
  | null => .null
  | bool b => .bool b
  | int n => .integer n
  | float x => .float x
  | str s => .str s
  | arr _ => .sequence
  | obj _ => .map

/-- A record as it is declared.  A list may stand in its place, which gives the values of the fields
in their order. -/
structure RecordShape where
  type : String
  /-- The fields, each with whether it has a default, so that a list may end before it. -/
  fields : List (String × Bool)

namespace RecordShape

/-- The keys of the fields. -/
def keys (r : RecordShape) : List String :=
  r.fields.map (·.1)

/-- The position of the first field without a default that a list of some length ends before. -/
def firstLacking? (r : RecordShape) (length : Nat) : Option Nat :=
  ((r.fields.drop length).findIdx? fun f => !f.2).map (length + ·)

/-- Whether a list of some length has a value for every field that needs one and for no others. -/
def checkLength (r : RecordShape) (length : Nat) : Except Misfit Unit :=
  match r.firstLacking? length with
  | some i => .error (.wrongLength i s!"struct {r.type} with {r.fields.length} elements")
  | none =>
    if r.fields.length < length then .error (.wrongLength length "fewer elements in array")
    else .ok ()

end RecordShape

namespace Decode

/-- A string. -/
def text (v : Json) : Except Misfit String :=
  v.found.asText

/-- A truth value. -/
def boolean (v : Json) : Except Misfit Bool :=
  v.found.asBool

/-- An integer of at most 32 or 64 bits without a sign. -/
def nat (bits : Nat) (v : Json) : Except Misfit Nat :=
  v.found.asNat bits

/-- A double; integers are rounded. -/
def double (v : Json) : Except Misfit Float :=
  v.found.asDouble

/-- A single; integers and doubles are rounded. -/
def single (v : Json) : Except Misfit Float32 :=
  v.found.asSingle

/-- A value that may be null. -/
def optional {α : Type} (decode : Json → Except Misfit α) : Json → Except Misfit (Option α)
  | .null => .ok none
  | v => (decode v).map some

/-- A list; the first item that does not fit counts. -/
def list {α : Type} (decode : Json → Except Misfit α) : Json → Except Misfit (List α)
  | .arr items => items.mapM decode
  | v => .error (.wrongKind v.found "a sequence")

/-- One of the known names: a string, or an object with the name as its only key and null as its
value. -/
def name {α : Type} (known : List (String × α)) : Json → Except Misfit α
  | .str s => choose s
  | .obj [(k, v)] => do
    let choice ← choose k
    match v with
    | .null => return choice
    | v => throw (.wrongKind v.found "unit")
  | .obj _ => .error .notOneField
  | v => .error (.wrongKind v.found "string or map")
where
  /-- What a name stands for. -/
  choose (s : String) : Except Misfit α :=
    match known.find? fun k => k.1 = s with
    | some k => .ok k.2
    | none => .error (.unknownName s (known.map (·.1)))

/-- A field that has to be there. -/
def required {α : Type} (field : String) : Option α → Except Misfit α
  | some v => .ok v
  | none => .error (.missing field)

/-- The fields of a record, put one after the other into a draft of it.  The record may be written
as an object or as the list of its values. -/
def record {α : Type} (shape : RecordShape) (draft : α)
    (put : α → String × Json → Except Misfit α) : Json → Except Misfit α
  | .obj fields => fields.foldlM put draft
  | .arr items => do
    let filled ← (shape.keys.zip items).foldlM put draft
    shape.checkLength items.length
    return filled
  | v => .error (.wrongKind v.found ("struct " ++ shape.type))

end Decode

end AgentPipeline
