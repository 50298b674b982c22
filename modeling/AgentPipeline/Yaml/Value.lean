import AgentPipeline.Decimal.Reading
import AgentPipeline.Failure
import AgentPipeline.Json.Misfit
import AgentPipeline.Yaml.Node

/-!
# Values of a document

Aliases are replaced by what they refer to, and plain scalars become null, truth values or numbers
if they are spelled like one.

## Main definitions

* `Value` — the values.
* `Value.ofPlain?` — what a plain scalar stands for.
* `Value.ofNode`, `Value.ofDocument` — the value of a node and of a document.
* `Value.read` — the value of a text.
* `Value.toJson` — a value as JSON.
-/

namespace AgentPipeline.Yaml

/-- A value of a document. -/
inductive Value where
  | null
  | bool (value : Bool)
  /-- An integer from `-2 ^ 63` to `2 ^ 64 - 1`. -/
  | int (value : Int)
  | float (value : Float)
  | str (value : String)
  | seq (items : List Value)
  /-- No two keys are the same. -/
  | map (entries : List (Value × Value))
deriving Inhabited

/-! ### Plain scalars -/

/-- The number that digits of a base stand for, of which there must be one. -/
def natOfDigits? (base : Nat) (ds : List Char) : Option Nat :=
  if ds.isEmpty then none else Text.numeral? base ds

/-- Whether a text has decimal digits with a zero in front, which makes it no number. -/
def hasLeadingZero (s : List Char) : Bool :=
  match (Decimal.splitSign s).2 with
  | '0' :: d :: ds => (d :: ds).all Char.isDigit
  | _ => false

/-- An unsigned integer, decimal or with the mark of another base. -/
def unsignedInteger? : List Char → Option Nat
  | '0' :: 'x' :: ds => natOfDigits? 16 ds
  | '0' :: 'o' :: ds => natOfDigits? 8 ds
  | '0' :: 'b' :: ds => natOfDigits? 2 ds
  | ds => natOfDigits? 10 ds

/-- An integer with an optional sign. -/
def integer? (s : List Char) : Option Int :=
  if hasLeadingZero s then none
  else
    match s with
    | '-' :: ds => (unsignedInteger? ds).map fun n => -(n : Int)
    | '+' :: ds => (unsignedInteger? ds).map fun n => (n : Int)
    | ds => (unsignedInteger? ds).map fun n => (n : Int)

/-- A word for an infinity or for what is not a number. -/
def floatWord? : String → Option Float
  | ".inf" | ".Inf" | ".INF" | "+.inf" | "+.Inf" | "+.INF" => some (1 / 0)
  | "-.inf" | "-.Inf" | "-.INF" => some (-1 / 0)
  | ".nan" | ".NaN" | ".NAN" => some (0 / 0)
  | _ => none

/-- A decimal number with an optional sign, unless it is too large. -/
def float? (s : List Char) : Option Float :=
  if hasLeadingZero s then none
  else
    match floatWord? (String.ofList s) with
    | some x => some x
    | none => (Decimal.read? s).filter Float.isFinite

/-- The words that a plain scalar may spell. -/
def word? : String → Option Value
  | "" | "~" | "null" | "Null" | "NULL" => some .null
  | "true" | "True" | "TRUE" => some (.bool true)
  | "false" | "False" | "FALSE" => some (.bool false)
  | _ => none

/-- What a plain scalar stands for.  Integers that fit 128 but not 64 bits are no values; larger
ones are doubles. -/
def Value.ofPlain? (s : List Char) : Option Value :=
  let text := String.ofList s
  match word? text with
  | some v => some v
  | none =>
    let inexact := match float? s with
      | some x => Value.float x
      | none => .str text
    match integer? s with
    | none => some inexact
    | some n =>
      if -(Nat.pow 2 63 : Int) ≤ n ∧ n < Nat.pow 2 64 then some (.int n)
      else if -(Nat.pow 2 127 : Int) ≤ n ∧ n < Nat.pow 2 128 then none
      else some inexact

/-! ### Sameness -/

/-- Whether two doubles are the same key. -/
def sameFloat (x y : Float) : Bool :=
  (x.isNaN && y.isNaN) || x == y

mutual

/-- Whether two values are the same key; the order of entries does not matter. -/
def Value.same : Value → Value → Bool
  | .null, .null => true
  | .bool a, .bool b => a == b
  | .int a, .int b => a == b
  | .float a, .float b => sameFloat a b
  | .str a, .str b => a == b
  | .seq as, .seq bs => sameItems as bs
  | .map as, .map bs => as.length == bs.length && sameEntries as bs
  | _, _ => false

/-- Whether two lists have the same items in the same order. -/
def sameItems : List Value → List Value → Bool
  | [], [] => true
  | a :: as, b :: bs => a.same b && sameItems as bs
  | _, _ => false

/-- Whether all entries of a map occur in another one. -/
def sameEntries : List (Value × Value) → List (Value × Value) → Bool
  | [], _ => true
  | (k, v) :: as, bs => (bs.any fun b => k.same b.1 && v.same b.2) && sameEntries as bs

end

/-! ### Nodes -/

/-- Why a text has no value. -/
inductive Fault where
  | unreadable
  /-- Something stands behind the first document. -/
  | several
  /-- Aliases stand for far more than what is written. -/
  | repetition
deriving Repr, DecidableEq

/-- A failed reading. -/
def Fault.failure : Fault → Failure
  | unreadable => .unreadable .yaml
  | several =>
    .of .yaml "deserializing from YAML containing more than one document is not supported"
  | repetition => .of .yaml "repetition limit exceeded"

mutual

/-- The nodes with an anchor, by the anchor's number, in the order in which they begin. -/
def Node.anchored : Node → List (Nat × Node)
  | .scalar anchor text plain => anchor.toList.map fun a => (a, .scalar anchor text plain)
  | .alias _ | .cut => []
  | .seq anchor items =>
    (anchor.toList.map fun a => (a, .seq anchor items)) ++ anchoredItems items
  | .map anchor entries =>
    (anchor.toList.map fun a => (a, .map anchor entries)) ++ anchoredEntries entries

/-- The nodes with an anchor among items. -/
def anchoredItems : List Node → List (Nat × Node)
  | [] => []
  | n :: items => n.anchored ++ anchoredItems items

/-- The nodes with an anchor among keys and values. -/
def anchoredEntries : List (Node × Node) → List (Nat × Node)
  | [] => []
  | (k, v) :: entries => k.anchored ++ v.anchored ++ anchoredEntries entries

end

/-- What aliases refer to, and how many of them may be followed. -/
structure Aliases where
  /-- The nodes with an anchor, the latest first. -/
  nodes : List (Nat × Node)
  limit : Nat

/-- Reading while the aliases that were followed are counted. -/
abbrev Reader := StateT Nat (Except Fault)

/-- The aliases of a document. -/
def Aliases.of (d : Document) : Aliases :=
  ⟨d.root.anchored.reverse, 100 * d.size⟩

/-- A node, or what it refers to if it is an alias. -/
def Aliases.follow (a : Aliases) : Node → Reader Node
  | .alias target => do
    let count ← get
    set (count + 1)
    if a.limit < count + 1 then throw .repetition
    match a.nodes.find? fun n => n.1 = target with
    | some n => return n.2
    | none => throw .unreadable
  | n => return n

/-- The values of keys and values, `seen` being those in front of them in reverse; no key may occur
twice. -/
def entriesOf (value : Node → Reader Value) (seen : List (Value × Value)) :
    List (Node × Node) → Reader (List (Value × Value))
  | [] => return seen.reverse
  | (k, v) :: entries => do
    let key ← value k
    if seen.any fun e => e.1.same key then throw .unreadable
    let content ← value v
    entriesOf value ((key, content) :: seen) entries

/-- The value of a scalar. -/
def scalarValue (text : List Char) (plain : Bool) : Reader Value :=
  if plain then
    match Value.ofPlain? text with
    | some v => return v
    | none => throw .unreadable
  else return .str (String.ofList text)

/-- The value of a node, whose collections may be nested `depth` deep. -/
def Value.ofNode (a : Aliases) : (depth : Nat) → Node → Reader Value
  | 0, n => do
    match ← a.follow n with
    | .scalar _ text plain => scalarValue text plain
    | _ => throw .unreadable
  | depth + 1, n => do
    match ← a.follow n with
    | .scalar _ text plain => scalarValue text plain
    | .alias _ | .cut => throw .unreadable
    | .seq _ items => return .seq (← items.mapM (Value.ofNode a depth))
    | .map _ entries => return .map (← entriesOf (Value.ofNode a depth) [] entries)

/-- Collections may be nested so deep. -/
def maxDepth : Nat := 128

/-- The value of a document that stands alone. -/
def Value.ofDocument (d : Document) : Except Fault Value := do
  let v ← (Value.ofNode (.of d) maxDepth d.root).run' 0
  match d.sequel with
  | .nothing => return v
  | .unreadable => throw .unreadable
  | .another => throw .several

/-- The value of a text that holds one document. -/
def Value.read (text : String) : Except Fault Value :=
  Value.ofDocument (.ofTokens (Token.ofText text.toList))

/-! ### JSON -/

/-- What a value is when it is not what was expected. -/
def Value.found : Value → Found
  | null => .null
  | bool b => .bool b
  | int n => .integer n
  | float x => .float x
  | str s => .str s
  | seq _ => .sequence
  | map _ => .map

/-- The wording of documents of this format. -/
def wording : Wording where
  nullText := "unit value"
  floatText x :=
    let s := Decimal.plain x
    if x.isFinite && !s.toList.contains '.' then s ++ ".0" else s

/-- Why a key has no JSON form. -/
inductive KeyFault where
  | noText
  | notFinite
deriving Repr, DecidableEq

/-- What is said about a key without a JSON form. -/
def KeyFault.message : KeyFault → String
  | noText => "key must be a string"
  | notFinite => "float key must be finite (got NaN or +/-inf)"

/-- The text of a key in JSON. -/
def Value.keyText : Value → Except KeyFault String
  | str s => .ok s
  | bool b => .ok (if b then "true" else "false")
  | int n => .ok (toString n)
  | float x =>
    match Decimal.scientific? x with
    | some s => .ok s
    | none => .error .notFinite
  | null | seq _ | map _ => .error .noText

mutual

/-- A value as JSON.  Doubles that are not finite become null. -/
def Value.toJson : Value → Except KeyFault Json
  | .null => .ok .null
  | .bool b => .ok (.bool b)
  | .int n => .ok (.int n)
  | .float x => .ok (if x.isFinite then .float x else .null)
  | .str s => .ok (.str s)
  | .seq items => (itemsToJson items).map .arr
  | .map entries => (entriesToJson entries).map Json.object

/-- Items as JSON. -/
def itemsToJson : List Value → Except KeyFault (List Json)
  | [] => .ok []
  | v :: items => do
    let j ← v.toJson
    return j :: (← itemsToJson items)

/-- Entries as fields. -/
def entriesToJson : List (Value × Value) → Except KeyFault (List (String × Json))
  | [] => .ok []
  | (k, v) :: entries => do
    let key ← k.keyText
    let j ← v.toJson
    return (key, j) :: (← entriesToJson entries)

end

end AgentPipeline.Yaml
