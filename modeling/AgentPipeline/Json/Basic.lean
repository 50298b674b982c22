/-!
# JSON values

Integers that fit 64 bits, with or without a sign, are kept apart from all other numbers, which are
doubles.  The fields of an object are sorted by key and no key occurs twice.

## Main definitions

* `Json` — the values.
* `Json.insertField`, `Json.object` — building objects with sorted fields.
* `Json.field?` — a field of an object.
* `Json.asNat?`, `Json.asFloat?`, `Json.asString?` — views of a value as a simple one.
-/

namespace AgentPipeline

/-- A JSON value. -/
inductive Json where
  | null
  | bool (value : Bool)
  /-- An integer from `-2 ^ 63` to `2 ^ 64 - 1`. -/
  | int (value : Int)
  | float (value : Float)
  | str (value : String)
  | arr (items : List Json)
  /-- Fields in ascending order of their keys. -/
  | obj (fields : List (String × Json))
deriving Inhabited, BEq

namespace Json

/-- The fields with one more; an older value of the same key is replaced. -/
def insertField (key : String) (value : Json) : List (String × Json) → List (String × Json)
  | [] => [(key, value)]
  | (k, v) :: fields =>
    if key < k then (key, value) :: (k, v) :: fields
    else if key = k then (key, value) :: fields
    else (k, v) :: insertField key value fields

/-- The object with the given fields; of two fields with one key the later counts. -/
def object (fields : List (String × Json)) : Json :=
  obj (fields.foldl (fun sorted f => insertField f.1 f.2 sorted) [])

/-- The value of a key among fields. -/
def lookup (key : String) : List (String × Json) → Option Json
  | [] => none
  | (k, v) :: fields => if k = key then some v else lookup key fields

/-- A field of an object; none for other values. -/
def field? (key : String) : Json → Option Json
  | obj fields => lookup key fields
  | _ => none

/-- An item of an array; none for other values. -/
def item? (index : Nat) : Json → Option Json
  | arr items => items[index]?
  | _ => none

/-- The text of a string. -/
def asString? : Json → Option String
  | str s => some s
  | _ => none

/-- A number that was written as an integer and is not negative. -/
def asNat? : Json → Option Nat
  | int n => if 0 ≤ n then some n.toNat else none
  | _ => none

/-- The double nearest to an integer. -/
def floatOfInt (n : Int) : Float :=
  if n < 0 then -(Float.ofNat n.natAbs) else Float.ofNat n.natAbs

/-- Any number, as a double. -/
def asFloat? : Json → Option Float
  | int n => some (floatOfInt n)
  | float x => some x
  | _ => none

/-- A string, or null where there is none. -/
def ofString? (s : Option String) : Json :=
  match s with
  | some s => str s
  | none => null

/-- The integer of a natural number. -/
def nat (n : Nat) : Json :=
  int n

end Json

end AgentPipeline
