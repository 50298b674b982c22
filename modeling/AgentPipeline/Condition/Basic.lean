import AgentPipeline.State.Basic
import AgentPipeline.Text.Basic
import AgentPipeline.Text.Word

/-!
# Conditions on edges

A condition is written as a field, an operator and a number, with blanks allowed around each.  The
field is an ASCII identifier.  The number has an optional sign and no exponent; its digits may be
decimal digits of any script.

A condition compares a number of the run with a threshold.  The number is looked up in the state,
then in the latest result, and is zero if neither has it.

## Main definitions

* `Comparator` — the five operators and their symbols.
* `splitCondition?` — the parts of a text that follows the grammar.
* `Condition`, `Condition.parse` — conditions and their reader.
* `Comparator.compare` — comparison of doubles; equality allows for a rounding error.
* `Condition.holds` — whether a condition is true of a state.
* `Condition.display` — the text of a condition.
-/

namespace AgentPipeline

/-! ### The grammar -/

/-- How two numbers are compared. -/
inductive Comparator where
  | gt
  | lt
  | ge
  | le
  | eq
deriving Repr, DecidableEq, Inhabited

namespace Comparator

/-- The symbol of an operator. -/
def symbol : Comparator → String
  | gt => ">"
  | lt => "<"
  | ge => ">="
  | le => "<="
  | eq => "=="

/-- The operator with a given symbol. -/
def ofSymbol? : String → Option Comparator
  | ">" => some gt
  | "<" => some lt
  | ">=" => some ge
  | "<=" => some le
  | "==" => some eq
  | _ => none

/-- Splits an operator off, the longer symbols first. -/
def split? : List Char → Option (Comparator × List Char)
  | '>' :: '=' :: s => some (ge, s)
  | '<' :: '=' :: s => some (le, s)
  | '=' :: '=' :: s => some (eq, s)
  | '>' :: s => some (gt, s)
  | '<' :: s => some (lt, s)
  | _ => none

end Comparator

/-- The parts of a condition. -/
structure ConditionParts where
  field : List Char
  op : Comparator
  value : List Char
deriving Repr, DecidableEq

/-- The characters with which a field may begin. -/
def isFieldStart (c : Char) : Bool :=
  c.isAlpha || c == '_'

/-- The characters with which a field may go on. -/
def isFieldChar (c : Char) : Bool :=
  c.isAlphanum || c == '_'

/-- Splits the longest field off. -/
def splitField? (s : List Char) : Option (List Char × List Char) :=
  match s with
  | [] => none
  | c :: rest =>
    if isFieldStart c then some (c :: rest.takeWhile isFieldChar, rest.dropWhile isFieldChar)
    else none

/-- Splits an optional sign off, keeping its text. -/
def splitSignText : List Char → List Char × List Char
  | '+' :: s => (['+'], s)
  | '-' :: s => (['-'], s)
  | s => ([], s)

/-- Splits the longest unsigned number off: digits, optionally with a point behind or among them, or
a point and digits. -/
def splitUnsigned? (s : List Char) : Option (List Char × List Char) :=
  let whole := s.takeWhile Text.isDecimalDigit
  match s.dropWhile Text.isDecimalDigit with
  | '.' :: r =>
    let fraction := r.takeWhile Text.isDecimalDigit
    if whole = [] ∧ fraction = [] then none
    else some (whole ++ '.' :: fraction, r.dropWhile Text.isDecimalDigit)
  | r => if whole = [] then none else some (whole, r)

/-- Splits the longest number off. -/
def splitNumber? (s : List Char) : Option (List Char × List Char) :=
  let (sign, rest) := splitSignText s
  (splitUnsigned? rest).map fun (number, rest) => (sign ++ number, rest)

/-- The parts of a text that follows the grammar. -/
def splitCondition? (text : List Char) : Option ConditionParts := do
  let (field, rest) ← splitField? (Text.trimStart text)
  let (op, rest) ← Comparator.split? (Text.trimStart rest)
  let (value, rest) ← splitNumber? (Text.trimStart rest)
  if Text.allBlank rest then some ⟨field, op, value⟩ else none

/-! ### Conditions -/

/-- The gap between one and the next double. -/
def epsilon : Float :=
  Float.ofBits 0x3CB0000000000000

/-- Comparison of doubles.  Two numbers are equal when they differ by less than `epsilon`. -/
def Comparator.compare : Comparator → Float → Float → Bool
  | gt, x, y => x > y
  | lt, x, y => x < y
  | ge, x, y => x ≥ y
  | le, x, y => x ≤ y
  | eq, x, y => (x - y).abs < epsilon

/-- A condition on an edge. -/
structure Condition where
  field : String
  op : Comparator
  threshold : Float
deriving DecidableEq

namespace Condition

/-- The condition of a text.  Digits that are not ASCII follow the grammar but spell no number. -/
def parse (text : List Char) : Except Defect Condition :=
  match splitCondition? text with
  | none => .error (.invalidCondition (String.ofList text))
  | some parts =>
    match Decimal.read? parts.value with
    | none => .error (.invalidThreshold (String.ofList parts.value))
    | some threshold => .ok ⟨String.ofList parts.field, parts.op, threshold⟩

/-- The number that a condition is about. -/
def resolve (c : Condition) (s : RunState) : Float :=
  ((s.numericField c.field).orElse fun _ =>
    s.agentResults.getLast?.bind fun r => r.numericField c.field).getD 0

/-- Whether a condition is true of a state. -/
def holds (c : Condition) (s : RunState) : Bool :=
  c.op.compare (c.resolve s) c.threshold

/-- The text of a condition. -/
def display (c : Condition) : String :=
  c.field ++ " " ++ c.op.symbol ++ " " ++ Decimal.plain c.threshold

end Condition

end AgentPipeline
