/-!
# Reading decimal numbers

## Main definitions

* `natOfDigits` — the number that a list of digit characters stands for.
* `nearestFloat` — the double nearest to `m · 10 ^ e`.
* `read?` — the double that a whole text stands for: an optional sign, digits with at most one point
  among or around them, an optional exponent; or a word for infinity or for what is not a number.
-/

namespace AgentPipeline.Decimal

/-- The value of a digit character. -/
def digitValue (c : Char) : Nat :=
  c.toNat - '0'.toNat

/-- The number that ASCII digits stand for. -/
def natOfDigits (ds : List Char) : Nat :=
  ds.foldl (fun n c => 10 * n + digitValue c) 0

/-- The double nearest to `m · 10 ^ e`.  Powers far outside the range of a double are settled
without being computed. -/
def nearestFloat (m : Nat) (e : Int) : Float :=
  if m = 0 then 0
  else
    let top : Int := (Nat.toDigits 10 m).length + e
    if 400 < top then 1 / 0
    else if top < -400 then 0
    else if 0 ≤ e then Float.ofScientific (m * Nat.pow 10 e.toNat) false 0
    else Float.ofScientific m true (-e).toNat

/-- Splits an optional sign off: whether it is a minus, and the rest. -/
def splitSign : List Char → Bool × List Char
  | '-' :: s => (true, s)
  | '+' :: s => (false, s)
  | s => (false, s)

/-- A number with the sign given. -/
def withSign (negative : Bool) (x : Float) : Float :=
  if negative then -x else x

/-- The exponent that follows a mantissa: nothing, or a mark with an optionally signed number. -/
def readExponent? : List Char → Option Int
  | [] => some 0
  | c :: s =>
    if c = 'e' ∨ c = 'E' then
      let (negative, ds) := splitSign s
      if ds ≠ [] ∧ ds.all Char.isDigit then
        some (if negative then -(natOfDigits ds : Int) else natOfDigits ds)
      else none
    else none

/-- An unsigned decimal number with an optional exponent. -/
def readUnsigned? (s : List Char) : Option Float :=
  let whole := s.takeWhile Char.isDigit
  let rest := s.dropWhile Char.isDigit
  let (fraction, rest) := match rest with
    | '.' :: r => (r.takeWhile Char.isDigit, r.dropWhile Char.isDigit)
    | r => ([], r)
  if whole = [] ∧ fraction = [] then none
  else (readExponent? rest).map fun e =>
    nearestFloat (natOfDigits (whole ++ fraction)) (e - fraction.length)

/-- An unsigned word for an infinity or for what is not a number, in any case. -/
def readWord? (s : List Char) : Option Float :=
  match String.ofList (s.map Char.toLower) with
  | "inf" | "infinity" => some (1 / 0)
  | "nan" => some (0 / 0)
  | _ => none

/-- The double that a text stands for. -/
def read? (s : List Char) : Option Float :=
  let (negative, s) := splitSign s
  ((readUnsigned? s).orElse fun _ => readWord? s).map (withSign negative)

end AgentPipeline.Decimal
