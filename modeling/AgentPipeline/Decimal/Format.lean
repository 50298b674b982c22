import AgentPipeline.Decimal.Binary

/-!
# Number texts

A floating-point number stands for all reals that round to it.  Among the decimals in this interval
with the fewest digits, the one nearest to the number itself is chosen.  For one, two, … digits only
the two neighbours of the number on the grid of decimals with so many digits need to be looked at:
if any point of the grid lies in the interval, so does one of these two.

## Main definitions

* `Digits` — a decimal `digits · 10 ^ exponent`.
* `shortest` — the shortest decimal in the interval of a number.
* `plain` — the shortest digits that read back, written positionally whatever the magnitude, an
  integer without a point.
* `scientific?` — the shortest digits that read back, with a point or an exponent in every case:
  positional from `1e-5` up to below `1e16`, with an exponent outside.
* `fixed` — a fixed number of places, the exact value being rounded with ties to even.
-/

namespace AgentPipeline.Decimal

/-! ### The shortest decimal that reads back -/

/-- The decimal `digits · 10 ^ exponent`. -/
structure Digits where
  digits : Nat
  exponent : Int
deriving Repr, DecidableEq

/-- The decimal digits of a number, as characters. -/
def digitChars (n : Nat) : List Char :=
  (Nat.toDigits 10 n)

/-- The same decimal without zeros at the end of its digits. -/
def Digits.stripped (fuel : Nat) (d : Digits) : Digits :=
  match fuel with
  | 0 => d
  | fuel + 1 =>
    if d.digits ≠ 0 ∧ d.digits % 10 = 0 then
      Digits.stripped fuel ⟨d.digits / 10, d.exponent + 1⟩
    else d

/-- A non-negative rational number. -/
structure Ratio where
  num : Nat
  den : Nat

/-- The ratio `m · 2 ^ q / 4`. -/
def Ratio.quarters (m : Nat) (q : Int) : Ratio :=
  if 0 ≤ q then ⟨m * Nat.pow 2 q.toNat, 4⟩ else ⟨m, 4 * Nat.pow 2 (-q).toNat⟩

/-- A ratio measured in units of `10 ^ s`. -/
def Ratio.inUnits (r : Ratio) (s : Int) : Ratio :=
  if 0 ≤ s then ⟨r.num, r.den * Nat.pow 10 s.toNat⟩
  else ⟨r.num * Nat.pow 10 (-s).toNat, r.den⟩

/-- The least `k` with the ratio below `10 ^ k`, for a positive ratio not below `10 ^ (-places)`. -/
def Ratio.magnitude (r : Ratio) (places : Nat) : Int :=
  ((digitChars (r.num * Nat.pow 10 places / r.den)).length : Int) - places

/-- A decimal on the grid of multiples of `10 ^ s` that lies between `low` and `high`, one of the
two neighbours of `value`; the ends count when `closed` is set, and the nearer neighbour wins. -/
def onGrid (low value high : Ratio) (closed : Bool) (s : Int) : Option Digits :=
  let low := low.inUnits s
  let value := value.inUnits s
  let high := high.inUnits s
  let below := value.num / value.den
  let above := below + 1
  let belowIn := if closed then low.num ≤ below * low.den else low.num < below * low.den
  let aboveIn := if closed then above * high.den ≤ high.num else above * high.den < high.num
  let rest := value.num % value.den
  if belowIn ∧ (¬ aboveIn ∨ 2 * rest < value.den ∨ (2 * rest = value.den ∧ below % 2 = 0)) then
    some ⟨below, s⟩
  else if aboveIn then some ⟨above, s⟩
  else none

/-- Tries grids of growing fineness, from multiples of `10 ^ s` on. -/
def firstOnGrid (low value high : Ratio) (closed : Bool) : Nat → Int → Digits
  | 0, s => ⟨value.num / value.den, s⟩
  | tries + 1, s =>
    match onGrid low value high closed s with
    | some d => d
    | none => firstOnGrid low value high closed tries (s - 1)

/-- The shortest decimal that rounds to `mantissa · 2 ^ exponent`; 17 digits are always enough. -/
def shortest (mantissa : Nat) (exponent : Int) (tight : Bool) : Digits :=
  if mantissa = 0 then ⟨0, 0⟩
  else
    let value := Ratio.quarters (4 * mantissa) exponent
    let low := Ratio.quarters (4 * mantissa - if tight then 1 else 2) exponent
    let high := Ratio.quarters (4 * mantissa + 2) exponent
    (firstOnGrid low value high (mantissa % 2 == 0) 18 (value.magnitude 330 - 1)).stripped 20

/-! ### Three ways of writing a number -/

/-- A run of zeros. -/
def zeros (n : Nat) : List Char :=
  List.replicate n '0'

/-- A minus sign in front of the digits of a negative number, be it zero. -/
def signed (negative : Bool) (s : List Char) : List Char :=
  if negative then '-' :: s else s

/-- The digits of a decimal written positionally; an integer gets no point. -/
def Digits.positional (d : Digits) : List Char :=
  let ds := digitChars d.digits
  if 0 ≤ d.exponent then
    if d.digits = 0 then ds else ds ++ zeros d.exponent.toNat
  else
    let places := (-d.exponent).toNat
    if places < ds.length then
      ds.take (ds.length - places) ++ '.' :: ds.drop (ds.length - places)
    else '0' :: '.' :: zeros (places - ds.length) ++ ds

/-- A positional text of what has been taken apart: the shortest digits that read back. -/
def plainParts : Parts → List Char
  | .notANumber => "NaN".toList
  | .infinite negative => signed negative "inf".toList
  | .finite negative m e tight => signed negative (shortest m e tight).positional

/-- A positional text of a double. -/
def plain (x : Float) : String :=
  String.ofList (plainParts (.ofFloat x))

/-- A positional text of a single. -/
def plainSingle (x : Float32) : String :=
  String.ofList (plainParts (.ofFloat32 x))

/-- The sign and the digits of an exponent. -/
def exponentText (e : Int) : List Char :=
  if 0 ≤ e then '+' :: digitChars e.toNat else '-' :: digitChars (-e).toNat

/-- The text of a decimal that shows a point or an exponent: positional where the leading digit
stands between the fifth place behind the point and the sixteenth before it. -/
def Digits.scientific (d : Digits) : List Char :=
  let ds := digitChars d.digits
  let point : Int := ds.length + d.exponent
  if d.digits = 0 then "0.0".toList
  else if -5 < point ∧ point ≤ 16 then
    if 0 ≤ d.exponent then d.positional ++ ".0".toList else d.positional
  else
    let mantissa := match ds with
      | [] => []
      | [c] => [c]
      | c :: more => c :: '.' :: more
    mantissa ++ 'e' :: exponentText (point - 1)

/-- A text of a finite double that shows a point or an exponent; none for the others. -/
def scientific? (x : Float) : Option String :=
  match Parts.ofFloat x with
  | .finite negative m e tight =>
    some (String.ofList (signed negative (shortest m e tight).scientific))
  | _ => none

/-- The multiple of `10 ^ (-places)` nearest to `m · 2 ^ e`, a tie going to the even one. -/
def roundedPlaces (m : Nat) (e : Int) (places : Nat) : Nat :=
  if 0 ≤ e then m * Nat.pow 2 e.toNat * Nat.pow 10 places
  else divNearest (m * Nat.pow 10 places) (Nat.pow 2 (-e).toNat)

/-- A number of units of `10 ^ (-places)`, written with all its places. -/
def placed (units places : Nat) : List Char :=
  let ds := digitChars units
  let ds := zeros (places + 1 - ds.length) ++ ds
  if places = 0 then ds
  else ds.take (ds.length - places) ++ '.' :: ds.drop (ds.length - places)

/-- A double with a fixed number of places. -/
def fixed (places : Nat) (x : Float) : String :=
  match Parts.ofFloat x with
  | .notANumber => "NaN"
  | .infinite negative => String.ofList (signed negative "inf".toList)
  | .finite negative m e _ =>
    String.ofList (signed negative (placed (roundedPlaces m e places) places))

end AgentPipeline.Decimal
