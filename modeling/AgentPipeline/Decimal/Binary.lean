/-!
# Binary floating-point numbers, taken apart

A finite floating-point number is a mantissa times a power of two.  Both printing and narrowing
work on these two numbers, in exact arithmetic on `Nat`; only the bit patterns connect them with
`Float` and `Float32`.

## Main definitions

* `Layout` — the widths of the fields of a binary format; `Layout.double` and `Layout.single`.
* `Parts` — what a bit pattern stands for; `Parts.ofFloat` and `Parts.ofFloat32`.
* `Layout.nearest` — the bit pattern of the number of a format that is nearest to `m · 2^q`, a tie
  going to the even mantissa.
* `widen`, `narrow`, `singleOfInt` — between single precision and doubles or integers.
-/

namespace AgentPipeline.Decimal

/-- The widths of the two fields behind the sign of a binary floating-point format. -/
structure Layout where
  fractionBits : Nat
  exponentBits : Nat

namespace Layout

/-- Double precision. -/
def double : Layout := ⟨52, 11⟩

/-- Single precision. -/
def single : Layout := ⟨23, 8⟩

/-- What is added to the exponent field of the number one. -/
def bias (l : Layout) : Nat :=
  Nat.pow 2 (l.exponentBits - 1) - 1

/-- The exponent of the last mantissa bit of the smallest numbers. -/
def leastExponent (l : Layout) : Int :=
  1 - (l.bias : Int) - l.fractionBits

/-- The exponent field of infinities and of what is not a number. -/
def fullExponent (l : Layout) : Nat :=
  Nat.pow 2 l.exponentBits - 1

end Layout

/-- What a bit pattern stands for. -/
inductive Parts where
  | notANumber
  | infinite (negative : Bool)
  /-- The number `± mantissa · 2 ^ exponent`.  `tight` tells that the next smaller number is only
  half as far away as the next larger one. -/
  | finite (negative : Bool) (mantissa : Nat) (exponent : Int) (tight : Bool)
deriving Repr, DecidableEq

namespace Parts

/-- Takes a bit pattern apart. -/
def ofBits (l : Layout) (bits : Nat) : Parts :=
  let fraction := bits % Nat.pow 2 l.fractionBits
  let field := bits / Nat.pow 2 l.fractionBits % Nat.pow 2 l.exponentBits
  let negative := bits / Nat.pow 2 (l.fractionBits + l.exponentBits) % 2 == 1
  if field = l.fullExponent then
    if fraction = 0 then infinite negative else notANumber
  else if field = 0 then finite negative fraction l.leastExponent false
  else
    finite negative (Nat.pow 2 l.fractionBits + fraction) (l.leastExponent + field - 1)
      (fraction == 0 && field != 1)

/-- Takes a double apart. -/
def ofFloat (x : Float) : Parts :=
  ofBits .double x.toBits.toNat

/-- Takes a single apart. -/
def ofFloat32 (x : Float32) : Parts :=
  ofBits .single x.toBits.toNat

end Parts

/-- The quotient of two numbers rounded to the nearest integer, a tie going to the even one. -/
def divNearest (num den : Nat) : Nat :=
  let q := num / den
  let twice := 2 * (num % den)
  if twice < den ∨ (twice = den ∧ q % 2 = 0) then q else q + 1

/-- The number of binary digits of `n`; none for zero. -/
def bitLength (n : Nat) : Nat :=
  if n = 0 then 0 else n.log2 + 1

/-- The bit pattern of the number of the format nearest to `mantissa · 2 ^ exponent`, without its
sign.  What lies beyond the largest number becomes the infinity. -/
def Layout.nearest (l : Layout) (mantissa : Nat) (exponent : Int) : Nat :=
  if mantissa = 0 then 0
  else
    let top : Int := bitLength mantissa + exponent
    let last : Int := max (top - (l.fractionBits + 1)) l.leastExponent
    let shift := exponent - last
    let rounded :=
      if 0 ≤ shift then mantissa * Nat.pow 2 shift.toNat
      else divNearest mantissa (Nat.pow 2 (-shift).toNat)
    let field := (last - l.leastExponent).toNat
    let bits := rounded + field * Nat.pow 2 l.fractionBits
    min bits (l.fullExponent * Nat.pow 2 l.fractionBits)

/-- A sign bit in front of the bit pattern of an absolute value. -/
def Layout.withSign (l : Layout) (negative : Bool) (bits : Nat) : Nat :=
  bits + if negative then Nat.pow 2 (l.fractionBits + l.exponentBits) else 0

/-- The bit pattern of a format nearest to what has been taken apart. -/
def Layout.encode (l : Layout) : Parts → Nat
  | .notANumber => l.fullExponent * Nat.pow 2 l.fractionBits + Nat.pow 2 (l.fractionBits - 1)
  | .infinite negative => l.withSign negative (l.fullExponent * Nat.pow 2 l.fractionBits)
  | .finite negative mantissa exponent _ => l.withSign negative (l.nearest mantissa exponent)

/-- The double that equals a single. -/
def widen (x : Float32) : Float :=
  Float.ofBits (UInt64.ofNat (Layout.double.encode (.ofFloat32 x)))

/-- The single nearest to a double. -/
def narrow (x : Float) : Float32 :=
  Float32.ofBits (UInt32.ofNat (Layout.single.encode (.ofFloat x)))

/-- The single nearest to an integer. -/
def singleOfInt (n : Int) : Float32 :=
  Float32.ofBits (UInt32.ofNat
    (Layout.single.withSign (n < 0) (Layout.single.nearest n.natAbs 0)))

end AgentPipeline.Decimal
