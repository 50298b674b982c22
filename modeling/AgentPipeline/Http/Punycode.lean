/-!
# Labels of domain names in ASCII

A label with characters beyond ASCII is written with its ASCII characters first and then, behind a
hyphen, a number for each other character, which tells both the character and its place: all pairs
of a code point and a place are counted through, and the number is how many are skipped.  Numbers
are written in base 36 with the least digit first; a digit below a threshold ends its number, and
the thresholds follow the sizes of the numbers so far.

## Main definitions

* `Punycode.encode` — a label in ASCII.
* `Punycode.decode?` — the label that an ASCII text stands for.
-/

namespace AgentPipeline.Http.Punycode

/-- The number of digits. -/
def base : Nat := 36

/-- The first code point that is not copied. -/
def firstCoded : Nat := 128

/-- The digit of a number below `base`. -/
def digit (n : Nat) : Char :=
  if n < 26 then Char.ofNat ('a'.toNat + n) else Char.ofNat ('0'.toNat + (n - 26))

/-- The value of a digit. -/
def value? (c : Char) : Option Nat :=
  if c.isDigit then some (c.toNat - '0'.toNat + 26)
  else if c.isLower then some (c.toNat - 'a'.toNat)
  else if c.isUpper then some (c.toNat - 'A'.toNat)
  else none

/-- The threshold of the digit with a weight of `base ^ (i - 1)`, at least one and at most 26. -/
def threshold (i bias : Nat) : Nat :=
  min (max (base * i - bias) 1) 26

/-- The bias for a number that is about `delta`, `k` being what it is at least. -/
def biasOf (k delta : Nat) : Nat :=
  if 455 < delta then biasOf (k + base) (delta / 35) else k + base * delta / (delta + 38)
termination_by delta

/-- The bias for the next number when there are `count` characters and the last number was
`delta`. -/
def adapt (delta count : Nat) (isFirst : Bool) : Nat :=
  let delta := if isFirst then delta / 700 else delta / 2
  biasOf 0 (delta + delta / count)

/-! ### Writing -/

/-- A number from its `i`-th digit on. -/
def encodeNumber (bias i n : Nat) : List Char :=
  let t := threshold i bias
  if n < t then [digit n]
  else digit (t + (n - t) % (base - t)) :: encodeNumber bias (i + 1) ((n - t) / (base - t))
termination_by n
decreasing_by
  have ht : 1 ≤ threshold i bias := by unfold threshold; omega
  exact Nat.lt_of_le_of_lt (Nat.div_le_self _ _) (by omega)

/-- What has been written. -/
structure Encoding where
  /-- The digits so far. -/
  text : List Char := []
  /-- How many characters have been written. -/
  count : Nat
  /-- How many pairs have been skipped since the last one. -/
  delta : Nat := 0
  bias : Nat := 72
  isFirst : Bool := true

/-- Goes through a place when the code point `n` is looked for. -/
def Encoding.visit (n : Nat) (e : Encoding) (c : Nat) : Encoding :=
  if c < n then { e with delta := e.delta + 1 }
  else if c = n then
    { text := e.text ++ encodeNumber e.bias 1 e.delta
      count := e.count + 1
      bias := adapt e.delta (e.count + 1) e.isFirst
      isFirst := false }
  else e

/-- Writes the characters with the given code points, which are in ascending order; `n` is the next
code point that counts. -/
def encodeFrom (label : List Nat) (e : Encoding) (n : Nat) : List Nat → List Char
  | [] => e.text
  | m :: points =>
    let e := { e with delta := e.delta + (m - n) * (e.count + 1) }
    let e := label.foldl (Encoding.visit m) e
    encodeFrom label { e with delta := e.delta + 1 } (m + 1) points

/-- A number put into an ascending list without repetitions. -/
def insert (n : Nat) : List Nat → List Nat
  | [] => [n]
  | m :: l => if n < m then n :: m :: l else if n = m then m :: l else m :: insert n l

/-- A label in ASCII. -/
def encode (label : List Char) : List Char :=
  let copied := label.filter fun c => c.toNat < firstCoded
  let points := (label.map Char.toNat).foldr insert []
  copied ++ (if copied.isEmpty then [] else ['-']) ++
    encodeFrom (label.map Char.toNat) { count := copied.length } firstCoded
      (points.filter fun n => firstCoded ≤ n)

/-! ### Reading -/

/-- A label of which some numbers have been read. -/
structure Decoding where
  label : List Nat
  /-- The code point of the last number. -/
  point : Nat := firstCoded
  /-- Its place. -/
  place : Nat := 0
  bias : Nat := 72
  isFirst : Bool := true

/-- The label with a number that skips `delta` pairs. -/
def Decoding.add (d : Decoding) (delta : Nat) : Decoding :=
  let count := d.label.length + 1
  let place := d.place + delta
  let point := d.point + place / count
  { label := d.label.take (place % count) ++ point :: d.label.drop (place % count)
    point
    place := place % count + 1
    bias := adapt delta count d.isFirst
    isFirst := false }

/-- Reads numbers; `number` is what the digits of this one are worth so far, `i` and `weight` are
those of the next digit. -/
def decodeFrom (d : Decoding) (number i weight : Nat) : List Char → Option Decoding
  | [] => if i = 1 then some d else none
  | c :: s =>
    match value? c with
    | none => none
    | some v =>
      let t := threshold i d.bias
      let number := number + v * weight
      if v < t then
        let d := d.add number
        if d.point.isValidChar then decodeFrom d 0 1 1 s else none
      else decodeFrom d number (i + 1) (weight * (base - t)) s

/-- What stands in front of the last hyphen of a text, and what follows it.  A text that begins with
its only hyphen is not split. -/
def splitAtLastHyphen (s : List Char) : List Char × List Char :=
  let (digits, front) := s.reverse.span (· ≠ '-')
  match front.drop 1 with
  | [] => ([], s)
  | front => (front.reverse, digits.reverse)

/-- The label that an ASCII text stands for. -/
def decode? (s : List Char) : Option (List Char) :=
  let (copied, digits) := splitAtLastHyphen s
  (decodeFrom { label := copied.map Char.toNat } 0 1 1 digits).map fun d =>
    d.label.map Char.ofNat

end AgentPipeline.Http.Punycode
