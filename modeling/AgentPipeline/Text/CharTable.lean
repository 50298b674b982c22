/-!
# Tables of characters

Large tables are kept as texts of words.  A word names a character, or the first and the last one of
a run, by code points in hexadecimal; a mark behind them says how the values go on:

* `61` and `61-7A` have no values;
* `61-7A:41.42` gives the same values to each character of the run;
* `61-7A+41` gives the value `41` to the first one, and each has one more than the one before;
* `101-12F/100` names every other character of the run, and values grow by two as well.

Runs are in ascending order, and no two share a character.

## Main definitions

* `CharTable.ofText` — the table of a text.
* `CharTable.find?`, `CharTable.contains` — what a table says of a character.
-/

namespace AgentPipeline.Text

/-- How values go on from a character of a run to the next one. -/
inductive Progression where
  /-- All have the same values. -/
  | constant
  /-- Every character has one more than the one before. -/
  | byOne
  /-- Every other character is meant, and has two more than the one before. -/
  | byTwo
deriving Repr, DecidableEq

/-- A run of characters with their values. -/
structure CharRun where
  first : Nat
  last : Nat
  progression : Progression
  values : List Nat
deriving Repr, DecidableEq

/-- The values of a character of a run. -/
def CharRun.valuesAt? (r : CharRun) (n : Nat) : Option (List Nat) :=
  match r.progression with
  | .constant => some r.values
  | .byOne => some (r.values.map (· + (n - r.first)))
  | .byTwo => if (n - r.first) % 2 = 0 then some (r.values.map (· + (n - r.first))) else none

/-- Runs in ascending order. -/
abbrev CharTable := Array CharRun

namespace CharTable

/-! ### Reading -/

/-- The value of a hexadecimal digit in capitals. -/
def digitValue (c : Char) : Nat :=
  if c.isDigit then c.toNat - '0'.toNat else c.toNat - 'A'.toNat + 10

/-- The number of hexadecimal digits. -/
def number (s : List Char) : Nat :=
  s.foldl (fun n c => 16 * n + digitValue c) 0

/-- The digits that a text begins with, and what follows them. -/
def splitDigits (s : List Char) : List Char × List Char :=
  s.span fun c => c.isDigit || c.isUpper

/-- The run of a word. -/
def runOfWord (word : List Char) : CharRun :=
  let (first, rest) := splitDigits word
  let (last, rest) := match rest with
    | '-' :: rest => splitDigits rest
    | rest => (first, rest)
  let values (s : List Char) : List Nat := if s.isEmpty then [] else (s.splitOn '.').map number
  let (progression, values) := match rest with
    | '+' :: s => (.byOne, values s)
    | '/' :: s => (.byTwo, values s)
    | s => (Progression.constant, values (s.drop 1))
  ⟨number first, number last, progression, values⟩

/-- The table of a text of words between blanks and line breaks. -/
def ofText (s : String) : CharTable :=
  let words := s.toList.splitOnP fun c => c == ' ' || c == '\n'
  ((words.filter fun word => !word.isEmpty).map runOfWord).toArray

/-! ### Looking up -/

/-- Looks `n` up in the runs with an index from `lo` up to, not including, `hi`. -/
def findBetween? (t : CharTable) (n lo hi : Nat) : Option (List Nat) :=
  if lo < hi then
    let mid := (lo + hi) / 2
    match t[mid]? with
    | none => none
    | some r =>
      if n < r.first then findBetween? t n lo mid
      else if r.last < n then findBetween? t n (mid + 1) hi
      else r.valuesAt? n
  else none
termination_by hi - lo

/-- The values of a code point; none if the table does not name it. -/
def find? (t : CharTable) (n : Nat) : Option (List Nat) :=
  t.findBetween? n 0 t.size

/-- Whether a table names a character. -/
def contains (t : CharTable) (c : Char) : Bool :=
  (t.find? c.toNat).isSome

end CharTable

end AgentPipeline.Text
