/-!
# Positions in a document

Lines and columns matter when a document is read: indentation shows what belongs together, and a key
stands on one line with its colon.

## Main definitions

* `isBlank`, `isBreak` — the characters that separate words and lines.
* `readable` — a text as far as it can be read.
* `unifyBreaks` — a text in which a line feed stands for every usual line break.
* `Position`, `Cursor` — a place in a text, without and with the text that follows.
* `Cursor.atDocumentMark` — whether a line begins that separates documents.
-/

namespace AgentPipeline.Yaml

/-- Spaces and tabs separate words on a line. -/
def isBlank (c : Char) : Bool :=
  c == ' ' || c == '\t'

/-- Line feeds, line separators and paragraph separators end a line. -/
def isBreak (c : Char) : Bool :=
  c == '\n' || c == '\u2028' || c == '\u2029'

/-- Whether a word ends in front of a text. -/
def endsWord : List Char → Bool
  | [] => true
  | c :: _ => isBlank c || isBreak c

/-- Whether a text begins with one of the given characters. -/
def beginsWithOneOf (cs : List Char) : List Char → Bool
  | [] => false
  | c :: _ => cs.contains c

/-- The characters that a document may hold: no control characters but tabs and line breaks. -/
def isAllowed (c : Char) : Bool :=
  let n := c.toNat
  n == 0x9 || n == 0xA || n == 0xD || (0x20 ≤ n && n ≤ 0x7E) || n == 0x85 ||
    (0xA0 ≤ n && n ≤ 0xFFFD) || 0x10000 ≤ n

/-- Stands where a text cannot be read any further. -/
def brokenOff : Char :=
  '\x00'

/-- Whether the next `n` characters of a text can be read, as far as there are so many. -/
def canRead (n : Nat) (s : List Char) : Bool :=
  !(s.take n).contains brokenOff

/-- A text is read in pieces of so many bytes, or less if a character does not fit. -/
def pieceSize : Nat := 16384

/-- The reverse of a text as far as it can be read: `seen` holds the pieces in front, `piece` the
characters of this piece, both in reverse, and `room` is what is left of its size. -/
def readableFrom (seen piece : List Char) (room : Nat) : List Char → List Char
  | [] => piece ++ seen
  | c :: s =>
    if room < c.utf8Size then
      if isAllowed c then readableFrom (piece ++ seen) [c] (pieceSize - c.utf8Size) s
      else brokenOff :: (piece ++ seen)
    else if isAllowed c then readableFrom seen (c :: piece) (room - c.utf8Size) s
    else brokenOff :: seen

/-- A text as far as it can be read: it breaks off at the piece with the first character that a
document may not hold. -/
def readable (s : List Char) : List Char :=
  (readableFrom [] [] pieceSize s).reverse

/-- The reverse of a text in which a line feed stands for every carriage return, next line or pair
of carriage return and line feed; `seen` is what has been done. -/
def unifyBreaksFrom (seen : List Char) : List Char → List Char
  | [] => seen
  | '\r' :: '\n' :: s => unifyBreaksFrom ('\n' :: seen) s
  | c :: s => unifyBreaksFrom ((if c = '\r' ∨ c = '\u0085' then '\n' else c) :: seen) s

/-- A text in which a line feed stands for every carriage return, next line or pair of carriage
return and line feed. -/
def unifyBreaks (s : List Char) : List Char :=
  (unifyBreaksFrom [] s).reverse

/-- A place in a text. -/
structure Position where
  /-- The number of bytes in front. -/
  offset : Nat := 0
  line : Nat := 0
  column : Nat := 0
deriving Repr, DecidableEq

/-- The place behind a character. -/
def Position.after (p : Position) (c : Char) : Position :=
  let offset := p.offset + c.utf8Size
  if isBreak c then ⟨offset, p.line + 1, 0⟩ else ⟨offset, p.line, p.column + 1⟩

/-- A place in a text and the text that follows it. -/
structure Cursor where
  position : Position := {}
  rest : List Char
deriving Repr, DecidableEq

namespace Cursor

/-- The cursor behind the next `n` characters. -/
def skip (c : Cursor) (n : Nat) : Cursor :=
  ⟨(c.rest.take n).foldl Position.after c.position, c.rest.drop n⟩

/-- The characters up to the first that is not of a kind, and the cursor behind them. -/
def takeWhile (c : Cursor) (kind : Char → Bool) : List Char × Cursor :=
  let taken := c.rest.takeWhile kind
  (taken, c.skip taken.length)

/-- The cursor behind blanks and a comment. -/
def skipComment (c : Cursor) : Cursor :=
  let (_, c) := c.takeWhile isBlank
  match c.rest with
  | '#' :: _ => (c.takeWhile fun x => !isBreak x && x != brokenOff).2
  | _ => c

/-- The cursor on the next line, if nothing but blanks and a comment is left of this one. -/
def endLine? (c : Cursor) : Option Cursor :=
  let c := c.skipComment
  match c.rest with
  | [] => some c
  | x :: _ => if isBreak x && canRead 2 c.rest then some (c.skip 1) else none

end Cursor

/-- Whether a text begins with three dashes that are a word of their own. -/
def beginsDocument : List Char → Bool
  | '-' :: '-' :: '-' :: s => endsWord s
  | _ => false

/-- Whether a text begins with three dots that are a word of their own. -/
def endsDocument : List Char → Bool
  | '.' :: '.' :: '.' :: s => endsWord s
  | _ => false

/-- Whether a line begins that separates documents. -/
def atDocumentMark (p : Position) (s : List Char) : Bool :=
  p.column == 0 && (beginsDocument s || endsDocument s)

end AgentPipeline.Yaml
