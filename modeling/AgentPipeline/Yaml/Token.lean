import AgentPipeline.Yaml.Scalar

/-!
# Tokens of a document

Indentation is turned into tokens that open and close blocks.  Whether a text is a key shows only at
the colon behind it; the token that announces a key is therefore put in afterwards, in front of the
place where the key began.

## Main definitions

* `Token` — the tokens.
* `Layout` — the tokens found so far, with the open blocks and the places where keys may have begun.
* `Layout.next?` — the next token.
* `Token.ofText` — the tokens of a text, as far as it can be read.
-/

namespace AgentPipeline.Yaml

/-- A token of a document. -/
inductive Token where
  /-- A line that announces the version of the format. -/
  | version (major minor : Nat)
  | documentStart
  | documentEnd
  /-- The end of the text. -/
  | textEnd
  | blockSeqStart
  | blockMapStart
  | blockEnd
  | flowSeqStart
  | flowSeqEnd
  | flowMapStart
  | flowMapEnd
  /-- The dash in front of an item. -/
  | blockEntry
  /-- The comma behind an item. -/
  | flowEntry
  | key
  | value
  | anchor (name : List Char)
  | alias (name : List Char)
  | scalar (text : List Char) (plain : Bool)
deriving Repr, DecidableEq

/-- A place where a key may have begun. -/
structure KeyStart where
  /-- The number of tokens in front of it. -/
  index : Nat
  position : Position
  /-- Whether nothing but a key can stand there. -/
  required : Bool

/-- A key has at most so many bytes. -/
def longestKey : Nat := 1024

/-- Whether a key that began at a place cannot be followed by its colon any more. -/
def KeyStart.isStale (k : KeyStart) (p : Position) : Bool :=
  k.position.line < p.line || k.position.offset + longestKey < p.offset

/-- The tokens found so far and what is open. -/
structure Layout where
  tokens : Array Token := #[]
  /-- The columns of the open blocks, the innermost first. -/
  columns : List Nat := []
  /-- Whether a key may begin here. -/
  keyAllowed : Bool := true
  /-- Where a key of the innermost collection may have begun. -/
  keyStart : Option KeyStart := none
  /-- The same for the collections around each open bracket, the innermost first. -/
  outerKeys : List (Option KeyStart) := []

namespace Layout

/-- Whether there is an open bracket. -/
def inFlow (l : Layout) : Bool :=
  !l.outerKeys.isEmpty

/-- Adds a token. -/
def emit (l : Layout) (t : Token) : Layout :=
  { l with tokens := l.tokens.push t }

/-- Closes the blocks for which a condition on their columns holds. -/
def closeBlocks (l : Layout) (closes : Nat → Bool) : Layout :=
  if l.inFlow then l
  else
    { l with
      tokens := l.tokens ++ (l.columns.takeWhile closes).toArray.map fun _ => Token.blockEnd
      columns := l.columns.dropWhile closes }

/-- Opens a block at a column, if the innermost one is further to the left, by a token that is put
in behind the first `index` tokens. -/
def openBlock (l : Layout) (column index : Nat) (t : Token) : Layout :=
  if l.inFlow || l.columns.head?.any (fun c => column ≤ c) then l
  else
    { l with
      tokens := l.tokens.insertIdxIfInBounds index t
      columns := column :: l.columns }

/-- Forgets where a key may have begun; none if a key was required there. -/
def dropKey? (l : Layout) : Option Layout :=
  if l.keyStart.any KeyStart.required then none else some { l with keyStart := none }

/-- Forgets all places whose key has become stale; none if a key was required at one of them. -/
def dropStaleKeys? (l : Layout) (p : Position) : Option Layout :=
  let stale (k : Option KeyStart) : Bool := k.any fun k => k.isStale p
  let keys := l.keyStart :: l.outerKeys
  if keys.any fun k => stale k && k.any KeyStart.required then none
  else
    some { l with
      keyStart := if stale l.keyStart then none else l.keyStart
      outerKeys := l.outerKeys.map fun k => if stale k then none else k }

/-- Notes that a key may begin at a place. -/
def noteKey? (l : Layout) (p : Position) : Option Layout :=
  if l.keyAllowed then
    l.dropKey?.map fun l => { l with
      keyStart := some ⟨l.tokens.size, p, !l.inFlow && l.columns.head? == some p.column⟩ }
  else some l

/-- Passes blanks, comments and line breaks, and a byte order mark in front of a line. -/
def passGaps (inFlow keyAllowed inComment : Bool) (p : Position) : List Char → Bool × Cursor
  | [] => (keyAllowed, ⟨p, []⟩)
  | c :: s =>
    if c = brokenOff then (keyAllowed, ⟨p, c :: s⟩)
    else if isBreak c then passGaps inFlow (keyAllowed || !inFlow) false (p.after c) s
    else if inComment then passGaps inFlow keyAllowed true (p.after c) s
    else if c = ' ' ∨ (c = '\t' ∧ (inFlow ∨ !keyAllowed)) ∨ (c = '\uFEFF' ∧ p.column = 0) then
      passGaps inFlow keyAllowed false (p.after c) s
    else if c = '#' then passGaps inFlow keyAllowed true (p.after c) s
    else (keyAllowed, ⟨p, c :: s⟩)

/-! ### One token -/

/-- What a token leads to: the layout with it and the cursor behind it. -/
abbrev Advance := Option (Layout × Cursor)

/-- A mark that begins or ends a document. -/
def documentMark (l : Layout) (t : Token) (c : Cursor) : Advance :=
  (l.closeBlocks fun _ => true).dropKey?.map fun l =>
    ({ l with keyAllowed := false }.emit t, c.skip 3)

/-- A decimal number of at most nine digits. -/
def versionNumber? (c : Cursor) : Option (Nat × Cursor) :=
  let (digits, c) := c.takeWhile Char.isDigit
  if digits.isEmpty || 9 < digits.length then none
  else (Text.numeral? 10 digits).map fun n => (n, c)

/-- The line that announces the version of the format.  No other directives are known. -/
def directive (l : Layout) (c : Cursor) : Advance := do
  let l ← (l.closeBlocks fun _ => true).dropKey?
  let c := c.skip 1
  if "YAML".toList.isPrefixOf c.rest && endsWord (c.rest.drop 4) then
    let (_, c) := (c.skip 4).takeWhile isBlank
    let (major, c) ← versionNumber? c
    if c.rest.head? = some '.' then
      let (minor, c) ← versionNumber? (c.skip 1)
      let c ← c.endLine?
      return ({ l with keyAllowed := false }.emit (.version major minor), c)
    else none
  else none

/-- An opening bracket. -/
def openBracket (l : Layout) (t : Token) (c : Cursor) : Advance :=
  (l.noteKey? c.position).map fun l =>
    ({ l with
      keyAllowed := true
      keyStart := none
      outerKeys := l.keyStart :: l.outerKeys }.emit t, c.skip 1)

/-- A closing bracket. -/
def closeBracket (l : Layout) (t : Token) (c : Cursor) : Advance :=
  l.dropKey?.map fun l =>
    ({ l with
      keyAllowed := false
      keyStart := l.outerKeys.head?.getD none
      outerKeys := l.outerKeys.drop 1 }.emit t, c.skip 1)

/-- A comma. -/
def comma (l : Layout) (c : Cursor) : Advance :=
  l.dropKey?.map fun l => ({ l with keyAllowed := true }.emit .flowEntry, c.skip 1)

/-- The dash in front of an item. -/
def dash (l : Layout) (c : Cursor) : Advance :=
  if !l.inFlow && !l.keyAllowed then none
  else
    (l.openBlock c.position.column l.tokens.size .blockSeqStart).dropKey?.map fun l =>
      ({ l with keyAllowed := true }.emit .blockEntry, c.skip 1)

/-- The question mark in front of a key. -/
def questionMark (l : Layout) (c : Cursor) : Advance :=
  if !l.inFlow && !l.keyAllowed then none
  else
    (l.openBlock c.position.column l.tokens.size .blockMapStart).dropKey?.map fun l =>
      ({ l with keyAllowed := !l.inFlow }.emit .key, c.skip 1)

/-- The colon in front of a value, which makes a key of what may have begun as one. -/
def colon (l : Layout) (c : Cursor) : Advance :=
  match l.keyStart with
  | some k =>
    let l := { l with
      tokens := l.tokens.insertIdxIfInBounds k.index .key
      keyStart := none
      keyAllowed := false }
    some ((l.openBlock k.position.column k.index .blockMapStart).emit .value, c.skip 1)
  | none =>
    if !l.inFlow && !l.keyAllowed then none
    else
      let l := l.openBlock c.position.column l.tokens.size .blockMapStart
      some ({ l with keyAllowed := !l.inFlow }.emit .value, c.skip 1)

/-- The characters of names. -/
def isNameChar (c : Char) : Bool :=
  c.isAlphanum || c == '_' || c == '-'

/-- The characters that may follow a name, besides blanks and line breaks. -/
def nameEnds : List Char :=
  ['?', ':', ',', ']', '}', '%', '@', '`']

/-- An anchor or an alias. -/
def name (l : Layout) (token : List Char → Token) (c : Cursor) : Advance := do
  let l ← l.noteKey? c.position
  let (name, c) := (c.skip 1).takeWhile isNameChar
  if !name.isEmpty && (endsWord c.rest || beginsWithOneOf nameEnds c.rest) then
    return ({ l with keyAllowed := false }.emit (token name), c)
  else none

/-- A block of lines. -/
def block (l : Layout) (folded : Bool) (c : Cursor) : Advance := do
  let l ← l.dropKey?
  let (text, c) ← blockScalar? folded l.columns.head? (c.skip 1)
  return ({ l with keyAllowed := true }.emit (.scalar text false), c)

/-- A scalar in quotes. -/
def quoted (l : Layout) (read? : Cursor → Option (List Char × Cursor)) (c : Cursor) : Advance := do
  let l ← l.noteKey? c.position
  let (text, c) ← read? (c.skip 1)
  return ({ l with keyAllowed := false }.emit (.scalar text false), c)

/-- A plain scalar. -/
def plain (l : Layout) (c : Cursor) : Advance := do
  let l ← l.noteKey? c.position
  let (text, lineEnded, c) ← plainScalar? l.inFlow ((l.columns.head?.map (· + 1)).getD 0) c
  return ({ l with keyAllowed := lineEnded }.emit (.scalar text true), c)

/-- The characters with which no plain scalar begins. -/
def indicators : List Char :=
  ['-', '?', ':', ',', '[', ']', '{', '}', '#', '&', '*', '!', '|', '>', '\'', '"', '%', '@', '`']

/-- Whether a plain scalar begins with `c`, followed by `s`. -/
def beginsPlain (inFlow : Bool) (c : Char) (s : List Char) : Bool :=
  !(isBlank c || isBreak c || indicators.contains c) ||
    (c == '-' && !s.head?.any isBlank) ||
    (!inFlow && (c == '?' || c == ':') && !endsWord s)

/-- The token that begins with `first`, where the cursor stands. -/
def token (l : Layout) (first : Char) (c : Cursor) : Advance :=
  let behind := c.rest.drop 1
  let opensEntry := l.inFlow || endsWord behind
  if first = '%' ∧ c.position.column = 0 then l.directive c
  else if c.position.column = 0 ∧ beginsDocument c.rest then l.documentMark .documentStart c
  else if c.position.column = 0 ∧ endsDocument c.rest then l.documentMark .documentEnd c
  else if first = '[' then l.openBracket .flowSeqStart c
  else if first = '{' then l.openBracket .flowMapStart c
  else if first = ']' then l.closeBracket .flowSeqEnd c
  else if first = '}' then l.closeBracket .flowMapEnd c
  else if first = ',' then l.comma c
  else if first = '-' ∧ endsWord behind then l.dash c
  else if first = '?' ∧ opensEntry then l.questionMark c
  else if first = ':' ∧ opensEntry then l.colon c
  else if first = '*' then l.name .alias c
  else if first = '&' then l.name .anchor c
  else if first = '|' ∧ !l.inFlow then l.block false c
  else if first = '>' ∧ !l.inFlow then l.block true c
  else if first = '\'' then l.quoted singleQuoted? c
  else if first = '"' then l.quoted doubleQuoted? c
  else if beginsPlain l.inFlow first behind then l.plain c
  else none

/-- The end of the text. -/
def finish? (l : Layout) : Option Layout :=
  (l.closeBlocks fun _ => true).dropKey?.map fun l => l.emit .textEnd

/-- The next token with the cursor behind it, which is none at the end of the text. -/
def next? (l : Layout) (c : Cursor) : Option (Layout × Option Cursor) := do
  let (keyAllowed, c) := passGaps l.inFlow l.keyAllowed false c.position c.rest
  let l ← { l with keyAllowed }.dropStaleKeys? c.position
  let l := l.closeBlocks fun column => c.position.column < column
  match c.rest with
  | [] => l.finish?.map fun l => (l, none)
  | first :: _ =>
    if canRead 4 c.rest then (l.token first c).map fun (l, c) => (l, some c) else none

/-- The tokens that are settled although no further token can be read: those in front of the first
place where a key may still have begun. -/
def settled (l : Layout) (p : Position) : List Token :=
  let open' := (l.keyStart :: l.outerKeys).filterMap fun k =>
    (k.filter fun k => k.required || !k.isStale p).map KeyStart.index
  l.tokens.toList.take (open'.foldl min l.tokens.size)

end Layout

namespace Token

/-- The tokens from a cursor on; `fuel` bounds their number. -/
def scanFrom : (fuel : Nat) → Layout → Cursor → List Token
  | 0, l, c => l.settled c.position
  | fuel + 1, l, c =>
    match l.next? c with
    | none => l.settled c.position
    | some (l, none) => l.tokens.toList
    | some (l, some c) => scanFrom fuel l c

/-- The tokens of a text.  If it cannot be read to its end, they stop short of `Token.textEnd`. -/
def ofText (s : List Char) : List Token :=
  let s := unifyBreaks (readable s)
  scanFrom (s.length + 1) {} ⟨{}, s⟩

end Token

end AgentPipeline.Yaml
