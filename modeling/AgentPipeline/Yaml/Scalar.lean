import AgentPipeline.Text.Basic
import AgentPipeline.Yaml.Cursor

/-!
# The texts of scalars

A scalar is written plainly, in quotes or as a block of lines.  Lines of plain and quoted scalars
are folded: a single line break between two lines becomes a blank, and of several breaks the first
is dropped.

## Main definitions

* `Folding` — a text that is being put together from lines.
* `plainScalar?`, `singleQuoted?`, `doubleQuoted?` — scalars on one line or several.
* `blockScalar?` — blocks of lines, kept or folded.
-/

namespace AgentPipeline.Yaml

/-! ### Folding lines -/

/-- A text that is being put together from lines. -/
structure Folding where
  /-- What is settled, in reverse. -/
  text : List Char := []
  /-- The blanks behind it, in reverse; they count only if the line goes on. -/
  blanks : List Char := []
  /-- Whether a line has ended behind it. -/
  lineEnded : Bool := false
  /-- The line break behind it. -/
  firstBreak : Option Char := none
  /-- Further line breaks, in reverse. -/
  moreBreaks : List Char := []

namespace Folding

/-- A blank between words or in front of a line. -/
def blank (f : Folding) (c : Char) : Folding :=
  if f.lineEnded then f else { f with blanks := c :: f.blanks }

/-- The end of a line. -/
def lineBreak (f : Folding) (c : Char) : Folding :=
  if f.lineEnded then { f with moreBreaks := c :: f.moreBreaks }
  else { f with blanks := [], lineEnded := true, firstBreak := some c }

/-- What joins the settled text and a word behind it, in reverse. -/
def joint (f : Folding) : List Char :=
  if f.lineEnded then
    match f.firstBreak with
    | none => f.moreBreaks
    | some '\n' => if f.moreBreaks.isEmpty then [' '] else f.moreBreaks
    | some c => f.moreBreaks ++ [c]
  else f.blanks

/-- The text with the joint settled. -/
def settle (f : Folding) : Folding :=
  { text := f.joint ++ f.text }

/-- A character of a word. -/
def add (f : Folding) (c : Char) : Folding :=
  { text := c :: (f.joint ++ f.text) }

/-- An end of a line that leaves no trace. -/
def continueLine (f : Folding) : Folding :=
  { f.settle with lineEnded := true }

/-- Whether a word has ended behind the settled text. -/
def isBetweenWords (f : Folding) : Bool :=
  f.lineEnded || !f.blanks.isEmpty

/-- So many characters have to be readable before the next one is looked at: a mark of documents and
what is behind it in front of a word, else two. -/
def lookahead (f : Folding) : Nat :=
  if f.isBetweenWords then 4 else 2

/-- Whether enough characters can be read to go on in front of a text. -/
def canGoOn (f : Folding) (s : List Char) : Bool :=
  match s with
  | [] => true
  | c :: _ => canRead (if isBlank c then 1 else if isBreak c then 2 else f.lookahead) s

end Folding

/-! ### Plain scalars -/

/-- The characters that end a plain scalar inside brackets. -/
def flowIndicators : List Char :=
  [',', '[', ']', '{', '}']

/-- Whether a plain scalar ends in front of a word at a place. -/
def endsPlainAt (inFlow : Bool) (indent : Nat) (p : Position) (s : List Char) : Bool :=
  (!inFlow && p.column < indent) || s.head? == some '#' || atDocumentMark p s

/-- Goes on with a plain scalar; `indent` is the least column of its lines outside brackets. -/
def plainFrom (inFlow : Bool) (indent : Nat) (f : Folding) (p : Position) :
    List Char → Option (Folding × Cursor)
  | [] => some (f, ⟨p, []⟩)
  | c :: s =>
    if !f.canGoOn (c :: s) then none
    else if isBlank c then
      if c = '\t' ∧ f.lineEnded ∧ p.column < indent then none
      else plainFrom inFlow indent (f.blank c) (p.after c) s
    else if isBreak c then plainFrom inFlow indent (f.lineBreak c) (p.after c) s
    else if f.isBetweenWords && endsPlainAt inFlow indent p (c :: s) then some (f, ⟨p, c :: s⟩)
    else if inFlow && c == ':' && beginsWithOneOf ('?' :: flowIndicators) s then none
    else if (c == ':' && endsWord s) || (inFlow && flowIndicators.contains c) then
      some (f, ⟨p, c :: s⟩)
    else plainFrom inFlow indent (f.add c) (p.after c) s

/-- A plain scalar: its text, whether it was followed by the end of a line, and what follows. -/
def plainScalar? (inFlow : Bool) (indent : Nat) (c : Cursor) :
    Option (List Char × Bool × Cursor) :=
  (plainFrom inFlow indent {} c.position c.rest).map fun (f, c) => (f.text.reverse, f.lineEnded, c)

/-! ### Quoted scalars -/

/-- Goes on with a scalar in single quotes, in which a quote is written twice. -/
def singleQuotedFrom (f : Folding) (p : Position) : List Char → Option (List Char × Cursor)
  | [] => none
  | '\'' :: '\'' :: s => singleQuotedFrom (f.add '\'') ((p.after '\'').after '\'') s
  | c :: s =>
    if !f.canGoOn (c :: s) then none
    else if c = '\'' then some (f.settle.text.reverse, ⟨p.after c, s⟩)
    else if isBlank c then singleQuotedFrom (f.blank c) (p.after c) s
    else if isBreak c then singleQuotedFrom (f.lineBreak c) (p.after c) s
    else if atDocumentMark p (c :: s) then none
    else singleQuotedFrom (f.add c) (p.after c) s

/-- A scalar in single quotes, behind the opening one. -/
def singleQuoted? (c : Cursor) : Option (List Char × Cursor) :=
  if canRead 4 c.rest then singleQuotedFrom {} c.position c.rest else none

/-- How far an escape has been read. -/
inductive Escape where
  | none
  /-- A backslash has been read. -/
  | begun
  /-- So many hexadecimal digits are left of a code point. -/
  | code (left value : Nat)

/-- The character that a letter stands for behind a backslash. -/
def escaped? : Char → Option Char
  | '0' => some (Char.ofNat 0)
  | 'a' => some (Char.ofNat 7)
  | 'b' => some (Char.ofNat 8)
  | 't' => some '\t'
  | '\t' => some '\t'
  | 'n' => some '\n'
  | 'v' => some (Char.ofNat 11)
  | 'f' => some (Char.ofNat 12)
  | 'r' => some '\r'
  | 'e' => some (Char.ofNat 27)
  | ' ' => some ' '
  | '"' => some '"'
  | '/' => some '/'
  | '\\' => some '\\'
  | 'N' => some '\u0085'
  | '_' => some '\u00A0'
  | 'L' => some '\u2028'
  | 'P' => some '\u2029'
  | _ => Option.none

/-- The number of hexadecimal digits that a letter announces behind a backslash. -/
def codeLength? : Char → Option Nat
  | 'x' => some 2
  | 'u' => some 4
  | 'U' => some 8
  | _ => Option.none

/-- The character with a code point. -/
def character? (n : Nat) : Option Char :=
  if h : n.isValidChar then some (Char.ofNatAux n h) else Option.none

/-- One character behind a backslash. -/
def Escape.step? (f : Folding) (c : Char) : Escape → Option (Folding × Escape)
  | .none => Option.none
  | .begun =>
    if isBreak c then some (f.continueLine, .none)
    else
      match escaped? c with
      | some x => some (f.add x, .none)
      | Option.none => (codeLength? c).map fun n => (f, .code n 0)
  | .code left value =>
    match Text.hexDigit? c with
    | Option.none => Option.none
    | some d =>
      if left ≤ 1 then (character? (16 * value + d)).map fun x => (f.add x, .none)
      else some (f, .code (left - 1) (16 * value + d))

/-- Goes on with a scalar in double quotes. -/
def doubleQuotedFrom (f : Folding) (e : Escape) (p : Position) :
    List Char → Option (List Char × Cursor)
  | [] => Option.none
  | c :: s =>
    match e with
    | .none =>
      if !f.canGoOn (c :: s) then Option.none
      else if c = '"' then some (f.settle.text.reverse, ⟨p.after c, s⟩)
      else if c = '\\' then doubleQuotedFrom f .begun (p.after c) s
      else if isBlank c then doubleQuotedFrom (f.blank c) .none (p.after c) s
      else if isBreak c then doubleQuotedFrom (f.lineBreak c) .none (p.after c) s
      else if atDocumentMark p (c :: s) then Option.none
      else doubleQuotedFrom (f.add c) .none (p.after c) s
    | e =>
      match e.step? f c with
      | Option.none => Option.none
      | some (f, e) => doubleQuotedFrom f e (p.after c) s

/-- A scalar in double quotes, behind the opening one. -/
def doubleQuoted? (c : Cursor) : Option (List Char × Cursor) :=
  if canRead 4 c.rest then doubleQuotedFrom {} .none c.position c.rest else none

/-! ### Blocks of lines -/

/-- What becomes of the line breaks at the end of a block. -/
inductive Chomping where
  | strip
  | clip
  | keep
deriving Repr, DecidableEq

/-- What is said in front of a block. -/
structure BlockHeader where
  /-- Whether lines are folded. -/
  folded : Bool
  chomping : Chomping
  /-- The column of its lines; none if the first line shows it. -/
  indent : Option Nat

/-- A block that is being read. -/
structure Block where
  /-- What is settled, in reverse. -/
  text : List Char := []
  /-- The column of the lines, once it is known. -/
  indent : Option Nat
  /-- The largest column of the empty lines in front. -/
  deepest : Nat := 0
  /-- The line break behind the settled text. -/
  firstBreak : Option Char := none
  /-- Further line breaks, in reverse. -/
  moreBreaks : List Char := []
  /-- Whether the last line began with a blank. -/
  afterBlank : Bool := false

namespace Block

/-- Whether a column is still part of the indentation. -/
def isIndentation (b : Block) (column : Nat) : Bool :=
  b.indent.all fun i => column < i

/-- The block with a new line that begins with `c`.  A folded block joins lines unless one of them
begins with a blank. -/
def beginLine (b : Block) (folded : Bool) (indent : Nat) (c : Char) : Block :=
  let joint :=
    if folded && b.firstBreak == some '\n' && !b.afterBlank && !isBlank c then
      if b.moreBreaks.isEmpty then [' '] else []
    else b.firstBreak.toList
  { text := c :: (b.moreBreaks ++ joint ++ b.text)
    indent := some indent
    afterBlank := isBlank c }

/-- The block behind the end of a line. -/
def lineBreak (b : Block) (c : Char) : Block :=
  { b with firstBreak := some c }

/-- The text of a block. -/
def finish (b : Block) (chomping : Chomping) : List Char :=
  match chomping with
  | .strip => b.text.reverse
  | .clip => (b.firstBreak.toList ++ b.text).reverse
  | .keep => (b.moreBreaks ++ b.firstBreak.toList ++ b.text).reverse

end Block

/-- Goes on with a block; `inLine` tells whether its indentation has been passed, and `outer` is the
least column of its lines. -/
def blockFrom (h : BlockHeader) (outer : Nat) (b : Block) (inLine : Bool) (p : Position) :
    List Char → Option (List Char × Cursor)
  | [] => some (b.finish h.chomping, ⟨p, []⟩)
  | c :: s =>
    if !canRead (if isBreak c then 2 else 1) (c :: s) then none
    else if inLine then
      if isBreak c then blockFrom h outer (b.lineBreak c) false (p.after c) s
      else blockFrom h outer { b with text := c :: b.text } true (p.after c) s
    else if c = ' ' ∧ b.isIndentation p.column then blockFrom h outer b false (p.after c) s
    else
      let b := { b with deepest := max b.deepest p.column }
      if c = '\t' ∧ b.isIndentation p.column then none
      else if isBreak c then
        blockFrom h outer { b with moreBreaks := c :: b.moreBreaks } false (p.after c) s
      else
        let indent := b.indent.getD (max b.deepest outer)
        if p.column = indent then
          blockFrom h outer (b.beginLine h.folded indent c) true (p.after c) s
        else some (b.finish h.chomping, ⟨p, c :: s⟩)

/-- A chomping indicator. -/
def chomping? : Char → Option Chomping
  | '-' => some .strip
  | '+' => some .keep
  | _ => none

/-- What is said in front of a block, behind its indicator: chomping and indentation in either
order; `base` is the column to which an indentation is added. -/
def blockHeader? (folded : Bool) (base : Nat) (c : Cursor) : Option (BlockHeader × Cursor) :=
  let header (chomping : Option Chomping) (digit : Option Char) (c : Cursor) :=
    if digit = some '0' then none
    else
      some ((⟨folded, chomping.getD .clip, digit.map fun d => base + (d.toNat - '0'.toNat)⟩ :
        BlockHeader), c)
  match c.rest with
  | x :: y :: _ =>
    if (chomping? x).isSome then
      if y.isDigit then header (chomping? x) (some y) (c.skip 2)
      else header (chomping? x) none (c.skip 1)
    else if x.isDigit then
      if (chomping? y).isSome then header (chomping? y) (some x) (c.skip 2)
      else header none (some x) (c.skip 1)
    else header none none c
  | [x] =>
    if (chomping? x).isSome then header (chomping? x) none (c.skip 1)
    else if x.isDigit then header none (some x) (c.skip 1)
    else header none none c
  | [] => header none none c

/-- A block of lines, behind its indicator; `indent` is the column of the collection that it is part
of, if there is one. -/
def blockScalar? (folded : Bool) (indent : Option Nat) (c : Cursor) :
    Option (List Char × Cursor) := do
  let (header, c) ← blockHeader? folded (indent.getD 0) c
  let c ← c.endLine?
  let outer := (indent.map (· + 1)).getD 1
  blockFrom header outer { indent := header.indent } false c.position c.rest

end AgentPipeline.Yaml
