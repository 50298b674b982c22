import AgentPipeline.Text.Basic
import AgentPipeline.Text.Word

/-!
# Patterns over texts

A small language of patterns with word boundaries, runs of blanks, alternatives and optional parts.
A pattern is matched at a *place* of a text, and yields every place at which a match may end; it
*occurs* in a text when some place of the text has a match.  Letters are matched up to case.

## Main definitions

* `Place` — a position in a text: the character before it and the text after it.
* `Pattern` — the patterns.
* `Pattern.ends` — where the matches of a pattern that begin at a place may end.
* `Pattern.occursIn` — whether a text has a match.
-/

namespace AgentPipeline.Text

/-- A position in a text. -/
structure Place where
  /-- The character before the position; none at the start of the text. -/
  before : Option Char
  /-- The text after the position. -/
  rest : List Char
deriving Repr, DecidableEq

/-- A pattern of texts. -/
inductive Pattern where
  /-- These characters, given in small letters, up to case. -/
  | word (letters : List Char)
  /-- A run of blanks, of at least `least` characters. -/
  | blanks (least : Nat)
  /-- A position at which a word begins or ends. -/
  | boundary
  /-- One pattern and then another. -/
  | andThen (first second : Pattern)
  /-- One pattern or another. -/
  | either (left right : Pattern)
  /-- A pattern or nothing. -/
  | optional (part : Pattern)
deriving Repr

namespace Pattern

/-- The place behind `letters`, if the text goes on with them up to case. -/
def afterWord : List Char → Place → Option Place
  | [], p => some p
  | l :: letters, p =>
    match p.rest with
    | [] => none
    | c :: rest => if foldLetter c = l then afterWord letters ⟨some c, rest⟩ else none

/-- The places that at least `least` blanks lead to. -/
def afterBlanks (least : Nat) (before : Option Char) : List Char → List Place
  | [] => if least = 0 then [⟨before, []⟩] else []
  | c :: rest =>
    let here := if least = 0 then [⟨before, c :: rest⟩] else []
    if isBlank c then here ++ afterBlanks (least - 1) (some c) rest else here

/-- The places at which a match that begins at the given place may end. -/
def ends : Pattern → Place → List Place
  | word letters, p => (afterWord letters p).toList
  | blanks least, p => afterBlanks least p.before p.rest
  | boundary, p => if isBoundary p.before p.rest.head? then [p] else []
  | andThen first second, p => (first.ends p).flatMap second.ends
  | either left right, p => left.ends p ++ right.ends p
  | optional part, p => p :: part.ends p

/-- Whether a match begins at some position of a text that follows the character `before`. -/
def occursAfter (pattern : Pattern) (before : Option Char) : List Char → Bool
  | [] => !(pattern.ends ⟨before, []⟩).isEmpty
  | c :: rest =>
    !(pattern.ends ⟨before, c :: rest⟩).isEmpty || pattern.occursAfter (some c) rest

/-- Whether a text has a match. -/
def occursIn (pattern : Pattern) (text : List Char) : Bool :=
  pattern.occursAfter none text

/-- The pattern of a literal word. -/
def literal (letters : String) : Pattern :=
  word letters.toList

/-- Several patterns, one after the other. -/
def inOrder : List Pattern → Pattern
  | [] => word []
  | [p] => p
  | p :: ps => andThen p (inOrder ps)

/-- One of several literal words. -/
def oneOf (first : String) : List String → Pattern
  | [] => literal first
  | second :: others => either (literal first) (oneOf second others)

end Pattern

end AgentPipeline.Text
