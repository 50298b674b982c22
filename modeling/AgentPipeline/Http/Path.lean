import AgentPipeline.Text.Basic

/-!
# Escapes and paths of addresses

What may not stand in an address is written as a percent sign and two hexadecimal digits for each of
its bytes.  Dots in a path are resolved, and its parts are escaped.  Addresses of files may begin
with a drive: a letter and a colon.

## Main definitions

* `escape` — a text with some characters escaped.
* `fragmentEscapes`, `pathEscapes`, `queryEscapes`, `userEscapes` — what is escaped where.
* `unescapedBytes`, `unescape?` — the bytes and the text that a text with escapes stands for.
* `PathStyle` — how the parts of a path are told apart.
* `pathParts`, `pathText` — the parts of the path of a text, and the path of such parts.
-/

namespace AgentPipeline.Http

/-! ### Escapes -/

/-- A byte as an escape. -/
def escapedByte (b : UInt8) : List Char :=
  let digit (n : Nat) : Char := (Nat.digitChar n).toUpper
  ['%', digit (b.toNat / 16), digit (b.toNat % 16)]

/-- A text in which control characters, characters beyond ASCII and some others are escaped. -/
def escape (others : List Char) (s : List Char) : List Char :=
  s.flatMap fun c =>
    if c.toNat < 0x20 ∨ 0x7E < c.toNat ∨ others.contains c then
      (String.singleton c).toUTF8.toList.flatMap escapedByte
    else [c]

/-- What is escaped in a fragment. -/
def fragmentEscapes : List Char :=
  [' ', '"', '<', '>', '`']

/-- What is escaped in a path. -/
def pathEscapes : List Char :=
  fragmentEscapes ++ ['#', '?', '{', '}']

/-- What is escaped in a query of a web server, and in any other query. -/
def queryEscapes (special : Bool) : List Char :=
  [' ', '"', '#', '<', '>'] ++ if special then ['\''] else []

/-- What is escaped in the name of a user and in a password. -/
def userEscapes : List Char :=
  pathEscapes ++ ['/', ':', ';', '=', '@', '[', '\\', ']', '^', '|']

/-- The bytes that a text with escapes stands for.  A percent sign without two digits behind it
stands for itself. -/
def unescapedBytes : List Char → List UInt8
  | [] => []
  | '%' :: a :: b :: s =>
    match Text.hexDigit? a, Text.hexDigit? b with
    | some x, some y => (16 * x + y).toUInt8 :: unescapedBytes s
    | _, _ => '%'.toNat.toUInt8 :: unescapedBytes (a :: b :: s)
  | c :: s => (String.singleton c).toUTF8.toList ++ unescapedBytes s

/-- The text that a text with escapes stands for; none if its bytes are no text. -/
def unescape? (s : List Char) : Option String :=
  String.fromUTF8? (ByteArray.mk (unescapedBytes s).toArray)

/-! ### Paths -/

/-- How the parts of a path are told apart. -/
inductive PathStyle where
  /-- By slashes. -/
  | plain
  /-- By slashes and backslashes. -/
  | web
  /-- By slashes and backslashes; there may be a drive in front. -/
  | file
deriving Repr, DecidableEq

/-- Slashes and backslashes separate the parts of a path. -/
def isSlash (c : Char) : Bool :=
  c == '/' || c == '\\'

/-- Whether a character separates the parts of a path. -/
def PathStyle.separates (style : PathStyle) (c : Char) : Bool :=
  c == '/' || (style != .plain && c == '\\')

/-- Whether a part of a path stands for the directory itself. -/
def isSingleDot (part : List Char) : Bool :=
  [".", "%2e"].contains (String.ofList (part.map Char.toLower))

/-- Whether a part of a path stands for the directory above. -/
def isDoubleDot (part : List Char) : Bool :=
  ["..", ".%2e", "%2e.", "%2e%2e"].contains (String.ofList (part.map Char.toLower))

/-- Whether a part of a path is spelled like a drive. -/
def isDrive : List Char → Bool
  | [letter, mark] => letter.isAlpha && (mark == ':' || mark == '|')
  | _ => false

/-- The parts of a path without the last one, unless that is spelled like a drive; they are in
reverse. -/
def leaveDirectory : List (List Char) → List (List Char)
  | [] => []
  | part :: parts => if isDrive part then part :: parts else parts

/-- A part of a path as it is written behind the parts `done`. -/
def writtenPart (style : PathStyle) (done : List (List Char)) (part : List Char) : List Char :=
  if style = .file ∧ done.isEmpty ∧ isDrive part then part.take 1 ++ [':']
  else escape pathEscapes part

/-- The parts of a path with dots resolved, `done` being the earlier ones in reverse.  A path that
ends in dots ends with a slash. -/
def resolveDots (style : PathStyle) (done : List (List Char)) :
    List (List Char) → List (List Char)
  | [] => done.reverse
  | part :: parts =>
    let last := if parts.isEmpty then [[]] else []
    if isDoubleDot part then resolveDots style (last ++ leaveDirectory done) parts
    else if isSingleDot part then resolveDots style (last ++ done) parts
    else resolveDots style (writtenPart style done part :: done) parts

/-- The parts of a path behind the empty ones in front. -/
def dropEmptyParts (parts : List (List Char)) : List (List Char) :=
  match parts.dropWhile List.isEmpty with
  | [] => [[]]
  | parts => parts

/-- The parts of the path of a text, whose first separator is not needed. -/
def pathParts (style : PathStyle) (s : List Char) : List (List Char) :=
  let s := if s.head?.any style.separates then s.drop 1 else s
  let parts := resolveDots style [] (s.splitOnP style.separates)
  if style = .file then dropEmptyParts parts else parts

/-- Parts of a path, each behind a slash. -/
def pathText (parts : List (List Char)) : List Char :=
  '/' :: ['/'].intercalate parts

end AgentPipeline.Http
