import AgentPipeline.Decimal.Reading
import AgentPipeline.Json.Basic
import AgentPipeline.Text.Basic

/-!
# Reading JSON texts

A text is cut into tokens by an automaton that looks at one character at a time, and the tokens are
put together by a second automaton with a stack of the arrays and objects that are still open.  Both
are recursions on their input.  The grammar is the strict one: no comments, no commas at the end, no
byte-order mark, no bare control characters in strings, no lone surrogate escapes.

Values may be nested 127 deep.  An integer that does not fit 64 bits is read as a double, and so is
`-0`; a number too large for a double is refused.  Of a number with a point, an exponent or too many
digits, the digits that fit 64 bits count, and they are scaled in double arithmetic: a number of few
digits is read as the nearest double, a long one may be off in its last place.

## Main definitions

* `Json.Token`, `Json.tokens?` — the tokens of a text.
* `Json.scaled?` — a number of 64 bits times a power of ten.
* `Json.number?` — the value of a number token.
* `Json.read?` — the value of a whole text, if it is JSON.
-/

namespace AgentPipeline.Json

/-- The tokens of JSON. -/
inductive Token where
  | openBracket
  | closeBracket
  | openBrace
  | closeBrace
  | comma
  | colon
  | str (text : String)
  /-- A value that is neither a string nor a collection. -/
  | plain (value : Json)
deriving Inhabited

/-! ### Numbers and words -/

/-- Takes digits in behind the ones that `n` stands for, as long as the whole fits 64 bits without a
sign: the number they make, and the digits that did not fit. -/
def takeDigits (n : Nat) : List Char → Nat × List Char
  | [] => (n, [])
  | d :: ds =>
    let longer := 10 * n + Decimal.digitValue d
    if longer < Nat.pow 2 64 then takeDigits longer ds else (n, d :: ds)

/-- The double `m · 10 ^ e`, computed in doubles: the nearest one as long as `m` and the power are
doubles themselves, and else at most a few places off.  Nothing for a number that is too large. -/
def scaled? (m : Nat) (e : Int) : Option Float :=
  let power (k : Int) : Float := Decimal.nearestFloat 1 k
  let x := Float.ofNat m
  if m = 0 ∨ e < -616 then some 0
  else if 308 < e then none
  else if 0 ≤ e then
    let y := x * power e
    if y.isFinite then some y else none
  else if -308 ≤ e then some (x / power (-e))
  else some (x / power 308 / power (-e - 308))

/-- A number that is not written as an integer, or is too long for one: the digits that fit 64 bits,
scaled by their place. -/
def ofDecimal? (negative : Bool) (whole fraction : List Char) (e : Int) : Option Json :=
  let (m, left) := takeDigits 0 whole
  let (m, dropped) := takeDigits m fraction
  let place : Int := left.length + dropped.length - fraction.length
  (scaled? m (e + place)).map fun x => float (Decimal.withSign negative x)

/-- A number written as an integer. -/
def ofInteger? (negative : Bool) (whole : List Char) : Option Json :=
  let (n, left) := takeDigits 0 whole
  if left ≠ [] then ofDecimal? negative whole [] 0
  else if negative then
    if n = 0 ∨ Nat.pow 2 63 < n then some (float (-(Float.ofNat n)))
    else some (int (-(n : Int)))
  else some (int n)

/-- The value of a number: an optional minus, digits without a superfluous zero in front, optionally
a point with digits, optionally an exponent. -/
def number? (s : List Char) : Option Json :=
  let (negative, s) := match s with
    | '-' :: s => (true, s)
    | s => (false, s)
  let whole := s.takeWhile Char.isDigit
  let rest := s.dropWhile Char.isDigit
  if whole = [] ∨ (whole.length ≠ 1 ∧ whole.head? = some '0') then none
  else
    match rest with
    | [] => ofInteger? negative whole
    | '.' :: r =>
      let fraction := r.takeWhile Char.isDigit
      if fraction = [] then none
      else
        (Decimal.readExponent? (r.dropWhile Char.isDigit)).bind
          (ofDecimal? negative whole fraction)
    | r => (Decimal.readExponent? r).bind (ofDecimal? negative whole [])

/-- The value of a stretch of characters that is no string and no punctuation. -/
def plain? (s : List Char) : Option Json :=
  match String.ofList s with
  | "null" => some null
  | "true" => some (bool true)
  | "false" => some (bool false)
  | _ => number? s

/-! ### Tokens -/

/-- What the tokenizer is in the middle of; collected characters are in reverse order. -/
inductive Scan where
  /-- Between tokens. -/
  | idle
  /-- In a number or a word. -/
  | inPlain (seen : List Char)
  /-- In a string.  `high` is a high surrogate that waits for its partner. -/
  | inString (seen : List Char) (high : Option Nat)
  /-- Behind a backslash. -/
  | escape (seen : List Char) (high : Option Nat)
  /-- Among the four hexadecimal digits of an escape. -/
  | unicode (seen : List Char) (high : Option Nat) (count value : Nat)

/-- The four blanks that may stand between tokens. -/
def isSpace (c : Char) : Bool :=
  c == ' ' || c == '\n' || c == '\t' || c == '\r'

/-- The token of a punctuation character. -/
def punctuation? : Char → Option Token
  | '[' => some .openBracket
  | ']' => some .closeBracket
  | '{' => some .openBrace
  | '}' => some .closeBrace
  | ',' => some .comma
  | ':' => some .colon
  | _ => none

/-- The character of a one-letter escape. -/
def shortEscape? : Char → Option Char
  | '"' => some '"'
  | '\\' => some '\\'
  | '/' => some '/'
  | 'b' => some '\x08'
  | 'f' => some '\x0c'
  | 'n' => some '\n'
  | 'r' => some '\r'
  | 't' => some '\t'
  | _ => none

/-- The state behind an escaped 16-bit unit: a character, the first half of one, or its second. -/
def afterUnit? (seen : List Char) (high : Option Nat) (unit : Nat) : Option Scan :=
  match high with
  | none =>
    if 0xD800 ≤ unit ∧ unit < 0xDC00 then some (.inString seen (some unit))
    else if 0xDC00 ≤ unit ∧ unit < 0xE000 then none
    else some (.inString (Char.ofNat unit :: seen) none)
  | some first =>
    if 0xDC00 ≤ unit ∧ unit < 0xE000 then
      let code := 0x10000 + (first - 0xD800) * 0x400 + (unit - 0xDC00)
      some (.inString (Char.ofNat code :: seen) none)
    else none

/-- One character between tokens: the next state and the tokens that it completes. -/
def startToken? (c : Char) : Option (Scan × List Token) :=
  if isSpace c then some (.idle, [])
  else if c = '"' then some (.inString [] none, [])
  else
    match punctuation? c with
    | some t => some (.idle, [t])
    | none => some (.inPlain [c], [])

/-- One step of the tokenizer. -/
def Scan.step? (state : Scan) (c : Char) : Option (Scan × List Token) :=
  match state with
  | .idle => startToken? c
  | .inPlain seen =>
    if isSpace c || c == '"' || (punctuation? c).isSome then do
      let value ← plain? seen.reverse
      let (state, tokens) ← startToken? c
      return (state, .plain value :: tokens)
    else some (.inPlain (c :: seen), [])
  | .inString seen none =>
    if c = '"' then some (.idle, [.str (String.ofList seen.reverse)])
    else if c = '\\' then some (.escape seen none, [])
    else if c.toNat < 0x20 then none
    else some (.inString (c :: seen) none, [])
  | .inString seen (some high) =>
    if c = '\\' then some (.escape seen (some high), []) else none
  | .escape seen high =>
    if c = 'u' then some (.unicode seen high 0 0, [])
    else if high.isSome then none
    else (shortEscape? c).map fun e => (.inString (e :: seen) none, [])
  | .unicode seen high count value => do
    let d ← Text.hexDigit? c
    let value := 16 * value + d
    if count = 3 then
      let state ← afterUnit? seen high value
      return (state, [])
    else return (.unicode seen high (count + 1) value, [])

/-- The tokens of the rest of a text, the ones found so far being given in reverse order. -/
def tokensFrom? (state : Scan) (found : List Token) : List Char → Option (List Token)
  | [] =>
    match state with
    | .idle => some found.reverse
    | .inPlain seen => (plain? seen.reverse).map fun v => (.plain v :: found).reverse
    | _ => none
  | c :: s =>
    match state.step? c with
    | none => none
    | some (state, tokens) => tokensFrom? state (tokens.reverse ++ found) s

/-- The tokens of a text. -/
def tokens? (s : List Char) : Option (List Token) :=
  tokensFrom? .idle [] s

/-! ### Values -/

/-- An array or object that is still open; the items of an array are in reverse order. -/
inductive Frame where
  | array (items : List Json)
  | object (fields : List (String × Json))
  /-- An object whose last key still lacks its value. -/
  | keyed (fields : List (String × Json)) (key : String)

/-- What may come next. -/
inductive Expect where
  | value
  /-- The first item of an array or its end. -/
  | itemOrEnd
  /-- The first key of an object or its end. -/
  | keyOrEnd
  | key
  | colon
  /-- A comma or the end of the innermost open collection; the end of the text if none is open. -/
  | separator

/-- The state of the second automaton. -/
structure Build where
  open_ : List Frame
  expect : Expect
  /-- The outermost value once it is complete. -/
  result : Option Json

/-- How deep arrays and objects may be nested. -/
def maxDepth : Nat := 127

/-- Puts a complete value into the innermost open collection. -/
def Build.complete (b : Build) (v : Json) : Option Build :=
  match b.open_ with
  | [] => some ⟨[], .separator, some v⟩
  | .array items :: more => some ⟨.array (v :: items) :: more, .separator, none⟩
  | .keyed fields key :: more =>
    some ⟨.object (insertField key v fields) :: more, .separator, none⟩
  | .object _ :: _ => none

/-- Opens a collection. -/
def Build.begin (b : Build) (frame : Frame) (expect : Expect) : Option Build :=
  if b.open_.length < maxDepth then some ⟨frame :: b.open_, expect, none⟩ else none

/-- A token where a value is due. -/
def Build.value? (b : Build) : Token → Option Build
  | .openBracket => b.begin (.array []) .itemOrEnd
  | .openBrace => b.begin (.object []) .keyOrEnd
  | .str s => b.complete (.str s)
  | .plain v => b.complete v
  | _ => none

/-- A token where a key is due. -/
def Build.key? (b : Build) : Token → Option Build
  | .str key =>
    match b.open_ with
    | .object fields :: more => some ⟨.keyed fields key :: more, .colon, none⟩
    | _ => none
  | _ => none

/-- Closes the innermost open collection if the bracket fits. -/
def Build.close? (b : Build) (t : Token) : Option Build :=
  match t, b.open_ with
  | .closeBracket, .array items :: more => { b with open_ := more }.complete (.arr items.reverse)
  | .closeBrace, .object fields :: more => { b with open_ := more }.complete (.obj fields)
  | _, _ => none

/-- One step of the second automaton. -/
def Build.step? (b : Build) (t : Token) : Option Build :=
  match b.expect, t with
  | .value, t => b.value? t
  | .itemOrEnd, .closeBracket => b.close? .closeBracket
  | .itemOrEnd, t => b.value? t
  | .keyOrEnd, .closeBrace => b.close? .closeBrace
  | .keyOrEnd, t => b.key? t
  | .key, t => b.key? t
  | .colon, .colon => some { b with expect := .value }
  | .colon, _ => none
  | .separator, .comma =>
    match b.open_ with
    | .array _ :: _ => some { b with expect := .value }
    | .object _ :: _ => some { b with expect := .key }
    | _ => none
  | .separator, t => b.close? t

/-- The value of a list of tokens. -/
def ofTokens? (tokens : List Token) : Option Json :=
  (tokens.foldlM Build.step? ⟨[], .value, none⟩).bind Build.result

/-- The value of a text, if it is JSON. -/
def read? (text : String) : Option Json :=
  (tokens? text.toList).bind ofTokens?

end AgentPipeline.Json
