/-!
# Texts

Texts are handled as lists of characters, and lengths are counted in characters.  A character is
*blank* when it has the Unicode property `White_Space`; every place that skips, trims or counts
blanks uses this one class.  Case is disregarded only to *look for* a known word in a text, never
for display.

## Main definitions

* `isBlank`, `trim`, `wordCount` — blanks, and the stretches between them.
* `lower`, `foldLetter` — letters up to case.
* `digit?`, `numeral?`, `base64` — numbers and bytes in digits.
* `occurs`, `replaceAll` — whether a word is a contiguous part, and putting another in its place.
* `truncateOutput`, `truncateError` — long texts cut down.
* `Secrets.redact` — secrets kept out of a text.
-/

namespace AgentPipeline.Text

/-! ### Blanks -/

/-- The property `White_Space`: 25 characters, among them the no-break and the ideographic space,
but neither the zero-width space nor the byte-order mark. -/
def isBlank (c : Char) : Bool :=
  let n := c.toNat
  (0x9 ≤ n && n ≤ 0xD) || n == 0x20 || n == 0x85 || n == 0xA0 || n == 0x1680 ||
    (0x2000 ≤ n && n ≤ 0x200A) || n == 0x2028 || n == 0x2029 || n == 0x202F || n == 0x205F ||
    n == 0x3000

/-- A text without the blanks at its start. -/
def trimStart (s : List Char) : List Char :=
  s.dropWhile isBlank

/-- A text without the blanks at its end. -/
def trimEnd (s : List Char) : List Char :=
  (s.reverse.dropWhile isBlank).reverse

/-- A text without the blanks at its two ends. -/
def trim (s : List Char) : List Char :=
  trimEnd (trimStart s)

/-- A text that holds nothing but blanks, so that trimming leaves nothing of it. -/
def allBlank (s : List Char) : Bool :=
  s.all isBlank

/-- Counts the words that begin in `s`, where `inWord` tells whether the character before `s`
belongs to a word. -/
def wordsStarting (inWord : Bool) : List Char → Nat
  | [] => 0
  | c :: s =>
    if isBlank c then wordsStarting false s
    else (if inWord then 0 else 1) + wordsStarting true s

/-- The number of words of a text, a word being a maximal stretch without blanks. -/
def wordCount (s : List Char) : Nat :=
  wordsStarting false s

/-! ### Letters up to case

The words looked for are made of ASCII letters, hyphens and Hangul syllables.  The only characters
whose Unicode lower-case form contains one of these are `A`–`Z`, the Kelvin sign (which gives `k`)
and the capital `İ` (which gives `i` and a combining dot); every other character may stand for
itself without changing what is found.  Simple case folding also leads from the long `ſ` to an ASCII
letter, but neither from the dotted nor from the dotless Turkish `i` to `i`. -/

/-- The small letter of an ASCII capital; any other character as it is. -/
def lowerAscii (c : Char) : Char :=
  if 'A' ≤ c ∧ c ≤ 'Z' then Char.ofNat (c.toNat + 32) else c

/-- The lower-case form of one character, as far as ASCII letters go. -/
def lowerChar (c : Char) : List Char :=
  if c = '\u212A' then ['k']
  else if c = '\u0130' then ['i', '\u0307']
  else [lowerAscii c]

/-- The lower-case form of a text, as far as ASCII letters go. -/
def lower (s : List Char) : List Char :=
  s.flatMap lowerChar

@[simp] theorem lower_append (s t : List Char) : lower (s ++ t) = lower s ++ lower t := by
  simp [lower]

/-- Simple case folding, as far as it leads to an ASCII letter. -/
def foldLetter (c : Char) : Char :=
  if c = '\u017F' then 's'
  else if c = '\u212A' then 'k'
  else lowerAscii c

/-! ### Digits

Numbers are written in digits of a base up to sixteen, in which small and capital letters are the
same.  Bytes are written three by three as four digits out of sixty-four; a last group of one or two
bytes is filled up with equals signs. -/

/-- The value of a hexadecimal digit. -/
def hexDigit? (c : Char) : Option Nat :=
  if c.isDigit then some (c.toNat - '0'.toNat)
  else if 'a' ≤ c ∧ c ≤ 'f' then some (c.toNat - 'a'.toNat + 10)
  else if 'A' ≤ c ∧ c ≤ 'F' then some (c.toNat - 'A'.toNat + 10)
  else none

/-- The value of a digit of a base. -/
def digit? (base : Nat) (c : Char) : Option Nat :=
  (hexDigit? c).filter fun d => d < base

/-- The number of a row of digits, zero if there are none; none if there is another character. -/
def numeral? (base : Nat) (s : List Char) : Option Nat :=
  s.foldlM (fun n c => (digit? base c).map fun d => base * n + d) 0

/-- The digits, in ascending order. -/
def base64Digits : Array Char :=
  "ABCDEFGHIJKLMNOPQRSTUVWXYZabcdefghijklmnopqrstuvwxyz0123456789+/".toList.toArray

/-- The digit of a number below sixty-four. -/
def base64Digit (n : Nat) : Char :=
  base64Digits.getD n '='

/-- Bytes in sixty-four digits. -/
def base64 : List UInt8 → List Char
  | [] => []
  | [a] =>
    let n := a.toNat * 16
    [base64Digit (n / 64), base64Digit (n % 64), '=', '=']
  | [a, b] =>
    let n := (a.toNat * 256 + b.toNat) * 4
    [base64Digit (n / 4096), base64Digit (n / 64 % 64), base64Digit (n % 64), '=']
  | a :: b :: c :: bytes =>
    let n := (a.toNat * 256 + b.toNat) * 256 + c.toNat
    [base64Digit (n / 262144), base64Digit (n / 4096 % 64), base64Digit (n / 64 % 64),
      base64Digit (n % 64)] ++ base64 bytes

/-! ### Finding and replacing -/

/-- Whether `w` is a contiguous part of the text. -/
def occurs (w : List Char) : List Char → Bool
  | [] => w.isEmpty
  | c :: s => w.isPrefixOf (c :: s) || occurs w s

/-- Replaces occurrences of `old` from left to right; `skip` characters of the text belong to the
occurrence replaced last and are passed over. -/
def replaceFrom (old new : List Char) : Nat → List Char → List Char
  | _, [] => []
  | skip + 1, _ :: s => replaceFrom old new skip s
  | 0, c :: s =>
    if old.isPrefixOf (c :: s) then new ++ replaceFrom old new (old.length - 1) s
    else c :: replaceFrom old new 0 s

/-- Every leftmost, non-overlapping occurrence of a non-empty `old` replaced by `new`. -/
def replaceAll (old new s : List Char) : List Char :=
  replaceFrom old new 0 s

/-- The length of a text in UTF-8 bytes. -/
def byteLength (s : List Char) : Nat :=
  (s.map Char.utf8Size).foldr (· + ·) 0

/-- Whether one string is a contiguous part of another. -/
def containsText (s w : String) : Bool :=
  occurs w.toList s.toList

/-! ### Cutting long texts

An output keeps its head and its tail around a note of how much was left out; an error keeps its
head. -/

/-- The longest output that is passed on whole. -/
def outputLimit : Nat := 8000

/-- How much of a longer output is kept at each end. -/
def outputEnd : Nat := 4000

/-- The longest error text that is recorded whole. -/
def errorLimit : Nat := 2000

/-- The note that stands for `count` characters left out of an output. -/
def omission (count : Nat) : List Char :=
  s!"\n\n... [truncated {count} chars] ...\n\n".toList

/-- An output cut down to its head, a note and its tail when it is too long. -/
def truncateOutput (s : List Char) : List Char :=
  let count := s.length
  if count ≤ outputLimit then s
  else s.take outputEnd ++ omission (count - 2 * outputEnd) ++ s.drop (count - outputEnd)

/-- An error text cut down to its head and three dots when it is too long. -/
def truncateError (s : List Char) : List Char :=
  if s.length ≤ errorLimit then s else s.take errorLimit ++ "...".toList

theorem truncateOutput_of_le {s : List Char} (h : s.length ≤ outputLimit) :
    truncateOutput s = s := by
  simp [truncateOutput, h]

theorem truncateError_of_le {s : List Char} (h : s.length ≤ errorLimit) :
    truncateError s = s := by
  simp [truncateError, h]

end AgentPipeline.Text

/-! ### Secrets

Every secret of at least four bytes is replaced by a marker, one secret after the other. -/

namespace AgentPipeline.Secrets

/-- What stands for a secret. -/
def marker : String :=
  "[REDACTED]"

/-- Shorter texts are too common to be treated as secrets. -/
def leastBytes : Nat := 4

/-- A text in which one secret has been replaced, if it is long enough. -/
def redactOne (text secret : List Char) : List Char :=
  if leastBytes ≤ Text.byteLength secret then Text.replaceAll secret marker.toList text else text

/-- A text in which all secrets have been replaced, one after the other. -/
def redact (secrets : List String) (text : String) : String :=
  String.ofList (secrets.foldl (fun t secret => redactOne t secret.toList) text.toList)

end AgentPipeline.Secrets
