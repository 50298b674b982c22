import AgentPipeline.Http.Domain
import AgentPipeline.Http.Path

/-!
# Hosts

The host of an address is a domain name or a number.  Numbers of 32 bits (IPv4) are written in up to
four parts, decimal, octal or hexadecimal; numbers of 128 bits (IPv6) are written in brackets, in
eight pieces of which a row of zeros can be left out.  Every host has one text.

## Main definitions

* `readIpv4?`, `ipv4Text` — numbers of 32 bits.
* `readIpv6?`, `ipv6Text` — numbers of 128 bits.
* `readHost?` — the text of the host of a web server.
* `readOpaqueHost?` — the text of any other host.
-/

namespace AgentPipeline.Http

/-! ### Numbers of 32 bits -/

/-- A part of a number: hexadecimal behind `0x`, octal behind a zero, else decimal. -/
def readPart? : List Char → Option Nat
  | [] => none
  | '0' :: 'x' :: s => Text.numeral? 16 s
  | '0' :: c :: s => Text.numeral? 8 (c :: s)
  | s => Text.numeral? 10 s

/-- The parts of a text between dots, but for nothing behind a last dot. -/
def dottedParts (s : List Char) : List (List Char) :=
  let parts := s.splitOn '.'
  if 1 < parts.length ∧ parts.getLast? = some [] then parts.dropLast else parts

/-- Whether a name can only be a number: its last part is one, or has decimal digits only. -/
def endsInNumber (s : List Char) : Bool :=
  (dottedParts s).getLast?.any fun part =>
    (readPart? part).isSome || (!part.isEmpty && part.all Char.isDigit)

/-- The number with the given parts: all but the last are bytes. -/
def joinParts? (parts : List Nat) : Option Nat :=
  match parts.reverse with
  | [] => none
  | last :: front =>
    let room := Nat.pow 256 (4 - front.length)
    if front.length < 4 ∧ last < room ∧ front.all (· < 256) then
      some (front.reverse.foldl (fun n b => 256 * n + b) 0 * room + last)
    else none

/-- The number of a text with dots. -/
def readIpv4? (s : List Char) : Option Nat :=
  ((dottedParts s).mapM readPart?).bind joinParts?

/-- The text of a number of 32 bits: its four bytes. -/
def ipv4Text (n : Nat) : List Char :=
  ['.'].intercalate ([3, 2, 1, 0].map fun i => Nat.toDigits 10 (n / Nat.pow 256 i % 256))

/-! ### Numbers of 128 bits -/

/-- Up to four hexadecimal digits. -/
def readPiece? (s : List Char) : Option Nat :=
  if s.isEmpty ∨ 4 < s.length then none else Text.numeral? 16 s

/-- A decimal byte without a zero in front. -/
def readByte? (s : List Char) : Option Nat :=
  if s.isEmpty ∨ (1 < s.length ∧ s.head? = some '0') ∨ 3 < s.length then none
  else (Text.numeral? 10 s).filter (· < 256)

/-- Four decimal bytes as two pieces. -/
def readBytes? (s : List Char) : Option (List Nat) :=
  match (s.splitOn '.').mapM readByte? with
  | some [a, b, c, d] => some [256 * a + b, 256 * c + d]
  | _ => none

/-- The pieces between colons, the last of which may be bytes. -/
def readPieces? : List (List Char) → Option (List Nat)
  | [] => some []
  | [s] => if s.contains '.' then readBytes? s else (readPiece? s).map ([·])
  | s :: parts => do
    let piece ← readPiece? s
    return piece :: (← readPieces? parts)

/-- What stands in front of the first two colons of a text and what follows them. -/
def splitAtGap? : List Char → Option (List Char × List Char)
  | [] => none
  | ':' :: ':' :: s => some ([], s)
  | c :: s => (splitAtGap? s).map fun (front, behind) => (c :: front, behind)

/-- The pieces of a text without a gap. -/
def readRow? (s : List Char) : Option (List Nat) :=
  if s.isEmpty then some [] else readPieces? (s.splitOn ':')

/-- The eight pieces of a number of 128 bits; a gap stands for at least one zero. -/
def readIpv6? (s : List Char) : Option (List Nat) :=
  match splitAtGap? s with
  | none => (readRow? s).filter fun pieces => pieces.length = 8
  | some (front, behind) => do
    let front ← if front.contains '.' then none else readRow? front
    let behind ← readRow? behind
    let known := front.length + behind.length
    if known < 8 then some (front ++ List.replicate (8 - known) 0 ++ behind) else none

/-- The place and the length of the first longest row of zeros; `place` is that of the list. -/
def longestRow (place : Nat) : List Nat → Nat × Nat
  | [] => (place, 0)
  | n :: pieces =>
    let here := ((n :: pieces).takeWhile (· = 0)).length
    let later := longestRow (place + 1) pieces
    if later.2 ≤ here then (place, here) else later

/-- Pieces between colons. -/
def rowText (pieces : List Nat) : List Char :=
  [':'].intercalate (pieces.map (Nat.toDigits 16))

/-- The text of eight pieces, without the first longest row of zeros. -/
def ipv6Text (pieces : List Nat) : List Char :=
  let (place, length) := longestRow 0 pieces
  if length < 2 then rowText pieces
  else rowText (pieces.take place) ++ [':', ':'] ++ rowText (pieces.drop (place + length))

/-- The text of what stands in brackets. -/
def readBracketed? (s : List Char) : Option (List Char) :=
  if s.getLast? = some ']' then
    (readIpv6? s.dropLast).map fun pieces => '[' :: ipv6Text pieces ++ [']']
  else none

/-! ### Hosts -/

/-- The text of the host of a web server.  It may be escaped. -/
def readHost? (s : List Char) : Option (List Char) :=
  match s with
  | '[' :: s => readBracketed? s
  | s => do
    let name ← asciiDomain? (← unescape? s).toList
    if name.isEmpty then none
    else if endsInNumber name then (readIpv4? name).map ipv4Text
    else some name

/-- The characters that no host has. -/
def forbiddenInHost : List Char :=
  [Char.ofNat 0, ' ', '#', '/', ':', '<', '>', '?', '@', '[', '\\', ']', '^', '|']

/-- The text of a host that is not known to be a web server.  It may be empty. -/
def readOpaqueHost? (s : List Char) : Option (List Char) :=
  match s with
  | '[' :: s => readBracketed? s
  | s => if s.any forbiddenInHost.contains then none else some (escape [] s)

/-- The characters of which the text of a host that is asked must consist. -/
def isHostChar (c : Char) : Bool :=
  !(['"', '`', '{', '}'].contains c)

end AgentPipeline.Http
