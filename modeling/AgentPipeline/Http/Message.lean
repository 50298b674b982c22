import AgentPipeline.Text.Basic

/-!
# Messages of web servers

An answer begins with a line that tells its status, followed by headers and, behind an empty line, a
body.  A server may send preliminary answers, whose status is below 200; the answer proper then
comes behind their headers.

## Main definitions

* `Message`, `Message.read?` — the head of an answer and what follows it.
* `receive?` — the answer proper.
-/

namespace AgentPipeline.Http

/-- The head of an answer, and what follows it. -/
structure Message where
  status : Nat
  /-- Names in small letters. -/
  headers : List (String × String)
  rest : List Char
deriving Repr, DecidableEq

/-- A line without its end. -/
def withoutReturn (line : List Char) : List Char :=
  if line.getLast? = some '\r' then line.dropLast else line

/-- The lines up to an empty one, and what follows that; `line` is the line so far, in reverse.
Empty lines in front are passed over. -/
def splitHead? (lines : List (List Char)) (line : List Char) :
    List Char → Option (List (List Char) × List Char)
  | [] => none
  | '\n' :: s =>
    match withoutReturn line.reverse with
    | [] => if lines.isEmpty then splitHead? [] [] s else some (lines.reverse, s)
    | line => splitHead? (line :: lines) [] s
  | c :: s => splitHead? lines (c :: line) s

/-- The status that the first line of an answer tells. -/
def readStatus? (line : List Char) : Option Nat :=
  match line with
  | 'H' :: 'T' :: 'T' :: 'P' :: '/' :: '1' :: '.' :: minor :: ' ' :: a :: b :: c :: reason =>
    if (minor = '0' ∨ minor = '1') ∧ reason.head?.all (· = ' ') then Text.numeral? 10 [a, b, c]
    else none
  | _ => none

/-- The characters of names of headers. -/
def isHeaderNameChar (c : Char) : Bool :=
  c.isAlphanum || "!#$%&'*+-.^_|~`".toList.contains c

/-- The header of a line. -/
def readHeader? (line : List Char) : Option (String × String) :=
  match line.span (· ≠ ':') with
  | (name, _ :: value) =>
    if name.isEmpty ∨ !name.all isHeaderNameChar then none
    else
      let isBlank (c : Char) : Bool := c == ' ' || c == '\t'
      let value := ((value.dropWhile isBlank).reverse.dropWhile isBlank).reverse
      some (String.ofList (name.map Char.toLower), String.ofList value)
  | (_, []) => none

/-- The head of an answer, and what follows it. -/
def Message.read? (s : List Char) : Option Message := do
  let (lines, rest) ← splitHead? [] [] s
  let status ← readStatus? (lines.headD [])
  let headers ← (lines.drop 1).mapM readHeader?
  return { status, headers, rest }

/-- A number of bytes. -/
def readSize? (s : String) : Option Nat :=
  if s.isEmpty then none else Text.numeral? 10 s.toList

/-- The body of an answer, which is as long as the headers say; nothing if not so much follows. -/
def Message.body (m : Message) : String :=
  match (m.headers.lookup "content-length").bind readSize? with
  | none => String.ofList m.rest
  | some size =>
    let bytes := (String.ofList m.rest).toUTF8
    if bytes.size < size then "" else (String.fromUTF8? (bytes.extract 0 size)).getD ""

/-- Whether there is such a status. -/
def isStatus (status : Nat) : Bool :=
  100 ≤ status && status ≤ 999

/-- Whether an answer with a status is preliminary. -/
def isPreliminary (status : Nat) : Bool :=
  status < 200 && status != 101

/-- The status and the body of the first answer in a text that is not preliminary; `fuel` bounds the
number of preliminary ones. -/
def firstAnswer? : (fuel : Nat) → List Char → Option (Nat × String)
  | 0, _ => none
  | fuel + 1, s => do
    let m ← Message.read? s
    if !isStatus m.status then none
    else if isPreliminary m.status then firstAnswer? fuel m.rest
    else if m.status = 101 then some (m.status, "")
    else some (m.status, m.body)

/-- What a status and a body amount to: behind a preliminary status the answer proper follows, and
there is no body when the server changes to another protocol. -/
def receive? (status : Nat) (body : String) : Option (Nat × String) :=
  if !isStatus status then none
  else if isPreliminary status then firstAnswer? body.length body.toList
  else if status = 101 then some (status, "")
  else some (status, body)

end AgentPipeline.Http
