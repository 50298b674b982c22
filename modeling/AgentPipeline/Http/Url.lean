import AgentPipeline.Http.Host
import AgentPipeline.Http.Path

/-!
# Addresses

An address is read leniently: backslashes may count as slashes, dots in a path are resolved, hosts
are given their only spelling, and what may not stand in an address is escaped.  Schemes that are
known to lead to a server or a file have rules of their own.

## Main definitions

* `Url`, `Url.text` — addresses and their text.
* `Url.read?` — the address of a text.
* `Url.target` — the part of an address that a server is asked for.
* `Url.withoutLogin?` — an address without user name and password, and these.
-/

namespace AgentPipeline.Http

/-- Where an address leads to, and who asks. -/
structure Authority where
  /-- The name of a user, with escapes. -/
  user : List Char := []
  /-- A password that is not empty, with escapes. -/
  password : Option (List Char) := none
  /-- May be empty. -/
  host : List Char
  /-- The port, unless it is the usual one of the scheme. -/
  port : Option Nat := none
deriving Repr, DecidableEq

/-- An address. -/
structure Url where
  scheme : String
  authority : Option Authority
  path : String
  query : Option String
  fragment : Option String
deriving Repr, DecidableEq

/-- The text of what an address leads to. -/
def Authority.text (a : Authority) : List Char :=
  let login := a.user ++ (a.password.map (':' :: ·)).getD []
  login ++ (if login.isEmpty then [] else ['@']) ++ a.host ++
    (a.port.map fun p => ':' :: Nat.toDigits 10 p).getD []

namespace Url

/-- The part of an address that a server is asked for. -/
def target (u : Url) : String :=
  u.path ++ (u.query.map ("?" ++ ·)).getD ""

/-- What stands between the scheme and the path.  A path that begins with two slashes must not be
taken for a host. -/
def lead (u : Url) : String :=
  match u.authority with
  | some a => "//" ++ String.ofList a.text
  | none => if ['/', '/'].isPrefixOf u.path.toList then "/." else ""

/-- The text of an address. -/
def text (u : Url) : String :=
  u.scheme ++ ":" ++ u.lead ++ u.target ++ (u.fragment.map ("#" ++ ·)).getD ""

/-- Whether an address names a host. -/
def hasHost (u : Url) : Bool :=
  u.authority.any fun a => !a.host.isEmpty

end Url

/-! ### Schemes -/

/-- The usual port of a scheme that leads to a server; none for other schemes. -/
def usualPort? : String → Option Nat
  | "http" | "ws" => some 80
  | "https" | "wss" => some 443
  | "ftp" => some 21
  | _ => none

/-- Whether a scheme leads to a server or a file. -/
def isSpecial (scheme : String) : Bool :=
  (usualPort? scheme).isSome || scheme == "file"

/-- How the parts of a path are told apart. -/
def pathStyle (scheme : String) : PathStyle :=
  if scheme = "file" then .file else if isSpecial scheme then .web else .plain

/-- The scheme in front of the first colon, in small letters, and what follows the colon. -/
def splitScheme? (s : List Char) : Option (String × List Char) :=
  let isSchemeChar (c : Char) : Bool := c.isAlphanum || c == '+' || c == '-' || c == '.'
  match s.takeWhile isSchemeChar, s.dropWhile isSchemeChar with
  | c :: cs, ':' :: rest =>
    if c.isAlpha then some (String.ofList ((c :: cs).map Char.toLower), rest) else none
  | _, _ => none

/-! ### Authorities -/

/-- The number of a port, which is none for an empty text and for the usual port. -/
def readPort? (scheme : String) (s : List Char) : Option (Option Nat) :=
  ((Text.numeral? 10 s).filter (· ≤ 65535)).map fun port =>
    if s.isEmpty ∨ usualPort? scheme = some port then none else some port

/-- What follows a mark. -/
def behind? (mark : Char) (s : List Char) : Option (List Char) :=
  match s.dropWhile (· ≠ mark) with
  | [] => none
  | _ :: rest => some rest

/-- What stands in front of the last `@`, and what follows it. -/
def splitLogin (s : List Char) : Option (List Char) × List Char :=
  match s.reverse.span (· ≠ '@') with
  | (host, _ :: login) => (some login.reverse, host.reverse)
  | (host, []) => (none, host.reverse)

/-- The host of a text, and what follows it: colons in brackets are part of the host. -/
def splitHost (inBrackets : Bool) : List Char → List Char × List Char
  | [] => ([], [])
  | c :: s =>
    if c = ':' ∧ !inBrackets then ([], c :: s)
    else
      let (host, rest) := splitHost ((inBrackets || c = '[') && c != ']') s
      (c :: host, rest)

/-- What an address leads to. -/
def readAuthority? (scheme : String) (s : List Char) : Option Authority := do
  let (login, s) := splitLogin s
  let (host, port) := splitHost false s
  let host ← if isSpecial scheme then readHost? host else readOpaqueHost? host
  let port ← match port with
    | [] => some none
    | _ :: port => if host.isEmpty then none else readPort? scheme port
  if host.isEmpty ∧ login.any (· ≠ [':']) then none
  else
    let login := login.getD []
    let password := (behind? ':' login).filter fun p => !p.isEmpty
    some {
      user := escape userEscapes (login.takeWhile (· ≠ ':'))
      password := password.map (escape userEscapes)
      host, port }

/-! ### Reading -/

/-- What an address leads to, and its path. -/
structure Place where
  authority : Option Authority
  path : List Char

/-- Whether a character ends the part of an address in front of the path. -/
def endsAuthority (special : Bool) (c : Char) : Bool :=
  c == '/' || (special && c == '\\')

/-- What follows the two slashes of a scheme that leads to a server, or of one that is not known. -/
def readServer? (scheme : String) (s : List Char) : Option Place := do
  let ends := endsAuthority (isSpecial scheme)
  let authority ← readAuthority? scheme (s.takeWhile fun c => !ends c)
  let path := s.dropWhile fun c => !ends c
  return ⟨some authority,
    if path.isEmpty ∧ !isSpecial scheme then [] else pathText (pathParts (pathStyle scheme) path)⟩

/-- What follows the scheme of files.  A drive is no host, and makes the host in front of it
unnecessary. -/
def readFile? (s : List Char) : Option Place := do
  let slashes := (s.take 2).takeWhile isSlash
  let name := (s.drop 2).takeWhile fun c => !isSlash c
  let (host, path) ←
    if slashes.length < 2 ∨ isDrive name then some ([], s.drop (slashes.length))
    else if name.isEmpty then some ([], s.drop 2)
    else (readHost? name).map fun host => (host, s.drop (2 + name.length))
  let parts := pathParts .file path
  let hasDrive := parts.head?.any isDrive
  let host := if hasDrive ∨ host = "localhost".toList then [] else host
  return ⟨some { host }, pathText parts⟩

/-- What follows the scheme of an address, up to a query. -/
def readPlace? (scheme : String) (s : List Char) : Option Place :=
  if scheme = "file" then readFile? s
  else if isSpecial scheme then readServer? scheme (s.dropWhile isSlash)
  else
    match s with
    | '/' :: '/' :: s => readServer? scheme s
    | '/' :: s => some ⟨none, pathText (pathParts .plain ('/' :: s))⟩
    | s => some ⟨none, escape [] s⟩

/-- Whether a character is passed over at the ends of an address. -/
def isOuterBlank (c : Char) : Bool :=
  c.toNat ≤ 0x20

/-- An address without blanks around it and without tabs and line breaks. -/
def tidied (s : List Char) : List Char :=
  let s := s.dropWhile isOuterBlank
  let s := (s.reverse.dropWhile isOuterBlank).reverse
  s.filter fun c => c ≠ '\t' ∧ c ≠ '\n' ∧ c ≠ '\r'

/-- The address of a text; none if there is no such address. -/
def Url.read? (text : String) : Option Url := do
  let (scheme, s) ← splitScheme? (tidied text.toList)
  let fragment := behind? '#' s
  let s := s.takeWhile (· ≠ '#')
  let query := behind? '?' s
  let place ← readPlace? scheme (s.takeWhile (· ≠ '?'))
  return {
    scheme
    authority := place.authority
    path := String.ofList place.path
    query := query.map fun q => String.ofList (escape (queryEscapes (isSpecial scheme)) q)
    fragment := fragment.map fun f => String.ofList (escape fragmentEscapes f) }

/-! ### Logging in -/

/-- An address without user name and password, with these; none if the name is no text, or if there
is neither.  A password that is no text is left out. -/
def Url.withoutLogin? (u : Url) : Option (Url × String × Option String) := do
  let a ← u.authority
  let user ← unescape? a.user
  let password := a.password.bind unescape?
  if user = "" ∧ password.isNone then none
  else some ({ u with authority := some { a with user := [], password := none } }, user, password)

end AgentPipeline.Http
