import AgentPipeline.Decimal.Format
import AgentPipeline.Json.Basic

/-!
# Writing JSON texts

## Main definitions

* `Json.quoted` — a string with its quotes and escapes.
* `Json.compact` — a value on one line without blanks.
* `Json.pretty` — a value over several lines, two blanks a level.
-/

namespace AgentPipeline.Json

/-- A hexadecimal digit. -/
def hexChar (n : Nat) : Char :=
  if n < 10 then Char.ofNat ('0'.toNat + n) else Char.ofNat ('a'.toNat + n - 10)

/-- A character inside a string: quotes, backslashes and control characters are escaped. -/
def escaped (c : Char) : List Char :=
  if c = '"' then ['\\', '"']
  else if c = '\\' then ['\\', '\\']
  else if c = '\n' then ['\\', 'n']
  else if c = '\r' then ['\\', 'r']
  else if c = '\t' then ['\\', 't']
  else if c = '\x08' then ['\\', 'b']
  else if c = '\x0c' then ['\\', 'f']
  else if c.toNat < 0x20 then
    ['\\', 'u', '0', '0', hexChar (c.toNat / 16), hexChar (c.toNat % 16)]
  else [c]

/-- A string with its quotes. -/
def quoted (s : String) : String :=
  String.ofList ('"' :: s.toList.flatMap escaped ++ ['"'])

/-- A value that is no collection; a double that is no finite number has no text of its own. -/
def leaf : Json → String
  | null => "null"
  | bool true => "true"
  | bool false => "false"
  | int n => toString n
  | float x => (Decimal.scientific? x).getD "null"
  | str s => quoted s
  | arr _ => ""
  | obj _ => ""

mutual

/-- A value on one line without blanks. -/
def compact : Json → String
  | arr items => "[" ++ ",".intercalate (compactItems items) ++ "]"
  | obj fields => "\x7b" ++ ",".intercalate (compactFields fields) ++ "\x7d"
  | v => leaf v

/-- The texts of the items of an array. -/
def compactItems : List Json → List String
  | [] => []
  | v :: items => compact v :: compactItems items

/-- The texts of the fields of an object. -/
def compactFields : List (String × Json) → List String
  | [] => []
  | (k, v) :: fields => (quoted k ++ ":" ++ compact v) :: compactFields fields

end

/-- A new line that begins with two blanks a level. -/
def newline (level : Nat) : String :=
  "\n" ++ String.ofList (List.replicate (2 * level) ' ')

/-- Texts in brackets, each on a line of its own. -/
def block (level : Nat) (opening closing : String) (parts : List String) : String :=
  if parts.isEmpty then opening ++ closing
  else
    opening ++ newline (level + 1) ++ ("," ++ newline (level + 1)).intercalate parts ++
      newline level ++ closing

mutual

/-- A value over several lines, inside `level` open collections. -/
def prettyAt (level : Nat) : Json → String
  | arr items => block level "[" "]" (prettyItems level items)
  | obj fields => block level "\x7b" "\x7d" (prettyFields level fields)
  | v => leaf v

/-- The texts of the items of an array. -/
def prettyItems (level : Nat) : List Json → List String
  | [] => []
  | v :: items => prettyAt (level + 1) v :: prettyItems level items

/-- The texts of the fields of an object. -/
def prettyFields (level : Nat) : List (String × Json) → List String
  | [] => []
  | (k, v) :: fields => (quoted k ++ ": " ++ prettyAt (level + 1) v) :: prettyFields level fields

end

/-- A value over several lines, two blanks a level. -/
def pretty (v : Json) : String :=
  prettyAt 0 v

end AgentPipeline.Json
