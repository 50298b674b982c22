import AgentPipeline.Design.Format
import AgentPipeline.Yaml.Value

/-!
# Reading designs from texts and files

A design is a JSON text or a YAML text; the extension of a file tells which.

## Main definitions

* `FileContent` — what is found under a path, and `fileExtension?` — what the path says about it.
* `Design.ofText`, `Design.ofFile` — the design of a text and of a file.
-/

namespace AgentPipeline

/-! ### Files -/

/-- What is found under a path. -/
inductive FileContent where
  | missing
  /-- A directory, or something that may not be read. -/
  | unreadable
  | bytes (content : ByteArray)

/-- The number of bytes of a file. -/
def FileContent.size : FileContent → Nat
  | bytes content => content.size
  | missing | unreadable => 0

/-- The text of a file that is not missing. -/
def FileContent.text : FileContent → Except Failure String
  | bytes content =>
    match String.fromUTF8? content with
    | some s => .ok s
    | none => .error (.unreadable .file)
  | missing | unreadable => .error (.unreadable .file)

/-- The last part of a path that is not empty or a single dot. -/
def fileName (path : String) : List Char :=
  (((path.toList.splitOn '/').filter fun part => part ≠ [] ∧ part ≠ ['.']).getLast?).getD []

/-- What stands behind the last point of a file name, unless the point is its first character. -/
def fileExtension? (path : String) : Option String :=
  match (fileName path).reverse.span (· ≠ '.') with
  | (_, []) | (_, ['.']) => none
  | (ext, _) => some (String.ofList ext.reverse)

/-! ### Designs -/

/-- The formats of design texts. -/
inductive DesignFormat where
  | json
  | yaml
deriving Repr, DecidableEq

/-- The format of a file: YAML if its extension says so, else JSON. -/
def DesignFormat.ofPath (path : String) : DesignFormat :=
  match fileExtension? path with
  | some "yaml" | some "yml" => yaml
  | _ => json

/-- The design of a YAML text. -/
def Design.ofYamlText (text : String) : Except Failure Design :=
  match Yaml.Value.read text with
  | .error fault => .error fault.failure
  | .ok v =>
    match v.toJson with
    | .error fault => .error (.of .json fault.message)
    | .ok j => Design.ofDocument j

/-- The design of a text. -/
def Design.ofText : DesignFormat → String → Except Failure Design
  | .json, text => Design.ofJsonText text
  | .yaml, text => Design.ofYamlText text

/-- The design of a file. -/
def Design.ofFile (path : String) (file : FileContent) : Except Failure Design :=
  match file with
  | .missing => .error (.of .config ("Design file not found: " ++ path))
  | file => do
    let text ← file.text
    Design.ofText (.ofPath path) text

end AgentPipeline
