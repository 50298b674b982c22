import AgentPipeline.Yaml.Token

/-!
# Nodes of a document

The tokens of a document are put together to a tree.  An alias refers to the node with an anchor;
anchors are numbered, and the number is what an alias keeps.  Where a document cannot be read any
further, its tree is cut off: what is in front of the cut can still be looked at.

## Main definitions

* `Node` — scalars, aliases, lists and maps.
* `Build` — the collections that are open while a tree is being put together.
* `Build.step` — what a token does to them.
* `Document.ofTokens` — the first document of a text, with what is behind it.
-/

namespace AgentPipeline.Yaml

/-- A node of a document.  Anchors are numbers. -/
inductive Node where
  | scalar (anchor : Option Nat) (text : List Char) (plain : Bool)
  | alias (target : Nat)
  | seq (anchor : Option Nat) (items : List Node)
  | map (anchor : Option Nat) (entries : List (Node × Node))
  /-- The rest of a document that cannot be read any further. -/
  | cut
deriving Inhabited

/-- The node of a place where nothing is written. -/
def Node.empty (anchor : Option Nat) : Node :=
  .scalar anchor [] true

/-- The forms of collections. -/
inductive Form where
  /-- A list with dashes. -/
  | blockSeq
  /-- A list with dashes that are not further to the right than the key in front of it. -/
  | looseSeq
  | blockMap
  | flowSeq
  | flowMap
  /-- A key with its value that is an item of a list in brackets. -/
  | pair
deriving Repr, DecidableEq

/-- What comes next in an open collection. -/
inductive Awaiting where
  /-- The first item or entry, or the end. -/
  | first
  /-- What stands between items or entries, or the end. -/
  | separator
  /-- An item or entry. -/
  | item
  /-- A key behind its indicator. -/
  | key
  /-- The indicator of a value. -/
  | value
  /-- A value behind its indicator. -/
  | content
  /-- Whatever comes behind a key that has no value. -/
  | noValue
deriving Repr, DecidableEq

/-- An open collection. -/
structure Open where
  form : Form
  anchor : Option Nat
  awaiting : Awaiting
  /-- The nodes so far, in reverse; in a map keys and values take turns. -/
  nodes : List Node := []

/-- Nodes that take turns as keys and values, paired up; a last key without a value is cut off. -/
def pairUp : List Node → List (Node × Node)
  | k :: v :: nodes => (k, v) :: pairUp nodes
  | [k] => [(k, .cut)]
  | [] => []

namespace Open

/-- The node of a collection that is complete. -/
def node (o : Open) : Node :=
  match o.form with
  | .blockSeq | .looseSeq | .flowSeq => .seq o.anchor o.nodes.reverse
  | .blockMap | .flowMap | .pair => .map o.anchor (pairUp o.nodes.reverse)

/-- The collection with one more node. -/
def take (o : Open) (n : Node) : Open :=
  match o.form with
  | .blockSeq | .looseSeq | .flowSeq => { o with nodes := n :: o.nodes, awaiting := .separator }
  | .blockMap | .flowMap | .pair =>
    match o.awaiting with
    | .key => { o with nodes := n :: o.nodes, awaiting := .value }
    | .value | .content => { o with nodes := n :: o.nodes, awaiting := .separator }
    | .noValue => { o with nodes := n :: o.nodes, awaiting := .separator }
    | .first | .separator | .item => { o with nodes := n :: o.nodes, awaiting := .noValue }

/-- The collection if nothing more of it can be read. -/
def cutOff (o : Open) (n : Node) : Node :=
  { o with nodes := n :: o.nodes }.node

/-- Whether a collection ends in front of a token that belongs behind it. -/
def endsBefore (o : Open) (t : Token) : Bool :=
  o.awaiting == .separator && (o.form == .pair || (o.form == .looseSeq && t != .blockEntry))

/-- Whether a token behind an indicator shows that nothing is written there. -/
def leavesEmpty (o : Open) (t : Token) : Bool :=
  match o.form, o.awaiting with
  | .blockSeq, .item => t == .blockEntry || t == .blockEnd
  | .looseSeq, .item => t == .blockEntry || t == .key || t == .value || t == .blockEnd
  | .blockMap, .key | .blockMap, .content => t == .key || t == .value || t == .blockEnd
  | .pair, .key => t == .value || t == .flowEntry || t == .flowSeqEnd
  | .pair, .content => t == .flowEntry || t == .flowSeqEnd
  | .flowMap, .key => t == .value || t == .flowEntry || t == .flowMapEnd
  | .flowMap, .content => t == .flowEntry || t == .flowMapEnd
  | .blockMap, .value | .pair, .value | .flowMap, .value => t != .value
  | .flowMap, .noValue => true
  | _, _ => false

/-- What a token that is no node leads a collection to await. -/
def indicated? (o : Open) (t : Token) : Option Awaiting :=
  match o.form, o.awaiting, t with
  | .blockSeq, .separator, .blockEntry => some .item
  | .looseSeq, .separator, .blockEntry => some .item
  | .flowSeq, .separator, .flowEntry => some .item
  | .blockMap, .separator, .key => some .key
  | .flowMap, .separator, .flowEntry => some .item
  | .flowMap, .first, .key => some .key
  | .flowMap, .item, .key => some .key
  | .blockMap, .value, .value => some .content
  | .flowMap, .value, .value => some .content
  | .pair, .value, .value => some .content
  | _, _, _ => none

/-- Whether a token closes a collection. -/
def closedBy (o : Open) (t : Token) : Bool :=
  match o.form, o.awaiting with
  | .blockSeq, .separator => t == .blockEnd
  | .blockMap, .separator => t == .blockEnd
  | .flowSeq, .first | .flowSeq, .separator | .flowSeq, .item => t == .flowSeqEnd
  | .flowMap, .first | .flowMap, .separator | .flowMap, .item => t == .flowMapEnd
  | _, _ => false

/-- Whether a node may come next. -/
def awaitsNode (o : Open) : Bool :=
  match o.awaiting with
  | .first | .item | .key | .content => true
  | .separator | .value | .noValue => false

end Open

/-- A tree that is being put together. -/
structure Build where
  /-- The open collections, the innermost first. -/
  frames : List Open := []
  root : Option Node := none
  /-- The anchor of the next node. -/
  anchor : Option Nat := none
  /-- The number of every anchor's name, the latest first. -/
  names : List (List Char × Nat) := []
  /-- What has been written: one for a scalar or an alias, one for either end of a collection. -/
  size : Nat := 0
  /-- A token that was looked at but belongs behind the tree. -/
  unread : Option Token := none
  /-- Whether a token did not fit. -/
  failed : Bool := false

namespace Build

/-- Puts a complete node in its place. -/
def complete (b : Build) (n : Node) : Build :=
  let b := { b with anchor := none, size := b.size + 1 }
  match b.frames with
  | [] => { b with root := some n }
  | o :: frames => { b with frames := o.take n :: frames }

/-- Opens a collection. -/
def openCollection (b : Build) (form : Form) (awaiting : Awaiting) : Build :=
  { b with
    frames := ⟨form, b.anchor, awaiting, []⟩ :: b.frames
    anchor := none
    size := b.size + 1 }

/-- Closes the innermost collection. -/
def close (b : Build) : Build :=
  match b.frames with
  | [] => b
  | o :: frames => { b with frames }.complete o.node

/-- The tree with a token that does not fit. -/
def fail (b : Build) : Build :=
  { b with failed := true }

/-- The number of a name's anchor.  A new anchor gets the number of names that are known. -/
def number? (b : Build) (name : List Char) : Option Nat :=
  (b.names.find? fun n => n.1 = name).map (·.2)

/-- The tree with an anchor for the next node. -/
def setAnchor (b : Build) (name : List Char) : Build :=
  let number := (b.names.map (·.1)).eraseDups.length
  { b with anchor := some number, names := (name, number) :: b.names }

/-- A token that is a node, or with which a node begins; none for other tokens. -/
def beginNode? (b : Build) : Token → Option Build
  | .scalar text plain => some (b.complete (.scalar b.anchor text plain))
  | .flowSeqStart => some (b.openCollection .flowSeq .first)
  | .flowMapStart => some (b.openCollection .flowMap .first)
  | .blockSeqStart => some (b.openCollection .blockSeq .separator)
  | .blockMapStart => some (b.openCollection .blockMap .separator)
  | .alias name =>
    if b.anchor.isSome then none else (b.number? name).map fun n => b.complete (.alias n)
  | .anchor name => if b.anchor.isSome then none else some (b.setAnchor name)
  | _ => none

/-- The tree with the node that begins with a token, if one does. -/
def beginNode (b : Build) (t : Token) : Build :=
  (b.beginNode? t).getD b.fail

/-- Whether a token begins a list whose dashes are not further to the right than the key in front of
it. -/
def beginsLooseSeq (b : Build) (t : Token) : Bool :=
  t == .blockEntry && b.frames.head?.any fun o =>
    o.form == .blockMap && (o.awaiting == .key || o.awaiting == .content)

/-- What one token does, `again` being what it does to a tree that had something completed without
reading it. -/
def stepOnce (again : Build → Build) (b : Build) (t : Token) : Build :=
  if b.beginsLooseSeq t then again (b.openCollection .looseSeq .separator)
  else if b.anchor.isSome then
    match b.beginNode? t with
    | some b => b
    | none => again (b.complete (.empty b.anchor))
  else
    match b.frames with
    | [] => b.beginNode t
    | o :: frames =>
      if o.leavesEmpty t then
        let b := b.complete (.empty none)
        if o.form = .pair ∧ o.awaiting = .key then b else again b
      else if o.closedBy t then b.close
      else if o.endsBefore t then again b.close
      else
        match o.indicated? t with
        | some awaiting => { b with frames := { o with awaiting } :: frames }
        | none =>
          if !o.awaitsNode then b.fail
          else if o.form = .flowSeq ∧ t = .key then b.openCollection .pair .key
          else b.beginNode t

/-- More than anything that one token can complete without being read. -/
def mostMoves : Nat := 8

/-- What a token does to a tree; `moves` bounds what is completed without reading it. -/
def stepWithin : (moves : Nat) → Build → Token → Build
  | 0, b, _ => b.fail
  | moves + 1, b, t =>
    if b.root.isSome then { b with unread := some t }
    else stepOnce (fun b => stepWithin moves b t) b t

/-- What a token does to a tree. -/
def step (b : Build) (t : Token) : Build :=
  b.stepWithin mostMoves t

/-- Reads tokens until the tree is complete or one does not fit: the tree, and the tokens behind
it. -/
def run : Build → List Token → Build × List Token
  | b, [] => (b, [])
  | b, t :: tokens =>
    let b := b.step t
    if b.failed then (b, [])
    else if b.root.isSome then (b, b.unread.toList ++ tokens)
    else run b tokens

/-- The root, cut off where nothing more could be read. -/
def result (b : Build) : Node :=
  b.root.getD (b.frames.foldl (fun n o => o.cutOff n) .cut)

end Build

/-- What is behind a document. -/
inductive Sequel where
  /-- Nothing. -/
  | nothing
  /-- Something that cannot be read, and that shows only when the document is looked at. -/
  | unreadable
  /-- Another document, or something that is none. -/
  | another
deriving Repr, DecidableEq

/-- What a text holds. -/
structure Document where
  /-- The root of the first document. -/
  root : Node
  /-- What is written in it: one for a scalar or an alias, one for either end of a collection. -/
  size : Nat
  sequel : Sequel

namespace Document

/-- A document of which nothing can be read. -/
def illegible : Document :=
  ⟨.cut, 0, .unreadable⟩

/-- A document in which nothing is written. -/
def blank (sequel : Sequel) : Document :=
  ⟨.empty none, 1, sequel⟩

/-- The tokens behind the lines that announce a version, of which there may be one. -/
def afterVersion? : List Token → Option (List Token)
  | .version major minor :: .documentStart :: tokens =>
    if major = 1 ∧ (minor = 1 ∨ minor = 2) then some (.documentStart :: tokens) else none
  | .version _ _ :: _ => none
  | tokens => some tokens

/-- What the tokens behind the root of a document mean. -/
def sequelOf : List Token → Sequel
  | [] => .unreadable
  | .textEnd :: _ => .nothing
  | .documentEnd :: behind =>
    match behind.dropWhile (· == .documentEnd) with
    | .textEnd :: _ => .nothing
    | _ => .another
  | _ => .another

/-- The document whose root the given tokens begin with. -/
def ofRootTokens (tokens : List Token) : Document :=
  let (b, behind) := Build.run {} tokens
  ⟨b.result, b.size, sequelOf behind⟩

/-- What a text with the given tokens holds. -/
def ofTokens (tokens : List Token) : Document :=
  match afterVersion? tokens with
  | none => illegible
  | some (.textEnd :: _) => blank .nothing
  | some (.documentStart :: tokens) =>
    match tokens with
    | .version _ _ :: _ | .documentStart :: _ | .documentEnd :: _ | .textEnd :: _ =>
      blank (sequelOf tokens)
    | _ => ofRootTokens tokens
  | some tokens => ofRootTokens tokens

end Document

end AgentPipeline.Yaml
