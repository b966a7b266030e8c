/-
Nodes of YAML documents.

* `Node` — scalars, sequences and mappings with their tags;
* `Document` — the root of a document and the nodes with a name;
* `Document.ofTokens` — the document that tokens stand for.

Design notes: every name is given once, so a node that is referred to is found
by its name.  A node may refer to one that it is a part of.  The fuel bounds the
calls by the number of tokens.
-/
import Meetings.Yaml.Tag
import Meetings.Yaml.Token.Lexer

namespace Meetings.Yaml

/-- A node of a document. -/
inductive Node where
  | scalar (tag : Tag) (text : String)
  | sequence (tag : Tag) (items : List Node)
  | mapping (tag : Tag) (pairs : List (Node × Node))
  /-- The node of a name. -/
  | alias (name : String)
deriving Repr

/-- A document. -/
structure Document where
  root : Node
  /-- The nodes with a name; those that end later are in front. -/
  anchors : List (String × Node)
deriving Repr

/-- Where the reading of tokens stands. -/
structure Outline where
  rest : List Token
  /-- What the handles of tags stand for. -/
  handles : List (String × String) := [("!", "!"), ("!!", tagRoot)]
  /-- The names given so far. -/
  names : List String := []
  anchors : List (String × Node) := []

/-- Computations that read tokens. -/
abbrev Read := StateT Outline (Except YamlFault)

namespace Read

variable {α : Type}

/-- The tokens are no document. -/
def malformed : Read α := throw .malformed

/-- The next token. -/
def peek : Read Token := return ((← get).rest.head?).getD .streamEnd

/-- Moves past a token. -/
def skip : Read Unit := modify fun s => { s with rest := s.rest.tail }

/-- Moves past a token if it is the given one. -/
def skipIf (t : Token) : Read Bool := do
  if (← peek) = t then
    skip
    return true
  else return false

/-- An empty scalar. -/
def emptyNode : Node := .scalar .null ""

/-- The full name of a tag; the mark alone is none. -/
def tagName (handle : Option String) (suffix : String) : Read (Option String) := do
  match handle with
  | none => return if suffix = "!" then none else some suffix
  | some handle =>
    match (← get).handles.lookup handle with
    | none => malformed
    | some text => return if text ++ suffix = "!" then none else some (text ++ suffix)

/-- What stands in front of the content of a node. -/
structure Properties where
  anchor : Option String := none
  /-- The name of the tag; the inner option is empty for the mark alone. -/
  tag : Option (Option String) := none

/-- Reads the tag in front of a node. -/
def tagProperty : Read (Option (Option String)) := do
  match ← peek with
  | .tag handle suffix =>
    skip
    return some (← tagName handle suffix)
  | _ => return none

/-- Reads the name in front of a node. -/
def anchorProperty : Read (Option String) := do
  match ← peek with
  | .anchor name =>
    skip
    return some name
  | _ => return none

/-- Reads what stands in front of the content of a node: a name and a tag, in
either order. -/
def properties : Read Properties := do
  match ← anchorProperty with
  | some name => return ⟨some name, ← tagProperty⟩
  | none =>
    let tag ← tagProperty
    return ⟨← if tag.isSome then anchorProperty else pure none, tag⟩

/-- Gives a name, which must be new. -/
def declare (anchor : Option String) : Read Unit := do
  if let some name := anchor then
    if (← get).names.contains name then malformed
    modify fun s => { s with names := name :: s.names }

/-- Remembers the node of a name. -/
def record (anchor : Option String) (node : Node) : Read Node := do
  if let some name := anchor then
    modify fun s => { s with anchors := (name, node) :: s.anchors }
  return node

/-- The tag of a collection. -/
def collectionTag (p : Properties) (usual : Tag) : Tag :=
  match p.tag with
  | some (some name) => Tag.ofName name
  | _ => usual

/-- The tag of a scalar.  One without a tag has the type of its text when it is
plain; so has one with the mark alone, in quotes or not. -/
def scalarTag (p : Properties) (text : String) (plain : Bool) : Tag :=
  match p.tag with
  | some (some name) => Tag.ofName name
  | some none => Tag.ofPlain text
  | none => if plain then Tag.ofPlain text else .str

mutual

/-- Reads a node.  Block collections need `block`, and sequences that are no
deeper than the key in front of them need `indentless`. -/
def node : Nat → Bool → Bool → Read Node
  | 0, _, _ => malformed
  | fuel + 1, block, indentless => do
    if let .alias name := ← peek then
      skip
      if (← get).names.contains name then return .alias name else malformed
    else
      let p ← properties
      declare p.anchor
      let t ← peek
      let found ←
        if indentless && t = .blockEntry then do
          pure (Node.sequence (collectionTag p .seq) (← indentlessItems fuel []))
        else match t with
          | .scalar text plain => do
            skip
            pure (Node.scalar (scalarTag p text plain) text)
          | .flowSequenceStart => do
            skip
            pure (Node.sequence (collectionTag p .seq) (← flowItems fuel []))
          | .flowMappingStart => do
            skip
            pure (Node.mapping (collectionTag p .map) (← flowPairs fuel []))
          | .blockSequenceStart => do
            if !block then malformed
            skip
            pure (Node.sequence (collectionTag p .seq) (← blockItems fuel []))
          | .blockMappingStart => do
            if !block then malformed
            skip
            pure (Node.mapping (collectionTag p .map) (← blockPairs fuel []))
          | _ =>
            if p.anchor.isSome || p.tag.isSome then
              pure (Node.scalar (scalarTag p "" true) "")
            else malformed
      record p.anchor found

/-- Reads the items of a block sequence, behind those found. -/
def blockItems : Nat → List Node → Read (List Node)
  | 0, _ => malformed
  | fuel + 1, found => do
    if ← skipIf .blockEntry then
      let item ← nodeUnless fuel true false [.blockEntry, .blockEnd]
      blockItems fuel (item :: found)
    else if ← skipIf .blockEnd then return found.reverse
    else malformed

/-- Reads the items of a sequence without an indent, behind those found. -/
def indentlessItems : Nat → List Node → Read (List Node)
  | 0, _ => malformed
  | fuel + 1, found => do
    if ← skipIf .blockEntry then
      let item ← nodeUnless fuel true false [.blockEntry, .key, .value, .blockEnd]
      indentlessItems fuel (item :: found)
    else return found.reverse

/-- Reads the pairs of a block mapping, behind those found. -/
def blockPairs : Nat → List (Node × Node) → Read (List (Node × Node))
  | 0, _ => malformed
  | fuel + 1, found => do
    if ← skipIf .blockEnd then return found.reverse
    else
      let key ← do
        if ← skipIf .key then nodeUnless fuel true true [.key, .value, .blockEnd]
        else malformed
      let value ← do
        if ← skipIf .value then nodeUnless fuel true true [.key, .value, .blockEnd]
        else pure emptyNode
      blockPairs fuel ((key, value) :: found)

/-- Reads the items of a sequence in brackets, behind those found. -/
def flowItems : Nat → List Node → Read (List Node)
  | 0, _ => malformed
  | fuel + 1, found => do
    if ← skipIf .flowSequenceEnd then return found.reverse
    if !found.isEmpty then
      if !(← skipIf .flowEntry) then malformed
    if ← skipIf .key then
      let key ← nodeUnless fuel false false [.value, .flowEntry, .flowSequenceEnd]
      let value ← do
        if ← skipIf .value then nodeUnless fuel false false [.flowEntry, .flowSequenceEnd]
        else pure emptyNode
      flowItems fuel (.mapping .map [(key, value)] :: found)
    else if ← skipIf .flowSequenceEnd then return found.reverse
    else
      let item ← node fuel false false
      flowItems fuel (item :: found)

/-- Reads the pairs of a mapping in braces, behind those found. -/
def flowPairs : Nat → List (Node × Node) → Read (List (Node × Node))
  | 0, _ => malformed
  | fuel + 1, found => do
    if ← skipIf .flowMappingEnd then return found.reverse
    if !found.isEmpty then
      if !(← skipIf .flowEntry) then malformed
    if ← skipIf .key then
      let key ← nodeUnless fuel false false [.value, .flowEntry, .flowMappingEnd]
      let value ← do
        if ← skipIf .value then nodeUnless fuel false false [.flowEntry, .flowMappingEnd]
        else pure emptyNode
      flowPairs fuel ((key, value) :: found)
    else if ← skipIf .flowMappingEnd then return found.reverse
    else
      let key ← node fuel false false
      flowPairs fuel ((key, emptyNode) :: found)

/-- Reads a node, which is empty when one of some tokens is next. -/
def nodeUnless : Nat → Bool → Bool → List Token → Read Node
  | 0, _, _, _ => malformed
  | fuel + 1, block, indentless, ends => do
    if ends.contains (← peek) then return emptyNode
    else node fuel block indentless

end

/-- Reads the directives in front of a document. -/
def directives : Nat → Bool → Read Unit
  | 0, _ => malformed
  | fuel + 1, versioned => do
    match ← peek with
    | .directive (.version major) =>
      if versioned || major != 1 then malformed
      skip
      directives fuel true
    | .directive (.handle handle text) =>
      let s ← get
      if s.handles.any fun h => h.1 == handle then malformed
      set { s with handles := (handle, text) :: s.handles }
      skip
      directives fuel versioned
    | .directive .other =>
      skip
      directives fuel versioned
    | _ => return

/-- Moves past the markers of the ends of documents. -/
def skipDocumentEnds : Read Unit :=
  modify fun s => { s with rest := s.rest.dropWhile (· = .documentEnd) }

/-- Reads a document that begins with a marker. -/
def markedDocument (fuel : Nat) : Read Node := do
  -- A document may give the usual handles a meaning of its own, but each once.
  let usual := (← get).handles
  modify fun s => { s with handles := [] }
  directives fuel false
  modify fun s =>
    { s with handles := s.handles ++ usual.filter fun h => (s.handles.lookup h.1).isNone }
  if !(← skipIf .documentStart) then malformed
  match ← peek with
  | .directive _ | .documentStart | .documentEnd | .streamEnd => return emptyNode
  | _ => node fuel true false

/-- Reads the only document of a text; a text without one has none. -/
def document (fuel : Nat) : Read (Option Document) := do
  let root ← do
    match ← peek with
    | .streamEnd => pure none
    | .directive _ | .documentStart => some <$> markedDocument fuel
    | _ => some <$> node fuel true false
  skipDocumentEnds
  if (← peek) != .streamEnd then malformed
  return root.map (⟨·, (← get).anchors⟩)

end Read

/-- The document that tokens stand for, if there is any. -/
def Document.ofTokens (tokens : List Token) : Except YamlFault (Option Document) := do
  let (found, _) ← (Read.document (4 * tokens.length + 8)).run { rest := tokens }
  return found

end Meetings.Yaml
