/-
The tokens of a YAML document.

* `tokens` — the tokens of a text.

Design notes: a node on one line may turn out to be a key, when a colon follows
it.  `Lexer.keys` holds where such nodes begin, one for each depth of brackets;
when the colon comes, the token of the key, and perhaps that of the start of a
mapping, is put in front of the node.
-/
import Meetings.Yaml.Scalar
import Meetings.Yaml.Token.Property

namespace Meetings.Yaml

/-- A node that may turn out to be a key. -/
structure KeyStart where
  /-- How many brackets are open around it. -/
  depth : Nat
  /-- How many tokens stand in front of it. -/
  token : Nat
  /-- It stands where nothing but a key may stand. -/
  required : Bool
  index : Nat
  line : Nat
  column : Nat
deriving Repr

/-- The tokens found so far, with what the next ones depend on. -/
structure Lexer where
  cursor : Cursor
  tokens : Array Token := #[]
  /-- How many brackets are open. -/
  depth : Nat := 0
  /-- The indent of the block collection around, and of those around it. -/
  indent : Int := -1
  indents : List Int := []
  /-- A node that begins here may be a key. -/
  keyAllowed : Bool := true
  keys : List KeyStart := []

/-- Computations that find tokens. -/
abbrev Lex := StateT Lexer (Except YamlFault)

namespace Lex

variable {α : Type}

/-- The text is no document. -/
def malformed : Lex α := throw .malformed

/-- Moves the cursor. -/
def scan (action : Scan α) : Lex α := do
  let s ← get
  let (a, cursor) ← action.run s.cursor
  set { s with cursor := cursor }
  return a

/-- Adds a token. -/
def push (t : Token) : Lex Unit := modify fun s => { s with tokens := s.tokens.push t }

/-- Puts a token in front of those that follow so many. -/
def insert (place : Nat) (t : Token) : Lex Unit :=
  modify fun s => { s with tokens := s.tokens.insertIdxIfInBounds place t }

/-- Whether a node that begins next may be a key. -/
def allowKey (allowed : Bool) : Lex Unit := modify fun s => { s with keyAllowed := allowed }

/-- Gives up the nodes of a class as keys; one that had to be a key is a fault. -/
def dropKeys (p : KeyStart → Bool) : Lex Unit := do
  let s ← get
  if s.keys.any fun k => p k && k.required then malformed
  set { s with keys := s.keys.filter fun k => !p k }

/-- Gives up the node at the present depth as a key. -/
def dropKey : Lex Unit := do
  let depth := (← get).depth
  dropKeys fun k => k.depth == depth

/-- Gives up the nodes that are not on this line or too far behind. -/
def dropStaleKeys : Lex Unit := do
  let c := (← get).cursor
  dropKeys fun k => k.line != c.line || 1024 < c.index - k.index

/-- Remembers that a node which begins here may be a key. -/
def saveKey : Lex Unit := do
  let s ← get
  if s.keyAllowed then
    dropKey
    let c := s.cursor
    let key : KeyStart :=
      ⟨s.depth, s.tokens.size, s.depth == 0 && s.indent == c.column, c.index, c.line, c.column⟩
    modify fun s => { s with keys := key :: s.keys }

/-- Closes the block collections around that are indented more than a column. -/
def closeBlocks (column : Int) : Lex Unit := modify fun s =>
  let rec close (tokens : Array Token) (indent : Int) : List Int → Array Token × Int × List Int
    | [] => (tokens, indent, [])
    | outer :: more =>
      if column < indent then close (tokens.push .blockEnd) outer more
      else (tokens, indent, outer :: more)
  if s.depth = 0 then
    let (tokens, indent, indents) := close s.tokens s.indent s.indents
    { s with tokens := tokens, indent := indent, indents := indents }
  else s

/-- Opens a block collection at a column, unless one is already open there. -/
def openBlock (column : Nat) : Lex Bool := do
  let s ← get
  if s.indent < column then
    set { s with indent := column, indents := s.indent :: s.indents }
    return true
  else return false

/-- Moves to the next token.  Behind a line break outside of brackets a key may
begin. -/
def skipToToken : Lex Unit := do
  let ended ← scan (Scan.repeatedly do
    Scan.skipSpaces
    Scan.skipComment
    Scan.lineBreak)
  if !ended.isEmpty && (← get).depth = 0 then allowKey true

/-- Adds a token of so many characters. -/
def mark (t : Token) (length : Nat) : Lex Unit := do
  scan (Scan.skip length)
  push t

/-! ### Kinds of tokens -/

/-- Ends the text. -/
def endStream : Lex Unit := do
  closeBlocks (-1)
  dropKey
  push .streamEnd

/-- Reads a directive. -/
def readDirective : Lex Unit := do
  closeBlocks (-1)
  dropKey
  allowKey false
  push (.directive (← scan directive))

/-- Reads a marker of a document. -/
def readMarker (t : Token) : Lex Unit := do
  closeBlocks (-1)
  dropKey
  allowKey false
  mark t 3

/-- Reads an opening bracket. -/
def openBracket (t : Token) : Lex Unit := do
  saveKey
  modify fun s => { s with depth := s.depth + 1 }
  allowKey true
  mark t 1

/-- Reads a closing bracket. -/
def closeBracket (t : Token) : Lex Unit := do
  dropKey
  modify fun s => { s with depth := s.depth - 1 }
  allowKey false
  mark t 1

/-- Reads a comma. -/
def readComma : Lex Unit := do
  allowKey true
  dropKey
  mark .flowEntry 1

/-- A block collection may begin here, if it is outside of brackets. -/
def startBlock (t : Token) : Lex Unit := do
  let s ← get
  if s.depth = 0 then
    if !s.keyAllowed then malformed
    if ← openBlock s.cursor.column then push t

/-- Reads the mark of an item of a sequence. -/
def readEntry : Lex Unit := do
  startBlock .blockSequenceStart
  allowKey true
  dropKey
  mark .blockEntry 1

/-- Reads the mark of a key. -/
def readKey : Lex Unit := do
  startBlock .blockMappingStart
  allowKey ((← get).depth == 0)
  dropKey
  mark .key 1

/-- Reads the mark of a value, which may make the node before it a key. -/
def readValue : Lex Unit := do
  let s ← get
  match s.keys.find? fun k => k.depth == s.depth with
  | some k =>
    set { s with keys := s.keys.filter fun other => other.depth != s.depth }
    insert k.token .key
    -- The mapping starts in front of its first key, which is in place already.
    if s.depth = 0 then
      if ← openBlock k.column then insert k.token .blockMappingStart
    allowKey false
  | none =>
    startBlock .blockMappingStart
    allowKey (s.depth == 0)
    dropKey
  mark .value 1

/-- Reads a token that begins a node, which may be a key. -/
def readNodeStart (read : Scan Token) : Lex Unit := do
  saveKey
  allowKey false
  push (← scan read)

/-- Reads a block scalar. -/
def readBlock (folded : Bool) : Lex Unit := do
  allowKey true
  dropKey
  let s ← get
  let text ← scan (blockScalar folded s.indent)
  push (.scalar text false)

/-- Reads a plain scalar. -/
def readPlain : Lex Unit := do
  saveKey
  let s ← get
  let (text, lineEnded) ← scan (plainScalar (s.depth != 0) (s.indent + 1))
  allowKey lineEnded
  push (.scalar text true)

/-- A plain scalar may begin with a character before another. -/
def startsPlain (inFlow : Bool) (c next : Char) : Bool :=
  let isMark := isGap c || "-?:,[]\x7b\x7d#&*!|>\x27\x22%@\x60".toList.contains c
  !isMark || (!isGap next && (c = '-' || (!inFlow && (c = '?' || c = ':'))))

/-- Finds the next tokens; answers whether the text has ended. -/
def next : Lex Bool := do
  skipToToken
  dropStaleKeys
  let column := (← get).cursor.column
  closeBlocks column
  let s ← get
  let c := s.cursor.peek 0
  let after := s.cursor.peek 1
  let inFlow := s.depth != 0
  -- Inside of brackets a mark needs no gap behind it.
  let markAllowed := inFlow || isGap after
  if c = endChar then
    endStream
    return true
  else if c = '%' && column = 0 then readDirective
  else if column = 0 && c = '-' && s.cursor.atMarker then readMarker .documentStart
  else if column = 0 && c = '.' && s.cursor.atMarker then readMarker .documentEnd
  else if c = '[' then openBracket .flowSequenceStart
  else if c = '\x7b' then openBracket .flowMappingStart
  else if c = ']' then closeBracket .flowSequenceEnd
  else if c = '\x7d' then closeBracket .flowMappingEnd
  else if c = ',' then readComma
  else if c = '-' && isGap after then readEntry
  else if c = '?' && markAllowed then readKey
  else if c = ':' && markAllowed then readValue
  else if c = '*' then readNodeStart (return .alias (← anchorName))
  else if c = '&' then readNodeStart (return .anchor (← anchorName))
  else if c = '!' then readNodeStart nodeTag
  else if c = '|' && !inFlow then readBlock false
  else if c = '>' && !inFlow then readBlock true
  else if c = '\x27' then readNodeStart (return .scalar (← quotedScalar false) false)
  else if c = '\x22' then readNodeStart (return .scalar (← quotedScalar true) false)
  else if startsPlain inFlow c after then readPlain
  else malformed
  return false

/-- Finds all tokens. -/
def all : Nat → Lex Unit
  | 0 => malformed
  | fuel + 1 => do if !(← next) then all fuel

end Lex

/-- The tokens of a text; a byte order mark in front is no part of it. -/
def tokens (text : String) : Except YamlFault (List Token) := do
  let cs := text.toList
  if !cs.all isAdmitted then throw .malformed
  let cs := if cs.head? = some '\ufeff' then cs.drop 1 else cs
  let (_, s) ← (Lex.all (cs.length + 1)).run { cursor := ⟨cs, 0, 0, 0⟩ }
  return s.tokens.toList

end Meetings.Yaml
