import Breadcrumb.Yaml.Token.Property

namespace Breadcrumb.Yaml

/-- A place where a key may have begun. -/
structure PossibleKey where
  position : Nat
  required : Bool
  index : Nat
  line : Nat
  column : Nat

/-- The tokens so far, backwards, and what decides about the next ones. -/
structure Lexer where
  cursor : Cursor
  tokens : List Token := []
  flow : Nat := 0
  indent : Int := -1
  outer : List Int := []
  keyAllowed : Bool := true
  keys : List (Nat × PossibleKey) := []

namespace Lexer

def inFlow (lexer : Lexer) : Bool := lexer.flow ≠ 0

def push (lexer : Lexer) (token : Token) : Lexer := { lexer with tokens := token :: lexer.tokens }

/-- Puts a token before the one at a position. -/
def insert (lexer : Lexer) (position : Nat) (token : Token) : Lexer :=
  let behind := lexer.tokens.length - position
  { lexer with tokens := lexer.tokens.take behind ++ token :: lexer.tokens.drop behind }

def maxKeyLength : Nat := 1024

/-- Drops the keys that can no longer be followed by a colon. -/
def dropStale (lexer : Lexer) : Except Fault Lexer :=
  let stale (key : PossibleKey) : Bool :=
    key.line ≠ lexer.cursor.line || maxKeyLength < lexer.cursor.index - key.index
  if lexer.keys.any fun (_, key) => stale key && key.required then .error .malformed
  else .ok { lexer with keys := lexer.keys.filter fun (_, key) => !stale key }

/-- Drops the possible key at this level of brackets. -/
def dropKey (lexer : Lexer) : Except Fault Lexer :=
  match lexer.keys.lookup lexer.flow with
  | some key =>
    if key.required then .error .malformed
    else .ok { lexer with keys := lexer.keys.filter (·.1 ≠ lexer.flow) }
  | none => .ok lexer

/-- Notes that a key may begin here. -/
def saveKey (lexer : Lexer) : Except Fault Lexer :=
  if lexer.keyAllowed then do
    let cursor := lexer.cursor
    let key : PossibleKey :=
      { position := lexer.tokens.length
        required := !lexer.inFlow && lexer.indent = cursor.column
        index := cursor.index, line := cursor.line, column := cursor.column }
    let lexer ← lexer.dropKey
    return { lexer with keys := (lexer.flow, key) :: lexer.keys }
  else .ok lexer

/-- Closes the blocks that are indented deeper than `column`. -/
def closeBlocks (column : Int) : List Int → Lexer → Lexer
  | [], lexer => lexer
  | indent :: outer, lexer =>
    if column < lexer.indent then
      closeBlocks column outer { lexer.push .blockEnd with indent, outer }
    else lexer

def unwind (lexer : Lexer) (column : Int) : Lexer :=
  if lexer.inFlow then lexer else closeBlocks column lexer.outer lexer

/-- Whether a block at this column is a new one. -/
def opens (lexer : Lexer) (column : Nat) : Bool := !lexer.inFlow && lexer.indent < column

def openBlock (lexer : Lexer) (column : Nat) : Lexer :=
  { lexer with indent := column, outer := lexer.indent :: lexer.outer }

/-- A token of `n` characters. -/
def take (lexer : Lexer) (n : Nat) (token : Token) : Lexer :=
  { lexer.push token with cursor := lexer.cursor.skip n }

/-- Past spaces, comments and line ends, up to the next token. -/
def skipGaps : (fuel : Nat) → Lexer → Lexer
  | 0, lexer => lexer
  | fuel + 1, lexer =>
    let cursor := lexer.cursor.skipSpaces
    let cursor := if cursor.char = '#' then cursor.skipWhile (!isBreakOrEnd ·) else cursor
    match cursor.lineBreak with
    | ([], cursor) => { lexer with cursor }
    | (_, cursor) => skipGaps fuel { lexer with cursor, keyAllowed := lexer.keyAllowed || !lexer.inFlow }

/-- A byte order mark before the text does not count. -/
def skipMark (lexer : Lexer) : Lexer :=
  if lexer.cursor.index = 0 && lexer.cursor.char = '\uFEFF' then
    { lexer with cursor := lexer.cursor.next }
  else lexer

/-- Ends every block before the start, the end or a directive of a document. -/
def closeAll (lexer : Lexer) : Except Fault Lexer := do
  let lexer ← (lexer.unwind (-1)).dropKey
  return { lexer with keyAllowed := false }

def openFlow (lexer : Lexer) (token : Token) : Except Fault Lexer := do
  let lexer ← lexer.saveKey
  return { lexer.take 1 token with flow := lexer.flow + 1, keyAllowed := true }

def closeFlow (lexer : Lexer) (token : Token) : Except Fault Lexer := do
  let lexer ← lexer.dropKey
  return { lexer.take 1 token with flow := lexer.flow - 1, keyAllowed := false }

def flowEntry (lexer : Lexer) : Except Fault Lexer := do
  let lexer ← lexer.dropKey
  return { lexer.take 1 .flowEntry with keyAllowed := true }

/-- Opens a block here if it is a new one; between lines this needs room for a key. -/
def enterBlock (lexer : Lexer) (token : Token) : Except Fault Lexer :=
  if !lexer.inFlow && !lexer.keyAllowed then .error .malformed
  else if lexer.opens lexer.cursor.column then
    .ok ((lexer.openBlock lexer.cursor.column).push token)
  else .ok lexer

def blockEntry (lexer : Lexer) : Except Fault Lexer := do
  let lexer ← (← lexer.enterBlock .blockSequence).dropKey
  return { lexer.take 1 .blockEntry with keyAllowed := true }

def explicitKey (lexer : Lexer) : Except Fault Lexer := do
  let lexer ← (← lexer.enterBlock .blockMapping).dropKey
  return { lexer.take 1 .key with keyAllowed := !lexer.inFlow }

/-- A colon makes a key of the node before it, or begins a value without one. -/
def value (lexer : Lexer) : Except Fault Lexer :=
  match lexer.keys.lookup lexer.flow with
  | some key =>
    let lexer := { lexer with keys := lexer.keys.filter (·.1 ≠ lexer.flow), keyAllowed := false }
    let marked := lexer.insert key.position .key
    let opened :=
      if lexer.opens key.column then
        (marked.openBlock key.column).insert key.position .blockMapping
      else marked
    .ok (opened.take 1 .value)
  | none => do
    let lexer ← (← lexer.enterBlock .blockMapping).dropKey
    return { lexer.take 1 .value with keyAllowed := !lexer.inFlow }

/-- A token that may begin a key. -/
def node (lexer : Lexer) (read : Cursor → Except Fault (Token × Cursor)) : Except Fault Lexer := do
  let lexer ← lexer.saveKey
  let (token, cursor) ← read lexer.cursor
  return { lexer.push token with cursor, keyAllowed := false }

def blockScalar (lexer : Lexer) : Except Fault Lexer := do
  let lexer ← lexer.dropKey
  let (text, cursor) ← lexer.cursor.block lexer.indent
  return { lexer.push (.scalar text false) with cursor, keyAllowed := true }

def plainScalar (lexer : Lexer) : Except Fault Lexer := do
  let lexer ← lexer.saveKey
  let (text, broken, cursor) := lexer.cursor.plain lexer.inFlow (lexer.indent + 1)
  return { lexer.push (.scalar text true) with cursor, keyAllowed := broken }

/-- Characters that begin no plain scalar. -/
def isIndicator (c : Char) : Bool := "-?:,[]\x7b\x7d#&*!|>'\"%@\x60".toList.contains c

/-- Whether a plain scalar begins here. -/
def atPlain (lexer : Lexer) : Bool :=
  let c := lexer.cursor.char
  (!isBlankOrEnd c && !isIndicator c) ||
    (!isBlankOrEnd (lexer.cursor.peek 1) && (c = '-' || (!lexer.inFlow && (c = '?' || c = ':'))))

/-- Reads the tokens of the next sign. -/
def advance (lexer : Lexer) : Except Fault Lexer :=
  let c := lexer.cursor.char
  let alone := isBlankOrEnd (lexer.cursor.peek 1)
  let lineStart := lexer.cursor.column = 0
  if lineStart && c = '%' then do (← lexer.closeAll).node Cursor.directive
  else if lineStart && c = '-' && lexer.cursor.atDocumentMark then
    do return (← lexer.closeAll).take 3 .documentStart
  else if lineStart && c = '.' && lexer.cursor.atDocumentMark then
    do return (← lexer.closeAll).take 3 .documentEnd
  else if c = '[' then lexer.openFlow .flowSequence
  else if c = '\x7b' then lexer.openFlow .flowMapping
  else if c = ']' then lexer.closeFlow .flowSequenceEnd
  else if c = '\x7d' then lexer.closeFlow .flowMappingEnd
  else if c = ',' then lexer.flowEntry
  else if c = '-' && alone then lexer.blockEntry
  else if c = '?' && (lexer.inFlow || alone) then lexer.explicitKey
  else if c = ':' && (lexer.inFlow || alone) then lexer.value
  else if c = '*' then lexer.node fun cursor => do
    let (name, cursor) ← cursor.anchor
    return (.reference name, cursor)
  else if c = '&' then lexer.node fun cursor => do
    let (name, cursor) ← cursor.anchor
    return (.anchor name, cursor)
  else if c = '!' then lexer.node Cursor.tag
  else if (c = '|' || c = '>') && !lexer.inFlow then lexer.blockScalar
  else if c = '\'' || c = '"' then lexer.node fun cursor => do
    let (text, cursor) ← cursor.quoted
    return (.scalar text false, cursor)
  else if lexer.atPlain then lexer.plainScalar
  else .error .malformed

def run : (fuel : Nat) → Lexer → Except Fault (List Token)
  | 0, _ => .error .malformed
  | fuel + 1, lexer => do
    let lexer ← (skipGaps (lexer.cursor.rest.length + 1) lexer.skipMark).dropStale
    let lexer := lexer.unwind lexer.cursor.column
    if lexer.cursor.atEnd then
      let lexer ← lexer.closeAll
      return (lexer.push .streamEnd).tokens.reverse
    else run fuel (← lexer.advance)

end Lexer

/-- Whether a character may stand in a YAML text. -/
def isAllowed (c : Char) : Bool :=
  let n := c.toNat
  c = '\t' || c = '\n' || c = '\r' || (0x20 ≤ n && n ≤ 0x7E) || n = 0x85 ||
    (0xA0 ≤ n && n ≤ 0xFFFD) || 0x10000 ≤ n

def tokens (text : Text) : Except Fault (List Token) :=
  if text.all isAllowed then Lexer.run (text.length + 2) { cursor := { rest := text } }
  else .error .malformed

end Breadcrumb.Yaml
