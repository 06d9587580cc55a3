import Breadcrumb.Text

namespace Breadcrumb.Yaml

inductive Token where
  | version (major minor : Nat)
  | handle (name lead : Text)
  | directive
  | documentStart
  | documentEnd
  | blockSequence
  | blockMapping
  | blockEnd
  | flowSequence
  | flowSequenceEnd
  | flowMapping
  | flowMappingEnd
  | blockEntry
  | flowEntry
  | key
  | value
  | reference (name : Text)
  | anchor (name : Text)
  | tag (handle : Option Text) (suffix : Text)
  | scalar (text : Text) (plain : Bool)
  | streamEnd
  deriving DecidableEq

/-- Stands for the character behind the last one. -/
def ending : Char := Char.ofNat 0

def isBreak (c : Char) : Bool :=
  c = '\n' || c = '\r' || c = '\x85' || c = '\u2028' || c = '\u2029'

def isBreakOrEnd (c : Char) : Bool := c = ending || isBreak c

def isSpaceOrEnd (c : Char) : Bool := c = ' ' || isBreakOrEnd c

def isBlankOrEnd (c : Char) : Bool := c = '\t' || isSpaceOrEnd c

def isSpaceOrTab (c : Char) : Bool := c = ' ' || c = '\t'

/-- Letters of names in anchors, handles and directives. -/
def isNameChar (c : Char) : Bool :=
  Text.isAsciiDigit c || Text.isAsciiLetter c || c = '-' || c = '_'

/-- The rest of a text, and where it starts. -/
structure Cursor where
  rest : Text
  index : Nat := 0
  line : Nat := 0
  column : Nat := 0

namespace Cursor

def peek (cursor : Cursor) (n : Nat) : Char := cursor.rest.getD n ending

def char (cursor : Cursor) : Char := cursor.peek 0

def atEnd (cursor : Cursor) : Bool := cursor.rest.isEmpty

def startsWith (cursor : Cursor) (lead : String) : Bool := cursor.rest.startsWith lead.toList

/-- Behind the next character. A byte order mark takes no column. -/
def next (cursor : Cursor) : Cursor :=
  match cursor.rest with
  | [] => cursor
  | c :: rest =>
    let index := cursor.index + 1
    if isBreak c && !(c = '\r' && rest.head? = some '\n') then
      { rest, index, line := cursor.line + 1, column := 0 }
    else if c = '\uFEFF' then { cursor with rest, index }
    else { cursor with rest, index, column := cursor.column + 1 }

def skip (cursor : Cursor) : Nat → Cursor
  | 0 => cursor
  | n + 1 => cursor.next.skip n

/-- The characters up to the first that fails, and the cursor there. -/
def span (cursor : Cursor) (p : Char → Bool) : Text × Cursor :=
  let taken := cursor.rest.takeWhile p
  (taken, cursor.skip taken.length)

def skipWhile (cursor : Cursor) (p : Char → Bool) : Cursor := (cursor.span p).2

def skipSpaces (cursor : Cursor) : Cursor := cursor.skipWhile (· = ' ')

/-- The line break here, if there is one; all but the two separators become a newline. -/
def lineBreak (cursor : Cursor) : Text × Cursor :=
  let c := cursor.char
  if cursor.atEnd || !isBreak c then ([], cursor)
  else if c = '\r' && cursor.peek 1 = '\n' then (['\n'], cursor.skip 2)
  else if c = '\u2028' || c = '\u2029' then ([c], cursor.next)
  else (['\n'], cursor.next)

/-- Whether a document begins or ends here, if this is the start of a line. -/
def atDocumentMark (cursor : Cursor) : Bool :=
  (cursor.startsWith "---" || cursor.startsWith "...") && isBlankOrEnd (cursor.peek 3)

end Cursor

end Breadcrumb.Yaml
