import Breadcrumb.Text.Units
import Breadcrumb.Yaml.Fault
import Breadcrumb.Yaml.Token

namespace Breadcrumb.Yaml.Cursor

/-- The line breaks here and the blanks before, between and behind them. -/
def quotedBreaks : (fuel : Nat) → Cursor → Except Fault (Text × Cursor)
  | 0, _ => .error .malformed
  | fuel + 1, cursor =>
    if cursor.atDocumentMark then .error .malformed
    else
      let cursor := cursor.skipWhile isSpaceOrTab
      match cursor.lineBreak with
      | ([], cursor) => .ok ([], cursor)
      | (line, cursor) =>
        (quotedBreaks fuel cursor).map fun (breaks, cursor) => (line ++ breaks, cursor)

/-- A first line break with the breaks behind it. -/
def fold (line breaks : Text) : Text :=
  if line ≠ ['\n'] then line ++ breaks else if breaks.isEmpty then [' '] else breaks

/-- Blanks between two parts of a quoted scalar, or the break of its line. -/
def quotedGap (cursor : Cursor) : Except Fault (Text × Cursor) :=
  let (blanks, cursor) := cursor.span isSpaceOrTab
  if cursor.atEnd then .error .malformed
  else
    match cursor.lineBreak with
    | ([], cursor) => .ok (blanks, cursor)
    | (line, cursor) =>
      (quotedBreaks (cursor.rest.length + 1) cursor).map fun (breaks, cursor) =>
        (fold line breaks, cursor)

/-- What a letter behind a backslash stands for. -/
def escapes : List (Char × Nat) :=
  [('0', 0), ('a', 7), ('b', 8), ('t', 9), ('\t', 9), ('n', 10), ('v', 11), ('f', 12), ('r', 13),
    ('e', 27), (' ', 32), ('"', 34), ('\\', 92), ('/', 47), ('N', 0x85), ('_', 0xA0),
    ('L', 0x2028), ('P', 0x2029)]

/-- How many hexadecimal digits a letter behind a backslash announces. -/
def codeLength? (c : Char) : Option Nat :=
  if c = 'x' then some 2 else if c = 'u' then some 4 else if c = 'U' then some 8 else none

def hexCode (cursor : Cursor) (n : Nat) : Except Fault Nat :=
  let digits := cursor.rest.take n
  if digits.length < n then .error .malformed
  else
    match Text.number? 16 digits with
    | some code => if 0x10FFFF < code then .error (.codePoint code) else .ok code
    | none => .error .malformed

/-- The codes for what follows a backslash. -/
def escape (cursor : Cursor) : Except Fault (List Nat × Cursor) :=
  let c := cursor.char
  if cursor.atEnd then .error .malformed
  else
    match escapes.lookup c, codeLength? c with
    | some code, _ => .ok ([code], cursor.next)
    | none, some n => (cursor.next.hexCode n).map fun code => ([code], cursor.next.skip n)
    | none, none =>
      match cursor.lineBreak with
      | ([], _) => .error .malformed
      | (_, cursor) =>
        (quotedBreaks (cursor.rest.length + 1) cursor).map fun (breaks, cursor) =>
          (breaks.map Char.toNat, cursor)

/-- The codes up to the closing quote, behind those in `out`, which are kept backwards. -/
def quotedFrom (quote : Char) : (fuel : Nat) → List Nat → Cursor → Except Fault (List Nat × Cursor)
  | 0, _, _ => .error .malformed
  | fuel + 1, out, cursor =>
    let c := cursor.char
    if quote = '\'' && c = '\'' && cursor.peek 1 = '\'' then
      quotedFrom quote fuel (c.toNat :: out) (cursor.skip 2)
    else if c = quote then .ok (out.reverse, cursor.next)
    else if quote = '"' && c = '\\' then do
      let (codes, cursor) ← cursor.next.escape
      quotedFrom quote fuel (codes.reverse ++ out) cursor
    else if isBlankOrEnd c then do
      let (gap, cursor) ← cursor.quotedGap
      quotedFrom quote fuel ((gap.map Char.toNat).reverse ++ out) cursor
    else quotedFrom quote fuel (c.toNat :: out) cursor.next

def quoted (cursor : Cursor) : Except Fault (Text × Cursor) :=
  (quotedFrom cursor.char (cursor.rest.length + 1) [] cursor.next).map fun (codes, cursor) =>
    (Text.ofUnits codes, cursor)

/-- A characters that may stand between brackets ends a plain scalar there. -/
def isFlowMark (c : Char) : Bool := c = ',' || c = '[' || c = ']' || c = '\x7b' || c = '\x7d'

/-- Whether a plain scalar ends before the `n`-th character. -/
def endsPlain (cursor : Cursor) (inFlow : Bool) (n : Nat) : Bool :=
  let c := cursor.peek n
  let next := cursor.peek (n + 1)
  isBlankOrEnd c || (c = ':' && (isBlankOrEnd next || (inFlow && isFlowMark next))) ||
    (inFlow && (isFlowMark c || c = '?'))

/-- The length of the part of a plain scalar that has no blanks. -/
def plainLength (inFlow : Bool) (n : Nat) : Text → Nat
  | [] => n
  | c :: rest =>
    if endsPlain { rest := c :: rest } inFlow 0 then n else plainLength inFlow (n + 1) rest

/-- Empty lines behind a line break, unless a document begins or ends there. -/
def plainBreaks : (fuel : Nat) → Cursor → Option Text × Cursor
  | 0, cursor => (some [], cursor)
  | fuel + 1, cursor =>
    if cursor.atDocumentMark then (none, cursor)
    else
      let cursor := cursor.skipSpaces
      match cursor.lineBreak with
      | ([], cursor) => (some [], cursor)
      | (line, cursor) =>
        let (breaks?, cursor) := plainBreaks fuel cursor
        (breaks?.map (line ++ ·), cursor)

/-- What separates two parts of a plain scalar: spaces or line breaks, nothing if it ends. The flag
tells whether a line has ended. -/
def plainGap (cursor : Cursor) : Text × Bool × Cursor :=
  let (blanks, cursor) := cursor.span (· = ' ')
  match cursor.lineBreak with
  | ([], cursor) => (blanks, false, cursor)
  | (line, cursor) =>
    match plainBreaks (cursor.rest.length + 1) cursor with
    | (none, cursor) => ([], true, cursor)
    | (some breaks, cursor) => (fold line breaks, true, cursor)

/-- The parts of a plain scalar; the flag tells whether a line has ended behind the last one. -/
def plainFrom (inFlow : Bool) (indent : Int) :
    (fuel : Nat) → (gap : Text) → (broken : Bool) → Cursor → Text × Bool × Cursor
  | 0, _, broken, cursor => ([], broken, cursor)
  | fuel + 1, gap, broken, cursor =>
    if cursor.char = '#' then ([], broken, cursor)
    else
      match plainLength inFlow 0 cursor.rest with
      | 0 => ([], broken, cursor)
      | n =>
        let part := gap ++ cursor.rest.take n
        let (gap, broken, cursor) := (cursor.skip n).plainGap
        if gap.isEmpty || cursor.char = '#' || (!inFlow && (cursor.column : Int) < indent) then
          (part, broken, cursor)
        else
          let (rest, broken, cursor) := plainFrom inFlow indent fuel gap broken cursor
          (part ++ rest, broken, cursor)

def plain (cursor : Cursor) (inFlow : Bool) (indent : Int) : Text × Bool × Cursor :=
  plainFrom inFlow indent (cursor.rest.length + 1) [] false cursor

/-- What becomes of the line breaks at the end of a block. -/
inductive Chomp where
  | strip
  | clip
  | keep
  deriving DecidableEq

def chomp? (c : Char) : Option Chomp :=
  if c = '+' then some .keep else if c = '-' then some .strip else none

/-- The depth announced for a block. -/
def depth? (c : Char) : Option Nat :=
  if Text.isAsciiDigit c then some (c.toNat - '0'.toNat) else none

/-- The marks behind the sign that opens a block, in either order. -/
def blockMarks (cursor : Cursor) : Except Fault (Chomp × Option Nat × Cursor) :=
  let marks : Chomp × Option Nat × Cursor :=
    match chomp? cursor.char, depth? cursor.char with
    | some chomp, _ =>
      match depth? cursor.next.char with
      | some n => (chomp, some n, cursor.skip 2)
      | none => (chomp, none, cursor.next)
    | none, some n =>
      match chomp? cursor.next.char with
      | some chomp => (chomp, some n, cursor.skip 2)
      | none => (.clip, some n, cursor.next)
    | none, none => (.clip, none, cursor)
  if marks.2.1 = some 0 || !isSpaceOrEnd marks.2.2.char then .error .malformed else .ok marks

/-- The rest of a line that may hold a comment and nothing else. -/
def restOfLine (cursor : Cursor) : Except Fault Cursor :=
  let cursor := cursor.skipSpaces
  let cursor := if cursor.char = '#' then cursor.skipWhile (!isBreakOrEnd ·) else cursor
  if isBreakOrEnd cursor.char then .ok cursor.lineBreak.2 else .error .malformed

/-- Empty lines at the start of a block, and the deepest column among them. -/
def blockStart : (fuel deepest : Nat) → Cursor → Text × Nat × Cursor
  | 0, deepest, cursor => ([], deepest, cursor)
  | fuel + 1, deepest, cursor =>
    if cursor.char = ' ' then
      blockStart fuel (max deepest cursor.next.column) cursor.next
    else
      match cursor.lineBreak with
      | ([], cursor) => ([], deepest, cursor)
      | (line, cursor) =>
        let (breaks, deepest, cursor) := blockStart fuel deepest cursor
        (line ++ breaks, deepest, cursor)

/-- Up to the column `indent` or the first character that is no space. -/
def skipIndent (indent : Nat) (cursor : Cursor) : Cursor :=
  cursor.skip (min (indent - cursor.column) (cursor.span (· = ' ')).1.length)

/-- Lines of a block that are empty once the indentation is taken away. -/
def blockBreaks (indent : Nat) : (fuel : Nat) → Cursor → Text × Cursor
  | 0, cursor => ([], cursor)
  | fuel + 1, cursor =>
    let cursor := cursor.skipIndent indent
    match cursor.lineBreak with
    | ([], cursor) => ([], cursor)
    | (line, cursor) =>
      let (breaks, cursor) := blockBreaks indent fuel cursor
      (line ++ breaks, cursor)

/-- The lines of a block behind the empty lines `breaks`; with `folded`, single breaks between
lines that start with no blank become spaces. -/
def blockFrom (folded : Bool) (chomp : Chomp) (indent : Nat) :
    (fuel : Nat) → (line breaks : Text) → Cursor → Text × Cursor
  | 0, _, _, cursor => ([], cursor)
  | fuel + 1, line, breaks, cursor =>
    if cursor.column = indent && !cursor.atEnd then
      let flush := !isSpaceOrTab cursor.char
      let (content, cursor) := cursor.span (!isBreakOrEnd ·)
      let (line, cursor) := cursor.lineBreak
      let (more, cursor) := blockBreaks indent (cursor.rest.length + 1) cursor
      if cursor.column = indent && !cursor.atEnd then
        let joint :=
          if folded && line = ['\n'] && flush && !isSpaceOrTab cursor.char then
            if more.isEmpty then [' '] else []
          else line
        let (rest, cursor) := blockFrom folded chomp indent fuel line more cursor
        (breaks ++ content ++ joint ++ rest, cursor)
      else (breaks ++ content ++ ending chomp line more, cursor)
    else (ending chomp line breaks, cursor)
where
  ending (chomp : Chomp) (line breaks : Text) : Text :=
    match chomp with
    | .strip => []
    | .clip => line
    | .keep => line ++ breaks

/-- The block scalar whose sign is here, below a collection indented by `indent`. -/
def block (cursor : Cursor) (indent : Int) : Except Fault (Text × Cursor) := do
  let folded := cursor.char = '>'
  let (chomp, depth?, cursor) ← cursor.next.blockMarks
  let cursor ← cursor.restOfLine
  let least := max (indent + 1).toNat 1
  let fuel := cursor.rest.length + 1
  match depth? with
  | some n =>
    let indent := least + n - 1
    let (breaks, cursor) := blockBreaks indent fuel cursor
    return blockFrom folded chomp indent fuel [] breaks cursor
  | none =>
    let (breaks, deepest, cursor) := blockStart fuel 0 cursor
    return blockFrom folded chomp (max least deepest) fuel [] breaks cursor

end Breadcrumb.Yaml.Cursor
