import Breadcrumb.Encoding
import Breadcrumb.Yaml.Token.Scalar

namespace Breadcrumb.Yaml.Cursor

/-- A name of at least one letter. -/
def name (cursor : Cursor) : Except Fault (Text × Cursor) :=
  match cursor.span isNameChar with
  | ([], _) => .error .malformed
  | found => .ok found

def anchor (cursor : Cursor) : Except Fault (Text × Cursor) := do
  let (name, cursor) ← cursor.next.name
  let c := cursor.char
  if isBlankOrEnd c || ['?', ':', ',', ']', '\x7d', '%', '@', '\x60'].contains c then
    return (name, cursor)
  else .error .malformed

/-- Characters that a tag may hold as they are. -/
def isTagChar (c : Char) : Bool :=
  Text.isAsciiDigit c || Text.isAsciiLetter c || "-;/?:@&=+$,_.!~*'()[]".toList.contains c

/-- The bytes that a run of escapes spells. -/
def tagBytes : (fuel : Nat) → Cursor → Except Fault (Bytes × Cursor)
  | 0, cursor => .ok ([], cursor)
  | fuel + 1, cursor =>
    if cursor.char = '%' then
      match Text.number? 16 (cursor.rest.tail.take 2), cursor.rest.tail.take 2 with
      | some n, [_, _] =>
        (tagBytes fuel (cursor.skip 3)).map fun (bytes, cursor) => (Nat.toUInt8 n :: bytes, cursor)
      | _, _ => .error .malformed
    else .ok ([], cursor)

/-- The parts of a tag: plain characters and runs of escapes. -/
def tagTextFrom : (fuel : Nat) → Cursor → Except Fault (Text × Cursor)
  | 0, cursor => .ok ([], cursor)
  | fuel + 1, cursor =>
    if cursor.char = '%' then do
      let (bytes, cursor) ← tagBytes (cursor.rest.length + 1) cursor
      match Encoding.utf8.decode bytes with
      | .ok part =>
        let (rest, cursor) ← tagTextFrom fuel cursor
        return (part ++ rest, cursor)
      | .error _ => .error .malformed
    else
      match cursor.span isTagChar with
      | ([], cursor) => .ok ([], cursor)
      | (part, cursor) => (tagTextFrom fuel cursor).map fun (rest, cursor) => (part ++ rest, cursor)

/-- The text of a tag, which must not be missing. -/
def tagText (cursor : Cursor) : Except Fault (Text × Cursor) :=
  if isTagChar cursor.char || cursor.char = '%' then tagTextFrom (cursor.rest.length + 1) cursor
  else .error .malformed

/-- An exclamation mark, or a name between two of them. -/
def tagHandle (cursor : Cursor) : Except Fault (Text × Cursor) :=
  if cursor.char ≠ '!' then .error .malformed
  else if cursor.peek 1 = ' ' then .ok (['!'], cursor.next)
  else
    let (name, behind) := cursor.next.span isNameChar
    if behind.char = '!' then .ok ('!' :: name ++ ['!'], behind.next) else .error .malformed

/-- A second mark shows that a tag starts with a handle. -/
def hasHandle (cursor : Cursor) : Bool :=
  (cursor.rest.tail.takeWhile (!isSpaceOrEnd ·)).contains '!'

/-- The tag here: its handle, if it has one, and the rest. -/
def tag (cursor : Cursor) : Except Fault (Token × Cursor) := do
  let c := cursor.peek 1
  let (handle, suffix, cursor) ←
    if c = '<' then do
      let (suffix, cursor) ← (cursor.skip 2).tagText
      if cursor.char = '>' then pure (none, suffix, cursor.next) else throw .malformed
    else if isBlankOrEnd c then pure (none, ['!'], cursor.next)
    else do
      let (handle, cursor) ←
        if cursor.hasHandle then cursor.tagHandle else pure (['!'], cursor.next)
      let (suffix, cursor) ← cursor.tagText
      pure (some handle, suffix, cursor)
  if isSpaceOrEnd cursor.char then return (.tag handle suffix, cursor) else throw .malformed

/-- A number in the version of a document. -/
def versionNumber (cursor : Cursor) : Except Fault (Nat × Cursor) :=
  match cursor.span Text.isAsciiDigit with
  | ([], _) => .error .malformed
  | (digits, cursor) =>
    if Integer.maxDigits < digits.length then .error (.tooManyDigits ⟨digits.length⟩)
    else .ok ((Text.number? 10 digits).getD 0, cursor)

def version (cursor : Cursor) : Except Fault (Token × Cursor) := do
  let (major, cursor) ← cursor.skipSpaces.versionNumber
  if cursor.char ≠ '.' then throw .malformed
  let (minor, cursor) ← cursor.next.versionNumber
  if !isSpaceOrEnd cursor.char then throw .malformed
  return (.version major minor, cursor)

def handleDirective (cursor : Cursor) : Except Fault (Token × Cursor) := do
  let (name, cursor) ← cursor.skipSpaces.tagHandle
  if cursor.char ≠ ' ' then throw .malformed
  let (lead, cursor) ← cursor.skipSpaces.tagText
  if !isSpaceOrEnd cursor.char then throw .malformed
  return (.handle name lead, cursor)

/-- The directive on this line. -/
def directive (cursor : Cursor) : Except Fault (Token × Cursor) := do
  let (name, cursor) ← cursor.next.name
  if !isSpaceOrEnd cursor.char then throw .malformed
  let (token, cursor) ←
    if name = "YAML".toList then cursor.version
    else if name = "TAG".toList then cursor.handleDirective
    else pure (.directive, cursor.skipWhile (!isBreakOrEnd ·))
  return (token, ← cursor.restOfLine)

end Breadcrumb.Yaml.Cursor
