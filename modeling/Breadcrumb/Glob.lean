import Breadcrumb.Text

namespace Breadcrumb

namespace Glob

/-- A closed interval of characters. -/
abbrev Span := Char × Char

inductive Piece where
  | star
  | one
  | char (c : Char)
  | set (negated : Bool) (spans : List Span)
  deriving DecidableEq

/-- A bracketed text up to its closing bracket, and what follows. A bracket that comes first, or
right behind an exclamation mark, does not close. -/
def bracketed? (text : Text) : Option (Text × Text) :=
  let (mark, rest) :=
    match text with
    | '!' :: rest => (['!'], rest)
    | _ => ([], text)
  let (lead, rest) :=
    match rest with
    | ']' :: rest => (mark ++ [']'], rest)
    | _ => (mark, rest)
  (Text.cut? ']' rest).map fun (inner, after) => (lead ++ inner, after)

/-- Cuts at hyphens. The first `skip` characters are passed over before a hyphen is looked for. -/
def chunksFrom (skip : Nat) (current : Text) : Text → List Text
  | [] => [current.reverse]
  | c :: rest =>
    if c = '-' && skip = 0 then current.reverse :: chunksFrom 2 [] rest
    else chunksFrom (skip - 1) (c :: current) rest

/-- A hyphen at the end stands for itself. -/
def joinTrailing : List Text → List Text
  | [chunk, []] => [chunk ++ ['-']]
  | chunk :: rest => chunk :: joinTrailing rest
  | [] => []

/-- The pieces between which hyphens make ranges. -/
def chunks (inner : Text) : List Text :=
  joinTrailing (chunksFrom (if inner.head? = some '!' then 2 else 1) [] inner)

/-- Drops the ranges that run backwards, from the right. -/
def dropBackward : List Text → List Text
  | [] => []
  | chunk :: rest =>
    match dropBackward rest with
    | [] => [chunk]
    | next :: more =>
      match chunk.getLast?, next.head? with
      | some lo, some hi =>
        if hi < lo then (chunk.dropLast ++ next.drop 1) :: more else chunk :: next :: more
      | _, _ => chunk :: next :: more

/-- The spans of chunks, `lead` being a character that starts a range. -/
def spansFrom : (lead : Option Char) → List Text → List Span
  | none, [] => []
  | some lo, [] => [(lo, lo)]
  | lead, chunk :: rest =>
    let (range, chars) :=
      match lead, chunk with
      | some lo, hi :: chars => ([(lo, hi)], chars)
      | some lo, [] => ([(lo, lo)], [])
      | none, chars => ([], chars)
    match rest, chars.getLast? with
    | [], _ => range ++ chars.map fun c => (c, c)
    | _ :: _, some lo =>
      range ++ (chars.dropLast.map fun c => (c, c)) ++ spansFrom (some lo) rest
    | _ :: _, none => range ++ spansFrom none rest

/-- The piece for a bracketed text: an empty set matches nothing, its negation everything. -/
def setOf (inner : Text) : Piece :=
  match dropBackward (chunks inner) with
  | ('!' :: first) :: rest => .set true (spansFrom none (first :: rest))
  | chunks => .set false (spansFrom none chunks)

/-- Reads the pieces; `fuel` bounds their number. -/
def piecesFrom : (fuel : Nat) → Text → List Piece
  | 0, _ => []
  | _ + 1, [] => []
  | fuel + 1, '*' :: rest => .star :: piecesFrom fuel (rest.dropWhile (· = '*'))
  | fuel + 1, '?' :: rest => .one :: piecesFrom fuel rest
  | fuel + 1, '[' :: rest =>
    match bracketed? rest with
    | some (inner, after) => setOf inner :: piecesFrom fuel after
    | none => .char '[' :: piecesFrom fuel rest
  | fuel + 1, c :: rest => .char c :: piecesFrom fuel rest

/-- The pieces of a shell pattern. -/
def pieces (pattern : Text) : List Piece := piecesFrom pattern.length pattern

def Piece.holds (c : Char) : Piece → Bool
  | .star => false
  | .one => true
  | .char d => c = d
  | .set negated spans => spans.any (fun (lo, hi) => lo ≤ c && c ≤ hi) != negated

def anyTail (rest : Text → Bool) : Text → Bool
  | [] => rest []
  | c :: text => rest (c :: text) || anyTail rest text

/-- Whether the pieces cover the whole text. -/
def covers : List Piece → Text → Bool
  | [], text => text.isEmpty
  | .star :: pieces, text => anyTail (covers pieces) text
  | piece :: pieces, text =>
    match text with
    | [] => false
    | c :: rest => piece.holds c && covers pieces rest

end Glob

/-- Whether a shell pattern matches a whole text. -/
def Glob.matches (pattern text : Text) : Bool := Glob.covers (Glob.pieces pattern) text

end Breadcrumb
