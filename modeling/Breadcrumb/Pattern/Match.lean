import Breadcrumb.Pattern
import Breadcrumb.Text.Blank
import Breadcrumb.Text.Fold
import Breadcrumb.Text.Letter

namespace Breadcrumb.Pattern

/-- A place in a text: what stands before it, backwards, what stands after it, and the groups. -/
structure Cursor where
  before : Text := []
  after : Text
  position : Nat := 0
  groups : List (Nat × Text) := []

namespace Cursor

def ofText (text : Text) : Cursor := { after := text }

def advance (cursor : Cursor) (c : Char) (rest : Text) : Cursor :=
  { cursor with before := c :: cursor.before, after := rest, position := cursor.position + 1 }

/-- The place `width` characters back, if there is one. -/
def back? (cursor : Cursor) (width : Nat) : Option Cursor :=
  if cursor.before.length < width then none
  else some
    { cursor with
      before := cursor.before.drop width
      after := (cursor.before.take width).reverse ++ cursor.after
      position := cursor.position - width }

def capture (start stop : Cursor) (index : Nat) : Cursor :=
  let text := (stop.before.take (stop.position - start.position)).reverse
  { stop with groups := (index, text) :: stop.groups }

def captured? (cursor : Cursor) (index : Nat) : Option Text :=
  (cursor.groups.find? (·.1 = index)).map (·.2)

end Cursor

def Category.holds (ascii : Bool) (c : Char) : Category → Bool
  | .digit => if ascii then Text.isAsciiDigit c else (Text.decimalValue? c).isSome
  | .space => Text.isBlank c && (!ascii || (c.toNat < 0x80 && (c.toNat < 0x1C || c = ' ')))
  | .word => Text.isWordChar c && (!ascii || c.toNat < 0x80)

/-- The codes that count as `c` in a set, each member of which is looked at by itself. -/
def Mode.codes (mode : Mode) (c : Char) : List Nat :=
  if !mode.ignoreCase then [c.toNat]
  else if !mode.ascii then Text.variants c
  else if Text.isAsciiLetter c then [c.toLower.toNat, c.toUpper.toNat]
  else [c.toNat]

def Item.holds (mode : Mode) (c : Char) : Item → Bool
  | .code n => (mode.codes c).contains n
  | .range lo hi => (mode.codes c).any fun n => lo ≤ n && n ≤ hi
  | .category kind negated => kind.holds mode.ascii c != negated

def setHolds (mode : Mode) (negated : Bool) (items : List Item) (c : Char) : Bool :=
  items.any (·.holds mode c) != negated

def wordAt (ascii : Bool) (neighbour : Text) : Bool :=
  match neighbour with
  | [] => false
  | c :: _ => Category.word.holds ascii c

/-- An empty text has neither a word edge nor the inside of a word. -/
def Anchor.holds (cursor : Cursor) : Anchor → Bool
  | .textStart => cursor.before.isEmpty
  | .textEnd => cursor.after.isEmpty
  | .lineStart => cursor.before.isEmpty || cursor.before.head? = some '\n'
  | .lineEnd => cursor.after.isEmpty || cursor.after.head? = some '\n'
  | .lastLineEnd => cursor.after.isEmpty || cursor.after = ['\n']
  | .wordEdge ascii =>
    !(cursor.before.isEmpty && cursor.after.isEmpty) &&
      wordAt ascii cursor.before != wordAt ascii cursor.after
  | .wordInside ascii =>
    !(cursor.before.isEmpty && cursor.after.isEmpty) &&
      wordAt ascii cursor.before == wordAt ascii cursor.after

/-- The equality of characters in a reference to a group. -/
def Mode.sameInReference (mode : Mode) (c d : Char) : Bool :=
  if !mode.ignoreCase then c = d
  else if mode.ascii then c.toLower = d.toLower
  else Text.lowerChar c = Text.lowerChar d

/-- Passes over the text of a group. -/
def passText (mode : Mode) : Text → Cursor → Option Cursor
  | [], cursor => some cursor
  | c :: text, cursor =>
    match cursor.after with
    | [] => none
    | d :: rest =>
      if mode.sameInReference c d then passText mode text (cursor.advance d rest) else none

abbrev Continuation := Cursor → Option Cursor

abbrev Runner := Cursor → Continuation → Option Cursor

def canRepeat (max : Option Nat) (count : Nat) (last : Option Nat) (cursor : Cursor) : Bool :=
  (max.all (count < ·)) && last != some cursor.position

/-- As many rounds as lead to a match; beyond `min` a round that moves nowhere is the last. -/
def runGreedy (body : Runner) (min : Nat) (max : Option Nat) :
    (fuel count : Nat) → (last : Option Nat) → Runner
  | 0, _, _, cursor, k => k cursor
  | fuel + 1, count, last, cursor, k =>
    if count < min then body cursor fun next => runGreedy body min max fuel (count + 1) last next k
    else if canRepeat max count last cursor then
      match body cursor fun next =>
          runGreedy body min max fuel (count + 1) (some cursor.position) next k with
      | some stop => some stop
      | none => k cursor
    else k cursor

/-- As few rounds as lead to a match. -/
def runReluctant (body : Runner) (min : Nat) (max : Option Nat) :
    (fuel count : Nat) → (last : Option Nat) → Runner
  | 0, _, _, cursor, k => k cursor
  | fuel + 1, count, last, cursor, k =>
    if count < min then
      body cursor fun next => runReluctant body min max fuel (count + 1) last next k
    else
      match k cursor with
      | some stop => some stop
      | none =>
        if canRepeat max count last cursor then
          body cursor fun next =>
            runReluctant body min max fuel (count + 1) (some cursor.position) next k
        else none

/-- As many rounds as possible, each kept once it has been matched. -/
def runPossessive (body : Runner) (min : Nat) (max : Option Nat) :
    (fuel count : Nat) → (last : Option Nat) → Cursor → Option Cursor
  | 0, _, _, cursor => some cursor
  | fuel + 1, count, last, cursor =>
    if count < min then
      match body cursor some with
      | some next => runPossessive body min max fuel (count + 1) last next
      | none => none
    else if canRepeat max count last cursor then
      match body cursor some with
      | some next => runPossessive body min max fuel (count + 1) (some cursor.position) next
      | none => some cursor
    else some cursor

/-- More rounds than a repetition can make from here. -/
def roundsFrom (min : Nat) (cursor : Cursor) : Nat := min + cursor.after.length + 2

/-- Runs the pattern and hands the place it stops at to the continuation. -/
def run : Pattern → Runner
  | .empty, cursor, k => k cursor
  | .set mode negated items, cursor, k =>
    match cursor.after with
    | [] => none
    | c :: rest => if setHolds mode negated items c then k (cursor.advance c rest) else none
  | .dot dotAll, cursor, k =>
    match cursor.after with
    | [] => none
    | c :: rest => if dotAll || c ≠ '\n' then k (cursor.advance c rest) else none
  | .anchor place, cursor, k => if place.holds cursor then k cursor else none
  | .seq p q, cursor, k => p.run cursor fun next => q.run next k
  | .alt p q, cursor, k =>
    match p.run cursor k with
    | some stop => some stop
    | none => q.run cursor k
  | .group index p, cursor, k => p.run cursor fun next => k (cursor.capture next index)
  | .reference mode index, cursor, k =>
    match cursor.captured? index with
    | none => none
    | some text => (passText mode text cursor).bind k
  | .times .greedy min max p, cursor, k =>
    runGreedy (fun c k => p.run c k) min max (roundsFrom min cursor) 0 none cursor k
  | .times .reluctant min max p, cursor, k =>
    runReluctant (fun c k => p.run c k) min max (roundsFrom min cursor) 0 none cursor k
  | .times .possessive min max p, cursor, k =>
    (runPossessive (fun c k => p.run c k) min max (roundsFrom min cursor) 0 none cursor).bind k
  | .ahead negated p, cursor, k =>
    match p.run cursor some, negated with
    | some stop, false => k { cursor with groups := stop.groups }
    | none, true => k cursor
    | _, _ => none
  | .behind negated width p, cursor, k =>
    match (cursor.back? width).bind fun start => p.run start some, negated with
    | some stop, false => k { cursor with groups := stop.groups }
    | none, true => k cursor
    | _, _ => none
  | .atomic p, cursor, k => (p.run cursor some).bind k
  | .choice index p q, cursor, k =>
    if (cursor.captured? index).isSome then p.run cursor k else q.run cursor k

/-- Where the leftmost match starts and stops, from `position` on. If `mustMove`, a match that
starts right there may not be empty. -/
def findFrom (p : Pattern) (mustMove : Bool) (before : Text) (position : Nat) :
    Text → Option (Cursor × Cursor)
  | [] =>
    let start : Cursor := { before, after := [], position }
    (p.run start fun stop => if mustMove && stop.position = position then none else some stop).map
      (start, ·)
  | c :: rest =>
    let start : Cursor := { before, after := c :: rest, position }
    match p.run start fun stop =>
        if mustMove && stop.position = position then none else some stop with
    | some stop => some (start, stop)
    | none => findFrom p false (c :: before) (position + 1) rest

def find? (p : Pattern) (text : Text) : Option (Cursor × Cursor) := p.findFrom false [] 0 text

def isIn (p : Pattern) (text : Text) : Bool := (p.find? text).isSome

/-- The text from `cursor` on without the matches; after an empty match the next one must move. -/
def eraseFrom (p : Pattern) : (fuel : Nat) → (mustMove : Bool) → Cursor → Text
  | 0, _, cursor => cursor.after
  | fuel + 1, mustMove, cursor =>
    match p.findFrom mustMove cursor.before cursor.position cursor.after with
    | none => cursor.after
    | some (start, stop) =>
      cursor.after.take (start.position - cursor.position) ++
        p.eraseFrom fuel (stop.position = start.position) { stop with groups := [] }

/-- The text without the matches, taken from left to right. -/
def erase (p : Pattern) (text : Text) : Text :=
  p.eraseFrom (2 * text.length + 2) false (.ofText text)

end Breadcrumb.Pattern
