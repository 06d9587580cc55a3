import Breadcrumb.Text

namespace Breadcrumb

namespace Pattern

/-- The options in force at a place of an expression. -/
structure Mode where
  ignoreCase : Bool := false
  multiline : Bool := false
  dotAll : Bool := false
  verbose : Bool := false
  ascii : Bool := false
  deriving DecidableEq

inductive Category where
  | digit
  | space
  | word
  deriving DecidableEq

/-- A member of a character set; codes may lie outside the characters and then match none. -/
inductive Item where
  | code (n : Nat)
  | range (lo hi : Nat)
  | category (kind : Category) (negated : Bool)
  deriving DecidableEq

inductive Anchor where
  | textStart
  | textEnd
  | lineStart
  | lineEnd
  | lastLineEnd
  | wordEdge (ascii : Bool)
  | wordInside (ascii : Bool)
  deriving DecidableEq

inductive Greed where
  | greedy
  | reluctant
  | possessive
  deriving DecidableEq

end Pattern

/-- A compiled expression. -/
inductive Pattern where
  | empty
  | set (mode : Pattern.Mode) (negated : Bool) (items : List Pattern.Item)
  | dot (dotAll : Bool)
  | anchor (place : Pattern.Anchor)
  | seq (first second : Pattern)
  | alt (first second : Pattern)
  | group (index : Nat) (body : Pattern)
  | reference (mode : Pattern.Mode) (index : Nat)
  | times (greed : Pattern.Greed) (min : Nat) (max : Option Nat) (body : Pattern)
  | ahead (negated : Bool) (body : Pattern)
  | behind (negated : Bool) (width : Nat) (body : Pattern)
  | atomic (body : Pattern)
  | choice (index : Nat) (present absent : Pattern)
  deriving DecidableEq

namespace Pattern

def sequence : List Pattern → Pattern
  | [] => .empty
  | [p] => p
  | p :: rest => .seq p (sequence rest)

/-- The first of the patterns that leads to a match. -/
def oneOf : List Pattern → Pattern
  | [] => .empty
  | [p] => p
  | p :: rest => .alt p (oneOf rest)

def literal (mode : Mode) (n : Nat) : Pattern := .set mode false [.code n]

def optional (p : Pattern) : Pattern := .times .greedy 0 (some 1) p

/-- The least and the greatest number of characters matched, given those of the groups. -/
def width (groups : Nat → Nat × Option Nat) : Pattern → Nat × Option Nat
  | .empty | .anchor _ | .ahead .. | .behind .. => (0, some 0)
  | .set .. | .dot _ => (1, some 1)
  | .seq p q =>
    let (lo, hi) := p.width groups
    let (lo', hi') := q.width groups
    (lo + lo', hi.bind fun a => hi'.map (a + ·))
  | .alt p q =>
    let (lo, hi) := p.width groups
    let (lo', hi') := q.width groups
    (min lo lo', hi.bind fun a => hi'.map (max a ·))
  | .group _ p | .atomic p => p.width groups
  | .reference _ index => groups index
  | .times _ least most p =>
    let (lo, hi) := p.width groups
    (lo * least,
      match hi, most with
      | some 0, _ => some 0
      | some n, some m => some (n * m)
      | none, some 0 => some 0
      | _, _ => none)
  | .choice _ p q =>
    let (lo, hi) := p.width groups
    let (lo', hi') := q.width groups
    (min lo lo', hi.bind fun a => hi'.map (max a ·))

end Pattern

end Breadcrumb
