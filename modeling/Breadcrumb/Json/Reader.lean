import Breadcrumb.Integer
import Breadcrumb.Json
import Breadcrumb.Text.Units

namespace Breadcrumb.Json

/-- A text that is no JSON, from the place on where `left` characters are left, or one with an integer
that is too long to be read. -/
inductive Fault where
  | syntaxAt (left : Nat)
  | excessive
  deriving DecidableEq

def isGap (c : Char) : Bool := c = ' ' || c = '\t' || c = '\n' || c = '\r'

def skipGap (text : Text) : Text := text.dropWhile isGap

/-- What a letter behind a backslash stands for. -/
def escapes : List (Char × Nat) :=
  [('"', 34), ('\\', 92), ('/', 47), ('b', 8), ('f', 12), ('n', 10), ('r', 13), ('t', 9)]

/-- The codes up to the closing quote; `opened` characters are left from the opening one on. -/
def codes (opened : Nat) : Text → Except Fault (List Nat × Text)
  | [] => .error (.syntaxAt opened)
  | '"' :: rest => .ok ([], rest)
  | ['\\'] => .error (.syntaxAt opened)
  | '\\' :: 'u' :: a :: b :: c :: d :: rest =>
    match Text.number? 16 [a, b, c, d] with
    | some n =>
      if rest.isEmpty then .error (.syntaxAt 5)
      else (codes opened rest).map fun (more, rest) => (n :: more, rest)
    | none => .error (.syntaxAt (rest.length + 5))
  | '\\' :: 'u' :: rest => .error (.syntaxAt (rest.length + 1))
  | '\\' :: c :: rest =>
    match escapes.lookup c with
    | some n => (codes opened rest).map fun (more, rest) => (n :: more, rest)
    | none => .error (.syntaxAt (rest.length + 2))
  | c :: rest =>
    if c.toNat < 0x20 then .error (.syntaxAt (rest.length + 1))
    else (codes opened rest).map fun (more, rest) => (c.toNat :: more, rest)

/-- The string behind an opening quote. -/
def string (text : Text) : Except Fault (Text × Text) :=
  (codes (text.length + 1) text).map fun (codes, rest) => (Text.ofUnits codes, rest)

def fraction : Text → Text × Text
  | '.' :: c :: rest =>
    if Text.isAsciiDigit c then
      ('.' :: (c :: rest).takeWhile Text.isAsciiDigit, (c :: rest).dropWhile Text.isAsciiDigit)
    else ([], '.' :: c :: rest)
  | text => ([], text)

/-- An exponent, if digits follow its mark. -/
def exponent (text : Text) : Text × Text :=
  match text with
  | c :: rest =>
    if c = 'e' || c = 'E' then
      let (sign, rest) :=
        match rest with
        | '-' :: rest => (['-'], rest)
        | '+' :: rest => (['+'], rest)
        | _ => ([], rest)
      match rest.takeWhile Text.isAsciiDigit with
      | [] => ([], text)
      | digits => (c :: sign ++ digits, rest.dropWhile Text.isAsciiDigit)
    else ([], text)
  | [] => ([], text)

/-- The digits before the point: a zero alone, or a run that starts with no zero. -/
def whole (text : Text) : Text × Text :=
  match text with
  | '0' :: rest => (['0'], rest)
  | _ => (text.takeWhile Text.isAsciiDigit, text.dropWhile Text.isAsciiDigit)

/-- Whether a minus sign stands here, and what follows it. -/
def minus : Text → Bool × Text
  | '-' :: rest => (true, rest)
  | text => (false, text)

def number (text : Text) : Except Fault (Json × Text) :=
  let (negative, body) := minus text
  match whole body with
  | ([], _) => .error (.syntaxAt text.length)
  | (digits, rest) =>
    let (fraction, rest) := fraction rest
    let (exponent, rest) := exponent rest
    if fraction.isEmpty && exponent.isEmpty then
      if Integer.maxDigits < digits.length then .error .excessive
      else .ok (.int (Integer.signed negative ((Text.number? 10 digits).getD 0)), rest)
    else .ok (.real ((if negative then ['-'] else []) ++ digits ++ fraction ++ exponent), rest)

/-- The words that are values. -/
def words : List (String × Json) :=
  [("null", .null), ("true", .bool true), ("false", .bool false),
    ("NaN", .real "NaN".toList), ("Infinity", .real "Infinity".toList),
    ("-Infinity", .real "-Infinity".toList)]

def plain (text : Text) : Except Fault (Json × Text) :=
  match words.findSome? fun (word, value) =>
    (Text.after? word.toList text).map fun rest => (value, rest) with
  | some found => .ok found
  | none => number text

/-- The field with a name, the last one if there are several. -/
def field? (fields : List (Text × Json)) (name : Text) : Option Json :=
  (fields.reverse.find? (·.1 = name)).map (·.2)

mutual

def value : (fuel : Nat) → Text → Except Fault (Json × Text)
  | 0, _ => .error .excessive
  | fuel + 1, text =>
    match text with
    | '"' :: rest => (string rest).map fun (text, rest) => (.str text, rest)
    | '[' :: rest =>
      match skipGap rest with
      | ']' :: rest => .ok (.arr [], rest)
      | rest => (items fuel rest).map fun (items, rest) => (.arr items, rest)
    | '\x7b' :: rest =>
      match skipGap rest with
      | '\x7d' :: rest => .ok (.obj [], rest)
      | rest => (fields fuel rest).map fun (fields, rest) => (.obj fields, rest)
    | text => plain text

def items : (fuel : Nat) → Text → Except Fault (List Json × Text)
  | 0, _ => .error .excessive
  | fuel + 1, text => do
    let (item, rest) ← value fuel text
    match skipGap rest with
    | ']' :: rest => return ([item], rest)
    | ',' :: rest =>
      let (more, rest) ← items fuel (skipGap rest)
      return (item :: more, rest)
    | rest => throw (.syntaxAt rest.length)

def fields : (fuel : Nat) → Text → Except Fault (List (Text × Json) × Text)
  | 0, _ => .error .excessive
  | fuel + 1, text => do
    match text with
    | '"' :: rest =>
      let (name, rest) ← string rest
      match skipGap rest with
      | ':' :: rest =>
        let (item, rest) ← value fuel (skipGap rest)
        match skipGap rest with
        | '\x7d' :: rest => return ([(name, item)], rest)
        | ',' :: rest =>
          let (more, rest) ← fields fuel (skipGap rest)
          return ((name, item) :: more, rest)
        | rest => throw (.syntaxAt rest.length)
      | rest => throw (.syntaxAt rest.length)
    | text => throw (.syntaxAt text.length)

end

/-- The value of a text with nothing but gaps around it. Each character is good for two steps. -/
def read (text : Text) : Except Fault Json := do
  let (value, rest) ← value (2 * text.length + 2) (skipGap text)
  match skipGap rest with
  | [] => return value
  | rest => throw (.syntaxAt rest.length)

end Breadcrumb.Json
