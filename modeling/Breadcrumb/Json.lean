import Breadcrumb.Text

namespace Breadcrumb

/-- Numbers that are no integers keep their spelling. Fields keep their order. -/
inductive Json where
  | null
  | bool (b : Bool)
  | int (n : Int)
  | real (spelling : Text)
  | str (text : Text)
  | arr (items : List Json)
  | obj (fields : List (Text × Json))

namespace Json

def strs (texts : List Text) : Json := .arr (texts.map .str)

/-- One escaped UTF-16 unit. -/
def unit (n : Nat) : Text := ['\\', 'u'] ++ Text.hex 4 n

/-- The escape of a character by one or two units. -/
def units (c : Char) : Text :=
  if c.toNat < 0x10000 then unit c.toNat
  else
    let n := c.toNat - 0x10000
    unit (0xD800 + n / 0x400) ++ unit (0xDC00 + n % 0x400)

/-- One character between quotes; `ascii` escapes all that lies beyond. -/
def escape (ascii : Bool) (c : Char) : Text :=
  if c = '"' then ['\\', '"']
  else if c = '\\' then ['\\', '\\']
  else if c = '\n' then ['\\', 'n']
  else if c = '\r' then ['\\', 'r']
  else if c = '\t' then ['\\', 't']
  else if c.toNat = 8 then ['\\', 'b']
  else if c.toNat = 12 then ['\\', 'f']
  else if c.toNat < 0x20 || (ascii && 0x7E < c.toNat) then units c
  else [c]

def quote (ascii : Bool) (text : Text) : Text := '"' :: text.flatMap (escape ascii) ++ ['"']

def scalar (ascii : Bool) : Json → Text
  | .null => "null".toList
  | .bool true => "true".toList
  | .bool false => "false".toList
  | .int n => Text.ofInt n
  | .real spelling => spelling
  | .str text => quote ascii text
  | .arr _ => "[]".toList
  | .obj _ => "\x7b\x7d".toList

/-- A line break and `depth` tabs. -/
def newline (depth : Nat) : Text := '\n' :: List.replicate depth '\t'

mutual

/-- The form on indented lines, as part of a value at `depth`. -/
def prettyAt (depth : Nat) : Json → Text
  | .arr (item :: items) =>
    '[' :: newline (depth + 1) ++ prettyAt (depth + 1) item ++ prettyItems (depth + 1) items ++
      newline depth ++ [']']
  | .obj ((name, value) :: fields) =>
    '\x7b' :: newline (depth + 1) ++ quote false name ++ ": ".toList ++ prettyAt (depth + 1) value ++
      prettyFields (depth + 1) fields ++ newline depth ++ ['\x7d']
  | value => scalar false value

def prettyItems (depth : Nat) : List Json → Text
  | [] => []
  | item :: items => ',' :: newline depth ++ prettyAt depth item ++ prettyItems depth items

def prettyFields (depth : Nat) : List (Text × Json) → Text
  | [] => []
  | (name, value) :: fields =>
    ',' :: newline depth ++ quote false name ++ ": ".toList ++ prettyAt depth value ++
      prettyFields depth fields

end

/-- Every item and field on a line of its own, with tabs for the depth. -/
def pretty (value : Json) : Text := prettyAt 0 value

mutual

/-- The form on one line, in ASCII. -/
def compact : Json → Text
  | .arr (item :: items) => '[' :: compact item ++ compactItems items ++ [']']
  | .obj ((name, value) :: fields) =>
    '\x7b' :: quote true name ++ ": ".toList ++ compact value ++ compactFields fields ++ ['\x7d']
  | value => scalar true value

def compactItems : List Json → Text
  | [] => []
  | item :: items => ", ".toList ++ compact item ++ compactItems items

def compactFields : List (Text × Json) → Text
  | [] => []
  | (name, value) :: fields =>
    ", ".toList ++ quote true name ++ ": ".toList ++ compact value ++ compactFields fields

end

end Json

end Breadcrumb
