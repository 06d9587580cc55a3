import Breadcrumb.Base64
import Breadcrumb.Double
import Breadcrumb.Yaml.Tag
import Breadcrumb.Yaml.Fault

namespace Breadcrumb.Yaml

/-- The value of one scalar. Of a moment only its being one is kept. -/
inductive Scalar where
  | null
  | bool (b : Bool)
  | int (n : Int)
  | real (x : Double)
  | binary (bytes : Bytes)
  | moment
  | str (text : Text)
  deriving DecidableEq

namespace Scalar

def digit? (base : Nat) (c : Char) : Option Nat :=
  match Text.decimalValue? c, Text.hexValue? c with
  | some d, _ => if d < base then some d else none
  | none, some d => if d < base then some d else none
  | none, none => none

/-- The mark that may stand before the digits of a base. -/
def dropMark (base : Nat) (digits : Text) : Text :=
  match digits with
  | '0' :: c :: rest =>
    let mark := Text.lowerChar c
    if (base = 16 ∧ mark = 'x') ∨ (base = 8 ∧ mark = 'o') ∨ (base = 2 ∧ mark = 'b') then rest
    else digits
  | _ => digits

def readInt (base : Nat) (text : Text) : Except Fault Int :=
  let (negative, body) := Integer.sign text.trim
  let digits := dropMark base body
  match digits.mapM (digit? base) with
  | none => .error (.integer base text)
  | some [] => .error (.integer base text)
  | some ds =>
    if base = 10 && Integer.maxDigits < ds.length then .error (.tooManyDigits ⟨ds.length⟩)
    else .ok (Integer.signed negative (ds.foldl (fun n d => n * base + d) 0))

/-- Digits to the base sixty, between colons. -/
def sixties (parts : List Int) : Int := parts.foldl (fun n d => n * 60 + d) 0

/-- An integer in the notation that its first characters announce. -/
def magnitude (text : Text) : Except Fault Int :=
  match text with
  | [] => .error .emptyNumber
  | ['0'] => .ok 0
  | '0' :: 'b' :: digits => readInt 2 digits
  | '0' :: 'x' :: digits => readInt 16 digits
  | '0' :: _ => readInt 8 text
  | _ =>
    if text.contains ':' then ((Text.split ':' text).mapM (readInt 10)).map sixties
    else readInt 10 text

/-- Low lines in numbers do not count. -/
def dropLowLines (text : Text) : Text := text.filter (· ≠ '_')

def intOf (text : Text) : Except Fault Int :=
  let text := dropLowLines text
  if text.isEmpty then .error .emptyNumber
  else
    let (negative, rest) := Integer.sign text
    (magnitude rest).map fun n => if negative then -n else n

def readReal (text : Text) : Except Fault Double :=
  match Double.read? text with
  | some x => .ok x
  | none => .error (.real text)

/-- The sum of the parts from the last on, each worth sixty times the one behind it. -/
def realSixties (parts : List Double) : Double :=
  (parts.reverse.foldl
    (fun (sum, base) part => (sum.add (part.mul (.ofNat base)), base * 60))
    ((.finite false 0 : Double), 1)).1

def realOf (text : Text) : Except Fault Double :=
  let text := (dropLowLines text).lower
  if text.isEmpty then .error .emptyNumber
  else
    let (negative, rest) := Integer.sign text
    let signed (x : Double) : Double := if negative then x.neg else x
    if rest = ".inf".toList then .ok (signed (.infinite false))
    else if rest = ".nan".toList then .ok .undefined
    else if rest.contains ':' then
      ((Text.split ':' rest).mapM readReal).map fun parts => signed (realSixties parts)
    else (readReal rest).map signed

def boolOf (text : Text) : Except Fault Bool :=
  let word := text.lower
  if ["yes", "true", "on"].any (·.toList = word) then .ok true
  else if ["no", "false", "off"].any (·.toList = word) then .ok false
  else .error (.boolean word)

def binaryOf (text : Text) : Except Fault Bytes :=
  if text.all (·.toNat < 0x80) then
    match Base64.decode? text with
    | some bytes => .ok bytes
    | none => .error .malformed
  else .error .malformed

/-- A day, and perhaps a time of day with its distance from universal time. -/
def momentForm : Pattern :=
  Tag.form
    ("^([0-9][0-9][0-9][0-9])-([0-9][0-9]?)-([0-9][0-9]?)(?:(?:[Tt]|[ \\t]+)([0-9][0-9]?)" ++
      ":([0-9][0-9]):([0-9][0-9])(?:\\.([0-9]*))?" ++
      "(?:[ \\t]*(Z|([-+])([0-9][0-9]?)(?::([0-9][0-9]))?))?)?$")

def isLeap (year : Nat) : Bool := year % 4 = 0 && (year % 100 ≠ 0 || year % 400 = 0)

def daysIn (year month : Nat) : Nat :=
  if month = 2 then if isLeap year then 29 else 28
  else if [4, 6, 9, 11].contains month then 30
  else 31

def checkDate (year month day : Nat) : Except MomentFault Unit :=
  if year = 0 then .error (.year year)
  else if month = 0 || 12 < month then .error .month
  else if day = 0 || daysIn year month < day then .error .day
  else .ok ()

def checkTime (hour minute second : Nat) : Except MomentFault Unit :=
  if 23 < hour then .error .hour
  else if 59 < minute then .error .minute
  else if 59 < second then .error .second
  else .ok ()

/-- A distance from universal time of a day or more is none. -/
def checkOffset (minutes : Int) : Except MomentFault Unit :=
  if 1440 ≤ minutes || minutes ≤ -1440 then .error (.offset minutes) else .ok ()

/-- Whether a text is a moment; the distance is looked at before the day and the time. -/
def checkMoment (text : Text) : Except Fault Unit :=
  match momentForm.find? text with
  | none => .error .timestamp
  | some (_, stop) =>
    let part (n : Nat) : Nat := ((stop.captured? n).bind (Text.number? 10)).getD 0
    let minutes : Int := part 10 * 60 + part 11
    let faults : Except MomentFault Unit := do
      if (stop.captured? 4).isNone then checkDate (part 1) (part 2) (part 3)
      else
        match stop.captured? 9 with
        | some sign => checkOffset (if sign = ['-'] then -minutes else minutes)
        | none => pure ()
        checkDate (part 1) (part 2) (part 3)
        checkTime (part 4) (part 5) (part 6)
    faults.mapError .moment

/-- The value of a scalar; kinds that are no scalars have none. -/
def ofText (tag : Tag) (text : Text) : Except Fault Scalar :=
  match tag with
  | .null => .ok .null
  | .bool => (boolOf text).map .bool
  | .int => (intOf text).map .int
  | .real => (realOf text).map .real
  | .binary => (binaryOf text).map .binary
  | .timestamp => (checkMoment text).map fun _ => .moment
  | .str => .ok (.str text)
  | _ => .error .malformed

end Scalar

end Breadcrumb.Yaml
