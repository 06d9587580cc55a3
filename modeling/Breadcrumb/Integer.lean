import Breadcrumb.Text.Blank
import Breadcrumb.Text.Letter

namespace Breadcrumb

/-- A numeral longer than `Integer.maxDigits`. -/
structure TooManyDigits where
  digits : Nat
  deriving DecidableEq

/-- An integer that is too long to be written out. -/
inductive Unprintable where
  | tooManyDigits
  deriving DecidableEq

namespace Integer

def maxDigits : Nat := 4300

end Integer

namespace TooManyDigits

def message (fault : TooManyDigits) : Text :=
  "Exceeds the limit (4300 digits) for integer string conversion: value has ".toList ++
    Text.ofNat fault.digits ++
    " digits; use sys.set_int_max_str_digits() to increase the limit".toList

end TooManyDigits

def Unprintable.message : Unprintable → Text
  | .tooManyDigits =>
    "Exceeds the limit (4300 digits) for integer string conversion; ".toList ++
      "use sys.set_int_max_str_digits() to increase the limit".toList

namespace Integer

/-- The bound holds for writing as it does for reading. -/
def isPrintable (n : Int) : Bool := (Text.ofNat n.natAbs).length ≤ maxDigits

/-- A text in which the integers are written, unless one of them is too long. -/
def written (integers : List Int) (text : Text) : Except Unprintable Text :=
  if integers.all isPrintable then .ok text else .error .tooManyDigits

def sign : Text → Bool × Text
  | '-' :: rest => (true, rest)
  | '+' :: rest => (false, rest)
  | text => (false, text)

def signed (negative : Bool) (n : Nat) : Int := if negative then -(n : Int) else n

/-- An optional sign and at least one digit, with blanks around them. -/
def isNumeral (text : Text) : Bool :=
  let digits := (sign text.trim).2
  !digits.isEmpty && digits.all Text.isAsciiDigit

/-- The value of a numeral, or nothing if the text is none. -/
def read? (text : Text) : Except TooManyDigits (Option Int) :=
  let (negative, digits) := sign text.trim
  if !digits.isEmpty && digits.all Text.isAsciiDigit then
    if maxDigits < digits.length then .error ⟨digits.length⟩
    else .ok ((Text.number? 10 digits).map (signed negative))
  else .ok none

/-- The digits of a numeral in which a low line may stand between two digits. -/
def looseDigits : Text → Option (List Nat)
  | [] => none
  | [c] => (Text.decimalValue? c).map ([·])
  | c :: '_' :: rest => (Text.decimalValue? c).bind fun d => (looseDigits rest).map (d :: ·)
  | c :: rest => (Text.decimalValue? c).bind fun d => (looseDigits rest).map (d :: ·)

/-- Reads a numeral with digits of any script and low lines between digits. -/
def readLoose? (text : Text) : Option Int :=
  let (negative, digits) := sign text.trim
  match looseDigits digits with
  | some ds =>
    if maxDigits < ds.length then none
    else some (signed negative (ds.foldl (fun n d => n * 10 + d) 0))
  | none => none

end Integer

end Breadcrumb
