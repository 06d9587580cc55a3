import Breadcrumb.Integer
import Breadcrumb.Text.Quoted

namespace Breadcrumb.Yaml

/-- A moment that no calendar has. -/
inductive MomentFault where
  | year (n : Nat)
  | month
  | day
  | hour
  | minute
  | second
  | offset (minutes : Int)
  deriving DecidableEq

/-- A text that is malformed, or a scalar that its tag cannot take. -/
inductive Fault where
  | malformed
  | codePoint (code : Nat)
  | emptyNumber
  | integer (base : Nat) (text : Text)
  | tooManyDigits (fault : TooManyDigits)
  | real (text : Text)
  | boolean (text : Text)
  | timestamp
  | moment (fault : MomentFault)
  deriving DecidableEq

/-- A span of time by its days and the seconds left over; parts of zero are left out. -/
def spanText (minutes : Int) : Text :=
  let days := Int.fdiv minutes 1440
  let seconds := Int.fmod minutes 1440 * 60
  let parts :=
    (if days = 0 then [] else ["days=".toList ++ Text.ofInt days]) ++
      (if seconds = 0 then [] else ["seconds=".toList ++ Text.ofInt seconds])
  "datetime.timedelta(".toList ++ Text.join ", ".toList parts ++ ")".toList

def MomentFault.message : MomentFault → Text
  | .year n => "year ".toList ++ Text.ofNat n ++ " is out of range".toList
  | .month => "month must be in 1..12".toList
  | .day => "day is out of range for month".toList
  | .hour => "hour must be in 0..23".toList
  | .minute => "minute must be in 0..59".toList
  | .second => "second must be in 0..59".toList
  | .offset minutes =>
    "offset must be a timedelta strictly between -timedelta(hours=24) and ".toList ++
      "timedelta(hours=24), not ".toList ++ spanText minutes ++ ".".toList

/-- The greatest code that fits the machine's integers. -/
def maxCode : Nat := Nat.pow 2 31 - 1

def Fault.message : Fault → Text
  | .malformed => "malformed".toList
  | .codePoint code =>
    if maxCode < code then "Python int too large to convert to C int".toList
    else "chr() arg not in range(0x110000)".toList
  | .emptyNumber => "string index out of range".toList
  | .integer base text =>
    "invalid literal for int() with base ".toList ++ Text.ofNat base ++ ": ".toList ++ text.quoted
  | .tooManyDigits fault => fault.message
  | .real text => "could not convert string to float: ".toList ++ text.quoted
  | .boolean text => text.quoted
  | .timestamp => "'NoneType' object has no attribute 'groupdict'".toList
  | .moment fault => fault.message

end Breadcrumb.Yaml
