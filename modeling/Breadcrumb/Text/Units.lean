import Breadcrumb.Text

namespace Breadcrumb.Text

def isHighHalf (n : Nat) : Bool := 0xD800 ≤ n && n < 0xDC00

def isLowHalf (n : Nat) : Bool := 0xDC00 ≤ n && n < 0xE000

/-- The character of a code. Half a pair by itself has none and is replaced, as no text can hold it. -/
def ofCode (n : Nat) : Char := if n.isValidChar then Char.ofNat n else '\uFFFD'

/-- Two halves of a pair make one character. -/
def ofUnits : List Nat → Text
  | [] => []
  | [a] => [ofCode a]
  | a :: b :: rest =>
    if isHighHalf a && isLowHalf b then
      ofCode (0x10000 + (a - 0xD800) * 0x400 + (b - 0xDC00)) :: ofUnits rest
    else ofCode a :: ofUnits (b :: rest)

end Breadcrumb.Text
