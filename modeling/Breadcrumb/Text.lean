namespace Breadcrumb

/-- Text is handled as the list of its characters. Half a surrogate pair by itself is no character, so
texts that hold one are left out, and each text has an encoding. -/
abbrev Text := List Char

namespace Text

/-- What follows `lead` in `text`, when `text` begins with `lead`. -/
def after? : (lead text : Text) → Option Text
  | [], text => some text
  | _ :: _, [] => none
  | c :: lead, d :: text => if c = d then after? lead text else none

def startsWith (text lead : Text) : Bool := (after? lead text).isSome

def endsWith (text tail : Text) : Bool := startsWith text.reverse tail.reverse

/-- The pieces between the occurrences of `sep`; there is always at least one piece. -/
def split (sep : Char) : Text → List Text
  | [] => [[]]
  | c :: rest =>
    if c = sep then [] :: split sep rest
    else
      match split sep rest with
      | [] => [[c]]
      | piece :: more => (c :: piece) :: more

/-- The text on either side of the first `sep`. -/
def cut? (sep : Char) : Text → Option (Text × Text)
  | [] => none
  | c :: rest =>
    if c = sep then some ([], rest)
    else (cut? sep rest).map fun (before, behind) => (c :: before, behind)

/-- The pieces in order with `sep` between neighbours. -/
def join (sep : Text) : List Text → Text
  | [] => []
  | [piece] => piece
  | piece :: more => piece ++ sep ++ join sep more

/-- Order by code points, a shorter text before its extensions. -/
def le : Text → Text → Bool
  | [], _ => true
  | _ :: _, [] => false
  | a :: as, b :: bs => if a.val < b.val then true else if b.val < a.val then false else le as bs

def ofNat (n : Nat) : Text := Nat.toDigits 10 n

def ofInt : Int → Text
  | .ofNat n => ofNat n
  | .negSucc n => '-' :: ofNat (n + 1)

def isAsciiDigit (c : Char) : Bool := '0' ≤ c && c ≤ '9'

def isAsciiLetter (c : Char) : Bool := ('a' ≤ c && c ≤ 'z') || ('A' ≤ c && c ≤ 'Z')

/-- The value of a hexadecimal digit of either case. -/
def hexValue? (c : Char) : Option Nat :=
  if '0' ≤ c ∧ c ≤ '9' then some (c.toNat - '0'.toNat)
  else if 'a' ≤ c ∧ c ≤ 'f' then some (c.toNat - 'a'.toNat + 10)
  else if 'A' ≤ c ∧ c ≤ 'F' then some (c.toNat - 'A'.toNat + 10)
  else none

/-- The number that `digits` spell in the given base, or nothing if one of them is no digit. -/
def number? (base : Nat) (digits : Text) : Option Nat :=
  digits.foldl
    (fun n? c => n?.bind fun n =>
      (hexValue? c).bind fun d => if d < base then some (n * base + d) else none)
    (some 0)

/-- At least `width` lower-case hexadecimal digits of `n`. -/
def hex (width n : Nat) : Text :=
  let digits := Nat.toDigits 16 n
  List.replicate (width - digits.length) '0' ++ digits

end Text

end Breadcrumb
