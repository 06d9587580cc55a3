import Breadcrumb.Double

namespace Breadcrumb.Double

/-- The numerals that read back lie between `lo` and `hi`, in half units; the ends count if `closed`. -/
structure Interval where
  lo : Nat
  hi : Nat
  closed : Bool

/-- The numbers that go to `units`; below a power of two the next number is half as far. -/
def interval (units : Nat) : Interval :=
  let up := gap units
  let down := if up ≠ 1 && units = Nat.pow 2 (bits units - 1) then up / 2 else up
  { lo := 2 * units - down, hi := 2 * units + up, closed := units / up % 2 = 0 }

/-- `digits` times a power of ten, and a number of half units, on a common scale. -/
def scaled (digits : Nat) (power : Int) : Nat × (Nat → Nat) :=
  if 0 ≤ power then (digits * Nat.pow 10 power.toNat * (2 * one), id)
  else (digits * (2 * one), (· * Nat.pow 10 (-power).toNat))

def Interval.contains (i : Interval) (digits : Nat) (power : Int) : Bool :=
  let (n, scale) := scaled digits power
  if i.closed then scale i.lo ≤ n && n ≤ scale i.hi else scale i.lo < n && n < scale i.hi

/-- The distance of a numeral from `units`, on the scale of the power. -/
def distance (units digits : Nat) (power : Int) : Nat :=
  let (n, scale) := scaled digits power
  let v := scale (2 * units)
  if v ≤ n then n - v else v - n

def steps (units : Nat) (power : Int) : Nat :=
  if 0 ≤ power then units / (one * Nat.pow 10 power.toNat)
  else units * Nat.pow 10 (-power).toNat / one

/-- The numeral on a grid that reads back as `units`, the nearer one if both neighbours do. -/
def onGrid? (units : Nat) (power : Int) : Option Nat :=
  let i := interval units
  let below := steps units power
  match i.contains below power, i.contains (below + 1) power with
  | true, true =>
    let d := distance units below power
    let e := distance units (below + 1) power
    some (if d < e || (d = e && below % 2 = 0) then below else below + 1)
  | true, false => some below
  | false, true => some (below + 1)
  | false, false => none

/-- The least `t` from `start` on for which ten to the `t` times `units` is one or more. -/
def leadingZeros (units : Nat) : (fuel start : Nat) → Nat
  | 0, start => start
  | fuel + 1, start =>
    if one ≤ units * Nat.pow 10 start then start else leadingZeros units fuel (start + 1)

/-- The power of ten of the first digit. -/
def magnitude (units : Nat) : Int :=
  if one ≤ units then (Text.ofNat (units / one)).length - 1 else -(leadingZeros units 400 1 : Int)

def maxDigits : Nat := 17

/-- The digits and the power of ten of their last place, on the coarsest grid that has any. -/
def shortestFrom (units : Nat) (top : Int) : (fuel count : Nat) → Nat × Int
  | 0, count => (steps units (top - count), top - count)
  | fuel + 1, count =>
    match onGrid? units (top - count) with
    | some digits => (digits, top - count)
    | none => shortestFrom units top fuel (count + 1)

def shortest (units : Nat) : Nat × Int := shortestFrom units (magnitude units) maxDigits 0

/-- An exponent with its sign and at least two digits. -/
def exponentText (n : Int) : Text :=
  let digits := Text.ofNat n.natAbs
  (if n < 0 then '-' else '+') :: (List.replicate (2 - digits.length) '0' ++ digits)

/-- Numbers from `10 ^ (-4)` to below `10 ^ 16` are written with all their places, others with an
exponent. -/
def layout (digits : Text) (power : Int) : Text :=
  let top := power + digits.length - 1
  if -4 ≤ top ∧ top < 16 then
    if 0 ≤ power then digits ++ List.replicate power.toNat '0' ++ ".0".toList
    else if 0 ≤ top then digits.take (top.toNat + 1) ++ ['.'] ++ digits.drop (top.toNat + 1)
    else "0.".toList ++ List.replicate (-top - 1).toNat '0' ++ digits
  else
    (match digits with
      | [] => []
      | [d] => [d]
      | d :: rest => d :: '.' :: rest) ++
      ['e'] ++ exponentText top

def trimZeros (digits : Text) : Text := (digits.reverse.dropWhile (· = '0')).reverse

def unsignedText (units : Nat) : Text :=
  if units = 0 then "0.0".toList
  else
    let (digits, power) := shortest units
    let all := Text.ofNat digits
    let kept := trimZeros all
    layout kept (power + (all.length - kept.length : Nat))

def toText : Double → Text
  | .finite negative units => (if negative then ['-'] else []) ++ unsignedText units
  | .infinite negative => (if negative then ['-'] else []) ++ "inf".toList
  | .undefined => "nan".toList

end Breadcrumb.Double
