import Breadcrumb.Text.Blank
import Breadcrumb.Text.Case
import Breadcrumb.Text.Letter

namespace Breadcrumb

inductive Double where
  | finite (negative : Bool) (units : Nat)
  | infinite (negative : Bool)
  | undefined
  deriving DecidableEq

namespace Double

/-- Units in one. -/
def one : Nat := Nat.pow 2 1074

def significantBits : Nat := 53

def bits (n : Nat) : Nat := if n = 0 then 0 else n.log2 + 1

/-- The distance from a number of units to the next one up. -/
def gap (units : Nat) : Nat := Nat.pow 2 (bits units - significantBits)

/-- The quotient, rounded to the nearest whole number, a tie to the even one. -/
def nearest (num den : Nat) : Nat :=
  let q := num / den
  let r := num % den
  if den < 2 * r || (den = 2 * r && q % 2 = 1) then q + 1 else q

def ofRatio (negative : Bool) (num den : Nat) : Double :=
  let scaled := num * one
  let step := gap (scaled / den)
  let units := nearest scaled (den * step) * step
  if Nat.pow 2 1024 * one ≤ units then .infinite negative else .finite negative units

def ofNat (n : Nat) : Double := ofRatio false n 1

/-- Beyond these powers of ten every number is infinite or zero. -/
def maxPower : Int := 400

/-- The double nearest to `digits` times a power of ten. -/
def ofDecimal (negative : Bool) (digits : Nat) (power : Int) : Double :=
  let size : Int := (Text.ofNat digits).length
  if digits = 0 || size + power < -maxPower then .finite negative 0
  else if maxPower < size + power then .infinite negative
  else if 0 ≤ power then ofRatio negative (digits * Nat.pow 10 power.toNat) 1
  else ofRatio negative digits (Nat.pow 10 (-power).toNat)

def neg : Double → Double
  | .finite negative units => .finite (!negative) units
  | .infinite negative => .infinite (!negative)
  | .undefined => .undefined

def mul : Double → Double → Double
  | .finite s m, .finite t n => ofRatio (s != t) (m * n) (one * one)
  | .infinite s, .infinite t => .infinite (s != t)
  | .infinite s, .finite t n => if n = 0 then .undefined else .infinite (s != t)
  | .finite s m, .infinite t => if m = 0 then .undefined else .infinite (s != t)
  | _, _ => .undefined

def add : Double → Double → Double
  | .finite s m, .finite t n =>
    if s = t then ofRatio s (m + n) one
    else if n < m then ofRatio s (m - n) one
    else if m < n then ofRatio t (n - m) one
    else .finite false 0
  | .infinite s, .infinite t => if s = t then .infinite s else .undefined
  | .infinite s, .finite .. => .infinite s
  | .finite .., .infinite t => .infinite t
  | _, _ => .undefined

def isZero : Double → Bool
  | .finite _ units => units = 0
  | _ => false

/-- The leading decimal digits of any script, and what follows them. -/
def digits : Text → List Nat × Text
  | [] => ([], [])
  | c :: rest =>
    match Text.decimalValue? c with
    | some d => let (ds, rest) := digits rest; (d :: ds, rest)
    | none => ([], c :: rest)

def value (digits : List Nat) : Nat := digits.foldl (fun n d => n * 10 + d) 0

/-- A power of ten behind its mark; only the end may follow. -/
def power? : Text → Option Int
  | [] => some 0
  | c :: rest =>
    if c = 'e' || c = 'E' then
      let (negative, rest) :=
        match rest with
        | '-' :: rest => (true, rest)
        | '+' :: rest => (false, rest)
        | _ => (false, rest)
      match digits rest with
      | ([], _) => none
      | (ds, []) => some (if negative then -(value ds : Int) else value ds)
      | _ => none
    else none

/-- A decimal without sign: digits, a point among them or not, and perhaps a power of ten. -/
def decimal? (negative : Bool) (text : Text) : Option Double :=
  let (whole, rest) := digits text
  let (fraction, rest) :=
    match rest with
    | '.' :: rest => digits rest
    | _ => ([], rest)
  if whole.isEmpty && fraction.isEmpty then none
  else
    (power? rest).map fun power =>
      ofDecimal negative (value (whole ++ fraction)) (power - fraction.length)

/-- Reads a decimal or the name of a number that is none, with blanks around it. -/
def read? (text : Text) : Option Double :=
  let (negative, body) :=
    match text.trim with
    | '-' :: rest => (true, rest)
    | '+' :: rest => (false, rest)
    | body => (false, body)
  let word := Text.lower body
  if word = "inf".toList || word = "infinity".toList then some (.infinite negative)
  else if word = "nan".toList then some .undefined
  else decimal? negative body

end Double

end Breadcrumb
