import Breadcrumb.Encoding

namespace Breadcrumb.Base64

def letters : Text := "ABCDEFGHIJKLMNOPQRSTUVWXYZabcdefghijklmnopqrstuvwxyz0123456789+/".toList

def letter (n : Nat) : Char := letters.getD n '='

/-- Three bytes are four letters; what is missing at the end is marked. -/
def encode : Bytes → Text
  | [] => []
  | [a] =>
    let n := a.toNat
    [letter (n / 4), letter (n % 4 * 16), '=', '=']
  | [a, b] =>
    let n := a.toNat * 256 + b.toNat
    [letter (n / 1024), letter (n / 16 % 64), letter (n % 16 * 4), '=']
  | a :: b :: c :: rest =>
    let n := (a.toNat * 256 + b.toNat) * 256 + c.toNat
    letter (n / 262144) :: letter (n / 4096 % 64) :: letter (n / 64 % 64) :: letter (n % 64) ::
      encode rest

def value? (c : Char) : Option Nat := letters.findIdx? (· = c)

/-- Where a group of four letters stands: `count` letters are read, `held` bits of the last one
still wait, and `marks` marks came since. -/
structure Group where
  count : Nat := 0
  held : Nat := 0
  marks : Nat := 0

namespace Group

/-- The group with one more letter, and the byte this completes. -/
def push (group : Group) (n : Nat) : Group × Bytes :=
  match group.count with
  | 0 => ({ count := 1, held := n }, [])
  | 1 => ({ count := 2, held := n % 16 }, [Nat.toUInt8 (group.held * 4 + n / 16)])
  | 2 => ({ count := 3, held := n % 4 }, [Nat.toUInt8 (group.held * 16 + n / 4)])
  | _ => ({}, [Nat.toUInt8 (group.held * 64 + n)])

end Group

def decodeFrom (group : Group) : Text → Option Bytes
  | [] => if group.count = 0 then some [] else none
  | c :: rest =>
    if c = '=' then
      if group.count < 2 then decodeFrom group rest
      else if 4 ≤ group.count + group.marks + 1 then some []
      else decodeFrom { group with marks := group.marks + 1 } rest
    else
      match value? c with
      | none => decodeFrom group rest
      | some n =>
        let (group, done) := group.push n
        (decodeFrom group rest).map (done ++ ·)

/-- Reads letters up to the marks that complete a group. Other characters do not count, and a group
must not stay open. -/
def decode? (text : Text) : Option Bytes := decodeFrom {} text

end Breadcrumb.Base64
