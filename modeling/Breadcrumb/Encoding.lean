import Breadcrumb.Text

namespace Breadcrumb

abbrev Bytes := List UInt8

inductive Encoding where
  | utf8
  | latin1
  | ascii
  deriving DecidableEq

inductive DecodeFault.Reason where
  | invalidStart
  | invalidContinuation
  | unexpectedEnd
  | outsideAscii
  deriving DecidableEq

/-- The bytes from `start` up to `stop` are no text. -/
structure DecodeFault where
  reason : DecodeFault.Reason
  byte : UInt8
  start : Nat
  stop : Nat
  deriving DecidableEq

namespace DecodeFault

def Reason.message : Reason → Text
  | .invalidStart => "invalid start byte".toList
  | .invalidContinuation => "invalid continuation byte".toList
  | .unexpectedEnd => "unexpected end of data".toList
  | .outsideAscii => "ordinal not in range(128)".toList

def Reason.codec : Reason → Text
  | .outsideAscii => "ascii".toList
  | _ => "utf-8".toList

/-- The first byte if it stands alone, else only the positions. -/
def message (fault : DecodeFault) : Text :=
  "'".toList ++ fault.reason.codec ++ "' codec can't decode ".toList ++
    (if fault.stop = fault.start + 1 then
      "byte 0x".toList ++ Text.hex 2 fault.byte.toNat ++ " in position ".toList ++
        Text.ofNat fault.start
    else
      "bytes in position ".toList ++ Text.ofNat fault.start ++ "-".toList ++
        Text.ofNat (fault.stop - 1)) ++
    ": ".toList ++ fault.reason.message

end DecodeFault

/-- The first bytes of a character: `missing` more must follow, the next between `lo` and `hi`. -/
structure OpenChar where
  first : UInt8
  seen : Nat
  missing : Nat
  lo : UInt8
  hi : UInt8
  value : Nat

namespace OpenChar

def sequence (first : UInt8) (missing : Nat) (lo hi : UInt8) (value : Nat) : OpenChar :=
  { first, seen := 1, missing, lo, hi, value }

/-- The character that a byte beyond ASCII begins. -/
def begin? (b : UInt8) : Option OpenChar :=
  if 0xC2 ≤ b ∧ b ≤ 0xDF then some (sequence b 1 0x80 0xBF (b.toNat - 0xC0))
  else if b = 0xE0 then some (sequence b 2 0xA0 0xBF 0)
  else if b = 0xED then some (sequence b 2 0x80 0x9F 0xD)
  else if 0xE1 ≤ b ∧ b ≤ 0xEF then some (sequence b 2 0x80 0xBF (b.toNat - 0xE0))
  else if b = 0xF0 then some (sequence b 3 0x90 0xBF 0)
  else if 0xF1 ≤ b ∧ b ≤ 0xF3 then some (sequence b 3 0x80 0xBF (b.toNat - 0xF0))
  else if b = 0xF4 then some (sequence b 3 0x80 0x8F 4)
  else none

/-- The character with one more byte, which must be between `lo` and `hi`. -/
def extend (part : OpenChar) (b : UInt8) : OpenChar :=
  { part with
    seen := part.seen + 1, missing := part.missing - 1, lo := 0x80, hi := 0xBF
    value := part.value * 64 + (b.toNat - 0x80) }

end OpenChar

/-- The text read so far, backwards, the character being read, and the offset in this piece. -/
structure Decoder where
  out : Text := []
  part? : Option OpenChar := none
  offset : Nat := 0

namespace Decoder

/-- A decoder at the start of a new piece, which the bytes of an unfinished character lead. -/
def nextPiece (d : Decoder) : Decoder :=
  { out := [], part? := d.part?, offset := (d.part?.map (·.seen)).getD 0 }

def emit (d : Decoder) (c : Char) : Decoder :=
  { out := c :: d.out, offset := d.offset + 1 }

/-- A byte between two characters. -/
def start (encoding : Encoding) (d : Decoder) (b : UInt8) : Except DecodeFault Decoder :=
  if b < 0x80 ∨ encoding = .latin1 then .ok (d.emit (Char.ofNat b.toNat))
  else if encoding = .ascii then .error ⟨.outsideAscii, b, d.offset, d.offset + 1⟩
  else
    match OpenChar.begin? b with
    | some part => .ok { d with part? := some part, offset := d.offset + 1 }
    | none => .error ⟨.invalidStart, b, d.offset, d.offset + 1⟩

def step (encoding : Encoding) (d : Decoder) (b : UInt8) : Except DecodeFault Decoder :=
  match d.part? with
  | none => d.start encoding b
  | some part =>
    if part.lo ≤ b ∧ b ≤ part.hi then
      let part := part.extend b
      if part.missing = 0 then .ok (d.emit (Char.ofNat part.value))
      else .ok { d with part? := some part, offset := d.offset + 1 }
    else .error ⟨.invalidContinuation, part.first, d.offset - part.seen, d.offset⟩

def feed (encoding : Encoding) (d : Decoder) : Bytes → Except DecodeFault Decoder
  | [] => .ok d
  | b :: rest =>
    match d.step encoding b with
    | .ok d => d.feed encoding rest
    | .error fault => .error fault

/-- The text read; an unfinished character is a fault. -/
def finish (d : Decoder) : Except DecodeFault Text :=
  match d.part? with
  | none => .ok d.out.reverse
  | some part => .error ⟨.unexpectedEnd, part.first, d.offset - part.seen, d.offset⟩

/-- Like `feed`, but bytes that are no text are passed over. -/
def feedLenient (d : Decoder) : Bytes → Decoder
  | [] => d
  | b :: rest =>
    match d.step .utf8 b with
    | .ok d => d.feedLenient rest
    | .error _ =>
      match ({ d with part? := none } : Decoder).start .utf8 b with
      | .ok d => d.feedLenient rest
      | .error _ => { d with part? := none }.feedLenient rest

end Decoder

namespace Encoding

def decode (encoding : Encoding) (bytes : Bytes) : Except DecodeFault Text :=
  (Decoder.feed encoding {} bytes).bind Decoder.finish

def decodeLenient (bytes : Bytes) : Text := (Decoder.feedLenient {} bytes).out.reverse

/-- The bytes of a text in UTF-8; only half a surrogate pair, which is in no text, would have none. -/
def encode (text : Text) : Bytes := text.flatMap String.utf8EncodeChar

end Encoding

end Breadcrumb
