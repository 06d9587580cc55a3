import Breadcrumb.Encoding
import Breadcrumb.Text.Lines

namespace Breadcrumb

/-- Lines that can be read, then perhaps a fault that ends the reading. -/
structure LineStream where
  lines : List Text
  fault? : Option DecodeFault := none

namespace LineStream

/-- Consecutive pieces of `size` bytes, the last one perhaps shorter. -/
def pieces (size : Nat) : Bytes → List Bytes
  | [] => []
  | b :: rest =>
    if size = 0 then [b :: rest]
    else (b :: rest).take size :: pieces size ((b :: rest).drop size)
termination_by bytes => bytes.length
decreasing_by
  simp only [List.length_drop, List.length_cons]
  omega

/-- Whether the last two bytes of a piece are the first two of a surrogate, which pass for an
unfinished character as long as nothing follows them. -/
def endsInSurrogate (start : Decoder) (piece : Bytes) (fault : DecodeFault) : Bool :=
  fault.reason = .invalidContinuation && fault.byte = 0xED &&
    fault.start + 2 = start.offset + piece.length &&
    piece.getLast?.any fun b => 0xA0 ≤ b && b ≤ 0xBF

/-- The text before a fault that is noticed only when the next piece is read. -/
def beforeLateFault? (encoding : Encoding) (start : Decoder) (piece : Bytes) (fault : DecodeFault) :
    Option Text :=
  if endsInSurrogate start piece fault then
    (start.feed encoding (piece.take (piece.length - 2))).toOption.map (·.out.reverse)
  else none

/-- Reads the remaining pieces; an unfinished character at the very end is a fault of its own. -/
def readFrom (encoding : Encoding) (decoder : Decoder) (buffer : LineBuffer) :
    List Bytes → LineStream
  | [] =>
    match decoder.nextPiece.finish with
    | .ok _ => { lines := buffer.finish }
    | .error fault => { lines := buffer.lines, fault? := some fault }
  | piece :: rest =>
    let start := decoder.nextPiece
    match start.feed encoding piece with
    | .ok decoder => readFrom encoding decoder (buffer.feed decoder.out.reverse) rest
    | .error fault =>
      match beforeLateFault? encoding start piece fault with
      | some text =>
        { lines := (buffer.feed text).lines, fault? := some { fault with start := 0, stop := 1 } }
      | none => { lines := buffer.lines, fault? := some fault }

/-- The lines of the bytes when they are decoded `size` at a time. -/
def read (encoding : Encoding) (size : Nat) (bytes : Bytes) : LineStream :=
  readFrom encoding {} {} (pieces size bytes)

def pieceSize : Nat := 8192

def ofText (lines : List Text) : LineStream := { lines }

end LineStream

end Breadcrumb
