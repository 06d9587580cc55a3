import Breadcrumb.Text

namespace Breadcrumb

/-- Finished lines and the line being read, all backwards. -/
structure LineBuffer where
  done : List Text := []
  current : Text := []
  afterReturn : Bool := false

namespace LineBuffer

/-- Ends the current line. -/
def close (buffer : LineBuffer) : LineBuffer :=
  { done := buffer.current.reverse :: buffer.done }

def pushFresh (buffer : LineBuffer) (c : Char) : LineBuffer :=
  if c = '\n' then close { buffer with current := c :: buffer.current }
  else { buffer with current := c :: buffer.current, afterReturn := c = '\r' }

def push (buffer : LineBuffer) (c : Char) : LineBuffer :=
  if buffer.afterReturn && c ≠ '\n' then buffer.close.pushFresh c
  else pushFresh { buffer with afterReturn := false } c

def feed (buffer : LineBuffer) (text : Text) : LineBuffer := text.foldl push buffer

/-- The lines whose end has been seen. -/
def lines (buffer : LineBuffer) : List Text := buffer.done.reverse

def finish (buffer : LineBuffer) : List Text :=
  if buffer.current.isEmpty then buffer.lines else buffer.close.lines

end LineBuffer

namespace Text

/-- The lines of a text, each with the line feed, carriage return or both that end it. -/
def rawLines (text : Text) : List Text := (LineBuffer.feed {} text).finish

/-- The text with a single line feed at the end of every line. -/
def unixLines : Text → Text
  | [] => []
  | '\r' :: '\n' :: rest => '\n' :: unixLines rest
  | '\r' :: rest => '\n' :: unixLines rest
  | c :: rest => c :: unixLines rest

def isLineEnd (c : Char) : Bool := c = '\r' || c = '\n'

/-- The text without the carriage returns and line feeds at its end. -/
def trimLineEnd (text : Text) : Text := (text.reverse.dropWhile isLineEnd).reverse

/-- The characters that end a line wherever any line separator counts. -/
def isSeparator (c : Char) : Bool :=
  c = '\n' || c = '\r' || (0x0B ≤ c.toNat && c.toNat ≤ 0x0C) || (0x1C ≤ c.toNat && c.toNat ≤ 0x1E) ||
    c.toNat = 0x85 || c.toNat = 0x2028 || c.toNat = 0x2029

/-- The lines between separators of any kind; a separator at the end opens no further line. -/
def anyLinesFrom (current : Text) : Text → List Text
  | [] => if current.isEmpty then [] else [current.reverse]
  | '\r' :: '\n' :: rest => current.reverse :: anyLinesFrom [] rest
  | c :: rest =>
    if isSeparator c then current.reverse :: anyLinesFrom [] rest else anyLinesFrom (c :: current) rest

def anyLines (text : Text) : List Text := anyLinesFrom [] text

end Text

end Breadcrumb
