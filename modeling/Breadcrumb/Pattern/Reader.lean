import Breadcrumb.Pattern
import Breadcrumb.Pattern.Fault
import Breadcrumb.Text.Blank
import Breadcrumb.Text.Identifier

namespace Breadcrumb.Pattern

/-- A character, or a character behind a backslash. -/
inductive Symbol where
  | plain (c : Char)
  | escaped (c : Char)
  deriving DecidableEq

namespace Symbol

def text : Symbol → Text
  | .plain c => [c]
  | .escaped c => ['\\', c]

def isPlain (symbol : Symbol) (c : Char) : Bool := symbol = .plain c

def isLetter : Symbol → Bool
  | .plain c => Text.isLetter c
  | .escaped _ => false

end Symbol

/-- The rest of the expression and what is known of its groups. A group's width is unknown while
it is open. -/
structure Reading where
  rest : Text
  position : Nat := 0
  widths : List (Option (Nat × Option Nat)) := [none]
  names : List (Text × Nat) := []
  behindFrom : Option Nat := none
  tests : List (Nat × Nat) := []
  looseBehind : Bool := false
  asciiGlobally : Bool := false
  unicodeGlobally : Bool := false

abbrev Reader := StateT Reading (Except Fault)

namespace Reader

def fail {α : Type} (cause : Cause) (offset : Nat) : Reader α := do
  throw ⟨cause, some ((← get).position - offset)⟩

def failAt {α : Type} (cause : Cause) (position : Nat) : Reader α := throw ⟨cause, some position⟩

/-- The expression goes on with `rest`; a lone backslash cannot be the next symbol. -/
def goTo (rest : Text) (position : Nat) : Reader Unit := do
  match rest with
  | ['\\'] => failAt .escapeAtEnd position
  | _ => modify fun r => { r with rest, position }

def peek : Reader (Option Symbol) := do
  match (← get).rest with
  | [] => return none
  | '\\' :: c :: _ => return some (.escaped c)
  | c :: _ => return some (.plain c)

def next : Reader (Option Symbol) := do
  let r ← get
  match r.rest with
  | [] => return none
  | '\\' :: c :: rest => goTo rest (r.position + 2); return some (.escaped c)
  | c :: rest => goTo rest (r.position + 1); return some (.plain c)

def nextIs (c : Char) : Reader Bool := do
  return (← peek).any (·.isPlain c)

def accept (c : Char) : Reader Bool := do
  if ← nextIs c then
    let _ ← next
    return true
  else return false

/-- Takes up to `count` plain characters of a kind. -/
def takeWhile (kind : Char → Bool) : (count : Nat) → Reader Text
  | 0 => return []
  | count + 1 => do
    match ← peek with
    | some (.plain c) =>
      if kind c then
        let _ ← next
        return c :: (← takeWhile kind count)
      else return []
    | _ => return []

def takeDigits : Reader Text := do takeWhile Text.isAsciiDigit (← get).rest.length

/-- Takes a name up to its terminator. -/
def takeUntil (terminator : Char) (what : Text) : (fuel : Nat) → (soFar : Text) → Reader Text
  | 0, _ => fail .unexpectedEnd 0
  | fuel + 1, soFar => do
    match ← next with
    | none =>
      if soFar.isEmpty then fail (.missingName what) 0
      else fail (.unterminatedName terminator) soFar.length
    | some symbol =>
      if symbol.isPlain terminator then
        if soFar.isEmpty then fail (.missingName what) 1 else return soFar
      else takeUntil terminator what fuel (soFar ++ symbol.text)

def takeName (terminator : Char) (what : Text) : Reader Text := do
  takeUntil terminator what ((← get).rest.length + 1) []

def isHexDigit (c : Char) : Bool := (Text.hexValue? c).isSome

def isOctalDigit (c : Char) : Bool := '0' ≤ c && c ≤ '7'

def number (base : Nat) (digits : Text) : Nat := (Text.number? base digits).getD 0

/-- An escape of exactly `count` hexadecimal digits. -/
def hexEscape (c : Char) (count : Nat) : Reader Nat := do
  let digits ← takeWhile isHexDigit count
  let escape := '\\' :: c :: digits
  if digits.length ≠ count then fail (.incompleteEscape escape) escape.length
  else if 0x10FFFF < number 16 digits then fail (.badEscape escape) escape.length
  else return number 16 digits

/-- A character by its name. The names are left out, so none is known. -/
def namedEscape : Reader Nat := do
  if ← accept '\x7b' then
    let name ← takeName '\x7d' "character name".toList
    fail (.unknownCharacterName name) (name.length + 4)
  else fail .missingBrace 0

/-- The control characters that have an escape of their own. -/
def controlEscape? : Char → Option Nat
  | 'a' => some 7
  | 'b' => some 8
  | 'f' => some 12
  | 'n' => some 10
  | 'r' => some 13
  | 't' => some 9
  | 'v' => some 11
  | '\\' => some 0x5C
  | _ => none

def categoryEscape? : Char → Option Item
  | 'd' => some (.category .digit false)
  | 'D' => some (.category .digit true)
  | 's' => some (.category .space false)
  | 'S' => some (.category .space true)
  | 'w' => some (.category .word false)
  | 'W' => some (.category .word true)
  | _ => none

def anchorEscape? (mode : Mode) : Char → Option Anchor
  | 'A' => some .textStart
  | 'Z' => some .textEnd
  | 'b' => some (.wordEdge mode.ascii)
  | 'B' => some (.wordInside mode.ascii)
  | _ => none

/-- Escapes that give a code both inside and outside of sets. -/
def codeEscape (c : Char) : Reader Nat := do
  if c = 'x' then hexEscape c 2
  else if c = 'u' then hexEscape c 4
  else if c = 'U' then hexEscape c 8
  else if c = 'N' then namedEscape
  else if Text.isAsciiLetter c || Text.isAsciiDigit c then fail (.badEscape ['\\', c]) 2
  else return c.toNat

def octal (digits : Text) : Reader Nat := do
  if 0o377 < number 8 digits then
    fail (.octalTooLarge ('\\' :: digits)) (digits.length + 1)
  else return number 8 digits

/-- The meaning of an escape inside a set. -/
def setEscape (c : Char) : Reader Item := do
  match controlEscape? c, categoryEscape? c with
  | some n, _ => return .code n
  | none, some item => return item
  | none, none =>
    if isOctalDigit c then return .code (← octal (c :: (← takeWhile isOctalDigit 2)))
    else return .code (← codeEscape c)

/-- A group that was closed is known by its width. -/
def isClosed (r : Reading) (index : Nat) : Bool := (r.widths[index]?.bind id).isSome

/-- Inside a look-behind only groups that were closed before it may be referred to. -/
def checkBehind (index : Nat) : Reader Unit := do
  let r ← get
  match r.behindFrom with
  | none => return
  | some start =>
    if !isClosed r index then fail .openGroup 0
    else if start ≤ index then fail .lookBehindGroup 0
    else return

def refer (mode : Mode) (index offset : Nat) : Reader Pattern := do
  if isClosed (← get) index then
    checkBehind index
    return .reference mode index
  else fail .openGroup offset

/-- A reference to a group, or an octal code of three digits. -/
def digitEscape (mode : Mode) (c : Char) : Reader Pattern := do
  let second ← takeWhile Text.isAsciiDigit 1
  let third ←
    if isOctalDigit c && second.any isOctalDigit then takeWhile isOctalDigit 1 else pure []
  let digits := c :: second ++ third
  if third.isEmpty then
    let index := number 10 digits
    if index < (← get).widths.length then refer mode index (digits.length + 1)
    else fail (.badReference index) digits.length
  else return .literal mode (← octal digits)

/-- The meaning of an escape outside of sets. -/
def escape (mode : Mode) (c : Char) : Reader Pattern := do
  match anchorEscape? mode c, categoryEscape? c, controlEscape? c with
  | some place, _, _ => return .anchor place
  | none, some item, _ => return .set mode false [item]
  | none, none, some n => return .literal mode n
  | none, none, none =>
    if c = '0' then return .literal mode (number 8 (← takeWhile isOctalDigit 2))
    else if Text.isAsciiDigit c then digitEscape mode c
    else return .literal mode (← codeEscape c)

/-- One end of a range in a set, or a member on its own. -/
def setMember : Symbol → Reader Item
  | .plain c => return .code c.toNat
  | .escaped c => setEscape c

/-- The members of a set, which started at `start`, up to the bracket that closes it. -/
def setItems (start : Nat) : (fuel : Nat) → (soFar : List Item) → Reader (List Item)
  | 0, _ => failAt .unterminatedSet start
  | fuel + 1, soFar => do
    match ← next with
    | none => failAt .unterminatedSet start
    | some this =>
      if this.isPlain ']' && !soFar.isEmpty then return soFar
      else
        let first ← setMember this
        if ← accept '-' then
          match ← next with
          | none => failAt .unterminatedSet start
          | some that =>
            if that.isPlain ']' then return soFar ++ [first, .code '-'.toNat]
            else
              let second ← setMember that
              match first, second with
              | .code lo, .code hi =>
                if hi < lo then
                  fail (.badRange this.text that.text) (this.text.length + 1 + that.text.length)
                else setItems start fuel (soFar ++ [.range lo hi])
              | _, _ =>
                fail (.badRange this.text that.text) (this.text.length + 1 + that.text.length)
        else setItems start fuel (soFar ++ [first])

def charSet (mode : Mode) : Reader Pattern := do
  let start := (← get).position - 1
  let negated ← accept '^'
  let items ← setItems start ((← get).rest.length + 1) []
  return .set mode negated items

/-- Repetition numbers stay below this bound. -/
def maxRepeat : Nat := 4294967295

def bound (digits : Text) : Reader Nat := do
  if Integer.maxDigits < digits.length then throw ⟨.tooManyDigits ⟨digits.length⟩, none⟩
  else if maxRepeat ≤ number 10 digits then throw ⟨.repetitionTooLarge, none⟩
  else return number 10 digits

/-- The bounds in braces, or nothing if the brace stands for itself. -/
def braces : Reader (Option (Nat × Option Nat)) := do
  let start ← get
  if ← nextIs '\x7d' then return none
  let lo ← takeDigits
  let hi ← if ← accept ',' then takeDigits else pure lo
  if ← accept '\x7d' then
    let min ← if lo.isEmpty then pure 0 else bound lo
    if hi.isEmpty then return some (min, none)
    let max ← bound hi
    if max < min then failAt .badBounds start.position
    return some (min, some max)
  else
    goTo start.rest start.position
    return none

/-- The bounds that a repetition character announces. -/
def bounds : Char → Reader (Option (Nat × Option Nat))
  | '?' => return some (0, some 1)
  | '*' => return some (0, none)
  | '+' => return some (1, none)
  | _ => braces

def greed : Reader Greed := do
  if ← accept '?' then return .reluctant
  else if ← accept '+' then return .possessive
  else return .greedy

/-- What has been read at this level: the pattern, and whether it may be repeated. -/
inductive Piece where
  | item (p : Pattern)
  | place (p : Pattern)
  | repeated (p : Pattern)

def Piece.pattern : Piece → Pattern
  | .item p | .place p | .repeated p => p

/-- Repeats the last piece; `start` is the position behind the repetition character. -/
def repeatLast (min : Nat) (max : Option Nat) (start : Nat) (pieces : List Piece) :
    Reader (List Piece) := do
  match pieces with
  | .item p :: rest => return .repeated (.times (← greed) min max p) :: rest
  | .repeated _ :: _ => failAt .multipleRepeat (start - 1)
  | _ => failAt .nothingToRepeat (start - 1)

/-- The options a flag letter turns on or off; `t` changes nothing. -/
structure Flags where
  ignoreCase : Bool := false
  multiline : Bool := false
  dotAll : Bool := false
  verbose : Bool := false
  ascii : Bool := false
  unicode : Bool := false
  locale : Bool := false
  template : Bool := false

namespace Flags

def isFlag (c : Char) : Bool := "iLmsxatu".toList.contains c

def insert (flags : Flags) : Char → Flags
  | 'i' => { flags with ignoreCase := true }
  | 'm' => { flags with multiline := true }
  | 's' => { flags with dotAll := true }
  | 'x' => { flags with verbose := true }
  | 'a' => { flags with ascii := true }
  | 'u' => { flags with unicode := true }
  | 'L' => { flags with locale := true }
  | _ => { flags with template := true }

def overlaps (f g : Flags) : Bool :=
  (f.ignoreCase && g.ignoreCase) || (f.multiline && g.multiline) || (f.dotAll && g.dotAll) ||
    (f.verbose && g.verbose)

def apply (on off : Flags) (mode : Mode) : Mode where
  ignoreCase := (mode.ignoreCase || on.ignoreCase) && !off.ignoreCase
  multiline := (mode.multiline || on.multiline) && !off.multiline
  dotAll := (mode.dotAll || on.dotAll) && !off.dotAll
  verbose := (mode.verbose || on.verbose) && !off.verbose
  ascii := on.ascii || (mode.ascii && !on.unicode)

end Flags

/-- A flag symbol, or the fault for a symbol that is none. -/
def flagOf (symbol : Symbol) (missing : Cause) : Reader Char := do
  match symbol with
  | .plain c => if Flags.isFlag c then return c else notFlag
  | .escaped _ => notFlag
where
  notFlag : Reader Char :=
    fail (if symbol.isLetter then .unknownFlag else missing) symbol.text.length

/-- Flags to turn on, from `c` on, and the character that ends them. -/
def flagsOn : (fuel : Nat) → (c : Char) → Flags → Reader (Flags × Char)
  | 0, _, _ => fail .missingFlagEnd 0
  | fuel + 1, c, flags => do
    if c = 'L' then fail .localeFlag 0
    let flags := flags.insert c
    if flags.ascii && flags.unicode then fail .conflictingFlags 0
    match ← next with
    | none => fail .missingFlagEnd 0
    | some symbol =>
      if symbol.isPlain ')' then return (flags, ')')
      else if symbol.isPlain '-' then return (flags, '-')
      else if symbol.isPlain ':' then return (flags, ':')
      else flagsOn fuel (← flagOf symbol .missingFlagEnd) flags

/-- Flags to turn off, from `c` on, up to the colon. -/
def flagsOff : (fuel : Nat) → (c : Char) → Flags → Reader Flags
  | 0, _, _ => fail .missingColon 0
  | fuel + 1, c, flags => do
    if c = 'a' || c = 'u' || c = 'L' then fail .stickyFlag 0
    let flags := flags.insert c
    match ← next with
    | none => fail .missingColon 0
    | some symbol =>
      if symbol.isPlain ':' then return flags
      else flagsOff fuel (← flagOf symbol .missingColon) flags

/-- The flags of a group that starts with `c`; the second part is missing if they hold globally. -/
def groupFlags (c : Char) : Reader (Flags × Option Flags) := do
  let fuel := (← get).rest.length + 1
  let (on, stop) ← if c = '-' then pure ({}, '-') else flagsOn fuel c {}
  if stop = ')' then return (on, none)
  if on.template then fail .globalFlagOn 1
  let off ←
    if stop = '-' then
      match ← next with
      | none => fail .missingFlag 0
      | some symbol => flagsOff fuel (← flagOf symbol .missingFlag) {}
    else pure {}
  if off.template then fail .globalFlagOff 1
  if on.overlaps off then fail .flagOnAndOff 1
  return (on, some off)

/-- Passes over a comment. -/
def skipComment (start : Nat) : (fuel : Nat) → Reader Unit
  | 0 => failAt .unterminatedComment start
  | fuel + 1 => do
    match ← next with
    | none => failAt .unterminatedComment start
    | some symbol => if symbol.isPlain ')' then return else skipComment start fuel

def skipLine : (fuel : Nat) → Reader Unit
  | 0 => return
  | fuel + 1 => do
    match ← next with
    | none => return
    | some symbol => if symbol.isPlain '\n' then return else skipLine fuel

def widthOf (r : Reading) (index : Nat) : Nat × Option Nat :=
  (r.widths[index]?.bind id).getD (0, some 0)

/-- Opens a group that captures. -/
def openGroup (name : Option Text) : Reader Nat := do
  let r ← get
  let index := r.widths.length
  match name with
  | none => modify fun r => { r with widths := r.widths ++ [none] }
  | some name =>
    match r.names.find? (·.1 = name) with
    | some (_, earlier) => fail (.nameTaken name index earlier) (name.length + 1)
    | none =>
      modify fun r => { r with widths := r.widths ++ [none], names := (name, index) :: r.names }
  return index

def closeGroup (index : Nat) (p : Pattern) : Reader Unit :=
  modify fun r => { r with widths := r.widths.set index (some (p.width (widthOf r))) }

/-- The group that a condition asks about. -/
def condition : Reader Nat := do
  let name ← takeName ')' "group name".toList
  if Text.isIdentifier name then
    match (← get).names.find? (·.1 = name) with
    | some (_, index) => return index
    | none => fail (.unknownName name) (name.length + 1)
  else
    match Integer.readLoose? name with
    | some (.ofNat 0) => fail .badGroupNumber (name.length + 1)
    | some (.ofNat index) =>
      if 2147483647 ≤ index then fail (.badReference index) (name.length + 1)
      let r ← get
      if !r.tests.any (·.1 = index) then
        modify fun r => { r with tests := r.tests ++ [(index, r.position - name.length - 1)] }
      return index
    | _ => fail (.badName name) (name.length + 1)

/-- Ends a group that started at `start`. -/
def closeParen (start : Nat) : Reader Unit := do
  if ← accept ')' then return else failAt .unterminatedGroup start

/-- The width of a look-behind, which must not vary. -/
def behindWidth (p : Pattern) : Reader Nat := do
  let r ← get
  let (lo, hi) := p.width (widthOf r)
  if hi ≠ some lo then modify fun r => { r with looseBehind := true }
  return lo

/-- What the characters behind an opening parenthesis make of it. -/
inductive Opening where
  | capturing (name : Option Text)
  | scoped (mode : Mode)
  | atomic
  | look (behind negated : Bool)
  | condition
  | reference (p : Pattern)
  | comment
  | global (flags : Flags)

/-- The opening that starts with a question mark and `P`. -/
def namedOpening (mode : Mode) : Reader Opening := do
  if ← accept '<' then
    let name ← takeName '>' "group name".toList
    if Text.isIdentifier name then return .capturing (some name)
    else fail (.badName name) (name.length + 1)
  else if ← accept '=' then
    let name ← takeName ')' "group name".toList
    if !Text.isIdentifier name then fail (.badName name) (name.length + 1)
    match (← get).names.find? (·.1 = name) with
    | none => fail (.unknownName name) (name.length + 1)
    | some (_, index) => return .reference (← refer mode index (name.length + 1))
  else
    match ← next with
    | none => fail .unexpectedEnd 0
    | some symbol =>
      fail (.unknownExtension ("?P".toList ++ symbol.text)) (symbol.text.length + 2)

def behindOpening : Reader Opening := do
  match ← next with
  | none => fail .unexpectedEnd 0
  | some symbol =>
    if symbol.isPlain '=' then return .look true false
    else if symbol.isPlain '!' then return .look true true
    else fail (.unknownExtension ("?<".toList ++ symbol.text)) (symbol.text.length + 2)

/-- Reads what stands between an opening parenthesis and the body of its group. -/
def opening (mode : Mode) (start : Nat) : Reader Opening := do
  if !(← accept '?') then return .capturing none
  match ← next with
  | none => fail .unexpectedEnd 0
  | some (.escaped c) => fail (.unknownExtension ['?', '\\', c]) 3
  | some (.plain 'P') => namedOpening mode
  | some (.plain ':') => return .scoped mode
  | some (.plain '#') => skipComment start ((← get).rest.length + 1); return .comment
  | some (.plain '=') => return .look false false
  | some (.plain '!') => return .look false true
  | some (.plain '<') => behindOpening
  | some (.plain '(') => return .condition
  | some (.plain '>') => return .atomic
  | some (.plain c) =>
    if Flags.isFlag c || c = '-' then
      match ← groupFlags c with
      | (on, none) => return .global on
      | (on, some off) => return .scoped (on.apply off mode)
    else fail (.unknownExtension ['?', c]) 2

def anchorOf (mode : Mode) : Char → Option Anchor
  | '^' => some (if mode.multiline then .lineStart else .textStart)
  | '$' => some (if mode.multiline then .lineEnd else .lastLineEnd)
  | _ => none

def isPatternBlank (c : Char) : Bool := c = ' ' || (0x09 ≤ c.toNat && c.toNat ≤ 0x0D)

/-- Notes global flags; they must come before everything else. -/
def noteGlobal (flags : Flags) : Reader Unit :=
  modify fun r =>
    { r with
      asciiGlobally := r.asciiGlobally || flags.ascii
      unicodeGlobally := r.unicodeGlobally || flags.unicode }

mutual

/-- Alternatives up to the end or a closing parenthesis. -/
def branches (outermost : Bool) : (fuel : Nat) → Mode → List Pattern → Reader Pattern
  | 0, _, _ => fail .unexpectedEnd 0
  | fuel + 1, mode, soFar => do
    let (p, mode) ← pieces (outermost && soFar.isEmpty) fuel mode []
    if ← accept '|' then branches outermost fuel mode (soFar ++ [p])
    else return oneOf (soFar ++ [p])

/-- The pieces of one alternative, collected backwards, and the mode it leaves behind. -/
def pieces (first : Bool) : (fuel : Nat) → Mode → List Piece → Reader (Pattern × Mode)
  | 0, _, _ => fail .unexpectedEnd 0
  | fuel + 1, mode, soFar => do
    match ← peek with
    | none => return (sequence (soFar.reverse.map Piece.pattern), mode)
    | some symbol =>
      if symbol.isPlain '|' || symbol.isPlain ')' then
        return (sequence (soFar.reverse.map Piece.pattern), mode)
      let _ ← next
      match symbol with
      | .escaped c =>
        match ← escape mode c with
        | .anchor place => pieces first fuel mode (.place (.anchor place) :: soFar)
        | p => pieces first fuel mode (.item p :: soFar)
      | .plain c =>
        if mode.verbose && isPatternBlank c then pieces first fuel mode soFar
        else if mode.verbose && c = '#' then
          skipLine ((← get).rest.length + 1)
          pieces first fuel mode soFar
        else if c = '[' then pieces first fuel mode (.item (← charSet mode) :: soFar)
        else if c = '.' then pieces first fuel mode (.item (.dot mode.dotAll) :: soFar)
        else if c = '*' || c = '+' || c = '?' || c = '\x7b' then
          let start := (← get).position
          match ← bounds c with
          | none => pieces first fuel mode (.item (.literal mode c.toNat) :: soFar)
          | some (min, max) => pieces first fuel mode (← repeatLast min max start soFar)
        else if c = '(' then
          let start := (← get).position - 1
          match ← opening mode start with
          | .comment => pieces first fuel mode soFar
          | .reference p => pieces first fuel mode (.item p :: soFar)
          | .global flags =>
            if !first || !soFar.isEmpty then failAt .lateFlags start
            noteGlobal flags
            pieces first fuel (flags.apply {} mode) soFar
          | form => pieces first fuel mode (.item (← body form fuel mode start) :: soFar)
        else
          match anchorOf mode c with
          | some place => pieces first fuel mode (.place (.anchor place) :: soFar)
          | none => pieces first fuel mode (.item (.literal mode c.toNat) :: soFar)

/-- The rest of a group that started at `start`. -/
def body (form : Opening) : (fuel : Nat) → Mode → (start : Nat) → Reader Pattern
  | 0, _, _ => fail .unexpectedEnd 0
  | fuel + 1, mode, start => do
    match form with
    | .capturing name =>
      let index ← openGroup name
      let p ← branches false fuel mode []
      closeParen start
      closeGroup index p
      return .group index p
    | .scoped inner =>
      let p ← branches false fuel inner []
      closeParen start
      return p
    | .atomic =>
      let p ← branches false fuel mode []
      closeParen start
      return .atomic p
    | .look false negated =>
      let p ← branches false fuel mode []
      closeParen start
      return .ahead negated p
    | .look true negated =>
      let outer := (← get).behindFrom
      modify fun r => { r with behindFrom := some (outer.getD r.widths.length) }
      let p ← branches false fuel mode []
      modify fun r => { r with behindFrom := outer }
      closeParen start
      return .behind negated (← behindWidth p) p
    | .condition =>
      let index ← condition
      checkBehind index
      let (present, _) ← pieces false fuel mode []
      if ← accept '|' then
        let (absent, _) ← pieces false fuel mode []
        if ← nextIs '|' then fail .tooManyBranches 0
        closeParen start
        return .choice index present absent
      else
        closeParen start
        return .choice index present .empty
    | .reference p => return p
    | .comment | .global _ => return .empty

end

def expression : Reader Pattern := do
  let r ← get
  goTo r.rest r.position
  let p ← branches true (4 * r.rest.length + 8) {} []
  let r ← get
  if r.asciiGlobally && r.unicodeGlobally then throw ⟨.asciiAndUnicode, none⟩
  if !r.rest.isEmpty then fail .unbalanced 0
  match r.tests.find? fun (index, _) => r.widths.length ≤ index with
  | some (index, position) => failAt (.badReference index) position
  | none => if r.looseBehind then throw ⟨.looseLookBehind, none⟩ else return p

end Reader

def parse (expression : Text) : Except Fault Pattern :=
  (Reader.expression.run { rest := expression }).map (·.1)

end Breadcrumb.Pattern
