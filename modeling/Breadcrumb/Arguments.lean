import Breadcrumb.Integer
import Breadcrumb.Text.Quoted

namespace Breadcrumb.Arguments

/-- What a switch takes: nothing, a text, one text more each time, or an integer. -/
inductive Kind where
  | flag
  | text
  | list
  | number
  | help
  deriving DecidableEq

namespace Kind

def takesValue : Kind → Bool
  | .flag | .help => false
  | _ => true

end Kind

/-- A switch by the name of its setting and the ways to spell it. -/
structure Switch where
  name : Text
  spellings : List Text
  kind : Kind
  choices : List Text := []
  deriving DecidableEq

/-- The word that must stand among the switches: none, a single one, or a command with all that
follows it. -/
inductive Place where
  | nothing
  | word (name : Text)
  | command (name : Text)
  deriving DecidableEq

def Place.name : Place → Text
  | .nothing => []
  | .word name => name
  | .command name => name

/-- The switches of a command and its place for a word. -/
structure Grammar where
  title : Text
  switches : List Switch
  place : Place := .nothing

/-- Why no command is run: help is asked for, or the words are refused. -/
inductive Exit where
  | help
  | refused (title message : Text)
  deriving DecidableEq

/-- A word's part in the command line: a switch, if it is known, with the text that sticks to its
spelling, a plain word, or the two dashes behind which all words are plain. -/
inductive Part where
  | switch (known : Option Switch) (spelling tail : Text)
  | word
  | dashes

namespace Grammar

def refuse {α : Type} (grammar : Grammar) (message : Text) : Except Exit α :=
  .error (.refused grammar.title message)

/-- Refuses what is given for a switch or a place. -/
def refuseFor {α : Type} (grammar : Grammar) (name message : Text) : Except Exit α :=
  grammar.refuse ("argument ".toList ++ name ++ ": ".toList ++ message)

def spellings (grammar : Grammar) : List (Text × Switch) :=
  grammar.switches.flatMap fun switch => switch.spellings.map (·, switch)

def find? (grammar : Grammar) (spelling : Text) : Option Switch := grammar.spellings.lookup spelling

/-- The switches that a shortened spelling may mean. -/
def candidates (grammar : Grammar) (word : Text) : List (Text × Part) :=
  match word with
  | '-' :: '-' :: _ =>
    let lead := word.takeWhile (· ≠ '=')
    (grammar.spellings.filter fun (spelling, _) => spelling.startsWith lead).map
      fun (spelling, switch) =>
        (spelling, .switch (some switch) spelling (word.drop lead.length))
  | _ =>
    grammar.spellings.filterMap fun (spelling, switch) =>
      if spelling = word.take 2 then
        some (spelling, .switch (some switch) spelling (word.drop 2))
      else if spelling.startsWith word then
        some (spelling, .switch (some switch) spelling [])
      else none

def isDigits (text : Text) : Bool :=
  !text.isEmpty && text.all fun c => (Text.decimalValue? c).isSome

def isNegative (word : Text) : Bool :=
  match word with
  | '-' :: body =>
    let body := if body.getLast? = some '\n' then body.dropLast else body
    match Text.cut? '.' body with
    | none => isDigits body
    | some (whole, fraction) => (whole.isEmpty || isDigits whole) && isDigits fraction
  | _ => false

/-- The part of a word. -/
def part (grammar : Grammar) (word : Text) : Except Exit Part :=
  match word with
  | '-' :: _ =>
    match grammar.find? word with
    | some switch => .ok (.switch (some switch) word [])
    | none =>
      let lead := word.takeWhile (· ≠ '=')
      if word.length = 1 then .ok .word
      else
        match grammar.find? lead with
        | some switch => .ok (.switch (some switch) lead (word.drop lead.length))
        | none =>
          match grammar.candidates word with
          | [(_, part)] => .ok part
          | [] =>
            if isNegative word || word.contains ' ' then .ok .word
            else .ok (.switch none word [])
          | several =>
            grammar.refuse
              ("ambiguous option: ".toList ++ word ++ " could match ".toList ++
                Text.join ", ".toList (several.map (·.1)))
  | _ => .ok .word

def parts (grammar : Grammar) : List Text → Except Exit (List (Text × Part))
  | [] => .ok []
  | word :: rest =>
    if word = ['-', '-'] then .ok ((word, .dashes) :: rest.map (·, .word))
    else do
      let part ← grammar.part word
      return (word, part) :: (← grammar.parts rest)

end Grammar

/-- What a switch has been given. -/
inductive Given where
  | flag
  | text (text : Text)
  | number (n : Int)
  deriving DecidableEq

/-- The settings in the order in which they were given, the words for the place, and words left
over. -/
structure Reading where
  given : List (Text × Given) := []
  words : Option (List Text) := none
  extras : List Text := []

namespace Grammar

def switchName (switch : Switch) : Text := Text.join ['/'] switch.spellings

def accept (grammar : Grammar) (switch : Switch) (value : Text) : Except Exit (Text × Given) :=
  if switch.kind = .number then
    match Integer.readLoose? value with
    | some n => .ok (switch.name, .number n)
    | none =>
      grammar.refuseFor (switchName switch) ("invalid int value: ".toList ++ value.quoted)
  else if switch.choices.isEmpty || switch.choices.contains value then
    .ok (switch.name, .text value)
  else
    grammar.refuseFor (switchName switch)
      ("invalid choice: ".toList ++ value.quoted ++ " (choose from ".toList ++
        Text.join ", ".toList (switch.choices.map Text.quoted) ++ ")".toList)

def raise (switch : Switch) : Except Exit (Text × Given) :=
  if switch.kind = .help then .error .help else .ok (switch.name, .flag)

/-- How a word with switches ends: with a value that sticks to the last one, with a switch alone, or
with a tail that is no switch. -/
inductive Ending where
  | value (switch : Switch) (text : Text)
  | alone (switch : Switch)
  | leftover (text : Text)

/-- The switches in one word, given the first and the text that sticks to it. A value may follow an
equals sign or, for a short spelling, stand directly behind it; behind a short switch without value
further short ones may follow. -/
def unbundle (grammar : Grammar) (switch : Switch) (short : Bool) :
    Text → Except Exit (List Switch × Ending)
  | [] => .ok ([], .alone switch)
  | c :: rest =>
    if switch.kind.takesValue then
      .ok ([], .value switch (if c = '=' then rest else c :: rest))
    else if c = '=' then ignored grammar switch rest
    else if !short || c = '-' then ignored grammar switch (c :: rest)
    else
      match grammar.find? ['-', c] with
      | none => .ok ([switch], .leftover ('-' :: c :: rest))
      | some next =>
        (unbundle grammar next true rest).map fun (switches, ending) => (switch :: switches, ending)
where
  ignored (grammar : Grammar) (switch : Switch) (value : Text) :
      Except Exit (List Switch × Ending) :=
    grammar.refuseFor (switchName switch) ("ignored explicit argument ".toList ++ value.quoted)

/-- A switch alone takes its value from the next word, which must be a plain one. -/
def alone (grammar : Grammar) (switch : Switch) (rest : List (Text × Part)) :
    Except Exit ((Text × Given) × List (Text × Part)) :=
  if switch.kind.takesValue then
    match rest with
    | (value, .word) :: rest => do return (← grammar.accept switch value, rest)
    | _ => grammar.refuseFor (switchName switch) "expected one argument".toList
  else do return (← raise switch, rest)

/-- Checks that a switch alone has its value, before any switch of its word is set. -/
def checkAlone (grammar : Grammar) (switch : Switch) (rest : List (Text × Part)) :
    Except Exit Unit :=
  match switch.kind.takesValue, rest with
  | false, _ => .ok ()
  | true, (_, .word) :: _ => .ok ()
  | true, _ => grammar.refuseFor (switchName switch) "expected one argument".toList

def isShort (spelling : Text) : Bool := spelling.tail.head? ≠ some '-'

/-- Reads a word with switches; `rest` are the words behind it. -/
def readSwitch (grammar : Grammar) (switch : Switch) (spelling tail : Text)
    (rest : List (Text × Part)) (reading : Reading) :
    Except Exit (Reading × List (Text × Part)) := do
  let (switches, ending) ← grammar.unbundle switch (isShort spelling) tail
  match ending with
  | .alone last =>
    let _ ← grammar.checkAlone last rest
    let given ← switches.mapM raise
    let (value, rest) ← grammar.alone last rest
    return ({ reading with given := reading.given ++ given ++ [value] }, rest)
  | .value last text =>
    let given ← switches.mapM raise
    let value ← grammar.accept last text
    return ({ reading with given := reading.given ++ given ++ [value] }, rest)
  | .leftover text =>
    let given ← switches.mapM raise
    let extras := reading.extras ++ [text]
    return ({ reading with given := reading.given ++ given, extras }, rest)

def isSwitch : Text × Part → Bool
  | (_, .switch ..) => true
  | _ => false

def isDashes : Text × Part → Bool
  | (_, .dashes) => true
  | _ => false

/-- How many of the words the place takes. -/
def placeSize (place : Place) (parts : List (Text × Part)) : Nat :=
  let lead := (parts.takeWhile isDashes).length
  match place, parts.drop lead with
  | .word _, (_, .word) :: rest => lead + 1 + (rest.takeWhile isDashes).length
  | .command _, (_, .word) :: _ => parts.length
  | _, _ => 0

/-- Gives the place its words, unless it has them already. -/
def fill (grammar : Grammar) (reading : Reading) (parts : List (Text × Part)) :
    Reading × List (Text × Part) :=
  match reading.words, placeSize grammar.place parts with
  | none, n + 1 =>
    ({ reading with words := some ((parts.take (n + 1)).map (·.1)) }, parts.drop (n + 1))
  | _, _ => (reading, parts)

/-- Reads words and switches in turn, up to the last switch. -/
def readFrom (grammar : Grammar) :
    (fuel : Nat) → List (Text × Part) → Reading → Except Exit Reading
  | 0, _, reading => .ok reading
  | fuel + 1, parts, reading =>
    if parts.any isSwitch then
      match parts with
      | (word, .switch none _ _) :: rest =>
        readFrom grammar fuel rest { reading with extras := reading.extras ++ [word] }
      | (_, .switch (some switch) spelling tail) :: rest => do
        let (reading, rest) ← grammar.readSwitch switch spelling tail rest reading
        readFrom grammar fuel rest reading
      | _ =>
        let (filled, rest) := grammar.fill reading parts
        if rest.length < parts.length then readFrom grammar fuel rest filled
        else
          let passed := parts.takeWhile (!isSwitch ·)
          readFrom grammar fuel (parts.drop passed.length)
            { reading with extras := reading.extras ++ passed.map (·.1) }
    else
      let (filled, rest) := grammar.fill reading parts
      .ok { filled with extras := filled.extras ++ rest.map (·.1) }

def read (grammar : Grammar) (words : List Text) : Except Exit Reading := do
  let parts ← grammar.parts words
  let reading ← grammar.readFrom (2 * parts.length + 1) parts {}
  if grammar.place ≠ .nothing && reading.words.isNone then
    grammar.refuse ("the following arguments are required: ".toList ++ grammar.place.name)
  else return reading

end Grammar

namespace Reading

def last? (reading : Reading) (name : String) : Option Given :=
  (reading.given.reverse.find? (·.1 = name.toList)).map (·.2)

def text? (reading : Reading) (name : String) : Option Text :=
  match reading.last? name with
  | some (.text text) => some text
  | _ => none

def number? (reading : Reading) (name : String) : Option Int :=
  match reading.last? name with
  | some (.number n) => some n
  | _ => none

def isSet (reading : Reading) (name : String) : Bool := (reading.last? name).isSome

def texts (reading : Reading) (name : String) : List Text :=
  reading.given.filterMap fun (other, given) =>
    match given with
    | .text text => if other = name.toList then some text else none
    | _ => none

/-- The word of the place; two dashes before it do not count. -/
def word (reading : Reading) : Text := ((reading.words.getD []).erase ['-', '-']).headD []

end Reading

end Breadcrumb.Arguments
