import Breadcrumb.Yaml.Tag
import Breadcrumb.Yaml.Token.Lexer

namespace Breadcrumb.Yaml

inductive Node where
  | scalar (tag : Tag) (text : Text)
  | sequence (tag : Tag) (items : List Node)
  | mapping (tag : Tag) (pairs : List (Node × Node))
  | anchored (name : Text) (node : Node)
  | reference (name : Text)

namespace Node

/-- A node that is left out. -/
def absent : Node := .scalar .null []

/-- The handles that tags may use, with what they stand for. -/
abbrev Handles := List (Text × Text)

/-- The anchor and the tag before a node. -/
structure Properties where
  anchor : Option Text := none
  tag : Option Text := none

namespace Properties

def isNone (properties : Properties) : Bool :=
  properties.anchor.isNone && properties.tag.isNone

/-- A single mark asks for the kind that the form of the node gives. -/
def isImplicit (properties : Properties) : Bool :=
  properties.tag = none || properties.tag = some ['!']

def tagOr (properties : Properties) (default : Tag) : Tag :=
  match properties.tag with
  | none => default
  | some tag => if tag = ['!'] then default else Tag.ofText tag

def name (properties : Properties) (node : Node) : Node :=
  match properties.anchor with
  | some anchor => .anchored anchor node
  | none => node

/-- The kind of a scalar: a plain one, or one whose tag is a single mark, goes by its form. -/
def scalar (properties : Properties) (text : Text) (plain : Bool) : Node :=
  let default := if plain || properties.tag = some ['!'] then Tag.ofForm text else .str
  .scalar (properties.tagOr default) text

end Properties

/-- The full text of a tag. -/
def fullTag (handles : Handles) : Option Text → Text → Except Fault Text
  | none, suffix => .ok suffix
  | some handle, suffix =>
    match handles.lookup handle with
    | some lead => .ok (lead ++ suffix)
    | none => .error .malformed

/-- An anchor and a tag in either order, both of which may be missing. -/
def properties (handles : Handles) : List Token → Except Fault (Properties × List Token)
  | .anchor name :: .tag handle suffix :: rest =>
    (fullTag handles handle suffix).map ({ anchor := some name, tag := some · }, rest)
  | .tag handle suffix :: .anchor name :: rest =>
    (fullTag handles handle suffix).map ({ anchor := some name, tag := some · }, rest)
  | .anchor name :: rest => .ok ({ anchor := some name }, rest)
  | .tag handle suffix :: rest =>
    (fullTag handles handle suffix).map ({ tag := some · }, rest)
  | tokens => .ok ({}, tokens)

/-- Where a node stands, which decides what it may be. -/
inductive Context where
  | flow
  | block
  | blockOrEntries
  deriving DecidableEq

/-- Whether the next token shows that a node is left out. -/
def isNext (marks : List Token) : List Token → Bool
  | token :: _ => marks.contains token
  | [] => false

mutual

def parse (handles : Handles) :
    (fuel : Nat) → Context → List Token → Except Fault (Node × List Token)
  | 0, _, _ => .error .malformed
  | fuel + 1, context, tokens =>
    match tokens with
    | .reference name :: rest => .ok (.reference name, rest)
    | _ => do
      let (properties, tokens) ← properties handles tokens
      match tokens with
      | .blockEntry :: _ =>
        if context = .blockOrEntries then
          let (items, rest) ← parseEntries handles fuel tokens
          return (properties.name (.sequence (properties.tagOr .seq) items), rest)
        else if properties.isNone then throw .malformed
        else return (properties.name (properties.scalar [] properties.isImplicit), tokens)
      | .scalar text plain :: rest => return (properties.name (properties.scalar text plain), rest)
      | .flowSequence :: rest =>
        let (items, rest) ← parseFlowItems handles fuel true rest
        return (properties.name (.sequence (properties.tagOr .seq) items), rest)
      | .flowMapping :: rest =>
        let (pairs, rest) ← parseFlowPairs handles fuel true rest
        return (properties.name (.mapping (properties.tagOr .map) pairs), rest)
      | token :: rest =>
        if token = .blockSequence && context ≠ .flow then
          let (items, rest) ← parseBlockItems handles fuel rest
          return (properties.name (.sequence (properties.tagOr .seq) items), rest)
        else if token = .blockMapping && context ≠ .flow then
          let (pairs, rest) ← parseBlockPairs handles fuel rest
          return (properties.name (.mapping (properties.tagOr .map) pairs), rest)
        else if properties.isNone then throw .malformed
        else return (properties.name (properties.scalar [] properties.isImplicit), token :: rest)
      | [] => throw .malformed

/-- The node here, unless one of the marks shows that it is left out. -/
def parseUnless (handles : Handles) :
    (fuel : Nat) → Context → List Token → List Token → Except Fault (Node × List Token)
  | 0, _, _, _ => .error .malformed
  | fuel + 1, context, marks, tokens =>
    if isNext marks tokens then .ok (absent, tokens) else parse handles fuel context tokens

/-- Entries of a block sequence, up to the end of the block. -/
def parseBlockItems (handles : Handles) :
    (fuel : Nat) → List Token → Except Fault (List Node × List Token)
  | 0, _ => .error .malformed
  | fuel + 1, tokens =>
    match tokens with
    | .blockEntry :: rest => do
      let (item, rest) ← parseUnless handles fuel .block [.blockEntry, .blockEnd] rest
      let (items, rest) ← parseBlockItems handles fuel rest
      return (item :: items, rest)
    | .blockEnd :: rest => .ok ([], rest)
    | _ => .error .malformed

/-- Entries of a sequence that is not indented below its key. -/
def parseEntries (handles : Handles) :
    (fuel : Nat) → List Token → Except Fault (List Node × List Token)
  | 0, _ => .error .malformed
  | fuel + 1, tokens =>
    match tokens with
    | .blockEntry :: rest => do
      let (item, rest) ←
        parseUnless handles fuel .block [.blockEntry, .key, .value, .blockEnd] rest
      let (items, rest) ← parseEntries handles fuel rest
      return (item :: items, rest)
    | _ => .ok ([], tokens)

/-- The value behind a key: left out if no value token comes. -/
def parseValue (handles : Handles) :
    (fuel : Nat) → Context → List Token → List Token → Except Fault (Node × List Token)
  | 0, _, _, _ => .error .malformed
  | fuel + 1, context, marks, tokens =>
    match tokens with
    | .value :: rest => parseUnless handles fuel context marks rest
    | _ => .ok (absent, tokens)

/-- Pairs of a block mapping, up to the end of the block. -/
def parseBlockPairs (handles : Handles) :
    (fuel : Nat) → List Token → Except Fault (List (Node × Node) × List Token)
  | 0, _ => .error .malformed
  | fuel + 1, tokens =>
    match tokens with
    | .blockEnd :: rest => .ok ([], rest)
    | .key :: rest => do
      let (key, rest) ←
        parseUnless handles fuel .blockOrEntries [.key, .value, .blockEnd] rest
      let (value, rest) ← parseValue handles fuel .blockOrEntries [.key, .value, .blockEnd] rest
      let (pairs, rest) ← parseBlockPairs handles fuel rest
      return ((key, value) :: pairs, rest)
    | _ => .error .malformed

/-- Items between brackets; a pair among them is a mapping of its own. -/
def parseFlowItems (handles : Handles) :
    (fuel : Nat) → (first : Bool) → List Token → Except Fault (List Node × List Token)
  | 0, _, _ => .error .malformed
  | fuel + 1, first, tokens =>
    match tokens with
    | .flowSequenceEnd :: rest => .ok ([], rest)
    | _ => do
      let tokens ←
        if first then pure tokens
        else
          match tokens with
          | .flowEntry :: rest => pure rest
          | _ => throw .malformed
      match tokens with
      | .flowSequenceEnd :: rest => return ([], rest)
      | .key :: rest =>
        let (key, rest) ←
          parseUnless handles fuel .flow [.value, .flowEntry, .flowSequenceEnd] rest
        let (value, rest) ← parseValue handles fuel .flow [.flowEntry, .flowSequenceEnd] rest
        let (items, rest) ← parseFlowItems handles fuel false rest
        return (.mapping .map [(key, value)] :: items, rest)
      | _ =>
        let (item, rest) ← parse handles fuel .flow tokens
        let (items, rest) ← parseFlowItems handles fuel false rest
        return (item :: items, rest)

/-- Pairs between braces; a key may stand alone. -/
def parseFlowPairs (handles : Handles) :
    (fuel : Nat) → (first : Bool) → List Token → Except Fault (List (Node × Node) × List Token)
  | 0, _, _ => .error .malformed
  | fuel + 1, first, tokens =>
    match tokens with
    | .flowMappingEnd :: rest => .ok ([], rest)
    | _ => do
      let tokens ←
        if first then pure tokens
        else
          match tokens with
          | .flowEntry :: rest => pure rest
          | _ => throw .malformed
      match tokens with
      | .flowMappingEnd :: rest => return ([], rest)
      | .key :: rest =>
        let (key, rest) ←
          parseUnless handles fuel .flow [.value, .flowEntry, .flowMappingEnd] rest
        let (value, rest) ← parseValue handles fuel .flow [.flowEntry, .flowMappingEnd] rest
        let (pairs, rest) ← parseFlowPairs handles fuel false rest
        return ((key, value) :: pairs, rest)
      | _ =>
        let (key, rest) ← parse handles fuel .flow tokens
        let (pairs, rest) ← parseFlowPairs handles fuel false rest
        return ((key, absent) :: pairs, rest)

end

/-- The handles that need no directive. -/
def standardHandles : Handles := [(['!'], ['!']), (['!', '!'], Tag.lead)]

/-- The directives before a document: at most one version, which must be the first major one, and
each handle once. -/
def directives (version : Bool) (handles : Handles) :
    List Token → Except Fault (Handles × List Token)
  | .version major _ :: rest =>
    if version || major ≠ 1 then .error .malformed else directives true handles rest
  | .handle name lead :: rest =>
    if (handles.lookup name).isSome then .error .malformed
    else directives version ((name, lead) :: handles) rest
  | .directive :: rest => directives version handles rest
  | tokens => .ok (handles ++ standardHandles, tokens)

/-- Past the marks that end a document. -/
def skipEnds : List Token → List Token
  | .documentEnd :: rest => skipEnds rest
  | tokens => tokens

/-- Whether only the end may follow. -/
def isEnded (tokens : List Token) : Bool := skipEnds tokens = [.streamEnd]

/-- The content of a document behind its start. -/
def content (handles : Handles) (tokens : List Token) : Except Fault (Node × List Token) :=
  match tokens with
  | .version .. :: _ | .handle .. :: _ | .directive :: _ | .documentStart :: _ | .documentEnd :: _
  | .streamEnd :: _ => .ok (absent, tokens)
  | _ => parse handles (4 * tokens.length + 4) .block tokens

/-- The only document of a list of tokens, which may have none. -/
def document? (tokens : List Token) : Except Fault (Option Node) := do
  let found ←
    match tokens with
    | .streamEnd :: _ => pure none
    | .version .. :: _ | .handle .. :: _ | .directive :: _ | .documentStart :: _ =>
      let (handles, rest) ← directives false [] tokens
      match rest with
      | .documentStart :: rest => some <$> content handles rest
      | _ => throw .malformed
    | _ => some <$> parse standardHandles (4 * tokens.length + 4) .block tokens
  match found with
  | none => return none
  | some (node, rest) => if isEnded rest then return some node else throw .malformed

mutual

/-- The anchors in the order in which they come up; each name stands for one node, and an alias
only for one that came before. -/
def anchors (known : List (Text × Node)) : Node → Except Fault (List (Text × Node))
  | .scalar .. => .ok known
  | .reference name => if (known.lookup name).isSome then .ok known else .error .malformed
  | .anchored name node =>
    if (known.lookup name).isSome then .error .malformed else anchors ((name, node) :: known) node
  | .sequence _ items => anchorsIn known items
  | .mapping _ pairs => anchorsOf known pairs

def anchorsIn (known : List (Text × Node)) : List Node → Except Fault (List (Text × Node))
  | [] => .ok known
  | item :: items => do anchorsIn (← anchors known item) items

def anchorsOf (known : List (Text × Node)) : List (Node × Node) → Except Fault (List (Text × Node))
  | [] => .ok known
  | (key, value) :: pairs => do anchorsOf (← anchors (← anchors known key) value) pairs

end

/-- The only document of a text, if it has one. -/
def ofText? (text : Text) : Except Fault (Option Node) := do
  match ← document? (← tokens text) with
  | none => return none
  | some node =>
    let _ ← anchors [] node
    return some node

end Node

end Breadcrumb.Yaml
