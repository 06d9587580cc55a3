import Breadcrumb.Yaml.Node
import Breadcrumb.Yaml.Scalar

namespace Breadcrumb.Yaml

/-- A value; `cycle` stands for a collection inside itself. -/
inductive Value where
  | scalar (value : Scalar)
  | list (items : List Value)
  | pairs (pairs : List (Value × Value))
  | set (pairs : List (Value × Value))
  | map (pairs : List (Value × Value))
  | cycle

namespace Value

def null : Value := .scalar .null

/-- Only scalars can be keys. -/
def isKey : Value → Bool
  | .scalar _ => true
  | _ => false

def hasKey (name : Text) : Value → Bool
  | .scalar (.str text) => text = name
  | _ => false

/-- The value of a key; the last pair counts. -/
def get? (pairs : List (Value × Value)) (name : Text) : Option Value :=
  (pairs.reverse.find? fun (key, _) => key.hasKey name).map (·.2)

/-- Values that are nothing, zero or empty. -/
def isEmpty : Value → Bool
  | .scalar .null => true
  | .scalar (.bool b) => !b
  | .scalar (.int n) => n = 0
  | .scalar (.real x) => x.isZero
  | .scalar (.binary bytes) => bytes.isEmpty
  | .scalar .moment => false
  | .scalar (.str text) => text.isEmpty
  | .list items => items.isEmpty
  | .pairs entries => entries.isEmpty
  | .set entries => entries.isEmpty
  | .map entries => entries.isEmpty
  | .cycle => false

/-- The pairs of a mapping or a set. -/
def pairs? : Value → Option (List (Value × Value))
  | .map entries => some entries
  | .set entries => some entries
  | _ => none

end Value

/-- The values of the anchors so far, and the fault that would be found first, with its depth. -/
structure Build where
  anchors : List (Text × Value) := []
  fault : Option (Nat × Fault) := none

namespace Build

/-- Notes a fault, unless one at no greater depth is known. -/
def fail (build : Build) (depth : Nat) (fault : Fault) : Build :=
  match build.fault with
  | some (known, _) => if depth < known then { build with fault := some (depth, fault) } else build
  | none => { build with fault := some (depth, fault) }

def malformed (build : Build) (depth : Nat) : Build := build.fail depth .malformed

def define (build : Build) (name : Text) (value : Value) : Build :=
  { build with anchors := (name, value) :: build.anchors }

def reference (build : Build) (name : Text) : Value := (build.anchors.lookup name).getD .cycle

def scalar (build : Build) (depth : Nat) (tag : Tag) (text : Text) : Value × Build :=
  match Scalar.ofText tag text with
  | .ok value => (.scalar value, build)
  | .error fault => (.null, build.fail depth fault)

def key (build : Build) (depth : Nat) (value : Value) : Build :=
  if value.isKey then build else build.malformed depth

/-- The pairs that a value gives under a merge key: a mapping's own, or those of mappings in a
list, the last one first. -/
def merge (build : Build) (depth : Nat) (value : Value) : List (Value × Value) × Build :=
  match value with
  | .cycle => ([], build)
  | .list items =>
    match items.mapM Value.pairs? with
    | some parts => (parts.reverse.flatten, build)
    | none => ([], build.malformed depth)
  | _ =>
    match value.pairs? with
    | some pairs => (pairs, build)
    | none => ([], build.malformed depth)

end Build

namespace Tag

def isCollection : Tag → Bool
  | .seq | .map | .set | .omap | .pairs => true
  | _ => false

end Tag

namespace Node

def isMergeKey : Node → Bool
  | .scalar .merge _ => true
  | .anchored _ node => isMergeKey node
  | _ => false

def isValueKey : Node → Bool
  | .scalar .value _ => true
  | .anchored _ node => isValueKey node
  | _ => false

mutual

/-- The text of a scalar; a mapping with a value key stands for that value. -/
def scalarText? : Node → Option Text
  | .scalar _ text => some text
  | .mapping _ pairs => valueText? pairs
  | .anchored _ node => scalarText? node
  | _ => none

def valueText? : List (Node × Node) → Option Text
  | [] => none
  | (key, value) :: pairs => if isValueKey key then scalarText? value else valueText? pairs

end

mutual

def value (depth : Nat) : Node → Build → Value × Build
  | .scalar tag text, build =>
    if tag.isCollection then (.null, build.malformed (depth + 1)) else build.scalar depth tag text
  | .reference name, build => (build.reference name, build)
  | .anchored name node, build =>
    let (value, build) := value depth node build
    (value, build.define name value)
  | .sequence tag items, build =>
    match tag with
    | .seq =>
      let (items, build) := values (depth + 1) items build
      (.list items, build)
    | .omap | .pairs =>
      let (pairs, build) := singles (depth + 1) items build
      (.pairs pairs, build)
    | tag => (.null, build.malformed (if tag.isCollection then depth + 1 else depth))
  | .mapping tag pairs, build =>
    match tag with
    | .map =>
      let (merged, own, build) := entries (depth + 1) pairs build
      (.map (merged ++ own), build)
    | .set =>
      let (merged, own, build) := entries (depth + 1) pairs build
      (.set (merged ++ own), build)
    | tag =>
      if tag.isCollection then (.null, build.malformed (depth + 1))
      else
        match valueText? pairs with
        | some text => build.scalar depth tag text
        | none => (.null, build.malformed depth)

def values (depth : Nat) : List Node → Build → List Value × Build
  | [], build => ([], build)
  | item :: items, build =>
    let (first, build) := value depth item build
    let (rest, build) := values depth items build
    (first :: rest, build)

/-- The pairs of a list of mappings with one pair each. -/
def singles (depth : Nat) : List Node → Build → List (Value × Value) × Build
  | [], build => ([], build)
  | item :: items, build =>
    let (first, build) := single depth item build
    let (rest, build) := singles depth items build
    (first ++ rest, build)

def single (depth : Nat) : Node → Build → List (Value × Value) × Build
  | .mapping _ [(k, v)], build =>
    let (k, build) := value depth k build
    let (v, build) := value depth v build
    ([(k, v)], build)
  | .anchored name node, build =>
    let (pairs, build) := single depth node build
    (pairs, build.define name (.map pairs))
  | .reference name, build =>
    match (build.reference name).pairs? with
    | some [pair] => ([pair], build)
    | _ => ([], build.malformed depth)
  | _, build => ([], build.malformed depth)

/-- The pairs taken over and the pairs of its own that a mapping has. -/
def entries (depth : Nat) :
    List (Node × Node) → Build → List (Value × Value) × List (Value × Value) × Build
  | [], build => ([], [], build)
  | (key, value) :: pairs, build =>
    if isMergeKey key then
      let (taken, build) := merged depth value build
      let (more, own, build) := entries depth pairs build
      (taken ++ more, own, build)
    else
      let (k, build) := keyValue depth key build
      let build := build.key depth k
      let (v, build) := Node.value depth value build
      let (taken, own, build) := entries depth pairs build
      (taken, (k, v) :: own, build)

/-- The value of a key; a value key is its own text. -/
def keyValue (depth : Nat) : Node → Build → Value × Build
  | .scalar .value text, build => (.scalar (.str text), build)
  | node, build => value depth node build

/-- The pairs that a node gives under a merge key. -/
def merged (depth : Nat) : Node → Build → List (Value × Value) × Build
  | .mapping _ pairs, build =>
    let (taken, own, build) := entries depth pairs build
    (taken ++ own, build)
  | .sequence _ items, build => mergedItems depth items build
  | .anchored name node, build =>
    let (pairs, build) := merged depth node build
    (pairs, build.define name (.map pairs))
  | .reference name, build => build.merge depth (build.reference name)
  | .scalar .., build => ([], build.malformed depth)

/-- The pairs of the mappings in a list, the last one first. -/
def mergedItems (depth : Nat) : List Node → Build → List (Value × Value) × Build
  | [], build => ([], build)
  | item :: items, build =>
    let (first, build) := mergedItem depth item build
    let (rest, build) := mergedItems depth items build
    (rest ++ first, build)

def mergedItem (depth : Nat) : Node → Build → List (Value × Value) × Build
  | .mapping _ pairs, build =>
    let (taken, own, build) := entries depth pairs build
    (taken ++ own, build)
  | .anchored name node, build =>
    let (pairs, build) := mergedItem depth node build
    (pairs, build.define name (.map pairs))
  | .reference name, build =>
    match (build.reference name).pairs? with
    | some pairs => (pairs, build)
    | none => ([], build.malformed depth)
  | _, build => ([], build.malformed depth)

end

end Node

def load (text : Text) : Except Fault Value := do
  match ← Node.ofText? text with
  | none => return .null
  | some node =>
    let (value, build) := node.value 0 {}
    match build.fault with
    | some (_, fault) => throw fault
    | none => return value

end Breadcrumb.Yaml
