import Breadcrumb.Crumb
import Breadcrumb.Named

namespace Breadcrumb

/-- Trails by name, in the order in which the names came up. -/
abbrev Trails := List (Text × List Crumb)

namespace Trails

def find? (trails : Trails) (name : Text) : Option (List Crumb) :=
  (List.find? (·.1 = name) trails).map (·.2)

/-- Adds a crumb to the end of a trail; a new trail comes last. -/
def push (trails : Trails) (name : Text) (crumb : Crumb) : Trails :=
  match trails with
  | [] => [(name, [crumb])]
  | (other, trail) :: rest =>
    if other = name then (other, trail ++ [crumb]) :: rest else (other, trail) :: push rest name crumb

def erase (trails : Trails) (name : Text) : Trails := trails.filter (·.1 ≠ name)

/-- Sets a trail, in its old place if the name is known. -/
def set (trails : Trails) (name : Text) (trail : List Crumb) : Trails :=
  Named.set trails name trail

end Trails

/-- Trails and remarks as documents show them. -/
structure Grouped where
  main : Trails := []
  side : Trails := []
  remarks : List Crumb := []
  deriving DecidableEq

/-- The numbers of trails, remarks and crumbs. -/
structure Stats where
  main : Nat
  side : Nat
  remarks : Nat
  total : Nat
  deriving DecidableEq

namespace Grouped

def crumbs (grouped : Grouped) : List Crumb :=
  grouped.main.flatMap (·.2) ++ grouped.side.flatMap (·.2) ++ grouped.remarks

def stats (grouped : Grouped) : Stats where
  main := grouped.main.length
  side := grouped.side.length
  remarks := grouped.remarks.length
  total := grouped.crumbs.length

end Grouped

/-- Crumbs collected so far; without an entry every trail stays a side trail. -/
structure Assembly where
  entry : Text := []
  main : Trails := []
  side : Trails := []
  remarks : List Crumb := []

namespace Assembly

def isEntry (assembly : Assembly) (path : Text) : Bool :=
  !assembly.entry.isEmpty && path.endsWith assembly.entry

def add (assembly : Assembly) (crumb : Crumb) : Assembly :=
  if crumb.isRemark then { assembly with remarks := assembly.remarks ++ [crumb] }
  else if (assembly.main.find? crumb.trail).isSome then
    { assembly with main := assembly.main.push crumb.trail crumb }
  else if assembly.isEntry crumb.path then
    { assembly with
      main :=
        assembly.main ++ [(crumb.trail, (assembly.side.find? crumb.trail).getD [] ++ [crumb])]
      side := assembly.side.erase crumb.trail }
  else { assembly with side := assembly.side.push crumb.trail crumb }

def addAll (assembly : Assembly) (crumbs : List Crumb) : Assembly := crumbs.foldl add assembly

/-- Steps in ascending order, equal steps as they came. -/
def byStep (trail : List Crumb) : List Crumb := trail.mergeSort fun a b => a.step ≤ b.step

/-- Order by path, then by line. -/
def placeLe (a b : Crumb) : Bool :=
  if a.path = b.path then a.line ≤ b.line else a.path.le b.path

/-- Trails sorted by step, remarks by place. -/
def build (assembly : Assembly) : Grouped where
  main := assembly.main.map fun (name, trail) => (name, byStep trail)
  side := assembly.side.map fun (name, trail) => (name, byStep trail)
  remarks := assembly.remarks.mergeSort placeLe

/-- Groups the crumbs of several files, in the order given. -/
def regroup (entry : Text) (files : List (List Crumb)) : Grouped :=
  (addAll { entry } files.flatten).build

end Assembly

end Breadcrumb
