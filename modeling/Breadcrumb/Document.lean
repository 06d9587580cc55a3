import Breadcrumb.Integer
import Breadcrumb.Json
import Breadcrumb.Trail

namespace Breadcrumb.Document

/-- The fields of a crumb; a missing trail and a step of zero are left out. -/
def crumbFields (crumb : Crumb) : List (Text × Json) :=
  [("id".toList, .str crumb.id), ("title".toList, .str crumb.title)] ++
    (if crumb.trail.isEmpty then [] else [("trail_id".toList, .str crumb.trail)]) ++
    (if crumb.step = 0 then [] else [("trail_step".toList, .int crumb.step)]) ++
    [("desc_lines".toList, .strs crumb.description),
      ("source_path".toList, .str crumb.path),
      ("source_line".toList, .int crumb.line),
      ("peeked_lines".toList, .strs crumb.peeked),
      ("lang_name".toList, .str crumb.language)]

def crumbs (crumbs : List Crumb) : Json := .arr (crumbs.map fun crumb => .obj (crumbFields crumb))

def trails (trails : Trails) : Json :=
  .obj (trails.map fun (name, trail) => (name, crumbs trail))

def value (grouped : Grouped) : Json :=
  .obj
    [("main_trails".toList, trails grouped.main),
      ("side_trails".toList, trails grouped.side),
      ("remarks".toList, crumbs grouped.remarks)]

def json (grouped : Grouped) : Text := (value grouped).pretty

def integers (grouped : Grouped) : List Int := grouped.crumbs.flatMap Crumb.integers

def json? (grouped : Grouped) : Except Unprintable Text :=
  Integer.written (integers grouped) (json grouped)

end Breadcrumb.Document
