import Breadcrumb.Heading
import Breadcrumb.Integer
import Breadcrumb.Trail
import Breadcrumb.Tree

namespace Breadcrumb.Document.Markdown

/-- The name a document is headed by and the place its links start from. -/
structure Frame where
  project : Text
  linkBase : Text := []

def line (text : Text) : Text := text ++ ['\n']

def lines (texts : List Text) : Text := texts.flatMap line

/-- The link to a crumb's place, behind the book sign. -/
def place (frame : Frame) (crumb : Crumb) : Text :=
  "📖 [".toList ++ crumb.path ++ ":".toList ++ Text.ofInt crumb.line ++ "](".toList ++
    Heading.link frame.linkBase crumb.path ++ "#L".toList ++ Text.ofInt crumb.line ++ ")".toList

/-- The peeked lines between fences, with a blank line behind. -/
def fence (crumb : Crumb) : Text :=
  if crumb.peeked.isEmpty then []
  else
    line ("~~~".toList ++ crumb.language.lower) ++ lines (Heading.dedent crumb.peeked) ++
      line "~~~".toList ++ line []

/-- The description, the place and the peeked lines. -/
def body (frame : Frame) (crumb : Crumb) : Text :=
  (if crumb.description.isEmpty then [] else lines crumb.description ++ line []) ++
    line (place frame crumb) ++ line [] ++ fence crumb

def stepHeading (crumb : Crumb) : Text :=
  let title := Heading.titleCase crumb.title
  "#### ".toList ++ Text.ofInt crumb.step ++ ".".toList ++
    (if title.isEmpty then [] else ' ' :: title)

def trail (frame : Frame) (name : Text) (crumbs : List Crumb) : Text :=
  line ("### ".toList ++ Heading.titleCase name) ++ line [] ++ line "~~~".toList ++
    Tree.render (Tree.ofTrail crumbs) ++ line "~~~".toList ++ line [] ++
    crumbs.flatMap fun crumb => line (stepHeading crumb) ++ line [] ++ body frame crumb

def sorted (trails : Trails) : Trails := trails.mergeSort fun a b => a.1.le b.1

def trailSection (frame : Frame) (title : Text) (trails : Trails) : Text :=
  if trails.isEmpty then []
  else
    line ("## ".toList ++ title) ++ line [] ++
      trails.flatMap fun (name, crumbs) => trail frame name crumbs

def entry (title anchor : Text) : Text :=
  line ("  - [".toList ++ title ++ "](".toList ++ anchor ++ ")".toList)

def trailEntries (title anchor : Text) (trails : Trails) : Text :=
  if trails.isEmpty then []
  else
    line ("- [".toList ++ title ++ "](".toList ++ anchor ++ ")".toList) ++
      trails.flatMap fun (name, _) => entry (Heading.titleCase name) (Heading.anchor name)

def remarkHeading (crumb : Crumb) : Text :=
  "L".toList ++ Text.ofInt crumb.line ++
    (if crumb.title.isEmpty then [] else ": ".toList ++ Heading.titleCase crumb.title)

/-- A remark with its heading and its anchor. -/
structure Remark where
  crumb : Crumb
  heading : Text
  anchor : Text

/-- An anchor that came up before gets the number of times it did. -/
def numbered (anchor : Text) (times : Nat) : Text :=
  if times = 0 then anchor else anchor ++ "-".toList ++ Text.ofNat times

/-- The remarks with their anchors, where `seen` holds the anchors before numbering. -/
def remarksFrom (seen : List Text) : List Crumb → List Remark
  | [] => []
  | crumb :: rest =>
    let heading := remarkHeading crumb
    let anchor := Heading.anchor heading
    { crumb, heading, anchor := numbered anchor (seen.count anchor) } ::
      remarksFrom (anchor :: seen) rest

def remarks (crumbs : List Crumb) : List Remark := remarksFrom [] crumbs

def remarkEntries (remarks : List Remark) : Text :=
  if remarks.isEmpty then []
  else
    line "- [Remarks](#remarks)".toList ++
      remarks.flatMap fun remark => entry remark.heading remark.anchor

def remarkSection (frame : Frame) (remarks : List Remark) : Text :=
  if remarks.isEmpty then []
  else
    line "## Remarks".toList ++ line [] ++
      remarks.flatMap fun remark =>
        line ("### ".toList ++ remark.heading) ++ line [] ++ body frame remark.crumb

def summary (frame : Frame) (stats : Stats) : Text :=
  "❓ This document has been generated using ".toList ++
    "[codecrumbs](https://github.com/AtlantPlatform/codecrumbs-go) tool. Running for **".toList ++
    frame.project ++ "** project it found **".toList ++ Text.ofNat stats.total ++
    "** codecrumbs in total. There are **".toList ++ Text.ofNat stats.main ++
    "** main trails of codecrumbs, that are crossing the project's entrypoint, also **".toList ++
    Text.ofNat stats.side ++ "** side trails and **".toList ++ Text.ofNat stats.remarks ++
    "** standalone remarks.".toList

def document (frame : Frame) (grouped : Grouped) : Text :=
  let main := sorted grouped.main
  let side := sorted grouped.side
  let notes := remarks grouped.remarks
  line ("# ".toList ++ Heading.titleCase frame.project) ++ line [] ++
    line (summary frame grouped.stats) ++ line [] ++
    trailEntries "Main Trails".toList "#main-trails".toList main ++
    trailEntries "Side Trails".toList "#side-trails".toList side ++ remarkEntries notes ++ line [] ++
    trailSection frame "Main Trails".toList main ++ trailSection frame "Side Trails".toList side ++
    remarkSection frame notes

/-- The integers in labels, headings and links; the step of a remark is not shown. -/
def integers (grouped : Grouped) : List Int :=
  (grouped.main.flatMap (·.2) ++ grouped.side.flatMap (·.2)).flatMap Crumb.integers ++
    grouped.remarks.map (·.line)

def document? (frame : Frame) (grouped : Grouped) : Except Unprintable Text :=
  Integer.written (integers grouped) (document frame grouped)

end Breadcrumb.Document.Markdown
