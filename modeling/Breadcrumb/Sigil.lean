import Breadcrumb.Pattern.Match
import Breadcrumb.Text.Blank

namespace Breadcrumb

/-- The sigil is the text without the blanks around it. -/
structure Sigil where
  text : Text
  notBlank : text.trim ≠ []

namespace Sigil

def ofText? (text : Text) : Option Sigil :=
  if h : text.trim ≠ [] then some ⟨text, h⟩ else none

/-- The sigil used when none is given. -/
def standard : Sigil := ⟨"cc:".toList, by decide⟩

def blank : Pattern := .optional (.set { ignoreCase := true } false [.category .space false])

/-- The characters of a text one after another, in any case. -/
def letters (text : Text) : Pattern :=
  .sequence (text.map fun c => .literal { ignoreCase := true } c.toNat)

def pattern (sigil : Sigil) : Pattern := .seq blank (.seq (letters sigil.text.trim) blank)

/-- What follows the first sigil in a comment. -/
def payload? (sigil : Sigil) (comment : Text) : Option Text :=
  (sigil.pattern.find? comment).map fun (_, stop) => stop.after

end Sigil

end Breadcrumb
