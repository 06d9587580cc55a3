import Breadcrumb.Crumb
import Breadcrumb.Integer
import Breadcrumb.Text.Quoted

namespace Breadcrumb

namespace Marker

inductive Field where
  | trail
  | step
  | title
  | peek
  | description
  deriving DecidableEq

inductive Status where
  | parsed
  | defaulted
  | invalid
  deriving DecidableEq

/-- How a field was understood. -/
structure Outcome where
  field : Field
  status : Status
  detail : Text := []
  deriving DecidableEq

def Field.name : Field → Text
  | .trail => "trail".toList
  | .step => "step".toList
  | .title => "title".toList
  | .peek => "peek".toList
  | .description => "description".toList

def Status.name : Status → Text
  | .parsed => "parsed".toList
  | .defaulted => "defaulted".toList
  | .invalid => "invalid".toList

end Marker

/-- What a payload says. -/
structure Marker where
  trail : Text := []
  step : Int := 0
  title : Text := []
  peek : Int := 0
  description : Option Text := none
  outcomes : List Marker.Outcome := []
  deriving DecidableEq

namespace Marker

def degraded (marker : Marker) : List Outcome :=
  marker.outcomes.filter (·.status = .invalid)

/-- The crumb with the marker's fields; a description goes behind the lines it has. -/
def apply (marker : Marker) (crumb : Crumb) : Crumb :=
  { crumb with
    trail := marker.trail
    step := marker.step
    title := marker.title
    peek := marker.peek
    description := crumb.description ++ marker.description.toList }

/-- The description is the first of the fields left. -/
def withDescription (marker : Marker) : List Text → Marker
  | [] => { marker with outcomes := marker.outcomes ++ [⟨.description, .defaulted, []⟩] }
  | field :: _ =>
    { marker with
      description := some field.trim
      outcomes := marker.outcomes ++ [⟨.description, .parsed, []⟩] }

/-- A positive number asks for lines to peek at; anything else is already the description. -/
def withPeek (marker : Marker) : List Text → Except TooManyDigits Marker
  | [] =>
    .ok (withDescription { marker with outcomes := marker.outcomes ++ [⟨.peek, .defaulted, []⟩] } [])
  | field :: rest =>
    (Integer.read? field).map fun n? =>
      match n? with
      | some n =>
        if 0 < n then
          withDescription
            { marker with
              peek := n
              outcomes := marker.outcomes ++ [⟨.peek, .parsed, Text.ofInt n⟩] } rest
        else
          withDescription
            { marker with outcomes := marker.outcomes ++ [⟨.peek, .defaulted, []⟩] } (field :: rest)
      | none =>
        withDescription
          { marker with outcomes := marker.outcomes ++ [⟨.peek, .defaulted, []⟩] } (field :: rest)

def withTitle (marker : Marker) : List Text → Except TooManyDigits Marker
  | [] => withPeek { marker with outcomes := marker.outcomes ++ [⟨.title, .defaulted, []⟩] } []
  | field :: rest =>
    withPeek
      { marker with
        title := field.trim
        outcomes := marker.outcomes ++ [⟨.title, .parsed, field.trim⟩] } rest

/-- A trail is followed by its step. -/
def ofTrail (trail step : Text) : Except TooManyDigits Marker :=
  (Integer.read? step).map fun n? =>
    match n? with
    | some n =>
      { trail := trail.trim, step := n
        outcomes := [⟨.trail, .parsed, trail.trim⟩, ⟨.step, .parsed, Text.ofInt n⟩] }
    | none =>
      { trail := trail.trim
        outcomes :=
          [⟨.trail, .parsed, trail.trim⟩,
            ⟨.step, .invalid, "not an integer: ".toList ++ step.trim.quoted⟩] }

/-- The marker without a trail. -/
def remark : Marker := { outcomes := [⟨.trail, .defaulted, "remark".toList⟩] }

/-- Reads the fields of a payload, the trail and step from the first if it holds a number sign. -/
def ofFields : List Text → Except TooManyDigits Marker
  | [] => remark.withTitle []
  | first :: rest =>
    match first.cut? '#' with
    | some (trail, step) => (ofTrail trail step).bind (withTitle · rest)
    | none => remark.withTitle (first :: rest)

def parse (payload : Text) : Except TooManyDigits Marker := ofFields (payload.split ';')

end Marker

end Breadcrumb
