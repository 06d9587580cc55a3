import Breadcrumb.Text

namespace Breadcrumb

/-- An annotation and the place it was found at. `peek` counts the lines still to be captured. -/
structure Crumb where
  id : Text := []
  path : Text := []
  line : Int := 1
  language : Text := []
  title : Text := []
  trail : Text := []
  step : Int := 0
  description : List Text := []
  peek : Int := 0
  peeked : List Text := []
  deriving DecidableEq

namespace Crumb

def isRemark (crumb : Crumb) : Bool := crumb.trail.isEmpty

/-- What documents write in digits. -/
def integers (crumb : Crumb) : List Int := [crumb.step, crumb.line]

/-- Takes one more line if lines are still to be captured. -/
def capture (crumb : Crumb) (line : Text) : Crumb :=
  if 0 < crumb.peek then { crumb with peek := crumb.peek - 1, peeked := crumb.peeked ++ [line] }
  else crumb

end Crumb

end Breadcrumb
