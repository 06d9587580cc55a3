import Breadcrumb.Text

namespace Breadcrumb.Named

variable {α : Type}

def get? (fields : List (Text × α)) (name : Text) : Option α :=
  (fields.find? (·.1 = name)).map (·.2)

/-- Sets the value of a name; a new name comes last. -/
def set (fields : List (Text × α)) (name : Text) (value : α) : List (Text × α) :=
  match fields with
  | [] => [(name, value)]
  | (other, old) :: rest =>
    if other = name then (other, value) :: rest else (other, old) :: set rest name value

end Breadcrumb.Named
