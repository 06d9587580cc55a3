import Breadcrumb.Pattern.Compile

namespace Breadcrumb

/-- Without leads every path is wanted. -/
structure Selection where
  leads : List Text := []
  barred : List Pattern := []

namespace Selection

/-- The lead that stands for every path. -/
def everything : Text := "...".toList

def includes (selection : Selection) (path : Text) : Bool :=
  selection.leads.isEmpty ||
    selection.leads.any fun lead => lead = everything || path.startsWith lead

def excludes (selection : Selection) (path : Text) : Bool := selection.barred.any (·.isIn path)

/-- Compiles the expressions that bar paths. -/
def ofTexts (leads expressions : List Text) : Except Pattern.Rejection Selection :=
  (Pattern.compileAll expressions).map fun barred => { leads, barred }

/-- A malformed expression is named; any other rejection speaks for itself. -/
def message (rejection : Pattern.Rejection) : Text :=
  if rejection.fault.cause.isMalformed then
    "failed to parse regexp: ".toList ++ rejection.expression ++ " error: ".toList ++
      rejection.message
  else rejection.message

end Selection

end Breadcrumb
