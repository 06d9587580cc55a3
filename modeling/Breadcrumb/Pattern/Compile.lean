import Breadcrumb.Pattern.Match
import Breadcrumb.Pattern.Reader

namespace Breadcrumb.Pattern

/-- An expression that is no pattern. -/
structure Rejection where
  expression : Text
  fault : Fault
  deriving DecidableEq

namespace Rejection

def message (rejection : Rejection) : Text := rejection.fault.message rejection.expression

end Rejection

def compile (expression : Text) : Except Rejection Pattern :=
  (parse expression).mapError (⟨expression, ·⟩)

/-- Compiles the expressions in order; the first that is no pattern is reported. -/
def compileAll : List Text → Except Rejection (List Pattern)
  | [] => .ok []
  | expression :: rest => do
    let p ← compile expression
    let ps ← compileAll rest
    return p :: ps

end Breadcrumb.Pattern
