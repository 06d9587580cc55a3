namespace Breadcrumb

/-- Ascending, disjoint closed intervals of code points. -/
abbrev Ranges := List (Nat × Nat)

namespace Ranges

/-- Membership; the search ends at the first interval that starts beyond `n`. -/
def contains : Ranges → Nat → Bool
  | [], _ => false
  | (lo, hi) :: rest, n => if n < lo then false else n ≤ hi || contains rest n

end Ranges

end Breadcrumb
