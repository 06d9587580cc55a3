import Breadcrumb.Proofs.Pattern.Erasing
import Breadcrumb.Proofs.Pattern.Finding

namespace Breadcrumb.Pattern

/-- `result` is the text from a place on with an image of every match in its stead. After an empty
match the next one must move. -/
inductive Replaces (p : Pattern) (image : Cursor → Text) :
    (mustMove : Bool) → Cursor → (result : Text) → Prop
  | done {mustMove cursor} : p.findFrom mustMove cursor.before cursor.position cursor.after = none →
    Replaces p image mustMove cursor cursor.after
  | next {mustMove cursor start stop rest} :
    p.findFrom mustMove cursor.before cursor.position cursor.after = some (start, stop) →
    Replaces p image (stop.position = start.position) { stop with groups := [] } rest →
    Replaces p image mustMove cursor
      (cursor.after.take (start.position - cursor.position) ++ image stop ++ rest)

variable {p : Pattern} {image : Cursor → Text} {before text result : Text} {position : Nat} {c : Char}
  {stop : Cursor}

theorem Replaces.nil (h : p.run { before, after := [], position } some = none) :
    Replaces p image false { before, after := [], position } [] :=
  .done (findFrom_nil_of_none h)

theorem Replaces.skip (hnone : p.run { before, after := c :: text, position } some = none)
    (h : Replaces p image false { before := c :: before, after := text, position := position + 1 }
      result) :
    Replaces p image false { before, after := c :: text, position } (c :: result) := by
  have hfind := findFrom_cons_of_none hnone
  cases h with
  | done hrest => exact .done (hfind.trans hrest)
  | @next _ _ start stop rest hrest hbehind =>
    obtain ⟨i, (hposition : start.position = position + 1 + i), -, -⟩ := of_findFrom hrest
    have hnext := @Replaces.next p image false { before, after := c :: text, position } _ _ _
      (hfind.trans hrest) hbehind
    have hpassed : start.position - position = (start.position - (position + 1)) + 1 := by omega
    simp only [hpassed, List.take_succ_cons] at hnext
    exact hnext

theorem Replaces.found (hrun : p.run { before, after := text, position } some = some stop)
    (hmoved : stop.position ≠ position)
    (h : Replaces p image false { stop with groups := [] } result) :
    Replaces p image false { before, after := text, position } (image stop ++ result) := by
  have hbehind : Replaces p image (stop.position = position) { stop with groups := [] } result := by
    rwa [decide_eq_false hmoved]
  have hnext := @Replaces.next p image false { before, after := text, position } _ _ _
    (findFrom_of_run hrun) hbehind
  rw [Nat.sub_self, List.take_zero, List.nil_append] at hnext
  exact hnext

end Breadcrumb.Pattern
