import Breadcrumb.Pattern.Match
import Mathlib.Data.List.Infix

namespace Breadcrumb.Pattern

/-- The runner hands its continuation no place before the one it starts from. -/
def Advances (r : Runner) : Prop :=
  ∀ cursor k stop, r cursor k = some stop → ∃ next, next.after <:+ cursor.after ∧ k next = some stop

variable {body : Runner} {cursor next start stop : Cursor} {k : Continuation} {mode : Mode}
  {before text : Text} {position : Nat} {mustMove : Bool}

theorem Advances.andThen (hbody : Advances body) {rest : Continuation}
    (hrest : ∀ next, rest next = some stop → ∃ last, last.after <:+ next.after ∧ k last = some stop)
    (h : body cursor rest = some stop) :
    ∃ next, next.after <:+ cursor.after ∧ k next = some stop := by
  obtain ⟨next, hnext, h⟩ := hbody cursor rest stop h
  obtain ⟨last, hlast, h⟩ := hrest next h
  exact ⟨last, hlast.trans hnext, h⟩

theorem Advances.stop_suffix (hbody : Advances body) (h : body cursor some = some stop) :
    stop.after <:+ cursor.after := by
  obtain ⟨next, hnext, h⟩ := hbody cursor some stop h
  exact Option.some.inj h ▸ hnext

theorem Advances.greedy (hbody : Advances body) (min : Nat) (max : Option Nat) (fuel count : Nat)
    (last : Option Nat) : Advances (runGreedy body min max fuel count last) := by
  intro cursor k stop h
  induction fuel generalizing cursor count last with
  | zero => exact ⟨cursor, List.suffix_rfl, h⟩
  | succ fuel ih =>
    rw [runGreedy] at h
    split at h
    · exact hbody.andThen (ih _ _) h
    · split at h
      · split at h
        · rename_i found hround
          exact hbody.andThen (ih _ _) (h ▸ hround)
        · exact ⟨cursor, List.suffix_rfl, h⟩
      · exact ⟨cursor, List.suffix_rfl, h⟩

theorem Advances.reluctant (hbody : Advances body) (min : Nat) (max : Option Nat) (fuel count : Nat)
    (last : Option Nat) : Advances (runReluctant body min max fuel count last) := by
  intro cursor k stop h
  induction fuel generalizing cursor count last with
  | zero => exact ⟨cursor, List.suffix_rfl, h⟩
  | succ fuel ih =>
    rw [runReluctant] at h
    split at h
    · exact hbody.andThen (ih _ _) h
    · split at h
      · rename_i found hnow
        exact ⟨cursor, List.suffix_rfl, h ▸ hnow⟩
      · split at h
        · exact hbody.andThen (ih _ _) h
        · cases h

theorem Advances.possessive (hbody : Advances body) (min : Nat) (max : Option Nat)
    (fuel count : Nat) (last : Option Nat)
    (h : runPossessive body min max fuel count last cursor = some stop) :
    stop.after <:+ cursor.after := by
  induction fuel generalizing cursor count last with
  | zero => exact Option.some.inj h ▸ List.suffix_rfl
  | succ fuel ih =>
    rw [runPossessive] at h
    split at h
    · split at h
      · rename_i next hround
        exact (ih _ _ h).trans (hbody.stop_suffix hround)
      · cases h
    · split at h
      · split at h
        · rename_i next hround
          exact (ih _ _ h).trans (hbody.stop_suffix hround)
        · exact Option.some.inj h ▸ List.suffix_rfl
      · exact Option.some.inj h ▸ List.suffix_rfl

theorem passText_suffix (h : passText mode text cursor = some next) :
    next.after <:+ cursor.after := by
  induction text generalizing cursor with
  | nil => exact Option.some.inj h ▸ List.suffix_rfl
  | cons c text ih =>
    rw [passText] at h
    split at h
    · cases h
    · rename_i d rest hafter
      split at h
      · rw [hafter]
        exact (ih h).trans (List.suffix_cons d rest)
      · cases h

theorem advances_char (holds : Char → Bool) : Advances fun cursor k =>
    match cursor.after with
    | [] => none
    | c :: rest => if holds c then k (cursor.advance c rest) else none := by
  intro cursor k stop h
  dsimp only at h
  split at h
  · cases h
  · rename_i c rest hafter
    split at h
    · exact ⟨_, hafter ▸ List.suffix_cons c rest, h⟩
    · cases h

theorem advances_look (look : Cursor → Option Cursor) (negated : Bool) : Advances fun cursor k =>
    match look cursor, negated with
    | some stop, false => k { cursor with groups := stop.groups }
    | none, true => k cursor
    | _, _ => none := by
  intro cursor k stop h
  dsimp only at h
  split at h
  · rename_i found _
    exact ⟨{ cursor with groups := found.groups }, List.suffix_rfl, h⟩
  · exact ⟨cursor, List.suffix_rfl, h⟩
  · cases h

/-- Every pattern hands on only to places further on in the text. -/
theorem advances_run (p : Pattern) : Advances fun cursor k => p.run cursor k := by
  induction p with
  | empty => exact fun cursor k stop h => ⟨cursor, List.suffix_rfl, h⟩
  | set mode negated items => exact advances_char (setHolds mode negated items)
  | dot dotAll => exact advances_char fun c => dotAll || c ≠ '\n'
  | anchor place =>
    intro cursor k stop h
    simp only [run] at h
    split at h
    · exact ⟨cursor, List.suffix_rfl, h⟩
    · cases h
  | seq p q ihp ihq =>
    intro cursor k stop h
    exact ihp.andThen (fun next hnext => ihq next k stop hnext) h
  | alt p q ihp ihq =>
    intro cursor k stop h
    simp only [run] at h
    split at h
    · rename_i found hfirst
      exact ihp cursor k stop (h ▸ hfirst)
    · exact ihq cursor k stop h
  | group index p ih =>
    intro cursor k stop h
    simp only [run] at h
    exact ih.andThen (fun next hnext => ⟨cursor.capture next index, List.suffix_rfl, hnext⟩) h
  | reference mode index =>
    intro cursor k stop h
    simp only [run] at h
    split at h
    · cases h
    · obtain ⟨next, hnext, h⟩ := Option.bind_eq_some_iff.1 h
      exact ⟨next, passText_suffix hnext, h⟩
  | times greed min max p ih =>
    intro cursor k stop h
    cases greed with
    | greedy => exact ih.greedy min max _ _ _ cursor k stop h
    | reluctant => exact ih.reluctant min max _ _ _ cursor k stop h
    | possessive =>
      obtain ⟨next, hnext, h⟩ := Option.bind_eq_some_iff.1 h
      exact ⟨next, ih.possessive min max _ _ _ hnext, h⟩
  | ahead negated p _ => exact advances_look (fun cursor => p.run cursor some) negated
  | behind negated width p _ =>
    exact advances_look (fun cursor => (cursor.back? width).bind fun start => p.run start some)
      negated
  | atomic p ih =>
    intro cursor k stop h
    obtain ⟨next, hnext, h⟩ := Option.bind_eq_some_iff.1 h
    exact ⟨next, ih.stop_suffix hnext, h⟩
  | choice index p q ihp ihq =>
    intro cursor k stop h
    simp only [run] at h
    split at h
    · exact ihp cursor k stop h
    · exact ihq cursor k stop h

/-- A match that is looked for where it has to move stops further on all the same. -/
theorem run_stop_suffix {p : Pattern}
    (h : (p.run start fun stop => if mustMove && stop.position = position then none else some stop) =
      some stop) : stop.after <:+ start.after := by
  obtain ⟨next, hnext, h⟩ := advances_run p _ _ _ h
  split at h
  · cases h
  · exact Option.some.inj h ▸ hnext

theorem of_findFrom {p : Pattern} (h : p.findFrom mustMove before position text = some (start, stop)) :
    ∃ i, start.position = position + i ∧ start.after = text.drop i ∧ stop.after <:+ start.after := by
  induction text generalizing mustMove before position with
  | nil =>
    obtain ⟨found, hfound, he⟩ := Option.map_eq_some_iff.1 h
    obtain ⟨rfl, rfl⟩ := Prod.mk.inj he
    exact ⟨0, rfl, rfl, run_stop_suffix hfound⟩
  | cons c rest ih =>
    simp only [findFrom] at h
    split at h
    · rename_i found hfound
      obtain ⟨rfl, rfl⟩ := Prod.mk.inj (Option.some.inj h)
      exact ⟨0, rfl, rfl, run_stop_suffix hfound⟩
    · obtain ⟨i, hposition, hafter, hstop⟩ := ih h
      exact ⟨i + 1, by omega, hafter, hstop⟩

theorem find?_suffix {p : Pattern} (h : p.find? text = some (start, stop)) : stop.after <:+ text := by
  obtain ⟨i, -, hafter, hstop⟩ := of_findFrom h
  rw [hafter] at hstop
  exact hstop.trans (List.drop_suffix i text)

theorem eraseFrom_sublist (p : Pattern) (fuel : Nat) (mustMove : Bool) (cursor : Cursor) :
    (p.eraseFrom fuel mustMove cursor).Sublist cursor.after := by
  induction fuel generalizing mustMove cursor with
  | zero => exact List.Sublist.refl _
  | succ fuel ih =>
    rw [eraseFrom]
    split
    · exact List.Sublist.refl _
    · rename_i start stop hfound
      obtain ⟨i, hposition, hafter, hstop⟩ := of_findFrom hfound
      have hbehind := (ih (stop.position = start.position) { stop with groups := [] }).trans
        hstop.sublist
      have htaken : start.position - cursor.position = i := by omega
      rw [hafter] at hbehind
      rw [htaken]
      conv => rhs; rw [← List.take_append_drop i cursor.after]
      exact hbehind.append_left _

/-- Nothing is put into a text by erasing matches from it. -/
theorem erase_sublist (p : Pattern) (text : Text) : (p.erase text).Sublist text :=
  eraseFrom_sublist p _ _ _

end Breadcrumb.Pattern
