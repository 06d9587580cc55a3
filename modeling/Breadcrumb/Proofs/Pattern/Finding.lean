import Breadcrumb.Pattern.Match

namespace Breadcrumb.Pattern

variable {cursor : Cursor} {k : Continuation} {mode : Mode} {negated : Bool} {items : List Item}
  {text : Text}

def Cursor.pass (cursor : Cursor) (found after : Text) : Cursor :=
  { cursor with
    before := found.reverse ++ cursor.before
    after
    position := cursor.position + found.length }

theorem run_sequence_cons (p : Pattern) (rest : List Pattern) (cursor : Cursor) (k : Continuation) :
    (sequence (p :: rest)).run cursor k = p.run cursor fun next => (sequence rest).run next k := by
  cases rest <;> rfl

theorem run_sequence_append (ps qs : List Pattern) (cursor : Cursor) (k : Continuation) :
    (sequence (ps ++ qs)).run cursor k =
      (sequence ps).run cursor fun next => (sequence qs).run next k := by
  induction ps generalizing cursor k with
  | nil => rfl
  | cons p ps ih =>
    rw [List.cons_append, run_sequence_cons, run_sequence_cons]
    exact congrArg (p.run cursor) (funext fun next => ih next k)

theorem run_alt (p q : Pattern) (cursor : Cursor) (k : Continuation) :
    (alt p q).run cursor k = (p.run cursor k).or (q.run cursor k) := by
  rw [run]
  cases p.run cursor k <;> rfl

theorem findFrom_nil (p : Pattern) (mustMove : Bool) (before : Text) (position : Nat) :
    p.findFrom mustMove before position [] =
      (p.run { before, after := [], position } fun stop =>
        if mustMove && stop.position = position then none else some stop).map
        ({ before, after := [], position }, ·) := rfl

theorem findFrom_cons (p : Pattern) (mustMove : Bool) (before : Text) (position : Nat) (c : Char)
    (rest : Text) :
    p.findFrom mustMove before position (c :: rest) =
      ((p.run { before, after := c :: rest, position } fun stop =>
        if mustMove && stop.position = position then none else some stop).map
        ({ before, after := c :: rest, position }, ·)).or
        (p.findFrom false (c :: before) (position + 1) rest) := by
  rw [findFrom]
  cases p.run _ _ <;> rfl

theorem findFrom_congr {p q : Pattern} (h : ∀ cursor k, p.run cursor k = q.run cursor k)
    (mustMove : Bool) (before : Text) (position : Nat) (text : Text) :
    p.findFrom mustMove before position text = q.findFrom mustMove before position text := by
  induction text generalizing mustMove before position with
  | nil => rw [findFrom_nil, findFrom_nil, h]
  | cons c rest ih => rw [findFrom_cons, findFrom_cons, h, ih]

theorem setHolds_blank {mode : Mode} (hmode : mode.ascii = false) (c : Char) :
    setHolds mode false [.category .space false] c = Text.isBlank c := by
  simp only [setHolds, List.any_cons, List.any_nil, Item.holds, Category.holds, hmode, Bool.not_false,
    Bool.true_or, Bool.and_true, Bool.or_false, Bool.bne_false]

theorem run_optional (p : Pattern) (cursor : Cursor) (k : Continuation) :
    p.optional.run cursor k = (p.run cursor k).or (k cursor) := by
  have honce (next : Cursor) : runGreedy (fun c k => p.run c k) 0 (some 1)
      (cursor.after.length + 1) 1 (some cursor.position) next k = k next := rfl
  have hround : roundsFrom 0 cursor = cursor.after.length + 1 + 1 := by
    rw [roundsFrom, Nat.zero_add]
  rw [optional, run, hround, runGreedy, if_neg (Nat.not_lt_zero 0),
    if_pos (show canRepeat (some 1) 0 none cursor = true from rfl)]
  simp only [Nat.zero_add, honce]
  cases p.run cursor k <;> rfl

theorem run_optional_blank (hmode : mode.ascii = false) (cursor : Cursor) (k : Continuation) :
    (optional (.set mode false [.category .space false])).run cursor k =
      match cursor.after with
      | [] => k cursor
      | c :: rest =>
        if Text.isBlank c then (k (cursor.advance c rest)).or (k cursor) else k cursor := by
  rw [run_optional, run]
  cases cursor.after with
  | nil => rfl
  | cons c rest =>
    simp only [setHolds_blank hmode]
    split <;> rfl

theorem Cursor.pass_nil (h : cursor.after = text) : cursor.pass [] text = cursor := by
  subst h
  rfl

theorem Cursor.pass_advance (cursor : Cursor) (c : Char) (rest found after : Text) :
    (cursor.advance c rest).pass found after = cursor.pass (c :: found) after := by
  simp only [pass, advance, List.reverse_cons, List.append_assoc, List.singleton_append,
    List.length_cons, Nat.add_assoc, Nat.add_comm 1]

/-- A repeated set takes all the characters it can, if what follows matches at none of them. -/
theorem runGreedy_set (hk : ∀ (next : Cursor) (c : Char) (rest : Text), next.after = c :: rest →
      setHolds mode negated items c = true → k next = none)
    {fuel : Nat} (hfuel : cursor.after.length < fuel) (count : Nat) {last : Option Nat}
    (hlast : last ≠ some cursor.position) :
    runGreedy (fun c k => (Pattern.set mode negated items).run c k) 0 none fuel count last cursor k =
      k (cursor.pass (cursor.after.takeWhile (setHolds mode negated items))
        (cursor.after.dropWhile (setHolds mode negated items))) := by
  induction fuel generalizing cursor count last with
  | zero => exact absurd hfuel (Nat.not_lt_zero _)
  | succ fuel ih =>
    have hrepeat : canRepeat none count last cursor = true := by
      simpa only [canRepeat, Option.all_none, Bool.true_and, bne_iff_ne] using hlast
    rw [runGreedy, if_neg (Nat.not_lt_zero count), if_pos hrepeat, run]
    cases hafter : cursor.after with
    | nil =>
      rw [List.takeWhile_nil, List.dropWhile_nil, Cursor.pass_nil hafter]
    | cons c rest =>
      rw [List.takeWhile_cons, List.dropWhile_cons]
      by_cases hholds : setHolds mode negated items c = true
      · have hshorter : (cursor.advance c rest).after.length < fuel := by
          rw [hafter, List.length_cons] at hfuel
          exact Nat.lt_of_succ_lt_succ hfuel
        have hmoved : some cursor.position ≠ some (cursor.advance c rest).position := by
          simp [Cursor.advance]
        have hrest := ih hshorter (count + 1) hmoved
        rw [Cursor.pass_advance] at hrest
        simp only [hholds, if_true, hrest, hk cursor c rest hafter hholds]
        split
        · exact Eq.symm ‹_›
        · exact Eq.symm ‹_›
      · simp only [hholds, Bool.false_eq_true, if_false]
        rw [Cursor.pass_nil hafter]

theorem run_times_set (hk : ∀ (next : Cursor) (c : Char) (rest : Text), next.after = c :: rest →
      setHolds mode negated items c = true → k next = none) (cursor : Cursor) :
    (times .greedy 0 none (.set mode negated items)).run cursor k =
      k (cursor.pass (cursor.after.takeWhile (setHolds mode negated items))
        (cursor.after.dropWhile (setHolds mode negated items))) := by
  rw [run]
  apply runGreedy_set hk
  · rw [roundsFrom]
    omega
  · nofun

section

variable {p : Pattern} {stop : Cursor} {back rest : Text} {position : Nat} {c : Char}

theorem findFrom_of_run
    (h : p.run { before := back, after := text, position } some = some stop) :
    p.findFrom false back position text =
      some ({ before := back, after := text, position }, stop) := by
  have hrun : p.run { before := back, after := text, position } (fun stop =>
      if false && stop.position = position then none else some stop) = some stop := h
  cases text with
  | nil => rw [findFrom_nil, hrun, Option.map_some]
  | cons c rest => rw [findFrom_cons, hrun, Option.map_some, Option.some_or]

theorem findFrom_cons_of_none
    (h : p.run { before := back, after := c :: rest, position } some = none) :
    p.findFrom false back position (c :: rest) =
      p.findFrom false (c :: back) (position + 1) rest := by
  have hrun : p.run { before := back, after := c :: rest, position } (fun stop =>
      if false && stop.position = position then none else some stop) = none := h
  rw [findFrom_cons, hrun, Option.map_none, Option.none_or]

theorem findFrom_nil_of_none
    (h : p.run { before := back, after := [], position } some = none) :
    p.findFrom false back position [] = none := by
  have hrun : p.run { before := back, after := [], position } (fun stop =>
      if false && stop.position = position then none else some stop) = none := h
  rw [findFrom_nil, hrun, Option.map_none]

end

end Breadcrumb.Pattern
