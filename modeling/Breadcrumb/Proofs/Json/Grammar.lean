import Breadcrumb.Proofs.Json.Scalars

namespace Breadcrumb.Json

/-- Nothing but what separates the signs of a text. -/
def Gap (text : Text) : Prop := ∀ c ∈ text, isGap c = true

theorem Gap.nil : Gap [] := List.forall_mem_nil _

theorem Gap.space : Gap [' '] := by simp [Gap, isGap]

theorem Gap.newline (indent : Nat) : Gap (newline indent) := by
  intro c hc
  rcases List.mem_cons.1 hc with rfl | hc
  · rfl
  · rw [List.eq_of_mem_replicate hc]
    rfl

theorem Gap.skipGap_append (h : Gap gap) (text : Text) : skipGap (gap ++ text) = skipGap text :=
  List.dropWhile_append_of_pos h

theorem clear_of_isGap (hc : isGap c = true) (rest : Text) : Clear (c :: rest) := by
  simp only [isGap, Bool.or_eq_true, decide_eq_true_eq] at hc
  rintro d ⟨⟩
  rcases hc with ((rfl | rfl) | rfl) | rfl <;> decide

theorem Gap.clear_append (h : Gap gap) (hc : c = ',' ∨ c = ']' ∨ c = '\x7d') :
    Clear (gap ++ c :: rest) := by
  cases gap with
  | nil =>
    rintro d ⟨⟩
    rcases hc with rfl | rfl | rfl <;> decide
  | cons d gap => exact clear_of_isGap (h d List.mem_cons_self) _

mutual

/-- The text spells the value, and its integers are short enough to be read. -/
inductive Spells : Json → Text → Prop
  | str (ascii : Bool) (text : Text) : Spells (.str text) (quote ascii text)
  | int : Integer.isPrintable n = true → Spells (.int n) (Text.ofInt n)
  | noItems : Gap gap → Spells (.arr []) ('[' :: (gap ++ [']']))
  | arr : Gap gap → SpellsItems list text →
    Spells (.arr list) ('[' :: (gap ++ text))
  | noFields : Gap gap → Spells (.obj []) ('\x7b' :: (gap ++ ['\x7d']))
  | obj : Gap gap → SpellsFields list text →
    Spells (.obj list) ('\x7b' :: (gap ++ text))

/-- The items of an array, up to the closing bracket. -/
inductive SpellsItems :  List Json → Text → Prop
  | last : Spells item text → Gap gap →
    SpellsItems [item] (text ++ (gap ++ [']']))
  | next : Spells item text → Gap gap → Gap gap' → SpellsItems more text' →
    SpellsItems (item :: more) (text ++ (gap ++ ',' :: (gap' ++ text')))

inductive SpellsFields :  List (Text × Json) → Text → Prop
  | last : SpellsField field text → Gap gap →
    SpellsFields [field] (text ++ (gap ++ ['\x7d']))
  | next : SpellsField field text → Gap gap → Gap gap' →
    SpellsFields more text' →
    SpellsFields (field :: more) (text ++ (gap ++ ',' :: (gap' ++ text')))

inductive SpellsField :  Text × Json → Text → Prop
  | mk (ascii : Bool) (name : Text) : Gap gap → Gap gap' → Spells item text →
    SpellsField (name, item) (quote ascii name ++ (gap ++ ':' :: (gap' ++ text)))

end

/-- The text starts with something other than a gap or the end of a list. -/
def Opens (text : Text) : Prop := ∃ c tail, text = c :: tail ∧ isGap c = false ∧ c ≠ ']'

theorem Opens.append (h : Opens text) (rest : Text) : Opens (text ++ rest) := by
  obtain ⟨c, tail, rfl, hgap, hend⟩ := h
  exact ⟨c, tail ++ rest, rfl, hgap, hend⟩

theorem Opens.skipGap (h : Opens text) : skipGap text = text := by
  obtain ⟨c, tail, rfl, hgap, -⟩ := h
  rw [Json.skipGap, List.dropWhile_cons, hgap]
  rfl

theorem Opens.length_pos (h : Opens text) : 0 < text.length := by
  obtain ⟨c, tail, rfl, -, -⟩ := h
  exact Nat.succ_pos _

theorem Opens.ofInt (n : Int) : Opens (Text.ofInt n) := by
  rcases ofInt_cases n with ⟨c, tail, hc, htext, -⟩ | ⟨c, tail, -, htext, -⟩
  · refine ⟨c, tail, htext, ?_, Text.ne_of_isAsciiDigit hc (by decide)⟩
    have hspace : c ≠ ' ' := Text.ne_of_isAsciiDigit hc (by decide)
    have htab : c ≠ '\t' := Text.ne_of_isAsciiDigit hc (by decide)
    have hline : c ≠ '\n' := Text.ne_of_isAsciiDigit hc (by decide)
    have hreturn : c ≠ '\r' := Text.ne_of_isAsciiDigit hc (by decide)
    simp [isGap, hspace, htab, hline, hreturn]
  · exact ⟨'-', c :: tail, htext, rfl, by decide⟩

theorem opens_quote (ascii : Bool) (text : Text) : Opens (quote ascii text) :=
  ⟨'"', _, rfl, rfl, by decide⟩

theorem Spells.opens (h : Spells v text) : Opens text := by
  cases h with
  | str ascii text => exact opens_quote ascii text
  | int hn => exact Opens.ofInt _
  | noItems hgap => exact ⟨'[', _, rfl, rfl, by decide⟩
  | arr hgap hitems => exact ⟨'[', _, rfl, rfl, by decide⟩
  | noFields hgap => exact ⟨'\x7b', _, rfl, rfl, by decide⟩
  | obj hgap hfields => exact ⟨'\x7b', _, rfl, rfl, by decide⟩

theorem SpellsItems.opens (h : SpellsItems list text) : Opens text := by
  cases h with
  | last hitem hgap => exact hitem.opens.append _
  | next hitem hgap hgap' hmore => exact hitem.opens.append _

theorem SpellsField.opens (h : SpellsField field text) : Opens text := by
  cases h with
  | mk ascii name hgap hgap' hitem => exact (opens_quote ascii name).append _

theorem SpellsFields.opens (h : SpellsFields list text) : Opens text := by
  cases h with
  | last hfield hgap => exact hfield.opens.append _
  | next hfield hgap hgap' hmore => exact hfield.opens.append _

theorem items_last (hvalue : value fuel text = .ok (item, gap ++ ']' :: rest))
    (hgap : Gap gap) : items (fuel + 1) text = .ok ([item], rest) := by
  have hend : skipGap (gap ++ ']' :: rest) = ']' :: rest := hgap.skipGap_append _
  simp only [items, hvalue, bind, Except.bind, hend]
  rfl

theorem items_next (hvalue : value fuel text = .ok (item, gap ++ ',' :: (gap' ++ next)))
    (hgap : Gap gap) (hgap' : Gap gap') (hopens : Opens next)
    (hnext : items fuel next = .ok (more, rest)) :
    items (fuel + 1) text = .ok (item :: more, rest) := by
  have hcomma : skipGap (gap ++ ',' :: (gap' ++ next)) = ',' :: (gap' ++ next) :=
    hgap.skipGap_append _
  simp only [items, hvalue, bind, Except.bind, hcomma, hgap'.skipGap_append, hopens.skipGap, hnext]
  rfl

def fieldsBehind (fuel : Nat) (field : Text × Json) (rest : Text) :
    Except Fault (List (Text × Json) × Text) :=
  match skipGap rest with
  | '\x7d' :: rest => return ([field], rest)
  | ',' :: rest => do
    let (more, rest) ← fields fuel (skipGap rest)
    return (field :: more, rest)
  | rest => throw (.syntaxAt rest.length)

theorem fieldsBehind_last (field : Text × Json) (hgap : Gap gap) :
    fieldsBehind fuel field (gap ++ '\x7d' :: rest) = .ok ([field], rest) := by
  rw [fieldsBehind, hgap.skipGap_append]
  rfl

theorem fieldsBehind_next (field : Text × Json) (hgap : Gap gap) (hgap' : Gap gap')
    (hopens : Opens next) (hnext : fields fuel next = .ok (more, rest)) :
    fieldsBehind fuel field (gap ++ ',' :: (gap' ++ next)) =
      .ok (field :: more, rest) := by
  have hcomma : skipGap (gap ++ ',' :: (gap' ++ next)) = ',' :: (gap' ++ next) :=
    hgap.skipGap_append _
  simp only [fieldsBehind, hcomma, hgap'.skipGap_append, hopens.skipGap, hnext, bind, Except.bind]
  rfl

theorem fields_eq_behind (ascii : Bool) (name : Text) (hgap : Gap gap) (hgap' : Gap gap')
    (hopens : Opens text) (hvalue : value fuel text = .ok (item, rest)) :
    fields (fuel + 1) (quote ascii name ++ (gap ++ ':' :: (gap' ++ text))) =
      fieldsBehind fuel (name, item) rest := by
  have hquote : quote ascii name ++ (gap ++ ':' :: (gap' ++ text)) =
      '"' :: (name.flatMap (escape ascii) ++ '"' :: (gap ++ ':' :: (gap' ++ text))) := by
    simp [quote]
  have hcolon : skipGap (gap ++ ':' :: (gap' ++ text)) = ':' :: (gap' ++ text) :=
    hgap.skipGap_append _
  have hskip : skipGap (gap' ++ text) = text := by rw [hgap'.skipGap_append, hopens.skipGap]
  rw [hquote]
  simp only [fields, string_quoted, bind, Except.bind, hcolon, hskip, hvalue]
  rfl

theorem value_arr (hgap : Gap gap) (hopens : Opens text)
    (hitems : items fuel text = .ok (list, rest)) :
    value (fuel + 1) ('[' :: (gap ++ text)) = .ok (.arr list, rest) := by
  have hskip : skipGap (gap ++ text) = text := by rw [hgap.skipGap_append, hopens.skipGap]
  obtain ⟨c, tail, rfl, -, hend⟩ := hopens
  rw [value, hskip]
  split
  · exact absurd (List.cons.inj ‹_›).1 hend
  · rw [hitems]
    rfl

theorem value_obj (hgap : Gap gap) (htext : text = '"' :: tail)
    (hfields : fields fuel text = .ok (list, rest)) :
    value (fuel + 1) ('\x7b' :: (gap ++ text)) = .ok (.obj list, rest) := by
  have hskip : skipGap (gap ++ text) = text := by
    rw [hgap.skipGap_append, htext]
    rfl
  rw [value, hskip]
  split
  · cases htext
  · rw [hfields]
    rfl

theorem SpellsField.cons (h : SpellsField field text) : ∃ tail, text = '"' :: tail := by
  cases h with
  | mk ascii name hgap hgap' hitem => exact ⟨_, rfl⟩

theorem SpellsFields.cons (h : SpellsFields list text) : ∃ tail, text = '"' :: tail := by
  cases h with
  | last hfield hgap =>
    obtain ⟨tail, rfl⟩ := hfield.cons
    exact ⟨_, rfl⟩
  | next hfield hgap hgap' hmore =>
    obtain ⟨tail, rfl⟩ := hfield.cons
    exact ⟨_, rfl⟩

theorem exists_succ_of_fuel (hfuel : 2 * text.length ≤ fuel) (hopens : Opens text) :
    ∃ k, fuel = k + 1 := by
  have hpos := hopens.length_pos
  exact Nat.exists_eq_add_one.2 (by omega)

mutual

/-- A value is read wherever it is spelled, if no number goes on there; each of its characters is
good for two steps. -/
theorem Spells.value_eq (h : Spells v text) (hrest : Clear rest)
    (hfuel : 2 * text.length ≤ fuel) : value fuel (text ++ rest) = .ok (v, rest) := by
  obtain ⟨fuel, rfl⟩ := exists_succ_of_fuel hfuel h.opens
  cases h with
  | str ascii text =>
    rw [quote, List.cons_append, List.cons_append, List.append_assoc, value, List.singleton_append,
      string_quoted]
    rfl
  | int hn => exact value_ofInt fuel hn hrest
  | noItems hgap =>
    rw [List.cons_append, List.append_assoc, value, hgap.skipGap_append]
    rfl
  | arr hgap hitems =>
    simp only [List.length_cons, List.length_append] at hfuel
    rw [List.cons_append, List.append_assoc]
    exact value_arr hgap (hitems.opens.append rest) (hitems.items_eq (by omega))
  | noFields hgap =>
    rw [List.cons_append, List.append_assoc, value, hgap.skipGap_append]
    rfl
  | obj hgap hfields =>
    simp only [List.length_cons, List.length_append] at hfuel
    obtain ⟨tail, htext⟩ := hfields.cons
    rw [List.cons_append, List.append_assoc]
    exact value_obj hgap (congrArg (· ++ rest) htext) (hfields.fields_eq (by omega))

theorem SpellsItems.items_eq (h : SpellsItems list text)
    (hfuel : 2 * text.length ≤ fuel) : items fuel (text ++ rest) = .ok (list, rest) := by
  obtain ⟨fuel, rfl⟩ := exists_succ_of_fuel hfuel h.opens
  cases h with
  | last hitem hgap =>
    simp only [List.length_append, List.length_cons] at hfuel
    simp only [List.append_assoc, List.singleton_append]
    exact items_last (hitem.value_eq (hgap.clear_append (.inr (.inl rfl))) (by omega)) hgap
  | next hitem hgap hgap' hmore =>
    simp only [List.length_append, List.length_cons] at hfuel
    simp only [List.append_assoc, List.cons_append]
    exact items_next (hitem.value_eq (hgap.clear_append (.inl rfl)) (by omega)) hgap hgap'
      (hmore.opens.append rest) (hmore.items_eq (by omega))

theorem SpellsFields.fields_eq (h : SpellsFields list text)
    (hfuel : 2 * text.length ≤ fuel) : fields fuel (text ++ rest) = .ok (list, rest) := by
  obtain ⟨fuel, rfl⟩ := exists_succ_of_fuel hfuel h.opens
  cases h with
  | last hfield hgap =>
    simp only [List.length_append, List.length_cons] at hfuel
    simp only [List.append_assoc, List.singleton_append]
    exact (hfield.fields_eq (hgap.clear_append (.inr (.inr rfl))) (by omega)).trans
      (fieldsBehind_last _ hgap)
  | next hfield hgap hgap' hmore =>
    simp only [List.length_append, List.length_cons] at hfuel
    simp only [List.append_assoc, List.cons_append]
    exact (hfield.fields_eq (hgap.clear_append (.inl rfl)) (by omega)).trans
      (fieldsBehind_next _ hgap hgap' (hmore.opens.append rest) (hmore.fields_eq (by omega)))

theorem SpellsField.fields_eq (h : SpellsField field text) (hrest : Clear rest)
    (hfuel : 2 * text.length ≤ fuel + 1) : fields (fuel + 1) (text ++ rest) =
      fieldsBehind fuel field rest := by
  cases h with
  | mk ascii name hgap hgap' hitem =>
    simp only [List.length_cons, List.length_append, List.append_assoc, List.cons_append] at hfuel ⊢
    exact fields_eq_behind ascii name hgap hgap' (hitem.opens.append rest)
      (hitem.value_eq hrest (by omega))

end

theorem Spells.read_eq (h : Spells v text) : read text = .ok v := by
  have hread : value _ (text ++ []) = .ok (v, []) :=
    h.value_eq nofun (Nat.le_add_right (2 * text.length) 2)
  rw [List.append_nil] at hread
  rw [read, h.opens.skipGap, hread]
  rfl

end Breadcrumb.Json
