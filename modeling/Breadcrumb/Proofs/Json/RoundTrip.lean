import Breadcrumb.Proofs.Json.Grammar
import Breadcrumb.Proofs.Text.Ascii

namespace Breadcrumb.Json

/-- The value is made of strings and of integers that are short enough to be written. -/
inductive Printable : Json → Prop
  | str : Printable (.str text)
  | int : Integer.isPrintable n = true → Printable (.int n)
  | arr {list : List Json} : (∀ item ∈ list, Printable item) → Printable (.arr list)
  | obj {list : List (Text × Json)} : (∀ field ∈ list, Printable field.2) → Printable (.obj list)

theorem spellsField_of_value (ascii : Bool) {field : Text × Json}
    (h : Spells field.2 text) :
    SpellsField field (quote ascii field.1 ++ (": ".toList ++ text)) :=
  .mk ascii field.1 .nil .space h

section Pretty

theorem prettyAt_str (indent : Nat) (text : Text) :
    prettyAt indent (.str text) = quote false text := by
  rw [prettyAt, scalar] <;> nofun

theorem prettyAt_int (indent : Nat) (n : Int) : prettyAt indent (.int n) = Text.ofInt n := by
  rw [prettyAt, scalar] <;> nofun

theorem spellsItems_pretty (indent outer : Nat)
    (h : ∀ item ∈ first :: more, Spells item (prettyAt indent item)) :
    SpellsItems (first :: more)
      (prettyAt indent first ++ (prettyItems indent more ++ (newline outer ++ [']']))) := by
  induction more generalizing first with
  | nil => exact .last (h first List.mem_cons_self) (.newline outer)
  | cons second more ih =>
    obtain ⟨hfirst, hmore⟩ := List.forall_mem_cons.1 h
    simp only [prettyItems, List.append_assoc, List.cons_append]
    exact .next hfirst .nil (.newline indent) (ih hmore)

theorem spellsFields_pretty (indent outer : Nat)
    (h : ∀ field ∈ first :: more, Spells field.2 (prettyAt indent field.2)) :
    SpellsFields (first :: more) (quote false first.1 ++ (": ".toList ++
      (prettyAt indent first.2 ++ (prettyFields indent more ++ (newline outer ++ ['\x7d']))))) := by
  induction more generalizing first with
  | nil =>
    have hfirst := spellsField_of_value false (h first List.mem_cons_self)
    simpa only [prettyFields, List.append_assoc, List.nil_append] using
      SpellsFields.last hfirst (.newline outer)
  | cons second more ih =>
    obtain ⟨hfirst, hmore⟩ := List.forall_mem_cons.1 h
    have hnext := SpellsFields.next (spellsField_of_value false hfirst) .nil (.newline indent) (ih hmore)
    simpa only [prettyFields, List.append_assoc, List.cons_append, List.nil_append] using hnext

/-- By the structure of the value: a collection is spelled if its members are. -/
theorem Printable.spells_pretty (h : Printable v) (indent : Nat) :
    Spells v (prettyAt indent v) := by
  induction h generalizing indent with
  | str => exact prettyAt_str indent _ ▸ .str false _
  | int hn => exact prettyAt_int indent _ ▸ .int hn
  | @arr list hlist ih =>
    cases list with
    | nil => exact .noItems .nil
    | cons first more =>
      have hitems := spellsItems_pretty (indent + 1) indent fun item hitem => ih item hitem (indent + 1)
      simpa only [prettyAt, List.append_assoc, List.cons_append] using
        Spells.arr (.newline (indent + 1)) hitems
  | @obj list hlist ih =>
    cases list with
    | nil => exact .noFields .nil
    | cons first more =>
      have hfields := spellsFields_pretty (indent + 1) indent fun field hfield =>
        ih field hfield (indent + 1)
      simpa only [prettyAt, List.append_assoc, List.cons_append] using
        Spells.obj (.newline (indent + 1)) hfields

theorem read_pretty (h : Printable v) : read v.pretty = .ok v :=
  (h.spells_pretty 0).read_eq

end Pretty

section Compact

theorem compact_str (text : Text) : compact (.str text) = quote true text := by
  rw [compact, scalar] <;> nofun

theorem compact_int (n : Int) : compact (.int n) = Text.ofInt n := by
  rw [compact, scalar] <;> nofun

theorem comma_space : ", ".toList = ',' :: [' '] := rfl

theorem spellsItems_compact (h : ∀ item ∈ first :: more, Spells item (compact item)) :
    SpellsItems (first :: more) (compact first ++ (compactItems more ++ [']'])) := by
  induction more generalizing first with
  | nil => exact .last (h first List.mem_cons_self) .nil
  | cons second more ih =>
    obtain ⟨hfirst, hmore⟩ := List.forall_mem_cons.1 h
    simp only [compactItems, comma_space, List.append_assoc, List.cons_append]
    exact .next hfirst .nil .space (ih hmore)

theorem spellsFields_compact
    (h : ∀ field ∈ first :: more, Spells field.2 (compact field.2)) :
    SpellsFields (first :: more) (quote true first.1 ++ (": ".toList ++
      (compact first.2 ++ (compactFields more ++ ['\x7d'])))) := by
  induction more generalizing first with
  | nil =>
    have hfirst := spellsField_of_value true (h first List.mem_cons_self)
    simpa only [compactFields, List.append_assoc, List.nil_append] using SpellsFields.last hfirst .nil
  | cons second more ih =>
    obtain ⟨hfirst, hmore⟩ := List.forall_mem_cons.1 h
    have hnext := SpellsFields.next (spellsField_of_value true hfirst) .nil .space (ih hmore)
    simpa only [compactFields, comma_space, List.append_assoc, List.cons_append, List.nil_append]
      using hnext

theorem Printable.spells_compact (h : Printable v) : Spells v (compact v) := by
  induction h with
  | str => exact compact_str _ ▸ .str true _
  | int hn => exact compact_int _ ▸ .int hn
  | @arr list hlist ih =>
    cases list with
    | nil => exact .noItems .nil
    | cons first more =>
      simpa only [compact, List.append_assoc, List.cons_append, List.nil_append] using
        Spells.arr .nil (spellsItems_compact ih)
  | @obj list hlist ih =>
    cases list with
    | nil => exact .noFields .nil
    | cons first more =>
      simpa only [compact, List.append_assoc, List.cons_append, List.nil_append] using
        Spells.obj .nil (spellsFields_compact ih)

theorem read_compact (h : Printable v) : read v.compact = .ok v :=
  h.spells_compact.read_eq

theorem isAscii_unit (n : Nat) : Text.IsAscii (unit n) := by
  have hmark : Text.IsAscii ['\\', 'u'] := by decide
  exact hmark.append (Text.isAscii_hex 4 n)

theorem isAscii_units (c : Char) : Text.IsAscii (units c) := by
  rw [units]
  split
  · exact isAscii_unit _
  · exact (isAscii_unit _).append (isAscii_unit _)

theorem isAscii_escape (c : Char) : Text.IsAscii (escape true c) := by
  unfold escape
  split
  · decide
  split
  · decide
  split
  · decide
  split
  · decide
  split
  · decide
  split
  · decide
  split
  · decide
  split
  · exact isAscii_units c
  · rename_i hplain
    simp only [Bool.true_and, Bool.or_eq_true, decide_eq_true_eq, not_or] at hplain
    exact List.forall_mem_singleton.2 (by omega)

theorem isAscii_quote (text : Text) : Text.IsAscii (quote true text) := by
  have hmark : Text.IsAscii ['"'] := by decide
  refine (hmark.append ?_).append hmark
  intro c hc
  obtain ⟨d, -, hd⟩ := List.mem_flatMap.1 hc
  exact isAscii_escape d c hd

theorem isAscii_compactItems (h : ∀ item ∈ list, Text.IsAscii (compact item)) :
    Text.IsAscii (compactItems list) := by
  induction list with
  | nil => exact List.forall_mem_nil _
  | cons item list ih =>
    obtain ⟨hitem, hlist⟩ := List.forall_mem_cons.1 h
    have hcomma : Text.IsAscii ", ".toList := by decide
    exact (hcomma.append hitem).append (ih hlist)

theorem isAscii_compactFields (h : ∀ field ∈ list, Text.IsAscii (compact field.2)) :
    Text.IsAscii (compactFields list) := by
  induction list with
  | nil => exact List.forall_mem_nil _
  | cons field list ih =>
    obtain ⟨hfield, hlist⟩ := List.forall_mem_cons.1 h
    have hcomma : Text.IsAscii ", ".toList := by decide
    have hcolon : Text.IsAscii ": ".toList := by decide
    exact (((hcomma.append (isAscii_quote field.1)).append hcolon).append hfield).append (ih hlist)

/-- Whatever characters its strings are made of, a value is written in ASCII. -/
theorem Printable.isAscii_compact (h : Printable v) : Text.IsAscii (compact v) := by
  induction h with
  | str => exact compact_str _ ▸ isAscii_quote _
  | int hn => exact compact_int _ ▸ Text.isAscii_ofInt _
  | @arr list hlist ih =>
    cases list with
    | nil => decide
    | cons first more =>
      obtain ⟨hfirst, hmore⟩ := List.forall_mem_cons.1 ih
      have hopen : Text.IsAscii ['['] := by decide
      have hclose : Text.IsAscii [']'] := by decide
      rw [compact]
      exact ((hopen.append hfirst).append (isAscii_compactItems hmore)).append hclose
  | @obj list hlist ih =>
    cases list with
    | nil => decide
    | cons first more =>
      obtain ⟨hfirst, hmore⟩ := List.forall_mem_cons.1 ih
      have hopen : Text.IsAscii ['\x7b'] := by decide
      have hcolon : Text.IsAscii ": ".toList := by decide
      have hclose : Text.IsAscii ['\x7d'] := by decide
      rw [compact]
      exact ((((hopen.append (isAscii_quote first.1)).append hcolon).append hfirst).append
        (isAscii_compactFields hmore)).append hclose

end Compact

end Breadcrumb.Json
