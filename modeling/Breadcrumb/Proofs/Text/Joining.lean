import Breadcrumb.Text

namespace Breadcrumb.Text

variable {sep : Char} {name : Text} {names : List Text}

theorem join_cons_of_ne_nil (sep name : Text) (h : names ≠ []) :
    join sep (name :: names) = name ++ sep ++ join sep names := by
  cases names with
  | nil => exact (h rfl).elim
  | cons next names => rfl

theorem join_append (sep : Text) (hnames : names ≠ []) (hmore : more ≠ []) :
    join sep (names ++ more) = join sep names ++ sep ++ join sep more := by
  induction names with
  | nil => exact (hnames rfl).elim
  | cons first names ih =>
    cases names with
    | nil => exact join_cons_of_ne_nil sep first hmore
    | cons next names =>
      have hnext : next :: names ≠ [] := List.cons_ne_nil _ _
      rw [List.cons_append, join_cons_of_ne_nil sep first (List.append_ne_nil_of_left_ne_nil hnext _),
        ih hnext, join_cons_of_ne_nil sep first hnext]
      simp only [List.append_assoc]

theorem notMem_join {c : Char} {sep : Text} (hsep : c ∉ sep) (h : ∀ name ∈ names, c ∉ name) :
    c ∉ join sep names := by
  induction names with
  | nil => exact List.not_mem_nil
  | cons name names ih =>
    obtain ⟨hname, hnames⟩ := List.forall_mem_cons.1 h
    cases names with
    | nil => exact hname
    | cons next names => exact List.not_mem_append (List.not_mem_append hname hsep) (ih hnames)

theorem split_of_notMem (h : sep ∉ name) : split sep name = [name] := by
  induction name with
  | nil => rfl
  | cons c name ih =>
    obtain ⟨hc, hname⟩ := List.ne_and_not_mem_of_not_mem_cons h
    rw [split, if_neg (Ne.symm hc), ih hname]

theorem split_append (h : sep ∉ name) (rest : Text) :
    split sep (name ++ sep :: rest) = name :: split sep rest := by
  induction name with
  | nil => rw [List.nil_append, split, if_pos rfl]
  | cons c name ih =>
    obtain ⟨hc, hname⟩ := List.ne_and_not_mem_of_not_mem_cons h
    rw [List.cons_append, split, if_neg (Ne.symm hc), ih hname]

/-- A text without the separator goes to the first piece of what it stands in front of. -/
theorem split_append_of_notMem (h : sep ∉ name) (hrest : split sep rest = piece :: more) :
    split sep (name ++ rest) = (name ++ piece) :: more := by
  induction name with
  | nil => exact hrest
  | cons c name ih =>
    obtain ⟨hc, hname⟩ := List.ne_and_not_mem_of_not_mem_cons h
    rw [List.cons_append, split, if_neg (Ne.symm hc), ih hname]
    rfl

theorem cut?_append (h : sep ∉ name) (rest : Text) :
    cut? sep (name ++ sep :: rest) = some (name, rest) := by
  induction name with
  | nil => rw [List.nil_append, cut?, if_pos rfl]
  | cons c name ih =>
    obtain ⟨hc, hname⟩ := List.ne_and_not_mem_of_not_mem_cons h
    rw [List.cons_append, cut?, if_neg (Ne.symm hc), ih hname]
    rfl

theorem cut?_of_notMem (h : sep ∉ text) : cut? sep text = none := by
  induction text with
  | nil => rfl
  | cons c text ih =>
    obtain ⟨hc, htext⟩ := List.ne_and_not_mem_of_not_mem_cons h
    rw [cut?, if_neg (Ne.symm hc), ih htext]
    rfl

theorem notMem_of_cut?_eq_none (h : cut? sep text = none) : sep ∉ text := by
  induction text with
  | nil => exact List.not_mem_nil
  | cons c text ih =>
    rw [cut?] at h
    split at h
    · cases h
    · rename_i hc
      exact List.not_mem_cons_of_ne_of_not_mem (Ne.symm hc) (ih (Option.map_eq_none_iff.1 h))

theorem of_cut?_eq_some {text rest : Text} (h : cut? sep text = some (name, rest)) :
    sep ∉ name ∧ text = name ++ sep :: rest := by
  induction text generalizing name with
  | nil => cases h
  | cons c text ih =>
    rw [cut?] at h
    split at h
    · rename_i hc
      cases h
      exact ⟨List.not_mem_nil, by rw [hc]; rfl⟩
    · rename_i hc
      obtain ⟨⟨before, behind⟩, hcut, he⟩ := Option.map_eq_some_iff.1 h
      obtain ⟨rfl, rfl⟩ := Prod.mk.inj he
      obtain ⟨hbefore, rfl⟩ := ih hcut
      exact ⟨List.not_mem_cons_of_ne_of_not_mem (Ne.symm hc) hbefore, rfl⟩

theorem split_join (hne : names ≠ []) (h : ∀ name ∈ names, sep ∉ name) :
    split sep (join [sep] names) = names := by
  induction names with
  | nil => exact (hne rfl).elim
  | cons name names ih =>
    obtain ⟨hname, hnames⟩ := List.forall_mem_cons.1 h
    cases names with
    | nil => exact split_of_notMem hname
    | cons next names =>
      rw [join_cons_of_ne_nil _ _ (by simp), List.append_assoc, List.singleton_append,
        split_append hname, ih (by simp) hnames]

theorem split_flatMap {lines : List Text} (h : ∀ line ∈ lines, sep ∉ line) :
    split sep (lines.flatMap (· ++ [sep])) = lines ++ [[]] := by
  induction lines with
  | nil => rfl
  | cons line lines ih =>
    obtain ⟨hline, hlines⟩ := List.forall_mem_cons.1 h
    rw [List.flatMap_cons, List.append_assoc, List.singleton_append, split_append hline, ih hlines]
    rfl

/-- Lines that are closed by a separator, which none of them holds, are known from the text. -/
theorem eq_of_flatMap_eq {lines others : List Text} (hlines : ∀ line ∈ lines, sep ∉ line)
    (hothers : ∀ line ∈ others, sep ∉ line)
    (h : lines.flatMap (· ++ [sep]) = others.flatMap (· ++ [sep])) : lines = others := by
  have hsplit := congrArg (split sep) h
  rw [split_flatMap hlines, split_flatMap hothers] at hsplit
  exact List.append_cancel_right hsplit

/-- The first piece ends at the first separator. -/
theorem head?_split (sep : Char) (text : Text) :
    (split sep text).head? = some (text.takeWhile (· ≠ sep)) := by
  induction text with
  | nil => rfl
  | cons c text ih =>
    rw [split, List.takeWhile_cons]
    by_cases hc : c = sep
    · simp [hc]
    · obtain ⟨more, hpieces⟩ := List.head?_eq_some_iff.1 ih
      simp [hc, hpieces]

theorem length_split (sep : Char) (text : Text) :
    (split sep text).length = text.count sep + 1 := by
  induction text with
  | nil => rfl
  | cons c text ih =>
    rw [split]
    split
    · rename_i hc
      rw [List.length_cons, ih, hc, List.count_cons_self]
    · rename_i hc
      rw [List.count_cons_of_ne hc, ← ih]
      split
      · rename_i hpieces
        rw [hpieces] at ih
        cases ih
      · rename_i hpieces
        rw [hpieces]
        rfl

theorem subset_of_mem_split {text : Text} (h : name ∈ split sep text) : name ⊆ text := by
  induction text generalizing name with
  | nil =>
    obtain rfl := List.mem_singleton.1 h
    exact List.nil_subset _
  | cons c text ih =>
    rw [split] at h
    split at h
    · rcases List.mem_cons.1 h with rfl | h
      · exact List.nil_subset _
      · exact List.subset_cons_of_subset c (ih h)
    · cases hpieces : split sep text with
      | nil =>
        rw [hpieces] at h
        obtain rfl := List.mem_singleton.1 h
        exact List.cons_subset_cons c (List.nil_subset text)
      | cons piece more =>
        rw [hpieces] at h ih
        rcases List.mem_cons.1 h with rfl | h
        · exact List.cons_subset_cons c (ih List.mem_cons_self)
        · exact List.subset_cons_of_subset c (ih (List.mem_cons_of_mem _ h))

theorem notMem_of_mem_split {text : Text} (h : name ∈ split sep text) : sep ∉ name := by
  induction text generalizing name with
  | nil =>
    obtain rfl := List.mem_singleton.1 h
    exact List.not_mem_nil
  | cons c text ih =>
    rw [split] at h
    by_cases hc : c = sep
    · rw [if_pos hc] at h
      rcases List.mem_cons.1 h with rfl | h
      · exact List.not_mem_nil
      · exact ih h
    · rw [if_neg hc] at h
      cases hpieces : split sep text with
      | nil =>
        rw [hpieces] at h
        obtain rfl := List.mem_singleton.1 h
        simpa using Ne.symm hc
      | cons piece more =>
        rw [hpieces] at h ih
        rcases List.mem_cons.1 h with rfl | h
        · rw [List.mem_cons, not_or]
          exact ⟨Ne.symm hc, ih List.mem_cons_self⟩
        · exact ih (List.mem_cons_of_mem _ h)

end Breadcrumb.Text
