import Breadcrumb.Proofs.FileTree.Proper
import Breadcrumb.Proofs.FileTree.Replacing

namespace Breadcrumb

namespace Named

variable {α : Type}

theorem get?_cons (field : Text × α) (fields : List (Text × α)) (name : Text) :
    get? (field :: fields) name = if field.1 = name then some field.2 else get? fields name := by
  by_cases h : field.1 = name
  · simp [get?, h]
  · simp [get?, h]

theorem get?_set (fields : List (Text × α)) (name other : Text) (value : α) :
    get? (set fields name value) other = if other = name then some value else get? fields other := by
  induction fields with
  | nil => simp only [set, get?_cons, eq_comm]
  | cons field fields ih =>
    by_cases hfield : field.1 = name
    · subst hfield
      simp only [set, if_true, get?_cons]
      by_cases h : field.1 = other
      · simp [h]
      · simp [h, Ne.symm h]
    · simp only [set, hfield, if_false, get?_cons, ih]
      by_cases h : field.1 = other
      · have hne : other ≠ name := h ▸ hfield
        simp [h, hne]
      · simp [h]

theorem get?_filter_ne (fields : List (Text × α)) (name other : Text) :
    get? (fields.filter (·.1 ≠ name)) other = if other = name then none else get? fields other := by
  induction fields with
  | nil => exact (ite_self none).symm
  | cons field fields ih =>
    by_cases hfield : field.1 = name
    · rw [List.filter_cons_of_neg (by simp [hfield]), ih, get?_cons, hfield]
      by_cases h : other = name
      · simp [h]
      · simp [h, Ne.symm h]
    · rw [List.filter_cons_of_pos (by simp [hfield]), get?_cons, get?_cons, ih]
      by_cases h : field.1 = other
      · have hne : other ≠ name := h ▸ hfield
        simp [h, hne]
      · simp [h]

end Named

namespace Entry

def outline : Entry → Entry
  | .folder _ => .folder []
  | entry => entry

/-- What kind of entry is at a place, with the bytes of a file and the target of a link. -/
def outlineAt? (entry : Entry) (place : Place) : Option Entry := (entry.at? place).map outline

theorem outlineAt?_eq_file {entry : Entry} :
    entry.outlineAt? place = some (.file bytes) ↔ entry.at? place = some (.file bytes) := by
  rw [outlineAt?, Option.map_eq_some_iff]
  constructor
  · rintro ⟨found, hfound, houtline⟩
    cases found with
    | file old => exact hfound.trans (congrArg some houtline)
    | link target => cases houtline
    | folder entries => cases houtline
  · intro h
    exact ⟨_, h, rfl⟩

theorem outlineAt?_eq_link {entry : Entry} :
    entry.outlineAt? place = some (.link target) ↔ entry.at? place = some (.link target) := by
  rw [outlineAt?, Option.map_eq_some_iff]
  constructor
  · rintro ⟨found, hfound, houtline⟩
    cases found with
    | file old => cases houtline
    | link other => exact hfound.trans (congrArg some houtline)
    | folder entries => cases houtline
  · intro h
    exact ⟨_, h, rfl⟩

theorem outlineAt?_eq_folder {entry : Entry} :
    entry.outlineAt? place = some (.folder []) ↔
      ∃ entries, entry.at? place = some (.folder entries) := by
  rw [outlineAt?, Option.map_eq_some_iff]
  constructor
  · rintro ⟨found, hfound, houtline⟩
    cases found with
    | file old => cases houtline
    | link target => cases houtline
    | folder entries => exact ⟨entries, hfound⟩
  · rintro ⟨entries, h⟩
    exact ⟨_, h, rfl⟩

theorem outlineAt?_folder_cons (entries : List (Text × Entry)) (name : Text) (rest : Place) :
    (Entry.folder entries).outlineAt? (name :: rest) =
      (Named.get? entries name).bind (·.outlineAt? rest) := by
  rw [outlineAt?, at?]
  cases Named.get? entries name with
  | none => rfl
  | some inner => rfl

theorem outlineAt?_cons_of_not_folder {entry : Entry} (h : entry.outline ≠ .folder []) (name : Text)
    (rest : Place) : entry.outlineAt? (name :: rest) = none := by
  cases entry with
  | file bytes => rfl
  | link target => rfl
  | folder entries => exact (h rfl).elim

theorem remove_of_not_folder {entry : Entry} (h : entry.outline ≠ .folder []) (place : Place) :
    entry.remove place = entry := by
  unfold remove
  split
  · exact (h rfl).elim
  · exact (h rfl).elim
  · rfl

theorem outlineAt?_filter_ne {entries : List (Text × Entry)}
    (hfile : (Entry.folder entries).outlineAt? [name] ≠ some (.folder [])) (other : Place) :
    (Entry.folder (entries.filter (·.1 ≠ name))).outlineAt? other =
      if other = [name] then none else (Entry.folder entries).outlineAt? other := by
  cases other with
  | nil => rfl
  | cons first rest =>
    rw [outlineAt?_folder_cons, outlineAt?_folder_cons, Named.get?_filter_ne]
    by_cases hfirst : first = name
    · subst hfirst
      rw [outlineAt?_folder_cons] at hfile
      cases hget : Named.get? entries first with
      | none => simp
      | some inner =>
        rw [hget] at hfile
        have hinner : inner.outline ≠ .folder [] := fun h => hfile (congrArg some h)
        cases rest with
        | nil => simp
        | cons next rest => simp [outlineAt?_cons_of_not_folder hinner]
    · simp [hfirst]

theorem outlineAt?_set {entries : List (Text × Entry)} {changed : Entry} {seen : Option Entry}
    (hinner : ∀ other, changed.outlineAt? other =
      if other = place then seen else (Named.get? entries name).bind (·.outlineAt? other))
    (other : Place) :
    (Entry.folder (Named.set entries name changed)).outlineAt? other =
      if other = name :: place then seen else (Entry.folder entries).outlineAt? other := by
  cases other with
  | nil => rfl
  | cons first rest =>
    rw [outlineAt?_folder_cons, outlineAt?_folder_cons, Named.get?_set]
    by_cases hfirst : first = name
    · subst hfirst
      simp [hinner]
    · simp [hfirst]

theorem outlineAt?_of_missing {entry : Entry} (h : entry.outlineAt? place = none) (other : Place) :
    entry.outlineAt? other = if other = place then none else entry.outlineAt? other := by
  split
  · rename_i hother
    rw [hother, h]
  · rfl

theorem outlineAt?_remove (entry : Entry) (hplace : place ≠ [])
    (hfile : entry.outlineAt? place ≠ some (.folder [])) (other : Place) :
    (entry.remove place).outlineAt? other =
      if other = place then none else entry.outlineAt? other := by
  -- The last name is struck from its folder; a name before it leads on, if it is there.
  induction place generalizing entry other with
  | nil => exact (hplace rfl).elim
  | cons name place ih =>
    cases entry with
    | file bytes =>
      rw [remove_of_not_folder (by simp [outline])]
      exact outlineAt?_of_missing rfl other
    | link target =>
      rw [remove_of_not_folder (by simp [outline])]
      exact outlineAt?_of_missing rfl other
    | folder entries =>
      cases place with
      | nil => exact outlineAt?_filter_ne hfile other
      | cons next place =>
        rw [outlineAt?_folder_cons] at hfile
        cases hget : Named.get? entries name with
        | none =>
          simp only [remove, hget]
          apply outlineAt?_of_missing
          rw [outlineAt?_folder_cons, hget]
          rfl
        | some inner =>
          rw [hget] at hfile
          simp only [remove, hget]
          refine outlineAt?_set ?_ other
          simpa only [hget, Option.bind_some] using ih inner (by simp) hfile

theorem outlineAt?_foldl_remove (entry : Entry) {gone : List Place}
    (h : ∀ place ∈ gone, place ≠ [] ∧ entry.outlineAt? place ≠ some (.folder [])) (other : Place) :
    (gone.foldl remove entry).outlineAt? other =
      if other ∈ gone then none else entry.outlineAt? other := by
  induction gone generalizing entry with
  | nil => simp
  | cons first gone ih =>
    obtain ⟨⟨hfirst, hfile⟩, h⟩ := List.forall_mem_cons.1 h
    have hremove := outlineAt?_remove entry hfirst hfile
    rw [List.foldl_cons, ih, hremove]
    · by_cases hother : other = first
      · simp [hother]
      · simp [hother]
    · intro place hplace
      refine ⟨(h place hplace).1, ?_⟩
      rw [hremove]
      split
      · nofun
      · exact (h place hplace).2

theorem Proper.remove {entry : Entry} (h : entry.Proper) (place : Place) :
    (entry.remove place).Proper := by
  induction place generalizing entry with
  | nil =>
    have hsame : entry.remove [] = entry := by cases entry <;> rfl
    rw [hsame]
    exact h
  | cons name place ih =>
    cases h with
    | file bytes =>
      rw [remove_of_not_folder (by simp [outline])]
      exact .file bytes
    | link target =>
      rw [remove_of_not_folder (by simp [outline])]
      exact .link target
    | @folder entries nodup names inner =>
      cases place with
      | nil =>
        refine .folder (nodup.sublist (List.filter_sublist.map _)) ?_ ?_
        · intro e he
          exact names e (List.mem_of_mem_filter he)
        · intro e he
          exact inner e (List.mem_of_mem_filter he)
      | cons next place =>
        cases hget : Named.get? entries name with
        | none =>
          simp only [Entry.remove, hget]
          exact .folder nodup names inner
        | some old =>
          have hmem := Named.mem_of_get? hget
          simp only [Entry.remove, hget]
          exact Proper.set (.folder nodup names inner) (names _ hmem) (ih (inner _ hmem))

theorem Proper.foldl_remove {entry : Entry} (h : entry.Proper) (gone : List Place) :
    (gone.foldl Entry.remove entry).Proper := by
  induction gone generalizing entry with
  | nil => exact h
  | cons place gone ih => exact ih (h.remove place)

inductive Fades : Option Entry → Option Entry → Prop
  | none : Fades none none
  | file (bytes : Bytes) : Fades (some (.file bytes)) (some (.file bytes))
  | link (target : Text) : Fades (some (.link target)) (some (.link target))
  | folder (entries entries' : List (Text × Entry)) :
    Fades (some (.folder entries)) (some (.folder entries'))
  | gone (bytes : Bytes) : Fades (some (.file bytes)) none

theorem fades_of_outline {found found' : Option Entry} (h : found'.map outline = found.map outline) :
    Fades found found' := by
  cases found with
  | none => cases found' with
    | none => exact .none
    | some entry' => cases h
  | some entry =>
    cases found' with
    | none => cases h
    | some entry' =>
      have hsame : entry'.outline = entry.outline := Option.some.inj h
      cases entry <;> cases entry' <;> cases hsame <;> constructor

end Entry

namespace FileTree

def without (tree : FileTree) (gone : List Place) : FileTree :=
  { tree with root := gone.foldl Entry.remove tree.root }

def FilesAt (tree : FileTree) (places : List Place) : Prop :=
  ∀ place ∈ places, place ≠ [] ∧ ∃ bytes, tree.root.at? place = some (.file bytes)

variable {tree : FileTree} {gone : List Place}

theorem outlineAt?_without (h : tree.FilesAt gone) (place : Place) :
    (tree.without gone).root.outlineAt? place =
      if place ∈ gone then none else tree.root.outlineAt? place := by
  refine Entry.outlineAt?_foldl_remove tree.root ?_ place
  intro other hother
  obtain ⟨hne, bytes, hfile⟩ := h other hother
  refine ⟨hne, ?_⟩
  rw [Entry.outlineAt?, hfile]
  nofun

theorem fades_at?_without (h : tree.FilesAt gone) (place : Place) :
    Entry.Fades (tree.root.at? place) ((tree.without gone).root.at? place) := by
  have houtline := outlineAt?_without h place
  split at houtline
  · rename_i hplace
    obtain ⟨-, bytes, hfile⟩ := h place hplace
    rw [Entry.outlineAt?, Option.map_eq_none_iff] at houtline
    rw [hfile, houtline]
    exact .gone bytes
  · exact Entry.fades_of_outline houtline

theorem at?_without_eq_file (h : tree.FilesAt gone) :
    (tree.without gone).root.at? place = some (.file bytes) ↔
      tree.root.at? place = some (.file bytes) ∧ place ∉ gone := by
  rw [← Entry.outlineAt?_eq_file, ← Entry.outlineAt?_eq_file, outlineAt?_without h]
  by_cases hgone : place ∈ gone
  · simp [hgone]
  · simp [hgone]

theorem outlineAt?_without_of_not_file (h : tree.FilesAt gone)
    (hfile : ∀ bytes, entry ≠ .file bytes) :
    (tree.without gone).root.outlineAt? place = some entry ↔
      tree.root.outlineAt? place = some entry := by
  rw [outlineAt?_without h]
  by_cases hgone : place ∈ gone
  · obtain ⟨-, bytes, hplace⟩ := h place hgone
    rw [Entry.outlineAt?_eq_file.2 hplace]
    simp [hgone, Ne.symm (hfile bytes)]
  · simp [hgone]

theorem at?_without_eq_link (h : tree.FilesAt gone) :
    (tree.without gone).root.at? place = some (.link target) ↔
      tree.root.at? place = some (.link target) := by
  rw [← Entry.outlineAt?_eq_link, outlineAt?_without_of_not_file h (by simp), Entry.outlineAt?_eq_link]

theorem exists_folder_without_iff (h : tree.FilesAt gone) :
    (∃ entries, (tree.without gone).root.at? place = some (.folder entries)) ↔
      ∃ entries, tree.root.at? place = some (.folder entries) := by
  rw [← Entry.outlineAt?_eq_folder, outlineAt?_without_of_not_file h (by simp),
    Entry.outlineAt?_eq_folder]

inductive Located.Fades : Located → Located → Prop
  | same (located : Located) : Fades located located
  | folder (place : Place) (entries entries' : List (Text × Entry)) :
    Fades (.found place (.folder entries)) (.found place (.folder entries'))
  | vacant (place : Place) (bytes : Bytes) : Fades (.found place (.file bytes)) (.vacant place)
  | missing (place : Place) (bytes : Bytes) : Fades (.found place (.file bytes)) (.fault .missing)
  | below : Fades (.fault .notFolder) (.fault .missing)

inductive Descent.Fades : Descent → Descent → Prop
  | done {located located' : Located} :
    located.Fades located' → Fades (.done located) (.done located')
  | link (folder : Place) (target : Text) (rest : List Text) :
    Fades (.link folder target rest) (.link folder target rest)

theorem at?_child {entry : Entry} (h : entry.at? place = some (.folder entries)) (name : Text) :
    entry.at? (place ++ [name]) = Named.get? entries name := by
  rw [Entry.at?_append, h, Option.bind_some, Entry.at?]
  cases Named.get? entries name <;> rfl

theorem descend_child (followLast : Bool) (rest : List Text)
    (hfolder : tree.root.at? place = some (.folder entries)) (hdot : name ≠ ['.'])
    (hdots : name ≠ ['.', '.']) :
    tree.descend followLast place (name :: rest) =
      if maxNameSize < size name then .done (.fault .nameTooLong)
      else
        match tree.root.at? (place ++ [name]) with
        | none =>
          if rest.isEmpty then .done (.vacant (place ++ [name])) else .done (.fault .missing)
        | some (.link target) =>
          if rest.isEmpty && !followLast then .done (.found (place ++ [name]) (.link target))
          else .link place target rest
        | some _ => tree.descend followLast (place ++ [name]) rest := by
  rw [descend, hfolder, at?_child hfolder]
  exact (if_neg hdot).trans (if_neg hdots)

theorem descend_fades (h : tree.FilesAt gone) (followLast : Bool) (place : Place)
    (names : List Text) :
    (tree.descend followLast place names).Fades
      ((tree.without gone).descend followLast place names) := by
  induction names generalizing place with
  | nil =>
    have hplace := fades_at?_without h place
    rw [descend, descend]
    generalize tree.root.at? place = found at hplace ⊢
    generalize (tree.without gone).root.at? place = found' at hplace ⊢
    cases hplace with
    | none => exact .done (.same _)
    | file bytes => exact .done (.same _)
    | link target => exact .done (.same _)
    | folder entries entries' => exact .done (.folder _ _ _)
    | gone bytes => exact .done (.missing _ _)
  | cons name rest ih =>
    have hplace := fades_at?_without h place
    generalize hfound : tree.root.at? place = found at hplace
    generalize hfound' : (tree.without gone).root.at? place = found' at hplace
    cases hplace with
    | none =>
      rw [descend, descend, hfound, hfound']
      exact .done (.same _)
    | file bytes =>
      rw [descend, descend, hfound, hfound']
      exact .done (.same _)
    | link target =>
      rw [descend, descend, hfound, hfound']
      exact .done (.same _)
    | gone bytes =>
      rw [descend, descend, hfound, hfound']
      exact .done .below
    | folder entries entries' =>
      by_cases hdot : name = ['.']
      · simp only [descend, hfound, hfound', hdot, if_true]
        exact ih place
      by_cases hdots : name = ['.', '.']
      · simp only [descend, hfound, hfound', hdots, if_true]
        exact ih place.dropLast
      rw [descend_child followLast rest hfound hdot hdots,
        descend_child followLast rest hfound' hdot hdots]
      split
      · exact .done (.same _)
      have hchild := fades_at?_without h (place ++ [name])
      generalize hinner : tree.root.at? (place ++ [name]) = inner at hchild ⊢
      generalize hinner' : (tree.without gone).root.at? (place ++ [name]) = inner' at hchild ⊢
      cases hchild with
      | none =>
        cases rest with
        | nil => exact .done (.same _)
        | cons next rest => exact .done (.same _)
      | file bytes => exact ih _
      | link target =>
        simp only
        split
        · exact .done (.same _)
        · exact .link _ _ _
      | folder entries entries' => exact ih _
      | gone bytes =>
        -- Either the path ended at the file, or it went on as if the file were a folder.
        cases rest with
        | nil =>
          rw [descend, hinner]
          exact .done (.vacant _ _)
        | cons next rest =>
          rw [descend, hinner]
          exact .done .below

theorem locateFrom_fades (h : tree.FilesAt gone) (followLast : Bool) (links : Nat) (place : Place)
    (names : List Text) :
    (tree.locateFrom followLast links place names).Fades
      ((tree.without gone).locateFrom followLast links place names) := by
  induction links generalizing place names with
  | zero =>
    have hdescend := descend_fades h followLast place names
    rw [locateFrom, locateFrom]
    generalize tree.descend followLast place names = descent at hdescend ⊢
    generalize (tree.without gone).descend followLast place names = descent' at hdescend ⊢
    cases hdescend with
    | done hlocated => exact hlocated
    | link folder target rest => exact .same _
  | succ links ih =>
    have hdescend := descend_fades h followLast place names
    rw [locateFrom, locateFrom]
    generalize tree.descend followLast place names = descent at hdescend ⊢
    generalize (tree.without gone).descend followLast place names = descent' at hdescend ⊢
    cases hdescend with
    | done hlocated => exact hlocated
    | link folder target rest => exact ih _ _

theorem locate_fades (h : tree.FilesAt gone) (followLast : Bool) (path : Path) :
    (∃ fault, tree.locate followLast path = .error fault ∧
      (tree.without gone).locate followLast path = .error fault) ∨
    ∃ located located', tree.locate followLast path = .ok located ∧
      (tree.without gone).locate followLast path = .ok located' ∧ located.Fades located' := by
  rw [locate, locate]
  split
  · exact .inl ⟨_, rfl, rfl⟩
  · split
    · exact .inr ⟨_, _, rfl, rfl, .same _⟩
    · exact .inr ⟨_, _, rfl, rfl, locateFrom_fades h followLast maxLinks _ _⟩

theorem linkAt?_without (h : tree.FilesAt gone) (path : Path) :
    (tree.without gone).linkAt? path = tree.linkAt? path := by
  rw [linkAt?, linkAt?]
  rcases locate_fades h false path with ⟨fault, hlocate, hlocate'⟩ |
    ⟨located, located', hlocate, hlocate', hfades⟩
  · rw [hlocate, hlocate']
  · rw [hlocate, hlocate']
    cases hfades <;> rfl

theorem resolve_without (h : tree.FilesAt gone) (path : Path) :
    (tree.without gone).resolve path = tree.resolve path := by
  refine resolve_congr (linkAt?_without h) rfl ?_ path
  intro path
  rcases locate_fades h true path with ⟨fault, hlocate, hlocate'⟩ |
    ⟨located, located', hlocate, hlocate', hfades⟩
  · rw [hlocate, hlocate']
  · rw [hlocate, hlocate']
    cases hfades <;> simp

theorem locate_of_isFolder? (h : tree.isFolder? path = .ok true) :
    ∃ place entries, tree.locate true path = .ok (.found place (.folder entries)) := by
  rw [isFolder?, ask] at h
  split at h
  · rename_i place entry hlocate
    cases entry with
    | file bytes => cases h
    | link target => cases h
    | folder entries => exact ⟨place, entries, hlocate⟩
  · cases h
  · split at h <;> cases h
  · cases h

theorem isFolder?_without (h : tree.FilesAt gone) (hfolder : tree.isFolder? path = .ok true) :
    (tree.without gone).exists? path = .ok true ∧ (tree.without gone).isFolder? path = .ok true := by
  obtain ⟨place, entries, hfound⟩ := locate_of_isFolder? hfolder
  have hkept : ∃ entries', (tree.without gone).locate true path =
      .ok (.found place (.folder entries')) := by
    rcases locate_fades h true path with ⟨fault, hlocate, -⟩ |
      ⟨located, located', hlocate, hlocate', hfades⟩
    · rw [hfound] at hlocate
      cases hlocate
    · rw [hfound] at hlocate
      cases hlocate
      cases hfades with
      | same => exact ⟨entries, hlocate'⟩
      | folder _ _ entries' => exact ⟨entries', hlocate'⟩
  obtain ⟨entries', hkept⟩ := hkept
  rw [exists?, isFolder?, ask, ask, hkept]
  exact ⟨rfl, rfl⟩

end FileTree

end Breadcrumb
