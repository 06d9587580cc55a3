import Breadcrumb.Proofs.FileTree.Descending

namespace Breadcrumb

namespace Entry

/-- What becomes of an entry in a growing tree; `written` says whether files are written there. -/
inductive Grows (written : Prop) : Option Entry → Option Entry → Prop
  | none : Grows written none none
  | file (bytes : Bytes) : Grows written (some (.file bytes)) (some (.file bytes))
  | link (target : Text) : Grows written (some (.link target)) (some (.link target))
  | folder (entries entries' : List (Text × Entry)) :
    Grows written (some (.folder entries)) (some (.folder entries'))
  | newFolder (entries : List (Text × Entry)) : Grows written none (some (.folder entries))
  | newFile (h : written) (bytes : Bytes) : Grows written none (some (.file bytes))
  | rewritten (h : written) (bytes bytes' : Bytes) :
    Grows written (some (.file bytes)) (some (.file bytes'))

variable {written : Prop} {found found' found'' : Option Entry}

theorem grows_of_outline (h : found'.map outline = found.map outline) :
    Grows written found found' := by
  cases fades_of_outline h with
  | none => exact .none
  | file bytes => exact .file bytes
  | link target => exact .link target
  | folder entries entries' => exact .folder entries entries'
  | gone bytes => cases h

theorem Grows.refl (written : Prop) (found : Option Entry) : Grows written found found :=
  grows_of_outline rfl

theorem Grows.mono {more : Prop} (h : Grows written found found') (hmore : written → more) :
    Grows more found found' := by
  cases h with
  | none => exact .none
  | file bytes => exact .file bytes
  | link target => exact .link target
  | folder entries entries' => exact .folder entries entries'
  | newFolder entries => exact .newFolder entries
  | newFile h bytes => exact .newFile (hmore h) bytes
  | rewritten h bytes bytes' => exact .rewritten (hmore h) bytes bytes'

theorem Grows.trans (h : Grows written found found') (h' : Grows written found' found'') :
    Grows written found found'' := by
  cases h with
  | none => exact h'
  | file bytes => exact h'
  | link target => exact h'
  | folder entries entries' =>
    cases h' with
    | folder _ entries'' => exact .folder entries entries''
  | newFolder entries =>
    cases h' with
    | folder _ entries' => exact .newFolder entries'
  | newFile h bytes =>
    cases h' with
    | file => exact .newFile h bytes
    | rewritten _ _ bytes' => exact .newFile h bytes'
  | rewritten h bytes bytes' =>
    cases h' with
    | file => exact .rewritten h bytes bytes'
    | rewritten _ _ bytes'' => exact .rewritten h bytes bytes''

theorem Grows.eq_file_iff (h : Grows written found found') (hwritten : ¬ written) :
    found' = some (.file bytes) ↔ found = some (.file bytes) := by
  cases h with
  | newFile h => exact (hwritten h).elim
  | rewritten h => exact (hwritten h).elim
  | _ => simp

theorem Grows.eq_link_iff (h : Grows written found found') :
    found' = some (.link target) ↔ found = some (.link target) := by
  cases h <;> simp

/-- A place that a file can be written to: a file is there, or nothing, in a folder. -/
inductive Writable : Entry → Place → Prop
  | file (bytes : Bytes) : Writable (.file bytes) []
  | vacant {entries : List (Text × Entry)} {name : Text} : Named.get? entries name = none →
    Writable (.folder entries) [name]
  | inside {entries : List (Text × Entry)} {name : Text} {inner : Entry} {rest : Place} :
    Named.get? entries name = some inner → Writable inner rest →
    Writable (.folder entries) (name :: rest)

theorem writable_of_file {entry : Entry} (h : entry.at? place = some (.file bytes)) :
    entry.Writable place := by
  induction place generalizing entry with
  | nil =>
    cases h
    exact .file bytes
  | cons name place ih =>
    cases entry with
    | file old => cases h
    | link target => cases h
    | folder entries =>
      obtain ⟨inner, hinner, h⟩ := Option.bind_eq_some_iff.1 h
      exact .inside hinner (ih h)

theorem writable_of_vacant {entry : Entry} (h : entry.at? front = some (.folder entries))
    (hfree : Named.get? entries name = none) : entry.Writable (front ++ [name]) := by
  induction front generalizing entry with
  | nil =>
    cases h
    exact .vacant hfree
  | cons first front ih =>
    cases entry with
    | file old => cases h
    | link target => cases h
    | folder others =>
      obtain ⟨inner, hinner, h⟩ := Option.bind_eq_some_iff.1 h
      exact .inside hinner (ih h)

theorem Writable.free_or_file {entry : Entry} (h : entry.Writable place) :
    entry.at? place = none ∨ ∃ bytes, entry.at? place = some (.file bytes) := by
  induction h with
  | file bytes => exact .inr ⟨bytes, rfl⟩
  | vacant hfree =>
    left
    rw [at?, hfree]
    rfl
  | inside hinner _ ih =>
    rw [at?, hinner]
    exact ih

theorem outlineAt?_below {entry : Entry} (h : entry.outline = entry) (name : Text) (rest : Place) :
    entry.outlineAt? (name :: rest) = none := by
  cases entry with
  | file bytes => rfl
  | link target => rfl
  | folder entries =>
    cases h
    rfl

theorem outlineAt?_put {entry new : Entry} (h : entry.Writable place) (hnew : new.outline = new)
    (other : Place) :
    (entry.put place new).outlineAt? other =
      if other = place then some new else entry.outlineAt? other := by
  have hbelow (other : Place) : new.outlineAt? other = if other = [] then some new else none := by
    cases other with
    | nil => exact congrArg some hnew
    | cons name rest => exact outlineAt?_below hnew name rest
  induction h generalizing other with
  | file bytes =>
    unfold put
    rw [hbelow]
    cases other <;> rfl
  | @vacant entries name hfree =>
    have hput : (Entry.folder entries).put [name] new = .folder (Named.set entries name new) := by
      simp only [put]
    rw [hput]
    refine outlineAt?_set ?_ other
    simpa only [hfree, Option.bind_none] using hbelow
  | @inside entries name inner rest hinner _ ih =>
    rw [put, hinner]
    refine outlineAt?_set ?_ other
    simpa only [hinner, Option.bind_some, Option.getD_some] using ih

end Entry

namespace FileTree

/-- A tree that has grown: files were written at some places at most, and folders were added. -/
structure Grows (written : List Place) (tree tree' : FileTree) : Prop where
  current : tree'.current = tree.current
  home : tree'.home = tree.home
  accounts : tree'.accounts = tree.accounts
  entry : ∀ place, Entry.Grows (place ∈ written) (tree.root.at? place) (tree'.root.at? place)

variable {written more : List Place} {tree tree' tree'' : FileTree}

theorem Grows.refl (written : List Place) (tree : FileTree) : Grows written tree tree :=
  ⟨rfl, rfl, rfl, fun _ => .refl _ _⟩

theorem Grows.mono (h : Grows written tree tree') (hmore : written ⊆ more) : Grows more tree tree' :=
  ⟨h.current, h.home, h.accounts, fun place => (h.entry place).mono fun hplace => hmore hplace⟩

theorem Grows.trans (h : Grows written tree tree') (h' : Grows written tree' tree'') :
    Grows written tree tree'' :=
  ⟨h'.current.trans h.current, h'.home.trans h.home, h'.accounts.trans h.accounts,
    fun place => (h.entry place).trans (h'.entry place)⟩

theorem grows_put {new : Entry} (h : tree.root.Writable place) (hnew : new.outline = new)
    (hgrows : Entry.Grows (place ∈ written) (tree.root.at? place) (some new)) :
    Grows written tree { tree with root := tree.root.put place new } := by
  refine ⟨rfl, rfl, rfl, ?_⟩
  intro other
  have houtline := Entry.outlineAt?_put h hnew other
  by_cases hother : other = place
  · subst hother
    rw [if_pos rfl] at houtline
    exact hgrows.trans (Entry.grows_of_outline (houtline.trans (congrArg some hnew.symm)))
  · rw [if_neg hother] at houtline
    exact Entry.grows_of_outline houtline

theorem grows_putFile (h : tree.root.Writable place) (hplace : place ∈ written) (bytes : Bytes) :
    Grows written tree (tree.putFile place bytes) := by
  refine grows_put h rfl ?_
  rcases h.free_or_file with hfree | ⟨old, hfile⟩
  · rw [hfree]
    exact .newFile hplace bytes
  · rw [hfile]
    exact .rewritten hplace old bytes

/-- What becomes of the end of a path in a growing tree. Where a folder was missed, the path may lead
anywhere. -/
inductive Located.Grows (written : List Place) : Located → Located → Prop
  | found (place : Place) (entry entry' : Entry) :
    Entry.Grows (place ∈ written) (some entry) (some entry') →
    Grows written (.found place entry) (.found place entry')
  | vacant (place : Place) : Grows written (.vacant place) (.vacant place)
  | taken (place : Place) (entry : Entry) : Entry.Grows (place ∈ written) none (some entry) →
    Grows written (.vacant place) (.found place entry)
  | missing (located : Located) : Grows written (.fault .missing) located
  | fault (errno : Errno) : Grows written (.fault errno) (.fault errno)

inductive Descent.Grows (written : List Place) : Descent → Descent → Prop
  | done {located located' : Located} :
    located.Grows written located' → Grows written (.done located) (.done located')
  | link (folder : Place) (target : Text) (rest : List Text) :
    Grows written (.link folder target rest) (.link folder target rest)
  | missing (descent : Descent) : Grows written (.done (.fault .missing)) descent

theorem Grows.exists_folder (h : Grows written tree tree')
    (hfolder : tree.root.at? place = some (.folder entries)) :
    ∃ entries', tree'.root.at? place = some (.folder entries') := by
  have hplace := h.entry place
  rw [hfolder] at hplace
  generalize tree'.root.at? place = found' at hplace ⊢
  cases hplace with
  | folder _ entries' => exact ⟨entries', rfl⟩

theorem Grows.exists_file (h : Grows written tree tree')
    (hfile : tree.root.at? place = some (.file bytes)) :
    ∃ bytes', tree'.root.at? place = some (.file bytes') := by
  have hplace := h.entry place
  rw [hfile] at hplace
  generalize tree'.root.at? place = found' at hplace ⊢
  cases hplace with
  | file => exact ⟨bytes, rfl⟩
  | rewritten _ _ bytes' => exact ⟨bytes', rfl⟩

theorem Grows.leadsDown (h : Grows written tree tree') (hdown : LeadsDown tree place name) :
    LeadsDown tree' place name := by
  obtain ⟨⟨entries, hfolder⟩, hdot, hdots, hshort⟩ := hdown
  exact ⟨h.exists_folder hfolder, hdot, hdots, hshort⟩

theorem Grows.descends (h : Grows written tree tree')
    (hdescends : Descends tree followLast place names descent) :
    ∃ descent', Descends tree' followLast place names descent' ∧ descent.Grows written descent' := by
  induction hdescends with
  | @found place entry hat =>
    have hplace := h.entry place
    rw [hat] at hplace
    cases hat' : tree'.root.at? place with
    | none =>
      rw [hat'] at hplace
      cases hplace
    | some entry' =>
      rw [hat'] at hplace
      exact ⟨_, .found hat', .done (.found _ _ _ hplace)⟩
  | lost _ => exact ⟨_, FileTree.descends _ _ _ _, .missing _⟩
  | @blocked place entry name rest hat hentry =>
    have hplace := h.entry place
    rw [hat] at hplace
    cases hat' : tree'.root.at? place with
    | none =>
      rw [hat'] at hplace
      cases hplace
    | some entry' =>
      rw [hat'] at hplace
      refine ⟨_, .blocked hat' ?_, .done (.fault _)⟩
      rintro entries' rfl
      cases hplace with
      | folder entries => exact hentry entries rfl
  | stay hat _ ih =>
    obtain ⟨entries', hat'⟩ := h.exists_folder hat
    obtain ⟨descent', hdescends', hgrows⟩ := ih
    exact ⟨descent', .stay hat' hdescends', hgrows⟩
  | rise hat _ ih =>
    obtain ⟨entries', hat'⟩ := h.exists_folder hat
    obtain ⟨descent', hdescends', hgrows⟩ := ih
    exact ⟨descent', .rise hat' hdescends', hgrows⟩
  | tooLong hat hdot hdots hsize =>
    obtain ⟨entries', hat'⟩ := h.exists_folder hat
    exact ⟨_, .tooLong hat' hdot hdots hsize, .done (.fault _)⟩
  | @vacant place name hdown hchild =>
    have hplace := h.entry (place ++ [name])
    rw [hchild] at hplace
    cases hat' : tree'.root.at? (place ++ [name]) with
    | none => exact ⟨_, .vacant (h.leadsDown hdown) hat', .done (.vacant _)⟩
    | some entry' =>
      rw [hat'] at hplace
      refine ⟨_, .enter (h.leadsDown hdown) hat' ?_ (.found hat'), .done (.taken _ _ hplace)⟩
      rintro target rfl
      cases hplace
  | missing _ _ _ => exact ⟨_, FileTree.descends _ _ _ _, .missing _⟩
  | @link place name target hdown hchild hfollow =>
    have hchild' := (h.entry (place ++ [name])).eq_link_iff.2 hchild
    exact ⟨_, .link (h.leadsDown hdown) hchild' hfollow, .done (.found _ _ _ (.link target))⟩
  | @follow place name target rest hdown hchild hrest =>
    have hchild' := (h.entry (place ++ [name])).eq_link_iff.2 hchild
    exact ⟨_, .follow (h.leadsDown hdown) hchild' hrest, .link _ _ _⟩
  | @enter place name entry rest descent hdown hchild hentry _ ih =>
    obtain ⟨descent', hdescends', hgrows⟩ := ih
    have hplace := h.entry (place ++ [name])
    rw [hchild] at hplace
    cases hat' : tree'.root.at? (place ++ [name]) with
    | none =>
      rw [hat'] at hplace
      cases hplace
    | some entry' =>
      rw [hat'] at hplace
      refine ⟨descent', .enter (h.leadsDown hdown) hat' ?_ hdescends', hgrows⟩
      rintro target rfl
      cases hplace with
      | link => exact hentry target rfl

theorem Grows.reaches (h : Grows written tree tree')
    (hreaches : Reaches tree followLast links place names located) :
    ∃ located', Reaches tree' followLast links place names located' ∧
      located.Grows written located' := by
  induction hreaches with
  | done hdescends =>
    obtain ⟨descent', hdescends', hgrows⟩ := h.descends hdescends
    cases hgrows with
    | done hlocated => exact ⟨_, .done hdescends', hlocated⟩
    | missing _ => exact ⟨_, FileTree.reaches _ _ _ _ _, .missing _⟩
  | follow hdescends _ ih =>
    obtain ⟨descent', hdescends', hgrows⟩ := h.descends hdescends
    obtain ⟨located', hreaches', hlocated⟩ := ih
    cases hgrows with
    | link => exact ⟨located', .follow hdescends' hreaches', hlocated⟩
  | tooMany hdescends =>
    obtain ⟨descent', hdescends', hgrows⟩ := h.descends hdescends
    cases hgrows with
    | link => exact ⟨_, .tooMany hdescends', .fault _⟩

theorem Grows.start (h : Grows written tree tree') (path : Path) :
    tree'.start path = tree.start path := by
  rw [FileTree.start, FileTree.start, h.current]

theorem Grows.expandHome (h : Grows written tree tree') (path : Path) :
    tree'.expandHome path = tree.expandHome path := by
  rw [FileTree.expandHome, FileTree.expandHome, h.home, h.accounts]

theorem Grows.locate (h : Grows written tree tree') (followLast : Bool) (path : Path) :
    tree'.locate followLast path = tree.locate followLast path ∨
      ∃ located located', tree.locate followLast path = .ok located ∧
        tree'.locate followLast path = .ok located' ∧ located.Grows written located' := by
  rcases locate_cases tree followLast path with ⟨husable, located, hlocate, hreaches⟩ |
    ⟨answer, -, hlocate⟩
  · obtain ⟨located', hreaches', hgrows⟩ := h.reaches hreaches
    rw [← h.start] at hreaches'
    exact .inr ⟨located, located', hlocate, husable.locate_eq hreaches', hgrows⟩
  · exact .inl ((hlocate tree' followLast).trans (hlocate tree followLast).symm)

theorem Grows.locate_found (h : Grows written tree tree')
    (hlocate : tree.locate followLast path = .ok (.found place old)) :
    ∃ new, tree'.locate followLast path = .ok (.found place new) ∧
      Entry.Grows (place ∈ written) (some old) (some new) := by
  rcases h.locate followLast path with hsame | ⟨located, located', hlocated, hlocate', hgrows⟩
  · exact ⟨old, hsame.trans hlocate, .refl _ _⟩
  · rw [hlocate] at hlocated
    cases hlocated
    cases hgrows with
    | found _ _ new hentry => exact ⟨new, hlocate', hentry⟩

theorem Grows.isFolder? (h : Grows written tree tree') (hfolder : tree.isFolder? path = .ok true) :
    tree'.isFolder? path = .ok true := by
  obtain ⟨place, entries, hlocate⟩ := locate_of_isFolder? hfolder
  obtain ⟨entry', hlocate', hgrows⟩ := h.locate_found hlocate
  cases hgrows with
  | folder _ entries' => rw [FileTree.isFolder?, ask, hlocate']

/-- Two trees with the same entries, but for the bytes of the files that are written to. -/
structure Matches (written : List Place) (tree tree' : FileTree) : Prop where
  forth : Grows written tree tree'
  back : Grows written tree' tree

theorem Matches.refl (written : List Place) (tree : FileTree) : Matches written tree tree :=
  ⟨.refl _ _, .refl _ _⟩

theorem Matches.symm (h : Matches written tree tree') : Matches written tree' tree :=
  ⟨h.back, h.forth⟩

theorem Matches.trans (h : Matches written tree tree') (h' : Matches written tree' tree'') :
    Matches written tree tree'' :=
  ⟨h.forth.trans h'.forth, h'.back.trans h.back⟩

theorem Matches.outlineAt?_eq (h : Matches written tree tree') (hplace : place ∉ written) :
    tree'.root.outlineAt? place = tree.root.outlineAt? place := by
  have hforth := h.forth.entry place
  have hback := h.back.entry place
  rw [Entry.outlineAt?, Entry.outlineAt?]
  generalize tree.root.at? place = found at hforth hback ⊢
  generalize tree'.root.at? place = found' at hforth hback ⊢
  cases hforth with
  | newFolder entries => cases hback
  | newFile hwritten => exact (hplace hwritten).elim
  | rewritten hwritten => exact (hplace hwritten).elim
  | _ => rfl

theorem matches_putFile (h : tree.root.at? place = some (.file old)) (hplace : place ∈ written)
    (bytes : Bytes) : Matches written tree (tree.putFile place bytes) := by
  have hgrows := grows_putFile (Entry.writable_of_file h) hplace bytes
  refine ⟨hgrows, rfl, rfl, rfl, ?_⟩
  intro other
  have hwritable := Entry.writable_of_file h
  have houtline := Entry.outlineAt?_put hwritable (rfl : (Entry.file bytes).outline = _) other
  by_cases hother : other = place
  · subst hother
    rw [if_pos rfl] at houtline
    rw [h, putFile, Entry.outlineAt?_eq_file.1 houtline]
    exact .rewritten hplace bytes old
  · rw [if_neg hother] at houtline
    exact Entry.grows_of_outline houtline.symm

theorem Grows.put {new : Entry} (h : Grows written tree tree') (hwritable : tree.root.Writable place)
    (hwritable' : tree'.root.Writable place) (hnew : new.outline = new) :
    Grows written { tree with root := tree.root.put place new }
      { tree' with root := tree'.root.put place new } := by
  refine ⟨h.current, h.home, h.accounts, ?_⟩
  intro other
  have houtline := Entry.outlineAt?_put hwritable hnew other
  have houtline' := Entry.outlineAt?_put hwritable' hnew other
  by_cases hother : other = place
  · rw [if_pos hother] at houtline houtline'
    exact Entry.grows_of_outline (houtline'.trans houtline.symm)
  · rw [if_neg hother] at houtline houtline'
    exact (Entry.grows_of_outline houtline.symm).trans
      ((h.entry other).trans (Entry.grows_of_outline houtline'))

theorem Matches.put {new : Entry} (h : Matches written tree tree')
    (hwritable : tree.root.Writable place) (hwritable' : tree'.root.Writable place)
    (hnew : new.outline = new) :
    Matches written { tree with root := tree.root.put place new }
      { tree' with root := tree'.root.put place new } :=
  ⟨h.forth.put hwritable hwritable' hnew, h.back.put hwritable' hwritable hnew⟩

/-- The same answer where a path leads, but for what is in a folder there or in a file that is
written to. -/
inductive SameAnswer (written : List Place) :
    Except FileFault Located → Except FileFault Located → Prop
  | same (answer : Except FileFault Located) : SameAnswer written answer answer
  | folder (place : Place) (entries entries' : List (Text × Entry)) :
    SameAnswer written (.ok (.found place (.folder entries))) (.ok (.found place (.folder entries')))
  | file (place : Place) (bytes bytes' : Bytes) : place ∈ written →
    SameAnswer written (.ok (.found place (.file bytes))) (.ok (.found place (.file bytes')))

theorem Located.Grows.sameAnswer (h : Located.Grows written located located')
    (h' : Located.Grows written located' located) :
    SameAnswer written (.ok located) (.ok located') := by
  cases h with
  | found place entry entry' hentry =>
    cases hentry with
    | file bytes => exact .same _
    | link target => exact .same _
    | folder entries entries' => exact .folder place entries entries'
    | rewritten hplace bytes bytes' => exact .file place bytes bytes' hplace
  | vacant place => exact .same _
  | taken place entry hentry => cases h'
  | missing located => cases h' <;> exact .same _
  | fault errno => exact .same _

theorem Matches.locate (h : Matches written tree tree') (followLast : Bool) (path : Path) :
    SameAnswer written (tree.locate followLast path) (tree'.locate followLast path) := by
  rcases h.forth.locate followLast path with hsame | ⟨located, located', hlocate, hlocate', hgrows⟩
  · rw [hsame]
    exact .same _
  rcases h.back.locate followLast path with hsame | ⟨back', back, hback', hback, hshrinks⟩
  · rw [hsame]
    exact .same _
  rw [hlocate'] at hback'
  rw [hlocate] at hback
  cases hback'
  cases hback
  rw [hlocate, hlocate']
  exact hgrows.sameAnswer hshrinks

theorem Matches.linkAt? (h : Matches written tree tree') (path : Path) :
    tree'.linkAt? path = tree.linkAt? path := by
  have hlocate := h.locate false path
  rw [FileTree.linkAt?, FileTree.linkAt?]
  generalize tree.locate false path = answer at hlocate ⊢
  generalize tree'.locate false path = answer' at hlocate ⊢
  cases hlocate <;> rfl

theorem Matches.resolve (h : Matches written tree tree') (path : Path) :
    tree'.resolve path = tree.resolve path := by
  refine resolve_congr h.linkAt? h.forth.current ?_ path
  intro path
  have hlocate := h.locate true path
  generalize tree.locate true path = answer at hlocate ⊢
  generalize tree'.locate true path = answer' at hlocate ⊢
  cases hlocate <;> simp

end FileTree

end Breadcrumb
