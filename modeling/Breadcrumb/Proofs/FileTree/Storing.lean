import Breadcrumb.Proofs.FileTree.Growth
import Breadcrumb.Proofs.Text.Joining

namespace Breadcrumb.FileTree

variable {tree tree' : FileTree} {written : List Place}

theorem writable_of_locate_vacant (h : tree.locate followLast path = .ok (.vacant free)) :
    tree.root.Writable free ∧ tree.root.at? free = none := by
  obtain ⟨-, hreaches⟩ := of_locate_vacant h
  obtain ⟨folder, name, rfl, hdown, hfree⟩ := hreaches.vacant_at
  obtain ⟨entries, hfolder⟩ := hdown.folder
  refine ⟨Entry.writable_of_vacant hfolder ?_, hfree⟩
  rw [← at?_child hfolder]
  exact hfree

theorem at?_of_locate_found (h : tree.locate followLast path = .ok (.found place entry)) :
    tree.root.at? place = some entry := by
  obtain ⟨-, hreaches⟩ := of_locate_found h
  exact hreaches.at?

theorem locate_following (h : tree.locate false path = .ok located)
    (hlink : ∀ place target, located ≠ .found place (.link target)) :
    tree.locate true path = .ok located := by
  rcases locate_cases tree false path with ⟨husable, other, hlocate, hreaches⟩ |
    ⟨answer, -, hlocate⟩
  · rw [h] at hlocate
    cases hlocate
    rcases hreaches.following with ⟨place, target, hfound⟩ | hreaches
    · exact (hlink place target hfound).elim
    · exact husable.locate_eq hreaches
  · exact (hlocate tree true).trans ((hlocate tree false).symm.trans h)

theorem outlineAt?_put_self {new : Entry} (h : tree.root.Writable place) (hnew : new.outline = new) :
    (tree.root.put place new).outlineAt? place = some new := by
  rw [Entry.outlineAt?_put h hnew, if_pos rfl]

theorem locate_put {new : Entry} (h : tree.locate followLast path = .ok (.vacant free))
    (hnew : new.outline = new)
    (hgrows : Grows written tree { tree with root := tree.root.put free new }) :
    ∃ entry, FileTree.locate { tree with root := tree.root.put free new } followLast path =
      .ok (.found free entry) ∧ entry.outline = new := by
  obtain ⟨hwritable, -⟩ := writable_of_locate_vacant h
  have hput := outlineAt?_put_self hwritable hnew
  rcases hgrows.locate followLast path with hsame | ⟨located, located', hlocate, hlocate', hlocated⟩
  · rw [h] at hsame
    obtain ⟨-, hfree⟩ := writable_of_locate_vacant hsame
    rw [Entry.outlineAt?, hfree] at hput
    cases hput
  · rw [h] at hlocate
    cases hlocate
    cases hlocated with
    | vacant =>
      obtain ⟨-, hfree⟩ := writable_of_locate_vacant hlocate'
      rw [Entry.outlineAt?, hfree] at hput
      cases hput
    | taken _ entry _ =>
      rw [Entry.outlineAt?, at?_of_locate_found hlocate', Option.map_some] at hput
      exact ⟨entry, hlocate', Option.some.inj hput⟩

theorem isFolder?_of_locate (h : tree.locate true path = .ok (.found place (.folder entries))) :
    tree.isFolder? path = .ok true := by
  rw [isFolder?, ask, h]

theorem locate_of_read (h : tree.read path = .ok bytes) :
    ∃ place, tree.locate true path = .ok (.found place (.file bytes)) := by
  rw [read] at h
  split at h
  · rename_i place old hlocate
    cases h
    exact ⟨place, hlocate⟩
  · cases h
  · cases h
  · cases h
  · cases h

theorem exists?_of_read (h : tree.read path = .ok bytes) : tree.exists? path = .ok true := by
  obtain ⟨place, hlocate⟩ := locate_of_read h
  rw [exists?, ask, hlocate]

theorem of_makeFolder (h : tree.makeFolder path = .ok tree') :
    Grows [] tree tree' ∧ tree'.isFolder? path = .ok true := by
  rw [makeFolder] at h
  split at h
  · rename_i free hlocate
    cases h
    obtain ⟨hwritable, hfree⟩ := writable_of_locate_vacant hlocate
    have hgrows : Grows [] tree { tree with root := tree.root.put free (.folder []) } := by
      apply grows_put hwritable rfl
      rw [hfree]
      exact .newFolder []
    obtain ⟨entry, hfound, houtline⟩ := locate_put hlocate rfl hgrows
    refine ⟨hgrows, ?_⟩
    cases entry with
    | file bytes => cases houtline
    | link target => cases houtline
    | folder entries => exact isFolder?_of_locate (locate_following hfound nofun)
  · cases h
  · cases h
  · cases h

theorem isFolder?_of_excuse (h : tree.excuse path fault = none) : tree.isFolder? path = .ok true := by
  cases fault with
  | refused errno text =>
    rw [excuse] at h
    split at h
    · assumption
    · cases h
    · cases h
  | nullInPath => cases h
  | linkLoop text => cases h
  | homeUnknown => cases h

/-- A folder that is asked for is made, is there, or the tree stays as it is. -/
theorem ensureFolder_grows (tree : FileTree) (path : Path) :
    Grows [] tree (tree.ensureFolder path).1 ∧
      ((tree.ensureFolder path).2 = none → (tree.ensureFolder path).1.isFolder? path = .ok true) := by
  rw [ensureFolder]
  split
  · rename_i tree' hmade
    obtain ⟨hgrows, hfolder⟩ := of_makeFolder hmade
    exact ⟨hgrows, fun _ => hfolder⟩
  · exact ⟨.refl _ _, fun hnone => nomatch hnone⟩
  · exact ⟨.refl _ _, isFolder?_of_excuse⟩

theorem ensureFoldersFrom_of_missing
    (h : (tree.ensureFolder path).2 = some (.refused .missing text)) :
    tree.ensureFoldersFrom (depth + 1) path =
      match (tree.ensureFoldersFrom depth path.parent).2 with
      | none => (tree.ensureFoldersFrom depth path.parent).1.ensureFolder path
      | some _ => tree.ensureFoldersFrom depth path.parent := by
  rw [ensureFoldersFrom]
  generalize tree.ensureFolder path = first at h ⊢
  obtain ⟨made, fault?⟩ := first
  cases h
  generalize tree.ensureFoldersFrom depth path.parent = above
  obtain ⟨tree', fault?⟩ := above
  cases fault? <;> rfl

theorem ensureFoldersFrom_of_not_missing
    (h : ¬ ∃ text, (tree.ensureFolder path).2 = some (.refused .missing text)) :
    tree.ensureFoldersFrom (depth + 1) path = tree.ensureFolder path := by
  rw [ensureFoldersFrom]
  split
  · rename_i hmissing
    exact (h ⟨_, by rw [hmissing]⟩).elim
  · rfl

theorem ensureFoldersFrom_grows (tree : FileTree) (depth : Nat) (path : Path) :
    Grows [] tree (tree.ensureFoldersFrom depth path).1 ∧
      ((tree.ensureFoldersFrom depth path).2 = none →
        (tree.ensureFoldersFrom depth path).1.isFolder? path = .ok true) := by
  induction depth generalizing path with
  | zero => exact ensureFolder_grows tree path
  | succ depth ih =>
    by_cases hmissing : ∃ text, (tree.ensureFolder path).2 = some (.refused .missing text)
    · obtain ⟨text, hmissing⟩ := hmissing
      obtain ⟨hparent, -⟩ := ih path.parent
      rw [ensureFoldersFrom_of_missing hmissing]
      cases hnone : (tree.ensureFoldersFrom depth path.parent).2 with
      | none =>
        obtain ⟨hgrows, hfolder⟩ :=
          ensureFolder_grows (tree.ensureFoldersFrom depth path.parent).1 path
        exact ⟨hparent.trans hgrows, hfolder⟩
      | some fault => exact ⟨hparent, fun hdone => nomatch hnone.symm.trans hdone⟩
    · rw [ensureFoldersFrom_of_not_missing hmissing]
      exact ensureFolder_grows tree path

theorem ensureFolders_grows (tree : FileTree) (path : Path) :
    Grows [] tree (tree.ensureFolders path).1 ∧
      ((tree.ensureFolders path).2 = none →
        (tree.ensureFolders path).1.isFolder? path = .ok true) :=
  ensureFoldersFrom_grows tree path.names.length path

/-- A file that is written is what its path leads to, and no other place is touched. -/
theorem of_write (h : tree.write path bytes = .ok tree') :
    ∃ place, Grows [place] tree tree' ∧
      tree'.locate true path = .ok (.found place (.file bytes)) := by
  have hfile {place : Place} {entry : Entry} (hwritable : tree.root.Writable place)
      (hlocate : (tree.putFile place bytes).locate true path = .ok (.found place entry)) :
      entry = .file bytes := by
    have hput := outlineAt?_put_self hwritable (rfl : (Entry.file bytes).outline = _)
    rw [Entry.outlineAt?_eq_file] at hput
    exact Option.some.inj ((at?_of_locate_found hlocate).symm.trans hput)
  rw [write, openFile] at h
  split at h
  · rename_i place old hlocate
    cases h
    have hwritable := Entry.writable_of_file (at?_of_locate_found hlocate)
    have hgrows := grows_putFile hwritable (List.mem_singleton_self place) bytes
    obtain ⟨entry, hlocate', -⟩ := hgrows.locate_found hlocate
    exact ⟨place, hgrows, hfile hwritable hlocate' ▸ hlocate'⟩
  · cases h
  · rename_i place hlocate
    cases h
    obtain ⟨hwritable, -⟩ := writable_of_locate_vacant hlocate
    have hgrows := grows_putFile hwritable (List.mem_singleton_self place) bytes
    obtain ⟨entry, hlocate', -⟩ := locate_put hlocate rfl hgrows
    exact ⟨place, hgrows, hfile hwritable hlocate' ▸ hlocate'⟩
  · cases h
  · cases h

theorem ensureFolder_of_isFolder? (h : tree.isFolder? path = .ok true) :
    tree.ensureFolder path = (tree, none) := by
  obtain ⟨place, entries, hlocate⟩ := locate_of_isFolder? h
  obtain ⟨husable, -⟩ := of_locate_found hlocate
  have hexcuse (errno : Errno) (text : Text) : tree.excuse path (.refused errno text) = none := by
    rw [excuse, h]
  -- The path leads to the folder or to a link to it; nothing else would do if the link is followed.
  have htaken : tree.makeFolder path = .error (.refused .taken path.toText) := by
    rw [makeFolder]
    cases hfalse : tree.locate false path with
    | error fault =>
      rw [husable.locate] at hfalse
      cases hfalse
    | ok located =>
      cases located with
      | found place entry => rfl
      | vacant free =>
        have htrue := locate_following hfalse nofun
        rw [hlocate] at htrue
        cases htrue
      | fault errno =>
        have htrue := locate_following hfalse nofun
        rw [hlocate] at htrue
        cases htrue
  rw [ensureFolder, htaken]
  simp only [hexcuse]

theorem ensureFolders_of_isFolder? (h : tree.isFolder? path = .ok true) :
    tree.ensureFolders path = (tree, none) := by
  rw [ensureFolders]
  cases path.names.length with
  | zero => exact ensureFolder_of_isFolder? h
  | succ depth => rw [ensureFoldersFrom, ensureFolder_of_isFolder? h]

theorem write_of_file (h : tree.locate true path = .ok (.found place (.file old))) (bytes : Bytes) :
    tree.write path bytes = .ok (tree.putFile place bytes) := by
  rw [write, openFile, h]
  rfl

inductive SameAttempt (written : List Place) :
    Except FileFault FileTree → Except FileFault FileTree → Prop
  | ok (tree tree' : FileTree) : Matches written tree tree' →
    SameAttempt written (.ok tree) (.ok tree')
  | error (fault : FileFault) : SameAttempt written (.error fault) (.error fault)

theorem Matches.makeFolder (h : Matches written tree tree') (path : Path) :
    SameAttempt written (tree.makeFolder path) (tree'.makeFolder path) := by
  have hsame := h.locate false path
  rw [FileTree.makeFolder, FileTree.makeFolder]
  generalize hlocate : tree.locate false path = answer at hsame ⊢
  generalize hlocate' : tree'.locate false path = answer' at hsame ⊢
  cases hsame with
  | folder place entries entries' => exact .error _
  | file place bytes bytes' _ => exact .error _
  | same =>
    cases answer with
    | error fault => exact .error fault
    | ok located =>
      cases located with
      | found place entry => exact .error _
      | fault errno => exact .error _
      | vacant free =>
        obtain ⟨hwritable, -⟩ := writable_of_locate_vacant hlocate
        obtain ⟨hwritable', -⟩ := writable_of_locate_vacant hlocate'
        exact .ok _ _ (h.put hwritable hwritable' rfl)

/-- A question that is the same for all files, and for all folders, has the same answer. -/
theorem Matches.ask (h : Matches written tree tree') {question : Entry → Bool}
    (hfile : ∀ bytes bytes', question (.file bytes') = question (.file bytes))
    (hfolder : ∀ entries entries', question (.folder entries') = question (.folder entries))
    (path : Path) : tree'.ask question path = tree.ask question path := by
  have hsame := h.locate true path
  rw [FileTree.ask, FileTree.ask]
  generalize tree.locate true path = answer at hsame ⊢
  generalize tree'.locate true path = answer' at hsame ⊢
  cases hsame with
  | same => rfl
  | folder place entries entries' => exact congrArg Except.ok (hfolder entries entries')
  | file place bytes bytes' _ => exact congrArg Except.ok (hfile bytes bytes')

theorem Matches.exists? (h : Matches written tree tree') (path : Path) :
    tree'.exists? path = tree.exists? path :=
  h.ask (fun _ _ => rfl) (fun _ _ => rfl) path

theorem Matches.isFolder? (h : Matches written tree tree') (path : Path) :
    tree'.isFolder? path = tree.isFolder? path :=
  h.ask (fun _ _ => rfl) (fun _ _ => rfl) path

/-- Only whether a folder is there excuses a fault. -/
theorem excuse_congr (h : tree'.isFolder? path = tree.isFolder? path) (fault : FileFault) :
    tree'.excuse path fault = tree.excuse path fault := by
  cases fault with
  | refused errno text => rw [FileTree.excuse, FileTree.excuse, h]
  | nullInPath => rfl
  | linkLoop text => rfl
  | homeUnknown => rfl

theorem ensureFolder_of_fault (hfolder : tree'.isFolder? path = tree.isFolder? path)
    (h : tree.makeFolder path = .error fault) (h' : tree'.makeFolder path = .error fault) :
    (tree.ensureFolder path).1 = tree ∧ (tree'.ensureFolder path).1 = tree' ∧
      (tree'.ensureFolder path).2 = (tree.ensureFolder path).2 := by
  rw [FileTree.ensureFolder, FileTree.ensureFolder, h, h']
  simp only [excuse_congr hfolder]
  split
  · rename_i hmade
    cases hmade
  · exact ⟨rfl, rfl, rfl⟩
  · exact ⟨rfl, rfl, rfl⟩

theorem Matches.ensureFolder (h : Matches written tree tree') (path : Path) :
    Matches written (tree.ensureFolder path).1 (tree'.ensureFolder path).1 ∧
      (tree'.ensureFolder path).2 = (tree.ensureFolder path).2 := by
  have hmade := h.makeFolder path
  generalize hattempt : tree.makeFolder path = attempt at hmade
  generalize hattempt' : tree'.makeFolder path = attempt' at hmade
  cases hmade with
  | ok made made' hmatches =>
    rw [FileTree.ensureFolder, FileTree.ensureFolder, hattempt, hattempt']
    exact ⟨hmatches, rfl⟩
  | error fault =>
    obtain ⟨hkept, hkept', hfault⟩ := ensureFolder_of_fault (h.isFolder? path) hattempt hattempt'
    rw [hkept, hkept']
    exact ⟨h, hfault⟩

theorem Matches.ensureFoldersFrom (h : Matches written tree tree') (depth : Nat) (path : Path) :
    Matches written (tree.ensureFoldersFrom depth path).1 (tree'.ensureFoldersFrom depth path).1 ∧
      (tree'.ensureFoldersFrom depth path).2 = (tree.ensureFoldersFrom depth path).2 := by
  induction depth generalizing path with
  | zero => exact h.ensureFolder path
  | succ depth ih =>
    obtain ⟨hfirst, hfault⟩ := h.ensureFolder path
    by_cases hmissing : ∃ text, (tree.ensureFolder path).2 = some (.refused .missing text)
    · obtain ⟨text, hmissing⟩ := hmissing
      obtain ⟨hparent, hparentFault⟩ := ih path.parent
      rw [ensureFoldersFrom_of_missing hmissing, ensureFoldersFrom_of_missing (hfault.trans hmissing)]
      cases hnone : (tree.ensureFoldersFrom depth path.parent).2 with
      | none =>
        simp only [hparentFault.trans hnone]
        exact hparent.ensureFolder path
      | some fault =>
        simp only [hparentFault.trans hnone]
        exact ⟨hparent, hnone.symm⟩
    · have hmissing' : ¬ ∃ text, (tree'.ensureFolder path).2 = some (.refused .missing text) := by
        rwa [hfault]
      rw [ensureFoldersFrom_of_not_missing hmissing, ensureFoldersFrom_of_not_missing hmissing']
      exact ⟨hfirst, hfault⟩

theorem Matches.ensureFolders (h : Matches written tree tree') (path : Path) :
    Matches written (tree.ensureFolders path).1 (tree'.ensureFolders path).1 ∧
      (tree'.ensureFolders path).2 = (tree.ensureFolders path).2 :=
  h.ensureFoldersFrom path.names.length path

theorem Matches.write (h : Matches written tree tree') (path : Path) (bytes : Bytes) :
    SameAttempt written (tree.write path bytes) (tree'.write path bytes) := by
  have hput {place : Place} (hwritable : tree.root.Writable place)
      (hwritable' : tree'.root.Writable place) :
      SameAttempt written (.ok (tree.putFile place bytes)) (.ok (tree'.putFile place bytes)) :=
    .ok _ _ (h.put hwritable hwritable' rfl)
  have hsame := h.locate true path
  rw [FileTree.write, FileTree.write, openFile, openFile]
  generalize hlocate : tree.locate true path = answer at hsame ⊢
  generalize hlocate' : tree'.locate true path = answer' at hsame ⊢
  cases hsame with
  | folder place entries entries' => exact .error _
  | file place old old' _ =>
    exact hput (Entry.writable_of_file (at?_of_locate_found hlocate))
      (Entry.writable_of_file (at?_of_locate_found hlocate'))
  | same =>
    cases answer with
    | error fault => exact .error fault
    | ok located =>
      cases located with
      | fault errno => exact .error _
      | vacant free =>
        obtain ⟨hwritable, -⟩ := writable_of_locate_vacant hlocate
        obtain ⟨hwritable', -⟩ := writable_of_locate_vacant hlocate'
        exact hput hwritable hwritable'
      | found place entry =>
        cases entry with
        | file old =>
          exact hput (Entry.writable_of_file (at?_of_locate_found hlocate))
            (Entry.writable_of_file (at?_of_locate_found hlocate'))
        | link target => exact .error _
        | folder entries => exact .error _

theorem isName_of_mem_targetNames (h : name ∈ targetNames target) : Entry.IsName name := by
  rcases List.mem_append.1 h with h | h
  · obtain ⟨hmem, hne⟩ := List.mem_filter.1 h
    refine ⟨?_, Text.notMem_of_mem_split hmem⟩
    rintro rfl
    cases hne
  · split at h
    · obtain rfl := List.mem_singleton.1 h
      decide
    · cases h

/-- A place that is free is spelled by names that entries can have. -/
theorem Reaches.isName_of_vacant (h : Reaches tree followLast links place names (.vacant free))
    (hproper : tree.root.Proper) (hnames : ∀ name ∈ names, Entry.IsName name) :
    ∀ name ∈ free, Entry.IsName name := by
  generalize hvacant : Located.vacant free = located at h
  induction h with
  | done hdescends =>
    subst hvacant
    obtain ⟨folder, name, rfl, hdown, -⟩ := hdescends.vacant_at
    obtain ⟨entries, hfolder⟩ := hdown.folder
    refine List.forall_mem_append.2 ⟨hproper.isName_of_at? hfolder, ?_⟩
    refine List.forall_mem_singleton.2 (hnames name (hdescends.vacant_name name ?_))
    rw [List.getLast?_concat]
    rfl
  | follow hdescends _ ih =>
    refine ih (List.forall_mem_append.2 ⟨fun _ => isName_of_mem_targetNames, ?_⟩) hvacant
    exact fun name hname => hnames name (hdescends.rest_subset hname)
  | tooMany _ => cases hvacant

theorem isName_of_locate_vacant (hproper : tree.root.Proper)
    (hnames : ∀ name ∈ path.names, Entry.IsName name)
    (h : tree.locate followLast path = .ok (.vacant free)) : ∀ name ∈ free, Entry.IsName name := by
  obtain ⟨-, hreaches⟩ := of_locate_vacant h
  exact hreaches.isName_of_vacant hproper hnames

theorem proper_ensureFolder (hproper : tree.root.Proper)
    (hnames : ∀ name ∈ path.names, Entry.IsName name) : (tree.ensureFolder path).1.root.Proper := by
  rw [ensureFolder]
  split
  · rename_i tree' hmade
    rw [makeFolder] at hmade
    split at hmade
    · rename_i free hlocate
      cases hmade
      have hempty : (Entry.folder []).Proper := .folder .nil (by simp) (by simp)
      exact hproper.put hempty (isName_of_locate_vacant hproper hnames hlocate)
    · cases hmade
    · cases hmade
    · cases hmade
  · exact hproper
  · exact hproper

theorem proper_ensureFoldersFrom (hproper : tree.root.Proper)
    (hnames : ∀ name ∈ path.names, Entry.IsName name) (depth : Nat) :
    (tree.ensureFoldersFrom depth path).1.root.Proper := by
  induction depth generalizing path with
  | zero => exact proper_ensureFolder hproper hnames
  | succ depth ih =>
    by_cases hmissing : ∃ text, (tree.ensureFolder path).2 = some (.refused .missing text)
    · obtain ⟨text, hmissing⟩ := hmissing
      have hparent : (tree.ensureFoldersFrom depth path.parent).1.root.Proper :=
        ih fun name hname => hnames name ((List.dropLast_sublist _).mem hname)
      rw [ensureFoldersFrom_of_missing hmissing]
      split
      · exact proper_ensureFolder hparent hnames
      · exact hparent
    · rw [ensureFoldersFrom_of_not_missing hmissing]
      exact proper_ensureFolder hproper hnames

theorem proper_write (hproper : tree.root.Proper)
    (hnames : ∀ name ∈ path.names, Entry.IsName name) (h : tree.write path bytes = .ok tree') :
    tree'.root.Proper := by
  rw [write, openFile] at h
  split at h
  · rename_i place old hlocate
    cases h
    exact hproper.put (.file bytes) (hproper.isName_of_at? (at?_of_locate_found hlocate))
  · cases h
  · rename_i free hlocate
    cases h
    exact hproper.put (.file bytes) (isName_of_locate_vacant hproper hnames hlocate)
  · cases h
  · cases h

end Breadcrumb.FileTree
