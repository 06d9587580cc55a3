import Breadcrumb.Proofs.FileTree.Removal

namespace Breadcrumb

/-- None of the names is a dot or two of them. -/
def Place.Straight (place : Place) : Prop := ∀ name ∈ place, name ≠ ['.'] ∧ name ≠ ['.', '.']

namespace Entry

/-- An entry with no name below it that means another place. -/
inductive Dotless : Entry → Prop
  | file (bytes : Bytes) : Dotless (.file bytes)
  | link (target : Text) : Dotless (.link target)
  | folder {entries : List (Text × Entry)} (names : ∀ e ∈ entries, e.1 ≠ ['.'] ∧ e.1 ≠ ['.', '.'])
      (inner : ∀ e ∈ entries, Dotless e.2) : Dotless (.folder entries)

theorem Dotless.straight {entry found : Entry} (h : entry.Dotless)
    (hat : entry.at? place = some found) : place.Straight := by
  induction place generalizing entry with
  | nil => exact fun _ hname => nomatch hname
  | cons name place ih =>
    cases h with
    | file => cases hat
    | link => cases hat
    | folder names inner =>
      obtain ⟨next, hnext, hat⟩ := Option.bind_eq_some_iff.1 hat
      have hmem := Named.mem_of_get? hnext
      exact List.forall_mem_cons.2 ⟨names _ hmem, ih (inner _ hmem) hat⟩

/-- An entry with no link below it, and no link itself. -/
inductive Linkless : Entry → Prop
  | file (bytes : Bytes) : Linkless (.file bytes)
  | folder {entries : List (Text × Entry)} (inner : ∀ e ∈ entries, Linkless e.2) :
      Linkless (.folder entries)

theorem Linkless.at? {entry found : Entry} (h : entry.Linkless)
    (hat : entry.at? place = some found) : found.Linkless := by
  induction place generalizing entry with
  | nil =>
    cases hat
    exact h
  | cons name place ih =>
    cases h with
    | file => cases hat
    | folder inner =>
      obtain ⟨next, hnext, hat⟩ := Option.bind_eq_some_iff.1 hat
      exact ih (inner _ (Named.mem_of_get? hnext)) hat

theorem folder_of_prefix {entry found : Entry} (h : entry.at? (front ++ rest) = some found)
    (hrest : rest ≠ []) : ∃ entries, entry.at? front = some (.folder entries) := by
  rw [at?_append] at h
  obtain ⟨inner, hinner, h⟩ := Option.bind_eq_some_iff.1 h
  cases rest with
  | nil => exact (hrest rfl).elim
  | cons name rest =>
    cases inner with
    | file bytes => cases h
    | link target => cases h
    | folder entries => exact ⟨entries, hinner⟩

theorem at?_put {entry new : Entry} (h : entry.at? other = some (.file bytes))
    (hplace : ¬ place <+: other) : (entry.put place new).at? other = some (.file bytes) := by
  induction place generalizing entry other with
  | nil => exact (hplace (List.nil_prefix)).elim
  | cons name place ih =>
    cases entry with
    | file old => exact h
    | link target => exact h
    | folder entries =>
      cases other with
      | nil => cases h
      | cons first other =>
        rw [at?] at h
        rw [put, at?, Named.get?_set]
        split
        · rename_i hfirst
          subst hfirst
          obtain ⟨inner, hinner, h⟩ := Option.bind_eq_some_iff.1 h
          rw [hinner]
          exact ih h fun hprefix => hplace (List.cons_prefix_cons.2 ⟨rfl, hprefix⟩)
        · exact h

end Entry

namespace FileTree

/-- Two trees hold the same along a way that goes straight down and meets no link. -/
structure SameAlong (tree tree' : FileTree) (place : Place) : Prop where
  straight : place.Straight
  same : ∀ front, front <+: place → tree'.root.outlineAt? front = tree.root.outlineAt? front
  linkless : ∀ front target, front <+: place → tree.root.outlineAt? front ≠ some (.link target)

inductive Located.Alike : Located → Located → Prop
  | same (located : Located) : Alike located located
  | folder (place : Place) (entries entries' : List (Text × Entry)) :
    Alike (.found place (.folder entries)) (.found place (.folder entries'))

variable {tree tree' : FileTree}

theorem descend_sameAlong (h : SameAlong tree tree' (place ++ names)) (followLast : Bool) :
    ∃ located located', tree.descend followLast place names = .done located ∧
      tree'.descend followLast place names = .done located' ∧ located.Alike located' := by
  have hsame := h.same place (List.prefix_append place names)
  have hlinkless := h.linkless place
  rw [Entry.outlineAt?, Entry.outlineAt?] at hsame
  rw [Entry.outlineAt?] at hlinkless
  induction names generalizing place with
  | nil =>
    rw [descend, descend]
    generalize tree.root.at? place = found at hsame ⊢
    generalize tree'.root.at? place = found' at hsame ⊢
    cases Entry.fades_of_outline hsame with
    | none => exact ⟨_, _, rfl, rfl, .same _⟩
    | file bytes => exact ⟨_, _, rfl, rfl, .same _⟩
    | link target => exact ⟨_, _, rfl, rfl, .same _⟩
    | folder entries entries' => exact ⟨_, _, rfl, rfl, .folder _ _ _⟩
    | gone bytes => cases hsame
  | cons name rest ih =>
    generalize hfound : tree.root.at? place = found at hsame hlinkless
    generalize hfound' : tree'.root.at? place = found' at hsame
    cases Entry.fades_of_outline hsame with
    | none =>
      rw [descend, descend, hfound, hfound']
      exact ⟨_, _, rfl, rfl, .same _⟩
    | file bytes =>
      rw [descend, descend, hfound, hfound']
      exact ⟨_, _, rfl, rfl, .same _⟩
    | link target => exact (hlinkless target (List.prefix_append _ _) rfl).elim
    | gone bytes => cases hsame
    | folder entries entries' =>
      have happend : place ++ name :: rest = place ++ [name] ++ rest := by simp
      obtain ⟨hdot, hdots⟩ := h.straight name (by simp)
      rw [descend_child followLast rest hfound hdot hdots,
        descend_child followLast rest hfound' hdot hdots]
      split
      · exact ⟨_, _, rfl, rfl, .same _⟩
      rw [happend] at h
      have hchild := h.same (place ++ [name]) (List.prefix_append _ _)
      have hchildLinkless := h.linkless (place ++ [name])
      rw [Entry.outlineAt?, Entry.outlineAt?] at hchild
      rw [Entry.outlineAt?] at hchildLinkless
      have hrest := ih h hchild hchildLinkless
      generalize tree.root.at? (place ++ [name]) = inner at hchild hchildLinkless ⊢
      generalize tree'.root.at? (place ++ [name]) = inner' at hchild ⊢
      cases Entry.fades_of_outline hchild with
      | none =>
        cases rest with
        | nil => exact ⟨_, _, rfl, rfl, .same _⟩
        | cons next rest => exact ⟨_, _, rfl, rfl, .same _⟩
      | file bytes => exact hrest
      | link target => exact (hchildLinkless target (List.prefix_append _ _) rfl).elim
      | folder entries entries' => exact hrest
      | gone bytes => cases hchild

theorem locateFrom_of_done (h : tree.descend followLast place names = .done located) (links : Nat) :
    tree.locateFrom followLast links place names = located := by
  cases links with
  | zero => rw [locateFrom, h]
  | succ links => rw [locateFrom, h]

theorem locate_sameAlong (h : SameAlong tree tree' place) (followLast : Bool) :
    tree'.locate followLast place.toPath = tree.locate followLast place.toPath ∨
      ∃ found entries entries',
        tree.locate followLast place.toPath = .ok (.found found (.folder entries)) ∧
        tree'.locate followLast place.toPath = .ok (.found found (.folder entries')) := by
  rw [locate, locate]
  split
  · exact .inl rfl
  · split
    · exact .inl rfl
    · have hway : SameAlong tree tree' ([] ++ place) := h
      obtain ⟨located, located', hdescend, hdescend', halike⟩ := descend_sameAlong hway followLast
      have hstart (tree : FileTree) : tree.start place.toPath = [] := rfl
      have hnames : place.toPath.names = place := rfl
      rw [hstart, hstart, hnames, locateFrom_of_done hdescend, locateFrom_of_done hdescend']
      cases halike with
      | same => exact .inl rfl
      | folder found entries entries' => exact .inr ⟨found, entries, entries', rfl, rfl⟩

theorem exists?_sameAlong (h : SameAlong tree tree' place) :
    tree'.exists? place.toPath = tree.exists? place.toPath := by
  rw [exists?, exists?, ask, ask]
  rcases locate_sameAlong h true with hlocate | ⟨found, entries, entries', hlocate, hlocate'⟩
  · rw [hlocate]
  · rw [hlocate, hlocate']

theorem read_sameAlong (h : SameAlong tree tree' place) :
    tree'.read place.toPath = tree.read place.toPath := by
  rw [read, read]
  rcases locate_sameAlong h true with hlocate | ⟨found, entries, entries', hlocate, hlocate'⟩
  · rw [hlocate]
  · rw [hlocate, hlocate']

/-- Above an entry there are only folders, so the entry itself is all that has to be the same. -/
theorem sameAlong_of_found (hstraight : place.Straight) (h : tree.root.at? place = some entry)
    (h' : tree'.root.at? place = some entry') (hsame : entry'.outline = entry.outline)
    (hlinkless : ∀ target, entry ≠ .link target) : SameAlong tree tree' place := by
  refine ⟨hstraight, ?_, ?_⟩
  · rintro front ⟨rest, rfl⟩
    rw [Entry.outlineAt?, Entry.outlineAt?]
    by_cases hrest : rest = []
    · rw [hrest, List.append_nil] at h h'
      rw [h, h', Option.map_some, Option.map_some, hsame]
    · obtain ⟨entries, hfolder⟩ := Entry.folder_of_prefix h hrest
      obtain ⟨entries', hfolder'⟩ := Entry.folder_of_prefix h' hrest
      rw [hfolder, hfolder']
      rfl
  · rintro front target ⟨rest, rfl⟩ hlink
    rw [Entry.outlineAt?] at hlink
    by_cases hrest : rest = []
    · rw [hrest, List.append_nil] at h
      rw [h, Option.map_some, Option.some.injEq] at hlink
      cases entry with
      | file bytes => cases hlink
      | link other => exact hlinkless other rfl
      | folder entries => cases hlink
    · obtain ⟨entries, hfolder⟩ := Entry.folder_of_prefix h hrest
      rw [hfolder] at hlink
      cases hlink

theorem SameAlong.concat (h : SameAlong tree tree' place) (hname : Place.Straight [name])
    (hsame : tree'.root.outlineAt? (place ++ [name]) = tree.root.outlineAt? (place ++ [name]))
    (hlinkless : ∀ target, tree.root.outlineAt? (place ++ [name]) ≠ some (.link target)) :
    SameAlong tree tree' (place ++ [name]) := by
  refine ⟨?_, ?_, ?_⟩
  · exact List.forall_mem_append.2 ⟨h.straight, hname⟩
  · intro front hfront
    rcases List.prefix_concat_iff.1 hfront with rfl | hfront
    · exact hsame
    · exact h.same front hfront
  · intro front target hfront
    rcases List.prefix_concat_iff.1 hfront with rfl | hfront
    · exact hlinkless target
    · exact h.linkless front target hfront

end FileTree

end Breadcrumb
