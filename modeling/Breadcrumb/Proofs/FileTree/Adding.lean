import Breadcrumb.Proofs.FileTree.Replacing
import Breadcrumb.Proofs.World.Twins

namespace Breadcrumb.FileTree

/-- The second tree has a file where the first has it or nothing, and is the same elsewhere. -/
structure Adds (file : Place) (bytes : Bytes) (tree tree' : FileTree) : Prop where
  current : tree'.current = tree.current
  home : tree'.home = tree.home
  accounts : tree'.accounts = tree.accounts
  before : tree.root.at? file = none ∨ ∃ bytes, tree.root.at? file = some (.file bytes)
  after : tree'.root.at? file = some (.file bytes)
  elsewhere : ∀ place, place ≠ file → tree'.root.outlineAt? place = tree.root.outlineAt? place

/-- The way from a place by some names, with all links followed, comes by the place of a file. -/
inductive Passes (tree : FileTree) (file : Place) : Place → List Text → Prop
  | here (names : List Text) : Passes tree file file names
  | stay : tree.root.at? place = some (.folder entries) → Passes tree file place rest →
    Passes tree file place (['.'] :: rest)
  | rise : tree.root.at? place = some (.folder entries) → Passes tree file place.dropLast rest →
    Passes tree file place (['.', '.'] :: rest)
  | enter : LeadsDown tree place name →
    (∀ target, tree.root.at? (place ++ [name]) ≠ some (.link target)) →
    Passes tree file (place ++ [name]) rest → Passes tree file place (name :: rest)
  | follow : LeadsDown tree place name → tree.root.at? (place ++ [name]) = some (.link target) →
    Passes tree file (targetStart place target) (targetNames target ++ rest) →
    Passes tree file place (name :: rest)

/-- The way of a path comes by the place of a file. -/
def Meets (tree : FileTree) (file : Place) (path : Path) : Prop :=
  Passes tree file (tree.start path) path.names

variable {tree tree' : FileTree} {file place : Place} {names rest : List Text} {path : Path}
  {bytes : Bytes} {met : Prop}

theorem Passes.append (h : Passes tree file place names) (more : List Text) :
    Passes tree file place (names ++ more) := by
  induction h with
  | here names => exact .here _
  | stay hfolder _ ih => exact .stay hfolder ih
  | rise hfolder _ ih => exact .rise hfolder ih
  | enter hdown hlink _ ih => exact .enter hdown hlink ih
  | follow hdown hlink _ ih =>
    rw [List.append_assoc] at ih
    exact .follow hdown hlink ih

theorem Passes.grows (h : Passes tree file place names) (hgrows : Grows written tree tree') :
    Passes tree' file place names := by
  induction h with
  | here names => exact .here _
  | stay hfolder _ ih =>
    obtain ⟨entries', hfolder'⟩ := hgrows.exists_folder hfolder
    exact .stay hfolder' ih
  | rise hfolder _ ih =>
    obtain ⟨entries', hfolder'⟩ := hgrows.exists_folder hfolder
    exact .rise hfolder' ih
  | enter hdown hlink _ ih =>
    refine .enter (hgrows.leadsDown hdown) ?_ ih
    intro target hlink'
    exact hlink target ((hgrows.entry _).eq_link_iff.1 hlink')
  | follow hdown hlink _ ih =>
    exact .follow (hgrows.leadsDown hdown) ((hgrows.entry _).eq_link_iff.2 hlink) ih

theorem Meets.grows (h : tree.Meets file path) (hgrows : Grows written tree tree') :
    tree'.Meets file path := by
  rw [Meets, hgrows.start]
  exact Passes.grows h hgrows

theorem Meets.of_parent (h : tree.Meets file path.parent) : tree.Meets file path := by
  obtain ⟨last, hnames⟩ := List.dropLast_prefix path.names
  rw [Meets, ← hnames]
  exact Passes.append h last

theorem Descends.passes (h : Descends tree followLast place names (.link folder target rest))
    (hpasses : Passes tree file (targetStart folder target) (targetNames target ++ rest)) :
    Passes tree file place names := by
  generalize hlink : Descent.link folder target rest = descent at h
  induction h with
  | stay hfolder _ ih => exact .stay hfolder (ih hlink)
  | rise hfolder _ ih => exact .rise hfolder (ih hlink)
  | follow hdown hchild _ =>
    cases hlink
    exact .follow hdown hchild hpasses
  | enter hdown hchild hentry _ ih =>
    refine .enter hdown ?_ (ih hlink)
    intro target hchild'
    rw [hchild] at hchild'
    exact hentry target (Option.some.inj hchild')
  | _ => cases hlink

/-- Where the file is, or comes up. -/
inductive Located.Before (file : Place) : Located → Prop
  | file (bytes : Bytes) : Before file (.found file (.file bytes))
  | vacant : Before file (.vacant file)
  | missing : Before file (.fault .missing)

/-- What becomes of the end of a path, whose way comes by the file if it ends otherwise. -/
inductive Located.Adds (file : Place) (met : Prop) : Located → Located → Prop
  | same (located : Located) : Adds file met located located
  | folder (place : Place) (entries entries' : List (Text × Entry)) :
    Adds file met (.found place (.folder entries)) (.found place (.folder entries'))
  | met (h : met) {located : Located} (bytes : Bytes) : located.Before file →
    Adds file met located (.found file (.file bytes))
  | barred (h : met) : Adds file met (.fault .missing) (.fault .notFolder)

inductive Descent.Adds (file : Place) (met : Prop) : Descent → Descent → Prop
  | done {located located' : Located} : located.Adds file met located' →
    Adds file met (.done located) (.done located')
  | link (folder : Place) (target : Text) (rest : List Text) :
    Adds file met (.link folder target rest) (.link folder target rest)

theorem Located.Adds.mono {more : Prop} (h : Located.Adds file met located located')
    (hmore : met → more) : Located.Adds file more located located' := by
  cases h with
  | same => exact .same _
  | folder place entries entries' => exact .folder place entries entries'
  | met h bytes hbefore => exact .met (hmore h) bytes hbefore
  | barred h => exact .barred (hmore h)

theorem Descent.Adds.mono {more : Prop} (h : Descent.Adds file met descent descent')
    (hmore : met → more) : Descent.Adds file more descent descent' := by
  cases h with
  | done hlocated => exact .done (hlocated.mono hmore)
  | link folder target rest => exact .link folder target rest

theorem Adds.grows (h : Adds file bytes tree tree') : Grows [file] tree tree' := by
  refine ⟨h.current, h.home, h.accounts, ?_⟩
  intro place
  by_cases hplace : place = file
  · subst hplace
    rw [h.after]
    rcases h.before with hfree | ⟨old, hfile⟩
    · rw [hfree]
      exact .newFile (List.mem_singleton_self _) bytes
    · rw [hfile]
      exact .rewritten (List.mem_singleton_self _) old bytes
  · exact Entry.grows_of_outline (h.elsewhere place hplace)

theorem Adds.exists_folder_iff (h : Adds file bytes tree tree') :
    (∃ entries, tree'.root.at? place = some (.folder entries)) ↔
      ∃ entries, tree.root.at? place = some (.folder entries) := by
  constructor
  · rintro ⟨entries', hfolder⟩
    have hplace : place ≠ file := by
      rintro rfl
      rw [h.after] at hfolder
      cases hfolder
    have houtline := h.elsewhere place hplace
    rw [Entry.outlineAt?_eq_folder.2 ⟨entries', hfolder⟩] at houtline
    exact Entry.outlineAt?_eq_folder.1 houtline.symm
  · rintro ⟨entries, hfolder⟩
    exact h.grows.exists_folder hfolder

theorem Adds.at?_of_none (h : Adds file bytes tree tree') (hplace : place ≠ file)
    (hnone : tree.root.at? place = none) : tree'.root.at? place = none := by
  have houtline := h.elsewhere place hplace
  rw [Entry.outlineAt?, Entry.outlineAt?, hnone] at houtline
  exact Option.map_eq_none_iff.1 houtline

theorem Adds.found (h : Adds file bytes tree tree') (hmet : place = file → met)
    (hat : tree.root.at? place = some entry) :
    ∃ entry', tree'.root.at? place = some entry' ∧
      (∀ target, entry' = .link target ↔ entry = .link target) ∧
      (∀ entries', entry' = .folder entries' → ∃ entries, entry = .folder entries) ∧
      Located.Adds file met (.found place entry) (.found place entry') := by
  by_cases hplace : place = file
  · subst hplace
    rcases h.before with hfree | ⟨old, hfile⟩
    · rw [hfree] at hat
      cases hat
    · rw [hfile] at hat
      cases hat
      exact ⟨_, h.after, by simp, by simp, .met (hmet rfl) bytes (.file old)⟩
  · have houtline := h.elsewhere place hplace
    rw [Entry.outlineAt?, Entry.outlineAt?, hat] at houtline
    obtain ⟨entry', hat', houtline⟩ := Option.map_eq_some_iff.1 houtline
    refine ⟨entry', hat', ?_⟩
    cases entry <;> cases entry' <;> cases houtline
    · exact ⟨by simp, by simp, .same _⟩
    · exact ⟨by simp, by simp, .same _⟩
    · exact ⟨by simp, by simp, .folder _ _ _⟩

theorem Adds.descends (h : Adds file bytes tree tree')
    (hdescends : Descends tree followLast place names descent) :
    ∃ descent', Descends tree' followLast place names descent' ∧
      descent.Adds file (Passes tree file place names) descent' := by
  have hafter := h.after
  induction hdescends with
  | @found place entry hat =>
    have hhere : place = file → Passes tree file place [] := by
      rintro rfl
      exact .here []
    obtain ⟨entry', hat', -, -, hadds⟩ := h.found hhere hat
    exact ⟨_, .found hat', .done hadds⟩
  | @lost place names hat =>
    by_cases hplace : place = file
    · subst hplace
      cases names with
      | nil => exact ⟨_, .found hafter, .done (.met (.here _) bytes .missing)⟩
      | cons name rest => exact ⟨_, .blocked hafter nofun, .done (.barred (.here _))⟩
    · exact ⟨_, .lost (h.at?_of_none hplace hat), .done (.same _)⟩
  | @blocked place entry name rest hat hentry =>
    obtain ⟨entry', hat', -, hfolder, -⟩ :=
      h.found (fun _ => trivial) hat
    refine ⟨_, .blocked hat' ?_, .done (.same _)⟩
    intro entries' hentry'
    obtain ⟨entries, rfl⟩ := hfolder entries' hentry'
    exact hentry entries rfl
  | stay hfolder _ ih =>
    obtain ⟨entries', hfolder'⟩ := h.grows.exists_folder hfolder
    obtain ⟨descent', hdescends', hadds⟩ := ih
    exact ⟨descent', .stay hfolder' hdescends', hadds.mono (.stay hfolder)⟩
  | rise hfolder _ ih =>
    obtain ⟨entries', hfolder'⟩ := h.grows.exists_folder hfolder
    obtain ⟨descent', hdescends', hadds⟩ := ih
    exact ⟨descent', .rise hfolder' hdescends', hadds.mono (.rise hfolder)⟩
  | tooLong hfolder hdot hdots hsize =>
    obtain ⟨entries', hfolder'⟩ := h.grows.exists_folder hfolder
    exact ⟨_, .tooLong hfolder' hdot hdots hsize, .done (.same _)⟩
  | @vacant place name hdown hchild =>
    have hdown' := h.grows.leadsDown hdown
    by_cases hplace : place ++ [name] = file
    · subst hplace
      have hpasses : Passes tree (place ++ [name]) place [name] :=
        .enter hdown (by simp [hchild]) (.here [])
      exact ⟨_, .enter hdown' hafter nofun (.found hafter), .done (.met hpasses bytes .vacant)⟩
    · exact ⟨_, .vacant hdown' (h.at?_of_none hplace hchild), .done (.same _)⟩
  | @missing place name rest hdown hchild hrest =>
    have hdown' := h.grows.leadsDown hdown
    by_cases hplace : place ++ [name] = file
    · subst hplace
      have hpasses : Passes tree (place ++ [name]) place (name :: rest) :=
        .enter hdown (by simp [hchild]) (.here rest)
      obtain ⟨next, others, rfl⟩ := List.exists_cons_of_ne_nil hrest
      exact ⟨_, .enter hdown' hafter nofun (.blocked hafter nofun), .done (.barred hpasses)⟩
    · exact ⟨_, .missing hdown' (h.at?_of_none hplace hchild) hrest, .done (.same _)⟩
  | link hdown hchild hfollow =>
    have hchild' := (h.grows.entry _).eq_link_iff.2 hchild
    exact ⟨_, .link (h.grows.leadsDown hdown) hchild' hfollow, .done (.same _)⟩
  | follow hdown hchild hrest =>
    have hchild' := (h.grows.entry _).eq_link_iff.2 hchild
    exact ⟨_, .follow (h.grows.leadsDown hdown) hchild' hrest, .link _ _ _⟩
  | @enter place name entry rest descent hdown hchild hentry _ ih =>
    obtain ⟨descent', hdescends', hadds⟩ := ih
    obtain ⟨entry', hchild', hlink, -, -⟩ := h.found (fun _ => trivial) hchild
    have hpasses : Passes tree file (place ++ [name]) rest →
        Passes tree file place (name :: rest) := by
      apply Passes.enter hdown
      intro target hlinked
      rw [hchild] at hlinked
      exact hentry target (Option.some.inj hlinked)
    refine ⟨descent', .enter (h.grows.leadsDown hdown) hchild' ?_ hdescends', hadds.mono hpasses⟩
    intro target hentry'
    exact hentry target ((hlink target).1 hentry')

theorem Adds.reaches (h : Adds file bytes tree tree')
    (hreaches : Reaches tree followLast links place names located) :
    ∃ located', Reaches tree' followLast links place names located' ∧
      located.Adds file (Passes tree file place names) located' := by
  induction hreaches with
  | done hdescends =>
    obtain ⟨descent', hdescends', hadds⟩ := h.descends hdescends
    cases hadds with
    | done hlocated => exact ⟨_, .done hdescends', hlocated⟩
  | follow hdescends _ ih =>
    obtain ⟨descent', hdescends', hadds⟩ := h.descends hdescends
    obtain ⟨located', hreaches', hlocated⟩ := ih
    cases hadds with
    | link => exact ⟨located', .follow hdescends' hreaches', hlocated.mono hdescends.passes⟩
  | tooMany hdescends =>
    obtain ⟨descent', hdescends', hadds⟩ := h.descends hdescends
    cases hadds with
    | link => exact ⟨_, .tooMany hdescends', .same _⟩

theorem Adds.locate (h : Adds file bytes tree tree') (followLast : Bool) (path : Path) :
    tree'.locate followLast path = tree.locate followLast path ∨
      ∃ located located', tree.locate followLast path = .ok located ∧
        tree'.locate followLast path = .ok located' ∧
          located.Adds file (tree.Meets file path) located' := by
  rcases locate_cases tree followLast path with ⟨husable, located, hlocate, hreaches⟩ |
    ⟨answer, -, hlocate⟩
  · obtain ⟨located', hreaches', hadds⟩ := h.reaches hreaches
    rw [← h.grows.start] at hreaches'
    exact .inr ⟨located, located', hlocate, husable.locate_eq hreaches', hadds⟩
  · exact .inl ((hlocate tree' followLast).trans (hlocate tree followLast).symm)

theorem Adds.linkAt? (h : Adds file bytes tree tree') (path : Path) :
    tree'.linkAt? path = tree.linkAt? path := by
  rw [FileTree.linkAt?, FileTree.linkAt?]
  rcases h.locate false path with hsame | ⟨located, located', hlocate, hlocate', hadds⟩
  · rw [hsame]
  · rw [hlocate, hlocate']
    cases hadds with
    | same => rfl
    | folder => rfl
    | met _ bytes hbefore => cases hbefore <;> rfl
    | barred => rfl

theorem Adds.resolve (h : Adds file bytes tree tree') (path : Path) :
    tree'.resolve path = tree.resolve path := by
  refine resolve_congr h.linkAt? h.current ?_ path
  intro path
  rcases h.locate true path with hsame | ⟨located, located', hlocate, hlocate', hadds⟩
  · rw [hsame]
  · rw [hlocate, hlocate']
    cases hadds with
    | same => exact Iff.rfl
    | folder => simp
    | met _ bytes hbefore => cases hbefore <;> simp
    | barred => simp

/-- A question that no file answers with yes has the same answer, and so has any other one if the
path does not lead to the file. -/
theorem Adds.ask (h : Adds file bytes tree tree') {question : Entry → Bool}
    (hfolder : ∀ entries entries', question (.folder entries') = question (.folder entries))
    (hfile : (∀ bytes, question (.file bytes) = false) ∨ tree'.Misses file path) :
    tree'.ask question path = tree.ask question path := by
  rw [FileTree.ask, FileTree.ask]
  rcases h.locate true path with hsame | ⟨located, located', hlocate, hlocate', hadds⟩
  · rw [hsame]
  · rw [hlocate, hlocate']
    cases hadds with
    | same => rfl
    | folder place entries entries' => exact congrArg Except.ok (hfolder entries entries')
    | barred => rfl
    | met _ bytes hbefore =>
      rcases hfile with hfile | hmisses
      · cases hbefore with
        | file old => simp only [hfile]
        | vacant => simp only [hfile]
        | missing =>
          simp only [hfile]
          rfl
      · exact (hmisses _ hlocate').elim

theorem Adds.isFolder? (h : Adds file bytes tree tree') (path : Path) :
    tree'.isFolder? path = tree.isFolder? path :=
  h.ask (fun _ _ => rfl) (.inl fun _ => rfl)

theorem Adds.exists? (h : Adds file bytes tree tree') (hmisses : tree'.Misses file path) :
    tree'.exists? path = tree.exists? path :=
  h.ask (fun _ _ => rfl) (.inr hmisses)

theorem Adds.read_of_exists? (h : Adds file bytes tree tree') (hmisses : tree'.Misses file path)
    (hthere : tree.exists? path = .ok true) : tree'.read path = tree.read path := by
  rw [FileTree.exists?, FileTree.ask] at hthere
  rw [FileTree.read, FileTree.read]
  rcases h.locate true path with hsame | ⟨located, located', hlocate, hlocate', hadds⟩
  · rw [hsame]
  · rw [hlocate] at hthere
    rw [hlocate, hlocate']
    cases hadds with
    | same => rfl
    | folder => rfl
    | met => exact (hmisses _ hlocate').elim
    | barred => cases hthere

theorem Adds.sameAnswer (h : Adds file bytes tree tree') (hmeets : ¬ tree.Meets file path)
    (followLast : Bool) :
    SameAnswer [] (tree.locate followLast path) (tree'.locate followLast path) := by
  rcases h.locate followLast path with hsame | ⟨located, located', hlocate, hlocate', hadds⟩
  · rw [hsame]
    exact .same _
  · rw [hlocate, hlocate']
    cases hadds with
    | same => exact .same _
    | folder place entries entries' => exact .folder place entries entries'
    | met hmet => exact (hmeets hmet).elim
    | barred hmet => exact (hmeets hmet).elim

theorem Adds.read (h : Adds file bytes tree tree') (hmeets : ¬ tree.Meets file path) :
    tree'.read path = tree.read path := by
  have hsame := h.sameAnswer hmeets true
  rw [FileTree.read, FileTree.read]
  generalize tree.locate true path = answer at hsame ⊢
  generalize tree'.locate true path = answer' at hsame ⊢
  cases hsame with
  | same => rfl
  | folder => rfl
  | file _ _ _ hmem => cases hmem

theorem Descends.passes_found (h : Descends tree true place names (.done (.found goal entry))) :
    Passes tree goal place names := by
  generalize hdone : Descent.done (.found goal entry) = descent at h
  induction h with
  | found =>
    cases hdone
    exact .here []
  | stay hfolder _ ih => exact .stay hfolder (ih hdone)
  | rise hfolder _ ih => exact .rise hfolder (ih hdone)
  | link _ _ hfalse => cases hfalse
  | enter hdown hchild hentry _ ih =>
    refine .enter hdown ?_ (ih hdone)
    intro target hlink
    rw [hchild] at hlink
    exact hentry target (Option.some.inj hlink)
  | _ => cases hdone

theorem meets_of_locate_found (h : tree.locate true path = .ok (.found goal entry)) :
    tree.Meets goal path := by
  obtain ⟨-, hreaches⟩ := of_locate_found h
  rw [Meets]
  generalize tree.start path = place at hreaches ⊢
  generalize path.names = names at hreaches ⊢
  generalize maxLinks = links at hreaches
  generalize hfound : Located.found goal entry = located at hreaches
  induction hreaches with
  | done hdescends =>
    subst hfound
    exact hdescends.passes_found
  | follow hdescends _ ih => exact hdescends.passes (ih hfound)
  | tooMany => cases hfound

theorem Adds.put {new : Entry} (h : Adds file bytes tree tree')
    (hwritable : tree.root.Writable place) (hwritable' : tree'.root.Writable place)
    (hnew : new.outline = new) (hplace : place ≠ file) :
    Adds file bytes { tree with root := tree.root.put place new }
      { tree' with root := tree'.root.put place new } := by
  have hput := Entry.outlineAt?_put hwritable hnew
  have hput' := Entry.outlineAt?_put hwritable' hnew
  have hfile := hput file
  have hfile' := hput' file
  rw [if_neg (Ne.symm hplace)] at hfile hfile'
  refine ⟨h.current, h.home, h.accounts, ?_, ?_, ?_⟩
  · rcases h.before with hfree | ⟨bytes, hbefore⟩
    · left
      rw [Entry.outlineAt?, Entry.outlineAt?, hfree] at hfile
      exact Option.map_eq_none_iff.1 hfile
    · right
      rw [Entry.outlineAt?_eq_file.2 hbefore] at hfile
      exact ⟨bytes, Entry.outlineAt?_eq_file.1 hfile⟩
  · rw [Entry.outlineAt?_eq_file.2 h.after] at hfile'
    exact Entry.outlineAt?_eq_file.1 hfile'
  · intro other hother
    rw [hput, hput', h.elsewhere other hother]

theorem Adds.putFile (h : Adds file bytes tree tree') (bytes' : Bytes) :
    Adds file bytes' tree (tree'.putFile file bytes') := by
  have hwritable := Entry.writable_of_file h.after
  have hput := Entry.outlineAt?_put hwritable (rfl : (Entry.file bytes').outline = _)
  have hfile := hput file
  rw [if_pos rfl, Entry.outlineAt?_eq_file] at hfile
  refine ⟨h.current, h.home, h.accounts, h.before, hfile, ?_⟩
  intro place hplace
  exact (hput place).trans ((if_neg hplace).trans (h.elsewhere place hplace))

theorem adds_putFile (hwritable : tree.root.Writable file) (bytes : Bytes) :
    Adds file bytes tree (tree.putFile file bytes) := by
  have hput := Entry.outlineAt?_put hwritable (rfl : (Entry.file bytes).outline = _)
  have hfile := hput file
  rw [if_pos rfl, Entry.outlineAt?_eq_file] at hfile
  refine ⟨rfl, rfl, rfl, hwritable.free_or_file, hfile, ?_⟩
  intro place hplace
  exact (hput place).trans (if_neg hplace)

theorem Adds.matches (h : Adds file bytes tree tree') (h' : Adds file bytes' tree tree'') :
    Matches [file] tree' tree'' := by
  have hgrows {old new : Bytes} {one other : FileTree} (hone : Adds file old tree one)
      (hother : Adds file new tree other) : Grows [file] one other := by
    refine ⟨hother.current.trans hone.current.symm, hother.home.trans hone.home.symm,
      hother.accounts.trans hone.accounts.symm, ?_⟩
    intro place
    by_cases hplace : place = file
    · subst hplace
      rw [hone.after, hother.after]
      exact .rewritten (List.mem_singleton_self _) old new
    · have houtline := (hother.elsewhere place hplace).trans (hone.elsewhere place hplace).symm
      exact Entry.grows_of_outline houtline
  exact ⟨hgrows h h', hgrows h' h⟩

inductive AddsAttempt (file : Place) (bytes : Bytes) :
    Except FileFault FileTree → Except FileFault FileTree → Prop
  | ok (tree tree' : FileTree) : Adds file bytes tree tree' →
    AddsAttempt file bytes (.ok tree) (.ok tree')
  | error (fault : FileFault) : AddsAttempt file bytes (.error fault) (.error fault)

theorem Adds.makeFolder (h : Adds file bytes tree tree') (hmeets : ¬ tree.Meets file path) :
    AddsAttempt file bytes (tree.makeFolder path) (tree'.makeFolder path) := by
  have hsame := h.sameAnswer hmeets false
  rw [FileTree.makeFolder, FileTree.makeFolder]
  generalize hlocate : tree.locate false path = answer at hsame ⊢
  generalize hlocate' : tree'.locate false path = answer' at hsame ⊢
  cases hsame with
  | folder place entries entries' => exact .error _
  | file _ _ _ hmem => cases hmem
  | same =>
    cases answer with
    | error fault => exact .error fault
    | ok located =>
      cases located with
      | found place entry => exact .error _
      | fault errno => exact .error _
      | vacant free =>
        obtain ⟨hwritable, -⟩ := writable_of_locate_vacant hlocate
        obtain ⟨hwritable', hfree⟩ := writable_of_locate_vacant hlocate'
        refine .ok _ _ (h.put hwritable hwritable' rfl ?_)
        rintro rfl
        cases hfree.symm.trans h.after

theorem Adds.ensureFolder (h : Adds file bytes tree tree') (hmeets : ¬ tree.Meets file path) :
    Adds file bytes (tree.ensureFolder path).1 (tree'.ensureFolder path).1 ∧
      (tree'.ensureFolder path).2 = (tree.ensureFolder path).2 := by
  have hmade := h.makeFolder hmeets
  generalize hattempt : tree.makeFolder path = attempt at hmade
  generalize hattempt' : tree'.makeFolder path = attempt' at hmade
  cases hmade with
  | ok made made' hadds =>
    rw [FileTree.ensureFolder, FileTree.ensureFolder, hattempt, hattempt']
    exact ⟨hadds, rfl⟩
  | error fault =>
    obtain ⟨hkept, hkept', hfault⟩ := ensureFolder_of_fault (h.isFolder? path) hattempt hattempt'
    rw [hkept, hkept']
    exact ⟨h, hfault⟩

/-- Folders are made alike if the way to them does not come by the file, not even through the
folders that are new. -/
theorem Adds.ensureFoldersFrom (h : Adds file bytes tree tree') (depth : Nat) {path : Path}
    (hmeets : ¬ (tree.ensureFoldersFrom depth path).1.Meets file path) :
    Adds file bytes (tree.ensureFoldersFrom depth path).1 (tree'.ensureFoldersFrom depth path).1 ∧
      (tree'.ensureFoldersFrom depth path).2 = (tree.ensureFoldersFrom depth path).2 := by
  obtain ⟨hgrows, -⟩ := ensureFoldersFrom_grows tree depth path
  have hfirst := h.ensureFolder fun hmet => hmeets (hmet.grows hgrows)
  induction depth generalizing path with
  | zero => exact hfirst
  | succ depth ih =>
    obtain ⟨hadds, hfault⟩ := hfirst
    by_cases hmissing : ∃ text, (tree.ensureFolder path).2 = some (.refused .missing text)
    · obtain ⟨text, hmissing⟩ := hmissing
      obtain ⟨hparent, -⟩ := ensureFoldersFrom_grows tree depth path.parent
      rw [ensureFoldersFrom_of_missing hmissing] at hmeets
      rw [ensureFoldersFrom_of_missing hmissing,
        ensureFoldersFrom_of_missing (hfault.trans hmissing)]
      have habove : ¬ (tree.ensureFoldersFrom depth path.parent).1.Meets file path := by
        intro hmet
        cases hnone : (tree.ensureFoldersFrom depth path.parent).2 with
        | none =>
          simp only [hnone] at hmeets
          exact hmeets (hmet.grows (ensureFolder_grows _ path).1)
        | some fault =>
          simp only [hnone] at hmeets
          exact hmeets hmet
      have hparentMeets := fun hmet => habove (Meets.of_parent hmet)
      obtain ⟨hmade, hmadeFault⟩ := ih hparentMeets hparent
        (h.ensureFolder fun hmet => hparentMeets (hmet.grows hparent))
      cases hnone : (tree.ensureFoldersFrom depth path.parent).2 with
      | none =>
        simp only [hmadeFault.trans hnone]
        exact hmade.ensureFolder habove
      | some fault =>
        simp only [hmadeFault.trans hnone]
        exact ⟨hmade, hnone.symm⟩
    · have hmissing' : ¬ ∃ text, (tree'.ensureFolder path).2 = some (.refused .missing text) := by
        rwa [hfault]
      rw [ensureFoldersFrom_of_not_missing hmissing, ensureFoldersFrom_of_not_missing hmissing']
      exact ⟨hadds, hfault⟩

theorem Adds.ensureFolders (h : Adds file bytes tree tree')
    (hmeets : ¬ (tree.ensureFolders path).1.Meets file path) :
    Adds file bytes (tree.ensureFolders path).1 (tree'.ensureFolders path).1 ∧
      (tree'.ensureFolders path).2 = (tree.ensureFolders path).2 :=
  h.ensureFoldersFrom path.names.length hmeets

theorem Adds.write (h : Adds file bytes tree tree') (hmeets : ¬ tree.Meets file path)
    (text : Bytes) : AddsAttempt file bytes (tree.write path text) (tree'.write path text) := by
  have hput {place : Place} (hwritable : tree.root.Writable place)
      (hwritable' : tree'.root.Writable place) (hplace : place ≠ file) :
      AddsAttempt file bytes (.ok (tree.putFile place text)) (.ok (tree'.putFile place text)) :=
    .ok _ _ (h.put hwritable hwritable' rfl hplace)
  have hsame := h.sameAnswer hmeets true
  rw [FileTree.write, FileTree.write, openFile, openFile]
  generalize hlocate : tree.locate true path = answer at hsame ⊢
  generalize hlocate' : tree'.locate true path = answer' at hsame ⊢
  cases hsame with
  | folder place entries entries' => exact .error _
  | file _ _ _ hmem => cases hmem
  | same =>
    cases answer with
    | error fault => exact .error fault
    | ok located =>
      cases located with
      | fault errno => exact .error _
      | vacant free =>
        obtain ⟨hwritable, -⟩ := writable_of_locate_vacant hlocate
        obtain ⟨hwritable', hfree⟩ := writable_of_locate_vacant hlocate'
        refine hput hwritable hwritable' ?_
        rintro rfl
        cases hfree.symm.trans h.after
      | found place entry =>
        cases entry with
        | file old =>
          refine hput (Entry.writable_of_file (at?_of_locate_found hlocate))
            (Entry.writable_of_file (at?_of_locate_found hlocate')) ?_
          rintro rfl
          exact hmeets (meets_of_locate_found hlocate)
        | link target => exact .error _
        | folder entries => exact .error _

theorem writable_of_openFile (h : tree.openFile path = .ok (place, old)) :
    tree.root.Writable place := by
  rw [openFile] at h
  split at h
  · rename_i hlocate
    cases h
    exact Entry.writable_of_file (at?_of_locate_found hlocate)
  · cases h
  · rename_i hlocate
    cases h
    exact (writable_of_locate_vacant hlocate).1
  · cases h
  · cases h

theorem Descends.exists_at? (h : Descends tree followLast place names descent)
    (hdescent : descent ≠ .done (.fault .missing)) : ∃ entry, tree.root.at? place = some entry := by
  have hfolder {name : Text} (hdown : LeadsDown tree place name) :
      ∃ entry, tree.root.at? place = some entry := by
    obtain ⟨entries, hfolder⟩ := hdown.folder
    exact ⟨_, hfolder⟩
  cases h with
  | found hat => exact ⟨_, hat⟩
  | lost => exact absurd rfl hdescent
  | blocked hat => exact ⟨_, hat⟩
  | stay hat => exact ⟨_, hat⟩
  | rise hat => exact ⟨_, hat⟩
  | tooLong hat => exact ⟨_, hat⟩
  | vacant hdown => exact hfolder hdown
  | missing hdown => exact hfolder hdown
  | link hdown => exact hfolder hdown
  | follow hdown => exact hfolder hdown
  | enter hdown => exact hfolder hdown

theorem exists_start_of_isFolder? (h : tree.isFolder? path = .ok true) :
    ∃ entry, tree.root.at? (tree.start path) = some entry := by
  obtain ⟨place, entries, hlocate⟩ := locate_of_isFolder? h
  obtain ⟨-, hreaches⟩ := of_locate_found hlocate
  cases hreaches with
  | done hdescends => exact hdescends.exists_at? nofun
  | follow hdescends => exact hdescends.exists_at? nofun

theorem isName_normalize (hplace : ∀ name ∈ place, Entry.IsName name)
    (hnames : ∀ name ∈ names, Entry.IsName name) :
    ∀ name ∈ normalize place names, Entry.IsName name := by
  induction names generalizing place with
  | nil => exact hplace
  | cons name names ih =>
    obtain ⟨hname, hrest⟩ := List.forall_mem_cons.1 hnames
    rw [normalize, List.foldl_cons, ← normalize]
    split
    · exact ih hplace hrest
    split
    · exact ih (fun other hother => hplace other ((List.dropLast_sublist _).mem hother)) hrest
    · exact ih (List.forall_mem_append.2 ⟨hplace, List.forall_mem_singleton.2 hname⟩) hrest

theorem proper_putFile_absolute (hproper : tree.root.Proper)
    (hnames : ∀ name ∈ path.names, Entry.IsName name)
    (hfolder : tree.isFolder? path.parent = .ok true)
    (hopen : tree.openFile (tree.absolute path).toPath = .ok (place, old)) (bytes : Bytes) :
    (tree.putFile place bytes).root.Proper := by
  obtain ⟨entry, hstart⟩ := exists_start_of_isFolder? hfolder
  have hwrite : tree.write (tree.absolute path).toPath bytes = .ok (tree.putFile place bytes) := by
    rw [FileTree.write, hopen]
    rfl
  exact proper_write hproper (isName_normalize (hproper.isName_of_at? hstart) hnames) hwrite

end Breadcrumb.FileTree
