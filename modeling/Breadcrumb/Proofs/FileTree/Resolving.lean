import Breadcrumb.Proofs.Encoding.Decoding
import Breadcrumb.Proofs.FileTree.Growth
import Breadcrumb.Proofs.Text.Joining

namespace Breadcrumb.FileTree

variable {tree tree' : FileTree} {place : Place} {path : Path} {name : Text}
  {names rest : List Text} {inner : List (Text × Entry)}

/-- A path that is not too long, and neither is any of its names. -/
structure Sized (path : Path) : Prop where
  usable : Usable path
  short : ∀ name ∈ path.names, size name ≤ maxNameSize

/-- Dots that lead up from the current folder. -/
inductive Climbs (tree : FileTree) : List Text → Place → Prop
  | start : Climbs tree [] tree.current
  | rise (names : List Text) (place : Place) : Climbs tree names place →
    Climbs tree (names ++ [['.', '.']]) place.dropLast

/-- A path without links, and the place it spells. Dots may only come first. -/
inductive Settled (tree : FileTree) : Path → Place → Prop
  | top : Settled tree { root := ['/'] } []
  | climb (names : List Text) (place : Place) : Climbs tree names place → Settled tree { names } place
  | down (path : Path) (place : Place) (name : Text) : Settled tree path place → Plain name →
    (Sized (path.child name) → ∀ target, tree.root.at? (place ++ [name]) ≠ some (.link target)) →
    Settled tree (path.child name) (place ++ [name])

theorem Plain.not_dot (h : Plain name) : name ≠ ['.'] := by
  rintro rfl
  exact nomatch h.1

theorem size_append (text more : Text) : size (text ++ more) = size text + size more := by
  rw [size, size, size, Encoding.encode_append, List.length_append]

theorem Usable.front (h : Usable { path with names := names ++ rest }) (hne : names ≠ []) :
    Usable { path with names } := by
  refine ⟨?_, ?_⟩
  · have hnull := h.noNull
    rw [hasNull, List.any_append, Bool.or_eq_false_iff] at hnull
    exact hnull.1
  · cases rest with
    | nil =>
      rw [List.append_nil] at h
      exact h.short
    | cons next rest =>
      have hshort := h.short
      have hempty : (names ++ next :: rest).isEmpty = false := by simp
      have hempty' : names.isEmpty = false := by simpa using hne
      rw [Path.toText, hempty, Bool.and_false, if_neg Bool.false_ne_true,
        Text.join_append ['/'] hne (by simp), size_append, size_append, size_append] at hshort
      rw [Path.toText, hempty', Bool.and_false, if_neg Bool.false_ne_true, size_append]
      dsimp only at hshort ⊢
      omega

theorem Settled.up (h : Settled tree path place) : ∃ above, Settled tree (up path) above := by
  cases h with
  | top => exact ⟨[], .top⟩
  | climb names place hclimbs =>
    refine ⟨place.dropLast, ?_⟩
    have hup : FileTree.up { names } = { names := names ++ [['.', '.']] } := by
      cases hclimbs with
      | start => rfl
      | rise names place _ =>
        rw [FileTree.up]
        simp [Path.isAbsolute]
    rw [hup]
    exact .climb _ _ (.rise names place hclimbs)
  | down path place name hpath hname _ =>
    have hup : FileTree.up (path.child name) = path := by
      rw [FileTree.up]
      simp [Path.parent, hname.2]
    rw [hup]
    exact ⟨place, hpath⟩

theorem Climbs.folder (h : Climbs tree names place)
    (hcurrent : tree.root.at? tree.current = some (.folder entries)) :
    ∃ entries, tree.root.at? place = some (.folder entries) := by
  induction h with
  | start => exact ⟨entries, hcurrent⟩
  | rise names place _ ih =>
    obtain ⟨inner, hplace⟩ := ih
    cases place.eq_nil_or_concat with
    | inl hnil =>
      subst hnil
      exact ⟨inner, hplace⟩
    | inr hconcat =>
      obtain ⟨front, last, rfl⟩ := hconcat
      rw [List.concat_eq_append] at hplace ⊢
      rw [List.dropLast_concat]
      exact Entry.folder_of_prefix hplace (by simp)

theorem Climbs.descends (h : Climbs tree names place)
    (hcurrent : tree.root.at? tree.current = some (.folder entries))
    (hdescends : Descends tree followLast place rest descent) :
    Descends tree followLast tree.current (names ++ rest) descent := by
  induction h generalizing rest with
  | start => exact hdescends
  | rise names place hclimbs ih =>
    obtain ⟨inner, hplace⟩ := hclimbs.folder hcurrent
    rw [List.append_assoc]
    exact ih (.rise hplace hdescends)

/-- A settled path that leads to a folder leads on from there. -/
theorem Settled.descends (h : Settled tree path place)
    (hcurrent : tree.root.at? tree.current = some (.folder entries))
    (hshort : ∀ name ∈ path.names, size name ≤ maxNameSize)
    (hfolder : tree.root.at? place = some (.folder inner))
    (hdescends : Descends tree followLast place rest descent) :
    Descends tree followLast (tree.start path) (path.names ++ rest) descent := by
  induction h generalizing rest inner with
  | top => exact hdescends
  | climb names place hclimbs => exact hclimbs.descends hcurrent hdescends
  | down path place name _ hname _ ih =>
    obtain ⟨hshort, hlast⟩ := List.forall_mem_append.1 hshort
    obtain ⟨outer, hplace⟩ := Entry.folder_of_prefix hfolder (List.cons_ne_nil name [])
    have hdown : LeadsDown tree place name :=
      ⟨⟨outer, hplace⟩, hname.not_dot, hname.2, hlast name (List.mem_singleton_self name)⟩
    rw [List.append_assoc]
    exact ih hshort hplace (.enter hdown hfolder nofun hdescends)

theorem Climbs.of_descends (h : Climbs tree names place) (hrest : rest ≠ [])
    (hdescends : Descends tree followLast tree.current (names ++ rest) descent) :
    Descends tree followLast place rest descent ∨ ∃ errno, descent = .done (.fault errno) := by
  induction h generalizing rest with
  | start => exact .inl hdescends
  | rise names place _ ih =>
    rw [List.append_assoc] at hdescends
    rcases ih (List.cons_ne_nil _ _) hdescends with hnext | hfault
    · cases hnext with
      | lost => exact .inr ⟨_, rfl⟩
      | blocked => exact .inr ⟨_, rfl⟩
      | rise _ hnext => exact .inl hnext
      | tooLong _ _ hdots => exact (hdots rfl).elim
      | vacant hdown => exact (hdown.notDots rfl).elim
      | missing hdown => exact (hdown.notDots rfl).elim
      | link hdown => exact (hdown.notDots rfl).elim
      | follow hdown => exact (hdown.notDots rfl).elim
      | enter hdown => exact (hdown.notDots rfl).elim
    · exact .inr hfault

theorem Climbs.short (h : Climbs tree names place) : ∀ name ∈ names, size name ≤ maxNameSize := by
  induction h with
  | start => exact fun _ hname => nomatch hname
  | rise names place _ ih =>
    refine List.forall_mem_append.2 ⟨ih, List.forall_mem_singleton.2 ?_⟩
    decide

theorem Settled.of_descends (h : Settled tree path place) (hrest : rest ≠ [])
    (husable : Usable { path with names := path.names ++ rest })
    (hdescends : Descends tree followLast (tree.start path) (path.names ++ rest) descent) :
    (Descends tree followLast place rest descent ∧ ∀ name ∈ path.names, size name ≤ maxNameSize) ∨
      ∃ errno, descent = .done (.fault errno) := by
  induction h generalizing rest with
  | top => exact .inl ⟨hdescends, fun _ hname => nomatch hname⟩
  | climb names place hclimbs =>
    rcases hclimbs.of_descends hrest hdescends with hnext | hfault
    · exact .inl ⟨hnext, hclimbs.short⟩
    · exact .inr hfault
  | down path place name _ hname hclear ih =>
    have hchild : Usable (path.child name) := husable.front (by simp)
    rw [List.append_assoc] at hdescends husable
    rcases ih (List.cons_ne_nil name rest) husable hdescends with ⟨hnext, hshort⟩ | hfault
    · have hall (hdown : LeadsDown tree place name) :
          ∀ other ∈ path.names ++ [name], size other ≤ maxNameSize :=
        List.forall_mem_append.2 ⟨hshort, List.forall_mem_singleton.2 hdown.short⟩
      cases hnext with
      | lost => exact .inr ⟨_, rfl⟩
      | blocked => exact .inr ⟨_, rfl⟩
      | stay => exact (hname.not_dot rfl).elim
      | rise => exact (hname.2 rfl).elim
      | tooLong => exact .inr ⟨_, rfl⟩
      | vacant => exact (hrest rfl).elim
      | missing => exact .inr ⟨_, rfl⟩
      | link => exact (hrest rfl).elim
      | follow hdown hlink => exact (hclear ⟨hchild, hall hdown⟩ _ hlink).elim
      | enter hdown _ _ hnext => exact .inl ⟨hnext, hall hdown⟩
    · exact .inr hfault

theorem Settled.linkAt?_child (h : Settled tree path place) (hname : Plain name)
    (hcurrent : tree.root.at? tree.current = some (.folder entries)) :
    tree.linkAt? (path.child name) = some target ↔
      Sized (path.child name) ∧ tree.root.at? (place ++ [name]) = some (.link target) := by
  constructor
  · intro hlink
    rw [linkAt?] at hlink
    split at hlink
    · rename_i found _ hlocate
      cases hlink
      obtain ⟨husable, hreaches⟩ := of_locate_found hlocate
      cases hreaches with
      | done hdescends =>
        rcases h.of_descends (List.cons_ne_nil name []) husable hdescends with
          ⟨hnext, hshort⟩ | ⟨errno, hfault⟩
        · cases hnext with
          | stay => exact (hname.not_dot rfl).elim
          | rise => exact (hname.2 rfl).elim
          | link hdown hchild _ =>
            refine ⟨⟨husable, ?_⟩, hchild⟩
            exact List.forall_mem_append.2 ⟨hshort, List.forall_mem_singleton.2 hdown.short⟩
          | enter _ hchild hentry hnext =>
            cases hnext with
            | found hfound =>
              rw [hchild] at hfound
              cases hfound
              exact (hentry target rfl).elim
        · cases hfault
      | follow hdescends _ =>
        rcases h.of_descends (List.cons_ne_nil name []) husable hdescends with
          ⟨hnext, -⟩ | ⟨errno, hfault⟩
        · cases hnext with
          | stay => exact (hname.not_dot rfl).elim
          | rise => exact (hname.2 rfl).elim
          | follow _ _ hrest =>
            rcases hrest with hrest | hfollow
            · exact (hrest rfl).elim
            · cases hfollow
          | enter _ _ _ hnext => cases hnext
        · cases hfault
    · cases hlink
  · rintro ⟨⟨husable, hshort⟩, hchild⟩
    obtain ⟨hshort, hlast⟩ := List.forall_mem_append.1 hshort
    obtain ⟨outer, hplace⟩ := Entry.folder_of_prefix hchild (List.cons_ne_nil name [])
    have hdown : LeadsDown tree place name :=
      ⟨⟨outer, hplace⟩, hname.not_dot, hname.2, hlast name (List.mem_singleton_self name)⟩
    have hdescends := h.descends hcurrent hshort hplace (.link hdown hchild rfl)
    rw [linkAt?, husable.locate_eq (.done hdescends)]

/-- Two trees with the same links and the same current folder, which is there in both. -/
structure SameLinks (tree tree' : FileTree) : Prop where
  current : tree'.current = tree.current
  folder : ∃ entries, tree.root.at? tree.current = some (.folder entries)
  folder' : ∃ entries, tree'.root.at? tree.current = some (.folder entries)
  links : ∀ place target,
    tree'.root.at? place = some (.link target) ↔ tree.root.at? place = some (.link target)

theorem SameLinks.refl (h : tree.root.at? tree.current = some (.folder entries)) :
    SameLinks tree tree :=
  ⟨rfl, ⟨entries, h⟩, ⟨entries, h⟩, fun _ _ => Iff.rfl⟩

theorem Grows.sameLinks (h : Grows written tree tree')
    (hcurrent : tree.root.at? tree.current = some (.folder entries)) : SameLinks tree tree' :=
  ⟨h.current, ⟨entries, hcurrent⟩, h.exists_folder hcurrent,
    fun place _ => (h.entry place).eq_link_iff⟩

theorem Climbs.carry (h : Climbs tree names place) (hcurrent : tree'.current = tree.current) :
    Climbs tree' names place := by
  induction h with
  | start =>
    rw [← hcurrent]
    exact .start
  | rise names place _ ih => exact .rise names place ih

theorem Settled.carry (h : Settled tree path place) (hlinks : SameLinks tree tree') :
    Settled tree' path place := by
  induction h with
  | top => exact .top
  | climb names place hclimbs => exact .climb names place (hclimbs.carry hlinks.current)
  | down path place name _ hname hclear ih =>
    refine .down path place name ih hname ?_
    intro hsized target hlink
    exact hclear hsized target ((hlinks.links _ target).1 hlink)

/-- Resolving passes through settled paths only, and trees with the same links resolve alike. -/
theorem SameLinks.carries (h : SameLinks tree tree') :
    Carries (fun path => ∃ place, Settled tree path place) tree tree' := by
  obtain ⟨entries, hfolder⟩ := h.folder
  obtain ⟨entries', hfolder'⟩ := h.folder'
  rw [← h.current] at hfolder'
  refine ⟨⟨[], .top⟩, ?_, ?_, ?_⟩
  · rintro path ⟨place, hpath⟩
    exact hpath.up
  · rintro path name ⟨place, hpath⟩ hname
    apply Option.ext
    intro target
    rw [hpath.linkAt?_child hname hfolder, (hpath.carry h).linkAt?_child hname hfolder',
      h.links]
  · rintro path name ⟨place, hpath⟩ hname hnone
    refine ⟨place ++ [name], .down path place name hpath hname ?_⟩
    intro hsized target hlink
    have hsome := (hpath.linkAt?_child hname hfolder).2 ⟨hsized, hlink⟩
    rw [hnone] at hsome
    cases hsome

/-- A path stands for the same place in two trees with the same links, unless it cannot be reached
there. -/
theorem SameLinks.resolve (h : SameLinks tree tree') (hplace : tree.resolve path = .ok place)
    (hgoes : tree'.locate true place.toPath ≠ .ok (.fault .tooManyLinks)) :
    tree'.resolve path = .ok place := by
  obtain ⟨hnull, habsolute, -⟩ := resolve_eq_ok_iff.1 hplace
  refine resolve_eq_ok_iff.2 ⟨hnull, ?_, hgoes⟩
  rw [(h.carries.resolved ⟨_, .climb [] _ .start⟩ path.toText).1, ← habsolute, absolute, absolute,
    start, start, h.current]

theorem normalize_append (place : Place) (names more : List Text) :
    normalize place (names ++ more) = normalize (normalize place names) more :=
  List.foldl_append

theorem normalize_plain (h : Plain name) (place : Place) :
    normalize place [name] = place ++ [name] := by
  simp [normalize, h.1, h.2]

theorem absolute_child (h : Plain name) (tree : FileTree) (path : Path) :
    tree.absolute (path.child name) = tree.absolute path ++ [name] := by
  rw [absolute, normalize_append, normalize_plain h]
  rfl

theorem Climbs.normalize_eq (h : Climbs tree names place) :
    normalize tree.current names = place := by
  induction h with
  | start => rfl
  | rise names place _ ih =>
    rw [normalize_append, ih]
    rfl

theorem Settled.absolute_eq (h : Settled tree path place) : tree.absolute path = place := by
  induction h with
  | top => rfl
  | climb names place hclimbs => exact hclimbs.normalize_eq
  | down path place name _ hname _ ih => rw [absolute_child hname, ih]

/-- A path as texts give it: its names neither are empty nor a dot, and no slash is in them. -/
structure Written (path : Path) : Prop where
  root : path.root = [] ∨ path.root = ['/'] ∨ path.root = ['/', '/']
  names : ∀ name ∈ path.names, Path.isName name = true ∧ '/' ∉ name

theorem Written.isName (h : Written path) : ∀ name ∈ path.names, Entry.IsName name := by
  intro name hname
  obtain ⟨hisName, hslash⟩ := h.names name hname
  refine ⟨?_, hslash⟩
  rintro rfl
  cases hisName

theorem written_ofText (text : Text) : Written (Path.ofText text) := by
  refine ⟨?_, ?_⟩
  · change Path.rootOf text = [] ∨ Path.rootOf text = ['/'] ∨ Path.rootOf text = ['/', '/']
    unfold Path.rootOf
    split <;> simp
  · intro name hname
    obtain ⟨hmem, hname⟩ := List.mem_filter.1 hname
    exact ⟨hname, Text.notMem_of_mem_split hmem⟩

theorem written_toPath (hname : ∀ name ∈ place, Entry.IsName name) (hstraight : place.Straight) :
    Written place.toPath := by
  refine ⟨.inr (.inl rfl), ?_⟩
  intro name hmem
  obtain ⟨hne, hslash⟩ := hname name hmem
  refine ⟨?_, hslash⟩
  simp [Path.isName, hne, (hstraight name hmem).1]

theorem Written.child (h : Written path) (hname : Plain name) (hslash : '/' ∉ name) :
    Written (path.child name) := by
  refine ⟨h.root, ?_⟩
  exact List.forall_mem_append.2 ⟨h.names, List.forall_mem_singleton.2 ⟨hname.1, hslash⟩⟩

theorem written_expandHome (h : Written path) (hhome : tree.expandHome path = .ok expanded) :
    Written expanded := by
  rw [expandHome] at hhome
  split at hhome
  · rename_i account rest _ hnames
    dsimp only at hhome
    split at hhome
    · rename_i home _
      cases hhome
      refine ⟨(written_ofText home).root, ?_⟩
      refine List.forall_mem_append.2 ⟨(written_ofText home).names, ?_⟩
      intro name hname
      exact h.names name (hnames ▸ List.mem_cons_of_mem _ hname)
    · split at hhome <;> cases hhome
  · cases hhome
    exact h

theorem Written.split_toText (h : Written path) :
    ∃ blanks, (∀ blank ∈ blanks, Path.isName blank = false) ∧
      path.toText.split '/' = blanks ++ path.names := by
  obtain ⟨root, names⟩ := path
  cases names with
  | nil =>
    rcases h.root with hroot | hroot | hroot
    · cases hroot
      exact ⟨[['.']], by decide, rfl⟩
    · cases hroot
      exact ⟨[[], []], by decide, rfl⟩
    · cases hroot
      exact ⟨[[], [], []], by decide, rfl⟩
  | cons first names =>
    have hsplit : (Text.join ['/'] (first :: names)).split '/' = first :: names :=
      Text.split_join (by simp) fun name hname => (h.names name hname).2
    rcases h.root with hroot | hroot | hroot
    · cases hroot
      exact ⟨[], by simp, hsplit⟩
    · cases hroot
      exact ⟨[[]], by decide, congrArg ([] :: ·) hsplit⟩
    · cases hroot
      exact ⟨[[], []], by decide, congrArg ([] :: [] :: ·) hsplit⟩

theorem Written.head?_toText (h : Written path) :
    path.toText.head? = some '/' ↔ path.isAbsolute = true := by
  obtain ⟨root, names⟩ := path
  rcases h.root with hroot | hroot | hroot
  · cases hroot
    cases names with
    | nil => simp [Path.toText, Path.isAbsolute]
    | cons first names =>
      obtain ⟨hname, hslash⟩ := h.names first List.mem_cons_self
      cases first with
      | nil => cases hname
      | cons c first =>
        have hc : c ≠ '/' := fun hc => hslash (hc ▸ List.mem_cons_self)
        cases names with
        | nil => simp [Path.toText, Path.isAbsolute, Text.join, hc]
        | cons next names => simp [Path.toText, Path.isAbsolute, Text.join, hc]
  · cases hroot
    simp [Path.toText, Path.isAbsolute]
  · cases hroot
    simp [Path.toText, Path.isAbsolute]

theorem Written.rootOf_toText (h : Written path) : Path.rootOf path.toText = path.root := by
  obtain ⟨root, names⟩ := path
  cases names with
  | nil =>
    rcases h.root with hroot | hroot | hroot
    all_goals
      cases hroot
      rfl
  | cons first names =>
    obtain ⟨hname, hslash⟩ := h.names first List.mem_cons_self
    cases first with
    | nil => cases hname
    | cons c first =>
      have hc : c ≠ '/' := fun hc => hslash (hc ▸ List.mem_cons_self)
      obtain ⟨tail, htail⟩ : ∃ tail, Text.join ['/'] ((c :: first) :: names) = c :: tail := by
        cases names with
        | nil => exact ⟨first, rfl⟩
        | cons next names => exact ⟨_, rfl⟩
      have htext : (Path.mk root ((c :: first) :: names)).toText = root ++ c :: tail := by
        simp [Path.toText, htail]
      rw [htext]
      rcases h.root with hroot | hroot | hroot
      all_goals
        cases hroot
        simp [Path.rootOf, hc]

/-- A path is read back from its written form. -/
theorem Written.ofText_toText (h : Written path) : Path.ofText path.toText = path := by
  obtain ⟨blanks, hblanks, hsplit⟩ := h.split_toText
  have hnames : (path.toText.split '/').filter Path.isName = path.names := by
    rw [hsplit, List.filter_append, List.filter_eq_nil_iff.2 (by simpa using hblanks), List.nil_append,
      List.filter_eq_self]
    exact fun name hname => (h.names name hname).1
  rw [Path.ofText, h.rootOf_toText, hnames]

theorem extend_blanks (follow : Met → Path → Text → Resolution) (met : Met) (path : Path)
    (h : ∀ blank ∈ blanks, Path.isName blank = false) (names : List Text) :
    tree.extend follow met path (blanks ++ names) = tree.extend follow met path names := by
  induction blanks with
  | nil => rfl
  | cons blank blanks ih =>
    obtain ⟨hblank, h⟩ := List.forall_mem_cons.1 h
    rw [List.cons_append, extend_skip met path _ hblank, ih h]

def origin (path : Path) : Path := if path.isAbsolute then { root := ['/'] } else {}

def resolved (tree : FileTree) (path : Path) : Resolution :=
  tree.extend (tree.resolveFrom (maxDepth - 1)) [] (origin path) path.names

theorem Written.resolveFrom (h : Written path) (tree : FileTree) :
    tree.resolveFrom maxDepth [] {} path.toText = tree.resolved path := by
  obtain ⟨blanks, hblanks, hsplit⟩ := h.split_toText
  have hstep : tree.resolveFrom maxDepth [] {} path.toText =
      tree.extend (tree.resolveFrom (maxDepth - 1)) []
        (if path.toText.head? = some '/' then { root := ['/'] } else {}) (path.toText.split '/') :=
    rfl
  rw [hstep, hsplit, extend_blanks _ _ _ hblanks, resolved, origin]
  simp only [h.head?_toText]

theorem extend_append (follow : Met → Path → Text → Resolution) (met : Met) (path : Path)
    (names more : List Text) :
    tree.extend follow met path (names ++ more) =
      let front := tree.extend follow met path names
      if front.circle then { front with path := { front.path with names := front.path.names ++ more } }
      else tree.extend follow front.met front.path more := by
  induction names generalizing met path with
  | nil => rfl
  | cons name rest ih =>
    rw [List.cons_append]
    cases hname : Path.isName name with
    | false => rw [extend_skip met path _ hname, extend_skip met path _ hname, ih]
    | true =>
      by_cases hdots : name = ['.', '.']
      · subst hdots
        rw [extend_up, extend_up, ih]
      have hplain : Plain name := ⟨hname, hdots⟩
      rw [extend_plain hplain, extend_plain hplain]
      cases tree.linkAt? (path.child name) with
      | none => exact ih met _
      | some target =>
        cases met.lookup (path.child name) with
        | some resolved? =>
          cases resolved? with
          | none => simp
          | some resolved => exact ih met resolved
        | none =>
          dsimp only
          cases hcircle : (follow ((path.child name, none) :: met) path target).circle with
          | true => simp
          | false => simpa using ih _ _

theorem Descends.ne_tooManyLinks (h : Descends tree followLast place names descent) :
    descent ≠ .done (.fault .tooManyLinks) := by
  induction h with
  | stay _ _ ih => exact ih
  | rise _ _ ih => exact ih
  | enter _ _ _ _ ih => exact ih
  | _ => nofun

theorem SameAlong.locate_ne_tooManyLinks (h : SameAlong tree tree place) (followLast : Bool) :
    tree.locate followLast place.toPath ≠ .ok (.fault .tooManyLinks) := by
  intro hloop
  rcases locate_cases tree followLast place.toPath with ⟨-, located, hlocate, hreaches⟩ |
    ⟨answer, hanswer, hlocate⟩
  · rw [hloop] at hlocate
    cases hlocate
    have hway : SameAlong tree tree ([] ++ place) := h
    obtain ⟨located, -, hdescend, -, -⟩ := descend_sameAlong hway followLast
    cases hreaches with
    | done hdescends => exact hdescends.ne_tooManyLinks rfl
    | follow hdescends _ => cases hdescends.eq.symm.trans hdescend
  · rw [hlocate] at hloop
    rcases hanswer with rfl | rfl <;> cases hloop

theorem Settled.extend_folder (h : Settled tree path place)
    (hcurrent : tree.root.at? tree.current = some (.folder entries))
    (hnames : ∀ name ∈ names, Plain name)
    (hfolder : tree.root.at? (place ++ names) = some (.folder inner))
    (follow : Met → Path → Text → Resolution) (met : Met) :
    ∃ path', tree.extend follow met path names = { path := path', met } ∧
      Settled tree path' (place ++ names) := by
  induction names generalizing path place with
  | nil =>
    rw [List.append_nil]
    exact ⟨path, rfl, h⟩
  | cons name rest ih =>
    obtain ⟨hname, hnames⟩ := List.forall_mem_cons.1 hnames
    have happend : place ++ name :: rest = place ++ [name] ++ rest := by simp
    rw [happend] at hfolder ⊢
    have hnext : ∃ inner, tree.root.at? (place ++ [name]) = some (.folder inner) := by
      cases rest with
      | nil =>
        rw [List.append_nil] at hfolder
        exact ⟨inner, hfolder⟩
      | cons next rest => exact Entry.folder_of_prefix hfolder (List.cons_ne_nil next rest)
    obtain ⟨between, hnext⟩ := hnext
    have hlink : ∀ target, tree.root.at? (place ++ [name]) ≠ some (.link target) := by
      intro target hlink
      rw [hnext] at hlink
      cases hlink
    have hnone : tree.linkAt? (path.child name) = none := by
      rw [Option.eq_none_iff_forall_ne_some]
      intro target hsome
      exact hlink target ((h.linkAt?_child hname hcurrent).1 hsome).2
    rw [extend_plain hname, hnone]
    exact ih (.down path place name h hname fun _ => hlink) hnames hfolder

theorem resolve_folder (hwritten : Written place.toPath) (hstraight : place.Straight)
    (hnull : hasNull place.toPath = false)
    (hcurrent : tree.root.at? tree.current = some (.folder entries))
    (hfolder : tree.root.at? place = some (.folder inner)) :
    tree.resolve place.toPath = .ok place := by
  have hplain : ∀ name ∈ place, Plain name :=
    fun name hname => ⟨(hwritten.names name hname).1, (hstraight name hname).2⟩
  obtain ⟨path', hextend, hsettled⟩ := Settled.top.extend_folder hcurrent hplain hfolder
    (tree.resolveFrom (maxDepth - 1)) []
  refine resolve_eq_ok_iff.2 ⟨hnull, ?_, ?_⟩
  · rw [hwritten.resolveFrom]
    change tree.absolute (tree.extend (tree.resolveFrom (maxDepth - 1)) [] { root := ['/'] }
      place).path = place
    rw [hextend]
    exact hsettled.absolute_eq
  · exact (sameAlong_of_found hstraight hfolder hfolder rfl nofun).locate_ne_tooManyLinks true

theorem resolved_child (tree : FileTree) (path : Path) (name : Text) :
    tree.resolved (path.child name) =
      if (tree.resolved path).circle then
        { tree.resolved path with path := (tree.resolved path).path.child name }
      else
        tree.extend (tree.resolveFrom (maxDepth - 1)) (tree.resolved path).met
          (tree.resolved path).path [name] :=
  extend_append _ _ _ _ _

theorem resolve_child (hwritten : Written path) (hname : Plain name) (hslash : '/' ∉ name)
    (hcurrent : tree.root.at? tree.current = some (.folder entries))
    (hplace : tree.resolve path = .ok place)
    (hlink : ∀ target, tree.root.at? (place ++ [name]) ≠ some (.link target))
    (hchild : tree.resolve (path.child name) = .ok other) : other = place ++ [name] := by
  obtain ⟨-, habsolute, -⟩ := resolve_eq_ok_iff.1 hplace
  obtain ⟨-, rfl, -⟩ := resolve_eq_ok_iff.1 hchild
  have hsettled := ((SameLinks.refl hcurrent).carries.resolved ⟨_, .climb [] _ .start⟩ path.toText).2
  rw [hwritten.resolveFrom] at habsolute hsettled
  rw [(hwritten.child hname hslash).resolveFrom, resolved_child, ← habsolute,
    ← absolute_child hname]
  cases hcircle : (tree.resolved path).circle with
  | true => rw [if_pos rfl]
  | false =>
    obtain ⟨⟨spelled, hsettled⟩, -⟩ := hsettled hcircle
    obtain rfl : spelled = place := hsettled.absolute_eq.symm.trans habsolute
    have hnone : tree.linkAt? ((tree.resolved path).path.child name) = none := by
      rw [Option.eq_none_iff_forall_ne_some]
      intro target hsome
      exact hlink target ((hsettled.linkAt?_child hname hcurrent).1 hsome).2
    rw [if_neg Bool.false_ne_true, extend_plain hname, hnone]
    rfl

end Breadcrumb.FileTree
