import Breadcrumb.Proofs.FileTree.Straight

namespace Breadcrumb.FileTree

/-- A name that leads from the folder at a place to the entry of that name, if there is one. -/
structure LeadsDown (tree : FileTree) (place : Place) (name : Text) : Prop where
  folder : ∃ entries, tree.root.at? place = some (.folder entries)
  notDot : name ≠ ['.']
  notDots : name ≠ ['.', '.']
  short : size name ≤ maxNameSize

/-- The way down from a place, name by name, as far as it goes without following a link. -/
inductive Descends (tree : FileTree) (followLast : Bool) : Place → List Text → Descent → Prop
  | found : tree.root.at? place = some entry →
    Descends tree followLast place [] (.done (.found place entry))
  | lost : tree.root.at? place = none →
    Descends tree followLast place names (.done (.fault .missing))
  | blocked : tree.root.at? place = some entry → (∀ entries, entry ≠ .folder entries) →
    Descends tree followLast place (name :: rest) (.done (.fault .notFolder))
  | stay : tree.root.at? place = some (.folder entries) →
    Descends tree followLast place rest descent →
    Descends tree followLast place (['.'] :: rest) descent
  | rise : tree.root.at? place = some (.folder entries) →
    Descends tree followLast place.dropLast rest descent →
    Descends tree followLast place (['.', '.'] :: rest) descent
  | tooLong : tree.root.at? place = some (.folder entries) → name ≠ ['.'] → name ≠ ['.', '.'] →
    maxNameSize < size name →
    Descends tree followLast place (name :: rest) (.done (.fault .nameTooLong))
  | vacant : LeadsDown tree place name → tree.root.at? (place ++ [name]) = none →
    Descends tree followLast place [name] (.done (.vacant (place ++ [name])))
  | missing : LeadsDown tree place name → tree.root.at? (place ++ [name]) = none → rest ≠ [] →
    Descends tree followLast place (name :: rest) (.done (.fault .missing))
  | link : LeadsDown tree place name → tree.root.at? (place ++ [name]) = some (.link target) →
    followLast = false →
    Descends tree followLast place [name] (.done (.found (place ++ [name]) (.link target)))
  | follow : LeadsDown tree place name → tree.root.at? (place ++ [name]) = some (.link target) →
    rest ≠ [] ∨ followLast = true →
    Descends tree followLast place (name :: rest) (.link place target rest)
  | enter : LeadsDown tree place name → tree.root.at? (place ++ [name]) = some entry →
    (∀ target, entry ≠ .link target) →
    Descends tree followLast (place ++ [name]) rest descent →
    Descends tree followLast place (name :: rest) descent

/-- The way on through the links, of which at most `links` are followed. -/
inductive Reaches (tree : FileTree) (followLast : Bool) :
    Nat → Place → List Text → Located → Prop
  | done : Descends tree followLast place names (.done located) →
    Reaches tree followLast links place names located
  | follow : Descends tree followLast place names (.link folder target rest) →
    Reaches tree followLast links (targetStart folder target) (targetNames target ++ rest) located →
    Reaches tree followLast (links + 1) place names located
  | tooMany : Descends tree followLast place names (.link folder target rest) →
    Reaches tree followLast 0 place names (.fault .tooManyLinks)

variable {tree : FileTree} {followLast : Bool} {place : Place} {names : List Text}

theorem descends (tree : FileTree) (followLast : Bool) (place : Place) (names : List Text) :
    Descends tree followLast place names (tree.descend followLast place names) := by
  induction names generalizing place with
  | nil =>
    rw [descend]
    cases hat : tree.root.at? place with
    | none => exact .lost hat
    | some entry => exact .found hat
  | cons name rest ih =>
    cases hat : tree.root.at? place with
    | none =>
      rw [descend, hat]
      exact .lost hat
    | some entry =>
      cases entry with
      | file bytes =>
        rw [descend, hat]
        apply Descends.blocked hat
        intro entries he
        cases he
      | link target =>
        rw [descend, hat]
        apply Descends.blocked hat
        intro entries he
        cases he
      | folder entries =>
        by_cases hdot : name = ['.']
        · subst hdot
          rw [descend, hat]
          exact .stay hat (ih place)
        by_cases hdots : name = ['.', '.']
        · subst hdots
          rw [descend, hat]
          exact .rise hat (ih place.dropLast)
        rw [descend_child followLast rest hat hdot hdots]
        split
        · rename_i hsize
          exact .tooLong hat hdot hdots hsize
        rename_i hsize
        have hdown : LeadsDown tree place name := ⟨⟨entries, hat⟩, hdot, hdots, Nat.not_lt.1 hsize⟩
        cases hchild : tree.root.at? (place ++ [name]) with
        | none =>
          cases rest with
          | nil => exact .vacant hdown hchild
          | cons next rest => exact .missing hdown hchild (by simp)
        | some inner =>
          cases inner with
          | file bytes =>
            refine .enter hdown hchild ?_ (ih _)
            intro target he
            cases he
          | folder others =>
            refine .enter hdown hchild ?_ (ih _)
            intro target he
            cases he
          | link target =>
            cases rest with
            | cons next rest => exact .follow hdown hchild (.inl (by simp))
            | nil =>
              cases followLast with
              | false => exact .link hdown hchild rfl
              | true => exact .follow hdown hchild (.inr rfl)

theorem LeadsDown.descend (h : LeadsDown tree place name) (followLast : Bool) (rest : List Text) :
    tree.descend followLast place (name :: rest) =
      match tree.root.at? (place ++ [name]) with
      | none => if rest.isEmpty then .done (.vacant (place ++ [name])) else .done (.fault .missing)
      | some (.link target) =>
        if rest.isEmpty && !followLast then .done (.found (place ++ [name]) (.link target))
        else .link place target rest
      | some _ => tree.descend followLast (place ++ [name]) rest := by
  obtain ⟨⟨entries, hfolder⟩, hdot, hdots, hshort⟩ := h
  have hchild := descend_child followLast rest hfolder hdot hdots
  rw [if_neg (Nat.not_lt.2 hshort)] at hchild
  exact hchild

/-- There is one way down only. -/
theorem Descends.eq (h : Descends tree followLast place names descent) :
    tree.descend followLast place names = descent := by
  induction h with
  | found hat => rw [descend, hat]
  | @lost place names hat => cases names <;> rw [descend, hat]
  | @blocked place entry name rest hat hentry =>
    rw [descend, hat]
    cases entry with
    | file bytes => rfl
    | link target => rfl
    | folder entries => exact (hentry entries rfl).elim
  | stay hat _ ih =>
    rw [descend, hat]
    exact ih
  | rise hat _ ih =>
    rw [descend, hat]
    exact ih
  | tooLong hat hdot hdots hsize =>
    rw [descend_child _ _ hat hdot hdots, if_pos hsize]
  | vacant hdown hchild =>
    rw [hdown.descend, hchild]
    rfl
  | missing hdown hchild hrest =>
    rw [hdown.descend, hchild]
    exact if_neg (by simpa using hrest)
  | link hdown hchild hfollow =>
    rw [hdown.descend, hchild, hfollow]
    rfl
  | follow hdown hchild hrest =>
    rw [hdown.descend, hchild]
    refine if_neg ?_
    rcases hrest with hrest | hfollow
    · simp [hrest]
    · simp [hfollow]
  | @enter place name entry rest descent hdown hchild hentry _ ih =>
    rw [hdown.descend, hchild]
    cases entry with
    | file bytes => exact ih
    | folder entries => exact ih
    | link target => exact (hentry target rfl).elim

theorem reaches (tree : FileTree) (followLast : Bool) (links : Nat) (place : Place)
    (names : List Text) :
    Reaches tree followLast links place names (tree.locateFrom followLast links place names) := by
  induction links generalizing place names with
  | zero =>
    have h := descends tree followLast place names
    rw [locateFrom]
    cases hdescend : tree.descend followLast place names with
    | done located => exact .done (hdescend ▸ h)
    | link folder target rest => exact .tooMany (hdescend ▸ h)
  | succ links ih =>
    have h := descends tree followLast place names
    rw [locateFrom]
    cases hdescend : tree.descend followLast place names with
    | done located => exact .done (hdescend ▸ h)
    | link folder target rest => exact .follow (hdescend ▸ h) (ih _ _)

theorem Reaches.eq (h : Reaches tree followLast links place names located) :
    tree.locateFrom followLast links place names = located := by
  induction h with
  | done hdescends => exact locateFrom_of_done hdescends.eq _
  | follow hdescends _ ih =>
    rw [locateFrom, hdescends.eq]
    exact ih
  | tooMany hdescends => rw [locateFrom, hdescends.eq]

theorem Descends.at? (h : Descends tree followLast place names (.done (.found goal entry))) :
    tree.root.at? goal = some entry := by
  generalize hdone : Descent.done (.found goal entry) = descent at h
  induction h with
  | found hat =>
    cases hdone
    exact hat
  | link _ hchild _ =>
    cases hdone
    exact hchild
  | stay _ _ ih => exact ih hdone
  | rise _ _ ih => exact ih hdone
  | enter _ _ _ _ ih => exact ih hdone
  | _ => cases hdone

theorem Reaches.at? (h : Reaches tree followLast links place names (.found goal entry)) :
    tree.root.at? goal = some entry := by
  generalize hfound : Located.found goal entry = located at h
  induction h with
  | done hdescends =>
    subst hfound
    exact hdescends.at?
  | follow _ _ ih => exact ih hfound
  | tooMany _ => cases hfound

theorem Descends.vacant_at (h : Descends tree followLast place names (.done (.vacant free))) :
    ∃ folder name, free = folder ++ [name] ∧ LeadsDown tree folder name ∧
      tree.root.at? free = none := by
  generalize hdone : Descent.done (.vacant free) = descent at h
  induction h with
  | vacant hdown hchild =>
    cases hdone
    exact ⟨_, _, rfl, hdown, hchild⟩
  | stay _ _ ih => exact ih hdone
  | rise _ _ ih => exact ih hdone
  | enter _ _ _ _ ih => exact ih hdone
  | _ => cases hdone

theorem Reaches.vacant_at (h : Reaches tree followLast links place names (.vacant free)) :
    ∃ folder name, free = folder ++ [name] ∧ LeadsDown tree folder name ∧
      tree.root.at? free = none := by
  generalize hvacant : Located.vacant free = located at h
  induction h with
  | done hdescends =>
    subst hvacant
    exact hdescends.vacant_at
  | follow _ _ ih => exact ih hvacant
  | tooMany _ => cases hvacant

theorem Descends.rest_subset (h : Descends tree followLast place names (.link folder target rest)) :
    rest ⊆ names := by
  generalize hlink : Descent.link folder target rest = descent at h
  induction h with
  | follow =>
    cases hlink
    exact List.subset_cons_self _ _
  | stay _ _ ih => exact List.subset_cons_of_subset _ (ih hlink)
  | rise _ _ ih => exact List.subset_cons_of_subset _ (ih hlink)
  | enter _ _ _ _ ih => exact List.subset_cons_of_subset _ (ih hlink)
  | _ => cases hlink

theorem Descends.vacant_name (h : Descends tree followLast place names (.done (.vacant free))) :
    ∀ name ∈ free.getLast?, name ∈ names := by
  generalize hdone : Descent.done (.vacant free) = descent at h
  induction h with
  | vacant =>
    cases hdone
    simp
  | stay _ _ ih => exact fun name hname => List.mem_cons_of_mem _ (ih hdone name hname)
  | rise _ _ ih => exact fun name hname => List.mem_cons_of_mem _ (ih hdone name hname)
  | enter _ _ _ _ ih => exact fun name hname => List.mem_cons_of_mem _ (ih hdone name hname)
  | _ => cases hdone

/-- A way on which the last name is not followed ends at a link, or is the way on which it is. -/
theorem Descends.following (h : Descends tree false place names descent) :
    (∃ found target, descent = .done (.found found (.link target))) ∨
      Descends tree true place names descent := by
  induction h with
  | found hat => exact .inr (.found hat)
  | lost hat => exact .inr (.lost hat)
  | blocked hat hentry => exact .inr (.blocked hat hentry)
  | stay hat _ ih => exact ih.imp_right (.stay hat)
  | rise hat _ ih => exact ih.imp_right (.rise hat)
  | tooLong hat hdot hdots hsize => exact .inr (.tooLong hat hdot hdots hsize)
  | vacant hdown hchild => exact .inr (.vacant hdown hchild)
  | missing hdown hchild hrest => exact .inr (.missing hdown hchild hrest)
  | link _ _ _ => exact .inl ⟨_, _, rfl⟩
  | follow hdown hchild _ => exact .inr (.follow hdown hchild (.inr rfl))
  | enter hdown hchild hentry _ ih => exact ih.imp_right (.enter hdown hchild hentry)

theorem Reaches.following (h : Reaches tree false links place names located) :
    (∃ found target, located = .found found (.link target)) ∨
      Reaches tree true links place names located := by
  induction h with
  | done hdescends =>
    rcases hdescends.following with ⟨found, target, hlink⟩ | hdescends
    · cases hlink
      exact .inl ⟨found, target, rfl⟩
    · exact .inr (.done hdescends)
  | follow hdescends _ ih =>
    rcases hdescends.following with ⟨found, target, hlink⟩ | hdescends
    · cases hlink
    · exact ih.imp_right (.follow hdescends)
  | tooMany hdescends =>
    rcases hdescends.following with ⟨found, target, hlink⟩ | hdescends
    · cases hlink
    · exact .inr (.tooMany hdescends)

structure Usable (path : Path) : Prop where
  noNull : hasNull path = false
  short : size path.toText ≤ maxPathSize

theorem Usable.locate (h : Usable path) (tree : FileTree) (followLast : Bool) :
    tree.locate followLast path =
      .ok (tree.locateFrom followLast maxLinks (tree.start path) path.names) := by
  rw [FileTree.locate, h.noNull, if_neg Bool.false_ne_true, if_neg (Nat.not_lt.2 h.short)]

/-- A path leads somewhere, or it is of no use in any tree. -/
theorem locate_cases (tree : FileTree) (followLast : Bool) (path : Path) :
    (Usable path ∧ ∃ located, tree.locate followLast path = .ok located ∧
      Reaches tree followLast maxLinks (tree.start path) path.names located) ∨
    ∃ answer, (answer = .error .nullInPath ∨ answer = .ok (.fault .nameTooLong)) ∧
      ∀ (tree : FileTree) (followLast : Bool), tree.locate followLast path = answer := by
  cases hnull : hasNull path with
  | true =>
    refine .inr ⟨_, .inl rfl, fun tree followLast => ?_⟩
    rw [locate, hnull, if_pos rfl]
  | false =>
    by_cases hsize : maxPathSize < size path.toText
    · refine .inr ⟨_, .inr rfl, fun tree followLast => ?_⟩
      rw [locate, hnull, if_neg Bool.false_ne_true, if_pos hsize]
    · have husable : Usable path := ⟨hnull, Nat.not_lt.1 hsize⟩
      exact .inl ⟨husable, _, husable.locate tree followLast, reaches _ _ _ _ _⟩

theorem of_locate_ok (h : tree.locate followLast path = .ok located)
    (hlocated : located ≠ .fault .nameTooLong) :
    Usable path ∧ Reaches tree followLast maxLinks (tree.start path) path.names located := by
  rcases locate_cases tree followLast path with ⟨husable, located', hlocate, hreaches⟩ |
    ⟨answer, hanswer, hlocate⟩
  · obtain rfl := Except.ok.inj (h.symm.trans hlocate)
    exact ⟨husable, hreaches⟩
  · rw [hlocate] at h
    rcases hanswer with rfl | rfl
    · cases h
    · exact (hlocated (Except.ok.inj h).symm).elim

theorem of_locate_found (h : tree.locate followLast path = .ok (.found found entry)) :
    Usable path ∧
      Reaches tree followLast maxLinks (tree.start path) path.names (.found found entry) := by
  apply of_locate_ok h
  intro hlocated
  cases hlocated

theorem of_locate_vacant (h : tree.locate followLast path = .ok (.vacant free)) :
    Usable path ∧
      Reaches tree followLast maxLinks (tree.start path) path.names (.vacant free) := by
  apply of_locate_ok h
  intro hlocated
  cases hlocated

theorem Usable.locate_eq (h : Usable path)
    (hreaches : Reaches tree followLast maxLinks (tree.start path) path.names located) :
    tree.locate followLast path = .ok located := by
  rw [h.locate, hreaches.eq]

end Breadcrumb.FileTree
