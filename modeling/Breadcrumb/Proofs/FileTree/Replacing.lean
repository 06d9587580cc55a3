import Breadcrumb.FileTree.Seek

namespace Breadcrumb

abbrev Path.child (path : Path) (name : Text) : Path := { path with names := path.names ++ [name] }

namespace FileTree

variable {Kept : Path → Prop} {tree tree' : FileTree} {follow follow' : Met → Path → Text → Resolution}

def Plain (name : Text) : Prop := Path.isName name = true ∧ name ≠ ['.', '.']

theorem extend_skip (met : Met) (path : Path) (rest : List Text) (h : Path.isName name = false) :
    tree.extend follow met path (name :: rest) = tree.extend follow met path rest := by
  rw [extend, h]
  rfl

theorem extend_up (met : Met) (path : Path) (rest : List Text) :
    tree.extend follow met path (['.', '.'] :: rest) = tree.extend follow met (up path) rest := by
  rw [extend]
  rfl

theorem extend_plain (h : Plain name) (met : Met) (path : Path) (rest : List Text) :
    tree.extend follow met path (name :: rest) =
      match tree.linkAt? (path.child name) with
      | none => tree.extend follow met (path.child name) rest
      | some target =>
        match met.lookup (path.child name) with
        | some (some resolved) => tree.extend follow met resolved rest
        | some none =>
          { path := { path with names := path.names ++ [name] ++ rest }, met, circle := true }
        | none =>
          let inner := follow ((path.child name, none) :: met) path target
          if inner.circle then
            { inner with path := { inner.path with names := inner.path.names ++ rest } }
          else
            tree.extend follow ((path.child name, some inner.path) :: inner.met) inner.path rest := by
  rw [extend, h.1]
  exact if_neg h.2

/-- Two trees have the same links at the ends of the paths in `Kept`, which resolving does not
leave. -/
structure Carries (Kept : Path → Prop) (tree tree' : FileTree) : Prop where
  top : Kept { root := ['/'] }
  up : ∀ path, Kept path → Kept (up path)
  links : ∀ path name, Kept path → Plain name →
    tree'.linkAt? (path.child name) = tree.linkAt? (path.child name)
  child : ∀ path name, Kept path → Plain name → tree.linkAt? (path.child name) = none →
    Kept (path.child name)

theorem carries_of_linkAt? (h : ∀ path, tree'.linkAt? path = tree.linkAt? path) :
    Carries (fun _ => True) tree tree' :=
  ⟨trivial, fun _ _ => trivial, fun _ _ _ _ => h _, fun _ _ _ _ _ => trivial⟩

/-- The links met so far stand for paths in `Kept`. -/
def Met.Within (Kept : Path → Prop) (met : Met) : Prop :=
  ∀ link resolved, met.lookup link = some (some resolved) → Kept resolved

def Resolution.Within (Kept : Path → Prop) (resolution : Resolution) : Prop :=
  resolution.circle = false → Kept resolution.path ∧ Met.Within Kept resolution.met

theorem Met.Within.cons (h : Met.Within Kept met) {resolved? : Option Path}
    (hresolved : ∀ resolved, resolved? = some resolved → Kept resolved) (link : Path) :
    Met.Within Kept ((link, resolved?) :: met) := by
  intro other resolved hlookup
  rw [List.lookup_cons] at hlookup
  split at hlookup
  · exact hresolved resolved (Option.some.inj hlookup)
  · exact h other resolved hlookup

/-- Two ways to resolve links come to the same, and stay within `Kept`. -/
def SameResolution (Kept : Path → Prop) (follow follow' : Met → Path → Text → Resolution) : Prop :=
  ∀ met path text, Met.Within Kept met → Kept path →
    follow' met path text = follow met path text ∧ (follow met path text).Within Kept

theorem Carries.extend (h : Carries Kept tree tree') (hfollow : SameResolution Kept follow follow')
    (hmet : Met.Within Kept met) (hpath : Kept path) (names : List Text) :
    tree'.extend follow' met path names = tree.extend follow met path names ∧
      (tree.extend follow met path names).Within Kept := by
  induction names generalizing met path with
  | nil => exact ⟨rfl, fun _ => ⟨hpath, hmet⟩⟩
  | cons name rest ih =>
    cases hname : Path.isName name with
    | false =>
      rw [extend_skip met path rest hname, extend_skip met path rest hname]
      exact ih hmet hpath
    | true =>
      by_cases hdots : name = ['.', '.']
      · subst hdots
        rw [extend_up, extend_up]
        exact ih hmet (h.up path hpath)
      have hplain : Plain name := ⟨hname, hdots⟩
      rw [extend_plain hplain, extend_plain hplain, h.links path name hpath hplain]
      cases hlink : tree.linkAt? (path.child name) with
      | none => exact ih hmet (h.child path name hpath hplain hlink)
      | some target =>
        cases hlookup : met.lookup (path.child name) with
        | some resolved? =>
          cases resolved? with
          | none => exact ⟨rfl, fun hcircle => nomatch hcircle⟩
          | some resolved => exact ih hmet (hmet _ resolved hlookup)
        | none =>
          have hbefore : Met.Within Kept ((path.child name, none) :: met) :=
            hmet.cons (by simp) _
          obtain ⟨hsame, hinner⟩ := hfollow _ path target hbefore hpath
          simp only [hsame]
          cases hcircle : (follow ((path.child name, none) :: met) path target).circle with
          | true => exact ⟨rfl, fun hdone => nomatch hdone⟩
          | false =>
            obtain ⟨hpath, hmet⟩ := hinner hcircle
            refine ih (hmet.cons ?_ _) hpath
            intro resolved hresolved
            cases hresolved
            exact hpath

theorem Carries.resolveFrom (h : Carries Kept tree tree') (depth : Nat) :
    SameResolution Kept (tree.resolveFrom depth) (tree'.resolveFrom depth) := by
  induction depth with
  | zero => exact fun _ _ _ _ _ => ⟨rfl, nofun⟩
  | succ depth ih =>
    intro met path text hmet hpath
    rw [FileTree.resolveFrom, FileTree.resolveFrom]
    refine h.extend ih hmet ?_ _
    split
    · exact h.top
    · exact hpath

theorem Carries.resolved (h : Carries Kept tree tree') (hstart : Kept {}) (text : Text) :
    tree'.resolveFrom maxDepth [] {} text = tree.resolveFrom maxDepth [] {} text ∧
      (tree.resolveFrom maxDepth [] {} text).Within Kept :=
  h.resolveFrom maxDepth [] {} text nofun hstart

/-- A path without null stands for a place, unless following the links from there does not end. -/
theorem resolve_cases (hnull : hasNull path = false)
    (hplace : tree.absolute (tree.resolveFrom maxDepth [] {} path.toText).path = place) :
    (tree.locate true place.toPath = .ok (.fault .tooManyLinks) ∧
        tree.resolve path = .error (.linkLoop place.toText)) ∨
      tree.locate true place.toPath ≠ .ok (.fault .tooManyLinks) ∧ tree.resolve path = .ok place := by
  rw [resolve, hnull, if_neg Bool.false_ne_true, hplace]
  simp only
  split
  · rename_i hloop
    exact .inl ⟨hloop, rfl⟩
  · rename_i hgoes
    exact .inr ⟨hgoes, rfl⟩

theorem resolve_of_hasNull (tree : FileTree) (h : hasNull path = true) :
    tree.resolve path = .error .nullInPath := by
  rw [resolve, if_pos h]

theorem resolve_eq_ok_iff :
    tree.resolve path = .ok place ↔ hasNull path = false ∧
      tree.absolute (tree.resolveFrom maxDepth [] {} path.toText).path = place ∧
      tree.locate true place.toPath ≠ .ok (.fault .tooManyLinks) := by
  cases hnull : hasNull path with
  | true =>
    rw [resolve_of_hasNull tree hnull]
    simp
  | false =>
    constructor
    · intro h
      rcases resolve_cases hnull rfl with ⟨-, hresolve⟩ | ⟨hgoes, hresolve⟩
      · rw [h] at hresolve
        cases hresolve
      · rw [h] at hresolve
        cases hresolve
        exact ⟨rfl, rfl, hgoes⟩
    · rintro ⟨-, hplace, hgoes⟩
      rcases resolve_cases hnull hplace with ⟨hloop, -⟩ | ⟨-, hresolve⟩
      · exact (hgoes hloop).elim
      · exact hresolve

/-- Two trees with the same links, which go in circles alike, resolve every path alike. -/
theorem resolve_congr (hlinks : ∀ path, tree'.linkAt? path = tree.linkAt? path)
    (hcurrent : tree'.current = tree.current)
    (hloops : ∀ path, tree'.locate true path = .ok (.fault .tooManyLinks) ↔
      tree.locate true path = .ok (.fault .tooManyLinks)) (path : Path) :
    tree'.resolve path = tree.resolve path := by
  cases hnull : hasNull path with
  | true => rw [resolve_of_hasNull tree hnull, resolve_of_hasNull tree' hnull]
  | false =>
    have hplace : tree'.absolute (tree'.resolveFrom maxDepth [] {} path.toText).path =
        tree.absolute (tree.resolveFrom maxDepth [] {} path.toText).path := by
      rw [((carries_of_linkAt? hlinks).resolved trivial path.toText).1, absolute, absolute, start,
        start, hcurrent]
    rcases resolve_cases hnull hplace with ⟨hloop, hresolve⟩ | ⟨hgoes, hresolve⟩
    · rcases resolve_cases hnull rfl with ⟨-, hresolve'⟩ | ⟨hgoes', -⟩
      · rw [hresolve, hresolve']
      · exact (hgoes' ((hloops _).1 hloop)).elim
    · rcases resolve_cases hnull rfl with ⟨hloop', -⟩ | ⟨-, hresolve'⟩
      · exact (hgoes ((hloops _).2 hloop')).elim
      · rw [hresolve, hresolve']

end FileTree

end Breadcrumb
