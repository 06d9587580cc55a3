import Breadcrumb.Proofs.FileTree.Storing
import Breadcrumb.Proofs.World.Logging

namespace Breadcrumb

namespace FileTree

variable {tree tree' : FileTree} {file : Place}

/-- A path does not lead to a file. -/
def Misses (tree : FileTree) (file : Place) (path : Path) : Prop :=
  ∀ entry, tree.locate true path ≠ .ok (.found file entry)

theorem Matches.read (h : Matches [file] tree tree') (hmisses : tree.Misses file path) :
    tree'.read path = tree.read path := by
  have hsame := h.locate true path
  rw [FileTree.read, FileTree.read]
  rw [Misses] at hmisses
  generalize tree.locate true path = answer at hsame hmisses ⊢
  generalize tree'.locate true path = answer' at hsame ⊢
  cases hsame with
  | same => rfl
  | folder => rfl
  | file place bytes bytes' hplace =>
    obtain rfl := List.mem_singleton.1 hplace
    exact (hmisses _ rfl).elim

/-- Paths lead to the same places whatever the files hold. -/
theorem Matches.misses (h : Matches written tree tree') (hmisses : tree.Misses file path) :
    tree'.Misses file path := by
  intro entry hlocate
  have hsame := h.locate true path
  rw [hlocate] at hsame
  rw [Misses] at hmisses
  generalize tree.locate true path = answer at hsame hmisses
  cases hsame with
  | same => exact hmisses entry rfl
  | folder => exact hmisses _ rfl
  | file => exact hmisses _ rfl

end FileTree

namespace World

/-- Two worlds that differ only in what is in one file, to which the log is not written. -/
structure Twins (file : Place) (world world' : World) : Prop where
  same : world' = { world with tree := world'.tree }
  tree : FileTree.Matches [file] world.tree world'.tree
  hasLog : world.HasLog
  apart : file ∉ world.sink

variable {world world' : World} {file : Place}

theorem Twins.sink (h : Twins file world world') : world'.sink = world.sink := by
  rw [h.same]

theorem Twins.minted (h : Twins file world world') : world'.minted = world.minted := by
  rw [h.same]

theorem Twins.mint (h : Twins file world world') : world'.mint = world.mint := by
  rw [h.same]

theorem Twins.notes (h : Twins file world world') : world'.notes = world.notes := by
  rw [h.same]

theorem Twins.store (h : Twins file world world') {made made' : FileTree}
    (hmatches : FileTree.Matches [file] made made')
    (hgrows : FileTree.Grows written world.tree made) :
    Twins file { world with tree := made } { world' with tree := made' } := by
  refine ⟨?_, hmatches, h.hasLog.of_grows rfl hgrows, h.apart⟩
  rw [h.same]

theorem Twins.emit (h : Twins file world world') (record : Log.Record) :
    Twins file (world.emit record) (world'.emit record) := by
  have hlogs := h.hasLog.emit record
  have htree : FileTree.Matches [file] (world.emit record).tree (world'.emit record).tree := by
    have hstamp : world'.stamp = world.stamp := by rw [h.same]
    rw [World.emit, World.emit, h.sink, hstamp]
    cases hsink : world.sink with
    | none => exact h.tree
    | some log =>
      have hlog : log ∉ [file] := by
        intro hmem
        obtain rfl := List.mem_singleton.1 hmem
        exact h.apart hsink
      obtain ⟨bytes, hfile⟩ := h.hasLog log hsink
      have hfile' := ((h.tree.forth.entry log).eq_file_iff hlog).2 hfile
      simp only [FileTree.append, hfile, hfile']
      exact h.tree.put (Entry.writable_of_file hfile) (Entry.writable_of_file hfile') rfl
  refine ⟨?_, htree, hlogs.hasLog h.hasLog, h.apart⟩
  rw [h.same]
  rfl

end World

namespace Session

variable {α β : Type} {Before : World → World → Prop} {Kept : World → World → Prop}

/-- Work that comes to the same in related worlds, and if it succeeds leaves related worlds. -/
def Agrees (Before : World → World → Prop) (After : α → World → World → Prop) (work : Session α) :
    Prop :=
  ∀ world world', Before world world' → (work.run world').1 = (work.run world).1 ∧
    ∀ a, (work.run world).1 = .ok a → After a (work.run world).2 (work.run world').2

theorem Agrees.bind {Mid : α → World → World → Prop} {After : β → World → World → Prop}
    {work : Session α} {next : α → Session β} (h : Agrees Before Mid work)
    (hnext : ∀ a, Agrees (Mid a) After (next a)) : Agrees Before After (work >>= next) := by
  intro world world' hbefore
  obtain ⟨hsame, hmid⟩ := h world world' hbefore
  rw [run_bind, run_bind]
  generalize work.run world = outcome at hsame hmid ⊢
  generalize work.run world' = outcome' at hsame hmid ⊢
  obtain ⟨answer, mid⟩ := outcome
  obtain ⟨answer', mid'⟩ := outcome'
  cases hsame
  cases answer with
  | ok a => exact hnext a mid mid' (hmid a rfl)
  | error failure =>
    refine ⟨rfl, ?_⟩
    intro b hok
    cases hok

theorem agrees_lift (answer : Except Failure α) :
    Agrees Kept (fun _ => Kept) (ExceptT.mk (pure answer) : Session α) :=
  fun _ _ hkept => ⟨rfl, fun _ _ => hkept⟩

theorem agrees_pure (a : α) : Agrees Kept (fun _ => Kept) (pure a : Session α) := agrees_lift (.ok a)

theorem agrees_throw (failure : Failure) {After : α → World → World → Prop} :
    Agrees Kept After (throw failure : Session α) :=
  fun _ _ _ => ⟨rfl, fun _ hok => nomatch hok⟩

theorem agrees_modify {change : World → World} {After : World → World → Prop}
    (h : ∀ world world', Before world world' → After (change world) (change world')) :
    Agrees Before (fun _ => After) (modify change : Session Unit) :=
  fun world world' hbefore => ⟨rfl, fun _ _ => h world world' hbefore⟩

/-- Worlds stay related when a record is logged. -/
def Logged (Kept : World → World → Prop) : Prop :=
  ∀ world world' record, Kept world world' → Kept (world.emit record) (world'.emit record)

theorem Logged.emitAll (h : Logged Kept) {world world' : World} (hkept : Kept world world')
    (records : List Log.Record) : Kept (world.emitAll records) (world'.emitAll records) := by
  induction records generalizing world world' with
  | nil => exact hkept
  | cons record records ih => exact ih (h world world' record hkept)

theorem agrees_say (h : Logged Kept) (level : Log.Level) (message : Text) :
    Agrees Kept (fun _ => Kept) (say level message) :=
  agrees_modify fun world world' hkept => h world world' _ hkept

theorem agrees_ask {question : FileTree → Except Failure α} {After : α → World → World → Prop}
    (hsame : ∀ world world', Before world world' → question world'.tree = question world.tree)
    (hafter : ∀ world world' a, Before world world' → question world.tree = .ok a →
      After a world world') : Agrees Before After (ask question) := by
  intro world world' hbefore
  rw [ask, run_get_bind, run_get_bind, hsame world world' hbefore]
  cases hanswer : question world.tree with
  | ok a =>
    refine ⟨rfl, ?_⟩
    intro b hok
    cases hok
    exact hafter world world' a hbefore hanswer
  | error failure =>
    refine ⟨rfl, ?_⟩
    intro b hok
    cases hok

theorem agrees_foldlM {step : β → α → Session β} {list : List α}
    (h : ∀ a ∈ list, ∀ b, Agrees Kept (fun _ => Kept) (step b a)) (b : β) :
    Agrees Kept (fun _ => Kept) (list.foldlM step b) := by
  induction list generalizing b with
  | nil => exact agrees_pure b
  | cons a list ih =>
    obtain ⟨hfirst, hrest⟩ := List.forall_mem_cons.1 h
    rw [List.foldlM_cons]
    exact (hfirst b).bind fun b' => ih hrest b'

end Session

end Breadcrumb
