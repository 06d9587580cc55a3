import Breadcrumb.Proofs.Encoding.Decoding
import Breadcrumb.Proofs.FileTree.Adding

namespace Breadcrumb

namespace World

/-- What a log file holds that records are written to behind its old bytes. -/
def logged (old : Bytes) (world : World) : Bytes :=
  old ++ Encoding.encode (world.records.flatMap (·.fileLine world.stamp))

/-- The second world has a log file, in which all records are behind what was there before. -/
structure Recorded (log : Place) (old : Bytes) (world world' : World) : Prop where
  same : world' = { world with tree := world'.tree, sink := some log }
  silent : world.sink = none
  tree : FileTree.Adds log (world.logged old) world.tree world'.tree

variable {world world' : World} {log : Place} {old : Bytes}

theorem Recorded.sink (h : Recorded log old world world') : world'.sink = some log := by
  rw [h.same]

theorem Recorded.mint (h : Recorded log old world world') : world'.mint = world.mint := by
  rw [h.same]

theorem Recorded.minted (h : Recorded log old world world') : world'.minted = world.minted := by
  rw [h.same]

theorem Recorded.notes (h : Recorded log old world world') : world'.notes = world.notes := by
  rw [h.same]

theorem Recorded.records (h : Recorded log old world world') : world'.records = world.records := by
  rw [h.same]

theorem Recorded.hasLog (h : Recorded log old world world') : world'.HasLog := by
  intro other hother
  rw [h.sink] at hother
  cases hother
  exact ⟨_, h.tree.after⟩

theorem Recorded.emit (h : Recorded log old world world') (record : Log.Record) :
    Recorded log old (world.emit record) (world'.emit record) := by
  have hstamp : world'.stamp = world.stamp := by rw [h.same]
  have htree : (world.emit record).tree = world.tree := by simp only [World.emit, h.silent]
  have hlogged : (world.emit record).logged old =
      world.logged old ++ Encoding.encode (record.fileLine world.stamp) := by
    simp only [logged, World.emit, List.flatMap_append, List.flatMap_singleton,
      Encoding.encode_append, List.append_assoc]
  have htree' : (world'.emit record).tree =
      world'.tree.putFile log ((world.emit record).logged old) := by
    rw [hlogged]
    simp only [World.emit, h.sink, hstamp, FileTree.append, h.tree.after]
  refine ⟨?_, h.silent, ?_⟩
  · rw [h.same]
    rfl
  · rw [htree, htree']
    exact h.tree.putFile _

theorem Recorded.store (h : Recorded log old world world') {made made' : FileTree}
    (hadds : FileTree.Adds log (world.logged old) made made') :
    Recorded log old { world with tree := made } { world' with tree := made' } := by
  refine ⟨?_, h.silent, hadds⟩
  rw [h.same]

end World

namespace Session

variable {α β : Type} {Kept : World → World → Prop}

/-- Work that comes to the same in related worlds and leaves them related even if it fails. -/
def Mirrors (Kept : World → World → Prop) (work : Session α) : Prop :=
  ∀ world world', Kept world world' → (work.run world').1 = (work.run world).1 ∧
    Kept (work.run world).2 (work.run world').2

theorem Mirrors.bind {work : Session α} {next : α → Session β} (h : Mirrors Kept work)
    (hnext : ∀ a, Mirrors Kept (next a)) : Mirrors Kept (work >>= next) := by
  intro world world' hkept
  obtain ⟨hsame, hmid⟩ := h world world' hkept
  rw [run_bind, run_bind]
  generalize work.run world = outcome at hsame hmid ⊢
  generalize work.run world' = outcome' at hsame hmid ⊢
  obtain ⟨answer, mid⟩ := outcome
  obtain ⟨answer', mid'⟩ := outcome'
  cases hsame
  cases answer with
  | ok a => exact hnext a mid mid' hmid
  | error failure => exact ⟨rfl, hmid⟩

theorem mirrors_of_emits (h : Logged Kept) {work : Session α}
    (hemits : ∃ answer records, ∀ world, work.run world = (answer, world.emitAll records)) :
    Mirrors Kept work := by
  obtain ⟨answer, records, hrun⟩ := hemits
  intro world world' hkept
  rw [hrun, hrun]
  exact ⟨rfl, h.emitAll hkept records⟩

theorem mirrors_lift (answer : Except Failure α) :
    Mirrors Kept (ExceptT.mk (pure answer) : Session α) :=
  fun _ _ hkept => ⟨rfl, hkept⟩

theorem mirrors_say (h : Logged Kept) (level : Log.Level) (message : Text) :
    Mirrors Kept (say level message) :=
  fun world world' hkept => ⟨rfl, h world world' _ hkept⟩

theorem mirrors_modify {change : World → World}
    (h : ∀ world world', Kept world world' → Kept (change world) (change world')) :
    Mirrors Kept (modify change : Session Unit) :=
  fun world world' hkept => ⟨rfl, h world world' hkept⟩

theorem mirrors_ask_bind {question : FileTree → Except Failure α} {next : α → Session β}
    (h : ∀ world world', Kept world world' → question world'.tree = question world.tree ∧
      ∀ a, question world.tree = .ok a → Mirrors Kept (next a)) :
    Mirrors Kept (ask question >>= next) := by
  intro world world' hkept
  obtain ⟨hsame, hnext⟩ := h world world' hkept
  cases hanswer : question world.tree with
  | ok a =>
    rw [run_ask_bind hanswer, run_ask_bind (hsame.trans hanswer)]
    exact hnext a hanswer world world' hkept
  | error failure =>
    rw [run_ask_bind_of_error hanswer, run_ask_bind_of_error (hsame.trans hanswer)]
    exact ⟨rfl, hkept⟩

theorem mirrors_foldlM {step : β → α → Session β} {list : List α}
    (h : ∀ a ∈ list, ∀ b, Mirrors Kept (step b a)) (b : β) :
    Mirrors Kept (list.foldlM step b) := by
  induction list generalizing b with
  | nil => exact mirrors_lift (.ok b)
  | cons a list ih =>
    obtain ⟨hfirst, hrest⟩ := List.forall_mem_cons.1 h
    rw [List.foldlM_cons]
    exact (hfirst b).bind fun b' => ih hrest b'

end Session

end Breadcrumb
