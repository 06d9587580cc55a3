import Breadcrumb.Proofs.FileTree.Growth
import Breadcrumb.Proofs.World.Session

namespace Breadcrumb

namespace World

/-- The log file, if there is one, is there. -/
def HasLog (world : World) : Prop :=
  ∀ log ∈ world.sink, ∃ bytes, world.tree.root.at? log = some (.file bytes)

/-- The log goes on to the same file, and nothing else in the tree has changed. -/
structure Logs (world world' : World) : Prop where
  sink : world'.sink = world.sink
  tree : FileTree.Matches world.sink.toList world.tree world'.tree
  proper : world.tree.root.Proper → world'.tree.root.Proper

variable {world mid world' : World}

theorem Logs.refl (world : World) : world.Logs world := ⟨rfl, .refl _ _, id⟩

theorem Logs.trans (h : world.Logs mid) (h' : mid.Logs world') : world.Logs world' := by
  obtain ⟨hsink', htree', hproper'⟩ := h'
  rw [h.sink] at hsink' htree'
  exact ⟨hsink', h.tree.trans htree', hproper' ∘ h.proper⟩

theorem HasLog.of_grows (h : world.HasLog) (hsink : world'.sink = world.sink)
    (hgrows : FileTree.Grows written world.tree world'.tree) : world'.HasLog := by
  intro log hmem
  rw [hsink] at hmem
  obtain ⟨bytes, hfile⟩ := h log hmem
  exact hgrows.exists_file hfile

theorem Logs.hasLog (h : world.Logs world') (hlog : world.HasLog) : world'.HasLog :=
  hlog.of_grows h.sink h.tree.forth

theorem HasLog.emit (h : world.HasLog) (record : Log.Record) : world.Logs (world.emit record) := by
  refine ⟨rfl, ?_, ?_⟩
  · rw [World.emit]
    cases hsink : world.sink with
    | none => exact .refl _ _
    | some log =>
      obtain ⟨bytes, hfile⟩ := h log hsink
      simp only [FileTree.append, hfile]
      exact FileTree.matches_putFile hfile (List.mem_singleton_self log) _
  · intro hproper
    have hsink : ∀ log ∈ world.sink, ∀ name ∈ log, Entry.IsName name := by
      intro log hmem
      obtain ⟨bytes, hfile⟩ := h log hmem
      exact hproper.isName_of_at? hfile
    exact (Proper.emit ⟨hproper, hsink⟩ record).tree

theorem HasLog.emitAll (h : world.HasLog) (records : List Log.Record) :
    world.Logs (world.emitAll records) := by
  induction records generalizing world with
  | nil => exact .refl world
  | cons record records ih =>
    have hfirst := h.emit record
    exact hfirst.trans (ih (hfirst.hasLog h))

end World

namespace Session

variable {α β : Type}

/-- Whatever the work comes to, the files are as before, but for the log. -/
def OnlyLogs (work : Session α) : Prop :=
  ∀ world : World, world.HasLog → world.Logs (work.run world).2

theorem OnlyLogs.bind {work : Session α} {next : α → Session β} (h : OnlyLogs work)
    (hnext : ∀ a, OnlyLogs (next a)) : OnlyLogs (work >>= next) := by
  intro world hlog
  have hfirst := h world hlog
  rw [run_bind]
  cases hrun : work.run world with
  | mk result mid =>
    rw [hrun] at hfirst
    cases result with
    | ok a => exact hfirst.trans (hnext a mid (hfirst.hasLog hlog))
    | error failure => exact hfirst

theorem onlyLogs_lift (answer : Except Failure α) :
    OnlyLogs (ExceptT.mk (pure answer) : Session α) :=
  fun world _ => .refl world

theorem onlyLogs_pure (a : α) : OnlyLogs (pure a : Session α) := onlyLogs_lift (.ok a)

theorem onlyLogs_throw (failure : Failure) : OnlyLogs (throw failure : Session α) :=
  onlyLogs_lift (.error failure)

theorem onlyLogs_say (level : Log.Level) (message : Text) : OnlyLogs (say level message) :=
  fun _ hlog => hlog.emit _

theorem onlyLogs_get : OnlyLogs (get : Session World) := fun world _ => .refl world

theorem onlyLogs_modify {change : World → World}
    (h : ∀ world : World, world.HasLog → world.Logs (change world)) :
    OnlyLogs (modify change : Session Unit) := h

theorem onlyLogs_ask (question : FileTree → Except Failure α) : OnlyLogs (ask question) := by
  refine onlyLogs_get.bind ?_
  intro world
  cases question world.tree with
  | ok answer => exact onlyLogs_pure answer
  | error failure => exact onlyLogs_throw failure

theorem onlyLogs_foldlM {step : β → α → Session β} (h : ∀ b a, OnlyLogs (step b a))
    (list : List α) (b : β) : OnlyLogs (list.foldlM step b) := by
  induction list generalizing b with
  | nil => exact onlyLogs_pure b
  | cons a list ih =>
    rw [List.foldlM_cons]
    exact (h b a).bind ih

end Session

end Breadcrumb
