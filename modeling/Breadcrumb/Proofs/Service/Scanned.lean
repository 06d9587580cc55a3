import Breadcrumb.Proofs.Run.Conservation
import Breadcrumb.Proofs.Run.Stages

namespace Breadcrumb

namespace Run

variable {world world' : World}

theorem run_conserves (hworld : world.Proper)
    (h : (run registry root overrides).run world = (.ok result, world')) :
    ∃ trips, Conserves trips result.grouped result.notes := by
  obtain ⟨place, chosen, collected, hstages⟩ := stages_of_run h
  have hopened : (world.emitAll (opening place chosen)).Proper := by
    rw [opening]
    split
    · exact (hworld.emit _).emit _
    · exact hworld.emit _
  obtain ⟨trips, -, -, hconserves⟩ := conserves_of_run_collect hopened.tree hstages.collects
  refine ⟨trips, ?_⟩
  rw [hstages.notes, notes_of_deliver hstages.delivers]
  exact hconserves

end Run

namespace Service

/-- Every scan that the service answers conserves the crumbs and the notes. -/
theorem scan_conserves {world world' : World} (hworld : world.Proper)
    (h : scan body world = (.scanned result, world')) :
    ∃ trips, Run.Conserves trips result.grouped result.notes := by
  rw [scan] at h
  split at h
  · cases h
  · cases h
  · split at h
    · rename_i hrun
      cases h
      exact Run.run_conserves hworld hrun
    · have hfailed := (Prod.mk.inj h).1
      rw [failed] at hfailed
      split at hfailed <;> cases hfailed

end Service

end Breadcrumb
