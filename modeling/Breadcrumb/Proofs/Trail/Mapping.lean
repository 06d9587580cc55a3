import Breadcrumb.Proofs.Trail.Assembly

namespace Breadcrumb

namespace Crumb

def unnamed (crumb : Crumb) : Crumb := { crumb with id := [] }

/-- The change leaves alone what crumbs are grouped by. -/
structure KeepsGroup (f : Crumb → Crumb) : Prop where
  trail : ∀ crumb, (f crumb).trail = crumb.trail
  step : ∀ crumb, (f crumb).step = crumb.step
  path : ∀ crumb, (f crumb).path = crumb.path
  line : ∀ crumb, (f crumb).line = crumb.line

theorem keepsGroup_unnamed : KeepsGroup unnamed :=
  ⟨fun _ => rfl, fun _ => rfl, fun _ => rfl, fun _ => rfl⟩

end Crumb

def Trails.mapCrumbs (f : Crumb → Crumb) (trails : Trails) : Trails :=
  List.map (fun (name, trail) => (name, trail.map f)) trails

/-- Changes every crumb of a grouping where it stands. -/
def Grouped.mapCrumbs (f : Crumb → Crumb) (grouped : Grouped) : Grouped where
  main := grouped.main.mapCrumbs f
  side := grouped.side.mapCrumbs f
  remarks := grouped.remarks.map f

namespace Assembly

variable {f : Crumb → Crumb}

theorem trailNames_map (hf : Crumb.KeepsGroup f) (crumbs : List Crumb) :
    trailNames (crumbs.map f) = trailNames crumbs := by
  simp only [trailNames, List.filter_map, List.map_map, Function.comp_def, hf.trail]

theorem mainNames_map (hf : Crumb.KeepsGroup f) (entry : Text) (crumbs : List Crumb) :
    mainNames entry (crumbs.map f) = mainNames entry crumbs := by
  have htouches (crumb : Crumb) : Touches entry (f crumb) = Touches entry crumb := by
    rw [Touches, Touches, hf.path]
  simp only [mainNames, List.filter_map, Function.comp_def, htouches]
  exact trailNames_map hf _

theorem sideNames_map (hf : Crumb.KeepsGroup f) (entry : Text) (crumbs : List Crumb) :
    sideNames entry (crumbs.map f) = sideNames entry crumbs := by
  simp only [sideNames, trailNames_map hf, mainNames_map hf]

theorem crumbsOf_map (hf : Crumb.KeepsGroup f) (crumbs : List Crumb) (name : Text) :
    crumbsOf (crumbs.map f) name = (crumbsOf crumbs name).map f := by
  simp only [crumbsOf, List.filter_map, Function.comp_def, hf.trail]

theorem byStep_map (hf : Crumb.KeepsGroup f) (trail : List Crumb) :
    byStep (trail.map f) = (byStep trail).map f := by
  refine (List.map_mergeSort ?_).symm
  intro a _ b _
  rw [hf.step, hf.step]

theorem mergeSort_placeLe_map (hf : Crumb.KeepsGroup f) (remarks : List Crumb) :
    (remarks.map f).mergeSort placeLe = (remarks.mergeSort placeLe).map f := by
  refine (List.map_mergeSort ?_).symm
  intro a _ b _
  simp only [placeLe, hf.path, hf.line]

theorem mapCrumbs_ofNames (names : List Text) (trail : Text → List Crumb) :
    (Trails.ofNames names trail).mapCrumbs f = .ofNames names fun name => (trail name).map f := by
  simp only [Trails.ofNames, Trails.mapCrumbs, List.map_map, Function.comp_def]

theorem build_ofCrumbs_map (hf : Crumb.KeepsGroup f) (entry : Text) (crumbs : List Crumb) :
    (ofCrumbs entry (crumbs.map f)).build = (ofCrumbs entry crumbs).build.mapCrumbs f := by
  simp only [build_ofCrumbs, Grouped.mapCrumbs, mapCrumbs_ofNames, mainNames_map hf,
    sideNames_map hf, crumbsOf_map hf, byStep_map hf, mergeSort_placeLe_map hf]

/-- Files that hold the same crumbs but for their names are grouped alike but for the names. -/
theorem regroup_unnamed_congr (entry : Text) {files files' : List (List Crumb)}
    (h : files.flatten.map Crumb.unnamed = files'.flatten.map Crumb.unnamed) :
    (regroup entry files).mapCrumbs Crumb.unnamed =
      (regroup entry files').mapCrumbs Crumb.unnamed := by
  rw [regroup_eq_build, regroup_eq_build, ← build_ofCrumbs_map Crumb.keepsGroup_unnamed, h,
    build_ofCrumbs_map Crumb.keepsGroup_unnamed]

end Assembly

end Breadcrumb
