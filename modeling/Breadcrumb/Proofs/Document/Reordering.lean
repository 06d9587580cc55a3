import Breadcrumb.Document.Markdown
import Breadcrumb.Proofs.Trail.Conservation
import Breadcrumb.Proofs.Trail.Reordering

namespace Breadcrumb

theorem Text.eq_of_le {a b : Text} (hab : a < b ∨ a = b) (hba : b < a ∨ b = a) : a = b := by
  rcases hab with hlt | heq
  · rcases hba with hgt | heq
    · exact (List.lt_irrefl _ (List.lt_trans hlt hgt)).elim
    · exact heq.symm
  · exact heq

theorem Tree.ofTrail_unnamed (trail : List Crumb) :
    Tree.ofTrail (trail.map Crumb.unnamed) = Tree.ofTrail trail := by
  rw [Tree.ofTrail, List.foldl_map]
  rfl

namespace Document.Markdown

variable {grouped grouped' : Grouped} {trails trails' : Trails}

theorem trail_unnamed (frame : Frame) (name : Text) (crumbs : List Crumb) :
    trail frame name (crumbs.map Crumb.unnamed) = trail frame name crumbs := by
  rw [trail, Tree.ofTrail_unnamed, List.flatMap_map]
  rfl

theorem sorted_mapCrumbs (f : Crumb → Crumb) (trails : Trails) :
    sorted (trails.mapCrumbs f) = (sorted trails).mapCrumbs f := by
  refine (List.map_mergeSort ?_).symm
  intro a _ b _
  rfl

theorem trailSection_unnamed (frame : Frame) (title : Text) (trails : Trails) :
    trailSection frame title (trails.mapCrumbs Crumb.unnamed) = trailSection frame title trails := by
  simp only [trailSection, Trails.mapCrumbs, List.isEmpty_map, List.flatMap_map, trail_unnamed]

theorem trailEntries_mapCrumbs (f : Crumb → Crumb) (title anchor : Text) (trails : Trails) :
    trailEntries title anchor (trails.mapCrumbs f) = trailEntries title anchor trails := by
  simp only [trailEntries, Trails.mapCrumbs, List.isEmpty_map, List.flatMap_map]

def Remark.unnamed (remark : Remark) : Remark := { remark with crumb := remark.crumb.unnamed }

theorem remarksFrom_unnamed (seen : List Text) (crumbs : List Crumb) :
    remarksFrom seen (crumbs.map Crumb.unnamed) = (remarksFrom seen crumbs).map Remark.unnamed := by
  induction crumbs generalizing seen with
  | nil => rfl
  | cons crumb crumbs ih => exact congrArg _ (ih _)

theorem remarkEntries_unnamed (remarks : List Remark) :
    remarkEntries (remarks.map Remark.unnamed) = remarkEntries remarks := by
  simp only [remarkEntries, List.isEmpty_map, List.flatMap_map, Remark.unnamed]

theorem remarkSection_unnamed (frame : Frame) (remarks : List Remark) :
    remarkSection frame (remarks.map Remark.unnamed) = remarkSection frame remarks := by
  simp only [remarkSection, List.isEmpty_map, List.flatMap_map]
  rfl

theorem length_flatMap_mapCrumbs (f : Crumb → Crumb) (trails : Trails) :
    ((trails.mapCrumbs f).flatMap (·.2)).length = (trails.flatMap (·.2)).length := by
  simp only [Trails.mapCrumbs, List.flatMap_map, List.length_flatMap, List.length_map]

theorem stats_mapCrumbs (f : Crumb → Crumb) (grouped : Grouped) :
    (grouped.mapCrumbs f).stats = grouped.stats := by
  simp only [Grouped.stats, Grouped.crumbs, Grouped.mapCrumbs, List.length_append, List.length_map,
    length_flatMap_mapCrumbs]
  simp only [Trails.mapCrumbs, List.length_map]

/-- The document shows no names of crumbs. -/
theorem document_unnamed (frame : Frame) (grouped : Grouped) :
    document frame (grouped.mapCrumbs Crumb.unnamed) = document frame grouped := by
  simp only [document, stats_mapCrumbs]
  simp only [Grouped.mapCrumbs, sorted_mapCrumbs, trailEntries_mapCrumbs, trailSection_unnamed,
    remarks, remarksFrom_unnamed, remarkEntries_unnamed, remarkSection_unnamed]

theorem sorted_perm (trails : Trails) : (sorted trails).Perm trails := List.mergeSort_perm _ _

theorem pairwise_sorted (trails : Trails) :
    (sorted trails).Pairwise fun a b => a.1 < b.1 ∨ a.1 = b.1 := by
  simp only [← Text.le_iff]
  apply List.pairwise_mergeSort
  · intro a b c
    exact Text.le_trans
  · intro a b
    exact (Bool.or_eq_true _ _).mpr (Text.le_total a.1 b.1)

theorem sorted_eq_of_perm (h : trails.Perm trails') (hnames : (trails.map (·.1)).Nodup) :
    sorted trails = sorted trails' := by
  have hsorted := sorted_perm trails
  have hsorted' := sorted_perm trails'
  refine List.Perm.eq_of_pairwise ?_ (pairwise_sorted trails) (pairwise_sorted trails')
    ((hsorted.trans h).trans hsorted'.symm)
  intro a b ha hb hab hba
  have hb' := h.mem_iff.2 (hsorted'.mem_iff.1 hb)
  exact List.inj_on_of_nodup_map hnames (hsorted.mem_iff.1 ha) hb' (Text.eq_of_le hab hba)

theorem stats_eq_of_perm (hmain : grouped.main.Perm grouped'.main)
    (hside : grouped.side.Perm grouped'.side) (hremarks : grouped.remarks.Perm grouped'.remarks) :
    grouped.stats = grouped'.stats := by
  have hcrumbs : grouped.crumbs.Perm grouped'.crumbs :=
    ((hmain.flatMap_right _).append (hside.flatMap_right _)).append hremarks
  rw [Grouped.stats, Grouped.stats, hmain.length_eq, hside.length_eq, hremarks.length_eq,
    hcrumbs.length_eq]

/-- The order in which the trails came up makes no difference to the document. -/
theorem document_eq_of_perm (frame : Frame) (hmain : grouped.main.Perm grouped'.main)
    (hside : grouped.side.Perm grouped'.side) (hremarks : grouped.remarks = grouped'.remarks)
    (hmainNames : (grouped.main.map (·.1)).Nodup) (hsideNames : (grouped.side.map (·.1)).Nodup) :
    document frame grouped = document frame grouped' := by
  have hstats := stats_eq_of_perm hmain hside (hremarks ▸ .refl _)
  simp only [document, hstats, sorted_eq_of_perm hmain hmainNames,
    sorted_eq_of_perm hside hsideNames, hremarks]

end Document.Markdown

namespace Assembly

variable {crumbs crumbs' : List Crumb}

theorem names_build (entry : Text) (crumbs : List Crumb) :
    (ofCrumbs entry crumbs).build.main.map (·.1) = mainNames entry crumbs ∧
    (ofCrumbs entry crumbs).build.side.map (·.1) = sideNames entry crumbs := by
  simp [build_ofCrumbs, Trails.ofNames, Function.comp_def]

theorem eq_byStep_of_mem_build {entry : Text}
    (h : (name, trail) ∈
      (ofCrumbs entry crumbs).build.main ++ (ofCrumbs entry crumbs).build.side) :
    trail = byStep (crumbsOf crumbs name) := by
  rw [build_ofCrumbs, ← Trails.ofNames_append] at h
  obtain ⟨other, -, heq⟩ := List.mem_map.1 h
  cases heq
  rfl

theorem stats_build_eq_of_perm (entry : Text) (h : crumbs.Perm crumbs') :
    (ofCrumbs entry crumbs).build.stats = (ofCrumbs entry crumbs').build.stats := by
  have htotal := (((build_crumbs_perm entry crumbs).trans h).trans
    (build_crumbs_perm entry crumbs').symm).length_eq
  have hmain := (mainNames_perm entry h).length_eq
  have hside := (sideNames_perm entry h).length_eq
  have hremarks := (crumbsOf_perm h []).length_eq
  rw [Grouped.stats, Grouped.stats, htotal]
  simp only [build_ofCrumbs, Trails.ofNames, List.length_map, List.length_mergeSort, hmain, hside,
    hremarks]

theorem steps_crumbsOf_unnamed (crumbs : List Crumb) (name : Text) :
    (byStep (crumbsOf (crumbs.map Crumb.unnamed) name)).map (·.step) =
      (byStep (crumbsOf crumbs name)).map (·.step) := by
  rw [crumbsOf_map Crumb.keepsGroup_unnamed, byStep_map Crumb.keepsGroup_unnamed, List.map_map]
  rfl

end Assembly

namespace Document.Markdown

open Assembly

theorem document_build_eq_of_perm (frame : Frame) (entry : Text) {crumbs crumbs' : List Crumb}
    (h : crumbs.Perm crumbs') (hapart : TellsApart crumbs) :
    document frame (ofCrumbs entry crumbs).build = document frame (ofCrumbs entry crumbs').build := by
  obtain ⟨hmain, hside, hremarks⟩ := build_perm entry h hapart
  apply document_eq_of_perm frame hmain hside hremarks
  · rw [(names_build entry crumbs).1]
    exact nodup_mainNames entry crumbs
  · rw [(names_build entry crumbs).2]
    exact nodup_sideNames entry crumbs

/-- The same crumbs in another order and under other names give the same main and side trails, the
same numbers and in each trail the same steps. If they can be told apart, they give the same
document. -/
theorem document_independent_of_order (entry : Option Text) (frame : Frame)
    (files files' : List (List Crumb))
    (hperm : (files.flatten.map Crumb.unnamed).Perm (files'.flatten.map Crumb.unnamed)) :
    let grouped := regroup (entry.getD []) files
    let grouped' := regroup (entry.getD []) files'
    (grouped.main.map (·.1)).Perm (grouped'.main.map (·.1)) ∧
    (grouped.side.map (·.1)).Perm (grouped'.side.map (·.1)) ∧
    grouped.stats = grouped'.stats ∧
    (∀ name trail trail', (name, trail) ∈ grouped.main ++ grouped.side →
      (name, trail') ∈ grouped'.main ++ grouped'.side →
        trail.map (·.step) = trail'.map (·.step)) ∧
    (TellsApart files.flatten → document frame grouped = document frame grouped') := by
  intro grouped grouped'
  have hunnamed (files : List (List Crumb)) :
      (ofCrumbs (entry.getD []) (files.flatten.map Crumb.unnamed)).build =
        (regroup (entry.getD []) files).mapCrumbs Crumb.unnamed := by
    rw [regroup_eq_build, build_ofCrumbs_map Crumb.keepsGroup_unnamed]
  refine ⟨?_, ?_, ?_, ?_, ?_⟩
  · simp only [grouped, grouped', regroup_eq_build, (names_build _ _).1]
    simpa only [mainNames_map Crumb.keepsGroup_unnamed] using mainNames_perm (entry.getD []) hperm
  · simp only [grouped, grouped', regroup_eq_build, (names_build _ _).2]
    simpa only [sideNames_map Crumb.keepsGroup_unnamed] using sideNames_perm (entry.getD []) hperm
  · have hstats := stats_build_eq_of_perm (entry.getD []) hperm
    rwa [hunnamed, hunnamed, stats_mapCrumbs, stats_mapCrumbs] at hstats
  · intro name trail trail' htrail htrail'
    simp only [grouped, grouped', regroup_eq_build] at htrail htrail'
    rw [eq_byStep_of_mem_build htrail, eq_byStep_of_mem_build htrail', ← steps_crumbsOf_unnamed,
      ← steps_crumbsOf_unnamed files'.flatten]
    exact steps_byStep_eq (crumbsOf_perm hperm name)
  · intro hapart
    have hdocument := document_build_eq_of_perm frame (entry.getD []) hperm
      (List.pairwise_map.2 hapart)
    rwa [hunnamed, hunnamed, document_unnamed, document_unnamed] at hdocument

def scattered : List (List Crumb) :=
  [[{ id := "1".toList, path := "b.go".toList, trail := "T".toList, step := 2 },
      { id := "2".toList, path := "b.go".toList, line := 7, title := "x".toList }],
    [{ id := "3".toList, path := "main.go".toList, trail := "T".toList, step := 1 },
      { id := "4".toList, path := "b.go".toList, line := 5 },
      { id := "5".toList, path := "c.go".toList, trail := "S".toList, step := 1 }]]

def gathered : List (List Crumb) :=
  [scattered.flatten.reverse.map fun crumb => { crumb with id := 'n' :: crumb.id }]

theorem document_independent_of_order_scattered :
    (scattered.flatten.map Crumb.unnamed).Perm (gathered.flatten.map Crumb.unnamed) ∧
    TellsApart scattered.flatten ∧
    ∀ frame, document frame (regroup "main.go".toList scattered) =
      document frame (regroup "main.go".toList gathered) := by
  have hperm : (scattered.flatten.map Crumb.unnamed).Perm (gathered.flatten.map Crumb.unnamed) := by
    decide
  have hapart : TellsApart scattered.flatten := by decide
  refine ⟨hperm, hapart, ?_⟩
  intro frame
  obtain ⟨-, -, -, -, hdocument⟩ := document_independent_of_order (some "main.go".toList) frame
    scattered gathered hperm
  exact hdocument hapart

end Document.Markdown

end Breadcrumb
