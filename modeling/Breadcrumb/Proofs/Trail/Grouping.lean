import Breadcrumb.Proofs.Trail.Assembly

namespace Breadcrumb.Assembly

/-- What is asked of an assembly: to take the crumbs of one file or of several, or to show them. -/
inductive Call where
  | add (crumbs : List Crumb)
  | addAll (files : List (List Crumb))
  | build

def Call.crumbs : Call → List Crumb
  | .add crumbs => crumbs
  | .addAll files => files.flatten
  | .build => []

def perform (assembly : Assembly) : Call → Assembly
  | .add crumbs => assembly.addAll crumbs
  | .addAll files => files.foldl addAll assembly
  | .build => assembly

/-- What the calls that show the crumbs answer. -/
def answers (assembly : Assembly) : List Call → List Grouped
  | [] => []
  | .build :: calls => assembly.build :: answers assembly calls
  | call :: calls => answers (assembly.perform call) calls

/-- All crumbs that came before each of the calls that show them. -/
def histories (crumbs : List Crumb) : List Call → List (List Crumb)
  | [] => []
  | .build :: calls => crumbs :: histories crumbs calls
  | call :: calls => histories (crumbs ++ call.crumbs) calls

/-- The grouping of crumbs by an entry, said of all crumbs at once. -/
structure IsGrouping (entry : Text) (crumbs : List Crumb) (grouped : Grouped) : Prop where
  remarks : IsStableSort PlaceOrder (crumbs.filter (·.trail = [])) grouped.remarks
  trails : ∀ name trail, (name, trail) ∈ grouped.main ++ grouped.side →
    IsStableSort (fun a b => a.step ≤ b.step) (crumbs.filter (·.trail = name)) trail
  mem_main : ∀ name, name ∈ grouped.main.map (·.1) ↔
    name ≠ [] ∧ entry ≠ [] ∧ ∃ crumb ∈ crumbs, crumb.trail = name ∧ entry <:+ crumb.path
  mem_side : ∀ name, name ∈ grouped.side.map (·.1) ↔
    name ≠ [] ∧ (∃ crumb ∈ crumbs, crumb.trail = name) ∧ name ∉ grouped.main.map (·.1)
  main_names : grouped.main.map (·.1) = trailNames (crumbs.filter (Touches entry ·))
  side_names : grouped.side.map (·.1) =
    (trailNames crumbs).filter (· ∉ grouped.main.map (·.1))

theorem perform_ofCrumbs (entry : Text) (crumbs : List Crumb) (call : Call) :
    (ofCrumbs entry crumbs).perform call = ofCrumbs entry (crumbs ++ call.crumbs) := by
  cases call with
  | add more => exact addAll_ofCrumbs entry crumbs more
  | addAll files =>
    simp only [perform, Call.crumbs]
    induction files generalizing crumbs with
    | nil => simp
    | cons file files ih =>
      rw [List.foldl_cons, addAll_ofCrumbs, ih, List.flatten_cons, List.append_assoc]
  | build => simp [perform, Call.crumbs]

theorem foldl_perform_ofCrumbs (entry : Text) (crumbs : List Crumb) (calls : List Call) :
    calls.foldl perform (ofCrumbs entry crumbs) =
      ofCrumbs entry (crumbs ++ calls.flatMap Call.crumbs) := by
  induction calls generalizing crumbs with
  | nil => simp
  | cons call calls ih =>
    rw [List.foldl_cons, perform_ofCrumbs, ih, List.flatMap_cons, List.append_assoc]

theorem names_ofNames_byStep (names : List Text) (trail : Text → List Crumb) :
    ((Trails.ofNames names trail).map fun (name, trail) => (name, byStep trail)).map (·.1) =
      names := by
  simp [Trails.ofNames, Function.comp_def]

theorem isGrouping_build (entry : Text) (crumbs : List Crumb) :
    IsGrouping entry crumbs (ofCrumbs entry crumbs).build := by
  have hmain : (ofCrumbs entry crumbs).build.main.map (·.1) = mainNames entry crumbs :=
    names_ofNames_byStep _ _
  have hside : (ofCrumbs entry crumbs).build.side.map (·.1) = sideNames entry crumbs :=
    names_ofNames_byStep _ _
  refine ⟨isStableSort_placeLe _, ?_, ?_, ?_, hmain, ?_⟩
  · intro name trail h
    have hsorted (names : List Text)
        (h : (name, trail) ∈
          (Trails.ofNames names (crumbsOf crumbs)).map fun (name, trail) => (name, byStep trail)) :
        trail = byStep (crumbsOf crumbs name) := by
      simp only [Trails.ofNames, List.map_map, List.mem_map, Function.comp_apply, Prod.mk.injEq] at h
      obtain ⟨_, -, rfl, rfl⟩ := h
      rfl
    rcases List.mem_append.1 h with h | h
    · exact hsorted _ h ▸ isStableSort_byStep _
    · exact hsorted _ h ▸ isStableSort_byStep _
  · intro name
    rw [hmain, mem_mainNames]
    simp only [Touches]
    constructor
    · rintro ⟨hne, c, hc, hname, hentry, htail⟩
      exact ⟨hne, hentry, c, hc, hname, htail⟩
    · rintro ⟨hne, hentry, c, hc, hname, htail⟩
      exact ⟨hne, c, hc, hname, hentry, htail⟩
  · intro name
    rw [hmain, hside, mem_sideNames, mem_trailNames, and_assoc]
  · rw [hmain, hside]
    rfl

theorem forall₂_histories_answers (entry : Text) (crumbs : List Crumb) (calls : List Call) :
    List.Forall₂ (IsGrouping entry) (histories crumbs calls)
      (answers (ofCrumbs entry crumbs) calls) := by
  induction calls generalizing crumbs with
  | nil => exact .nil
  | cons call calls ih =>
    have hstep := perform_ofCrumbs entry crumbs call
    cases call with
    | build => exact .cons (isGrouping_build entry crumbs) (ih crumbs)
    | add more =>
      simp only [answers, histories, hstep]
      exact ih _
    | addAll files =>
      simp only [answers, histories, hstep]
      exact ih _

/-- Whenever the crumbs are shown, they are grouped as all crumbs added so far are at once. How they
were handed over, and how often they were shown before, makes no difference: the calls leave what
one file with all crumbs would leave. -/
theorem answers_isGrouping (entry : Option Text) (calls : List Call) :
    List.Forall₂ (IsGrouping (entry.getD [])) (histories [] calls)
      (answers { entry := entry.getD [] } calls) ∧
    (calls.foldl perform { entry := entry.getD [] }).build =
      regroup (entry.getD []) [calls.flatMap Call.crumbs] := by
  have hstart : { entry := entry.getD [] } = ofCrumbs (entry.getD []) [] := rfl
  refine ⟨forall₂_histories_answers (entry.getD []) [] calls, ?_⟩
  rw [regroup, hstart, foldl_perform_ofCrumbs, addAll_ofCrumbs, List.flatten_singleton]

end Breadcrumb.Assembly
