import Breadcrumb.Document
import Breadcrumb.Document.Markdown
import Breadcrumb.Proofs.Trail.Mapping

namespace Breadcrumb

theorem Integer.written_eq_ok_iff : Integer.written integers text = .ok text' ↔
    (∀ n ∈ integers, Integer.isPrintable n = true) ∧ text' = text := by
  rw [Integer.written, ← List.all_eq_true]
  split
  · rename_i hall
    rw [and_iff_right hall, Except.ok.injEq, eq_comm]
  · rename_i hall
    exact iff_of_false nofun fun h => hall h.1

namespace Document

theorem json?_eq_ok_iff : json? grouped = .ok text ↔
    (∀ n ∈ integers grouped, Integer.isPrintable n = true) ∧ text = json grouped :=
  Integer.written_eq_ok_iff

theorem Markdown.document?_eq_ok_iff {frame : Frame} : document? frame grouped = .ok text ↔
    (∀ n ∈ integers grouped, Integer.isPrintable n = true) ∧ text = document frame grouped :=
  Integer.written_eq_ok_iff

theorem flatMap_mapCrumbs (f : Crumb → Crumb) (trails : Trails) :
    (trails.mapCrumbs f).flatMap (·.2) = (trails.flatMap (·.2)).map f := by
  simp only [Trails.mapCrumbs, List.flatMap_map, List.map_flatMap]

theorem flatMap_integers_map {f : Crumb → Crumb} (hf : Crumb.KeepsGroup f) (crumbs : List Crumb) :
    (crumbs.map f).flatMap Crumb.integers = crumbs.flatMap Crumb.integers := by
  have hcrumb (crumb : Crumb) : (f crumb).integers = crumb.integers := by
    rw [Crumb.integers, Crumb.integers, hf.step, hf.line]
  simp only [List.flatMap_map, hcrumb]

theorem integers_mapCrumbs {f : Crumb → Crumb} (hf : Crumb.KeepsGroup f) (grouped : Grouped) :
    integers (grouped.mapCrumbs f) = integers grouped := by
  simp only [integers, Grouped.crumbs, Grouped.mapCrumbs, flatMap_mapCrumbs, ← List.map_append]
  exact flatMap_integers_map hf _

theorem Markdown.integers_mapCrumbs {f : Crumb → Crumb} (hf : Crumb.KeepsGroup f)
    (grouped : Grouped) : integers (grouped.mapCrumbs f) = integers grouped := by
  simp only [integers, Grouped.mapCrumbs, flatMap_mapCrumbs, ← List.map_append,
    flatMap_integers_map hf, List.map_map, Function.comp_def, hf.line]

end Document

end Breadcrumb
