import Breadcrumb.Proofs.Document.Printing
import Breadcrumb.Proofs.FileTree.Proper
import Breadcrumb.Proofs.Json.RoundTrip

namespace Breadcrumb

def Crumb.settled (crumb : Crumb) : Crumb := { crumb with peek := 0 }

/-- No two main trails and no two side trails have the same name. -/
structure Grouped.NamesApart (grouped : Grouped) : Prop where
  main : (grouped.main.map (·.1)).Nodup
  side : (grouped.side.map (·.1)).Nodup

namespace Document

def text? : Json → Option Text
  | .str text => some text
  | _ => none

def int? : Json → Option Int
  | .int n => some n
  | _ => none

def list? (item? : Json → Option α) : Json → Option (List α)
  | .arr items => items.mapM item?
  | _ => none

/-- An object as a dictionary: a name that comes again replaces the value in its old place. -/
def dictionary? (item? : Json → Option α) : Json → Option (List (Text × α))
  | .obj fields => do
    let fields ← fields.mapM fun field => (item? field.2).map (field.1, ·)
    return fields.foldl (fun fields field => Named.set fields field.1 field.2) []
  | _ => none

def required? (fields : List (Text × Json)) (name : String) (value? : Json → Option α) : Option α :=
  (Json.field? fields name.toList).bind value?

def optional? (fields : List (Text × Json)) (name : String) (value? : Json → Option α)
    (default : α) : Option α :=
  match Json.field? fields name.toList with
  | some value => value? value
  | none => some default

def crumb? : Json → Option Crumb
  | .obj fields => do
    return {
      id := ← required? fields "id" text?
      title := ← required? fields "title" text?
      trail := ← optional? fields "trail_id" text? []
      step := ← optional? fields "trail_step" int? 0
      description := ← required? fields "desc_lines" (list? text?)
      path := ← required? fields "source_path" text?
      line := ← required? fields "source_line" int?
      peeked := ← required? fields "peeked_lines" (list? text?)
      language := ← required? fields "lang_name" text? }
  | _ => none

/-- What a document's value says about the crumbs. -/
def grouped? : Json → Option Grouped
  | .obj fields => do
    return {
      main := ← required? fields "main_trails" (dictionary? (list? crumb?))
      side := ← required? fields "side_trails" (dictionary? (list? crumb?))
      remarks := ← required? fields "remarks" (list? crumb?) }
  | _ => none

theorem mapM_written (write : α → β) (read? : β → Option γ) (f : α → γ)
    (hread : ∀ a, read? (write a) = some (f a)) (list : List α) :
    (list.map write).mapM read? = some (list.map f) := by
  induction list with
  | nil => rfl
  | cons a list ih =>
    rw [List.map_cons, List.mapM_cons, hread, ih]
    rfl

theorem list?_strs (texts : List Text) : list? text? (.strs texts) = some texts := by
  have hread := mapM_written Json.str text? id (fun _ => rfl) texts
  rwa [List.map_id] at hread

theorem field?_of_mem {fields : List (Text × Json)} (hnodup : (fields.map (·.1)).Nodup)
    (h : (name, v) ∈ fields) : Json.field? fields name = some v := by
  apply Named.get?_of_mem
  · rw [List.map_reverse]
    exact List.nodup_reverse.2 hnodup
  · exact List.mem_reverse.2 h

theorem field?_of_notMem (h : name ∉ fields.map (·.1)) : Json.field? fields name = none := by
  rw [Json.field?, Option.map_eq_none_iff, List.find?_eq_none]
  intro field hfield
  rw [decide_eq_true_eq]
  rintro rfl
  exact h (List.mem_map_of_mem (List.mem_reverse.1 hfield))

theorem crumbFields_names (crumb : Crumb) :
    (crumbFields crumb).map (·.1) =
      ["id".toList, "title".toList] ++
        (if crumb.trail.isEmpty then [] else ["trail_id".toList]) ++
        (if crumb.step = 0 then [] else ["trail_step".toList]) ++
        ["desc_lines".toList, "source_path".toList, "source_line".toList, "peeked_lines".toList,
          "lang_name".toList] := by
  rw [crumbFields, List.map_append, List.map_append, List.map_append, apply_ite (List.map _),
    apply_ite (List.map _)]
  rfl

theorem crumbFields_names_nodup (crumb : Crumb) : ((crumbFields crumb).map (·.1)).Nodup := by
  rw [crumbFields_names]
  split <;> split <;> decide

theorem field?_crumbFields {crumb : Crumb} (h : (name, v) ∈ crumbFields crumb) :
    Json.field? (crumbFields crumb) name = some v :=
  field?_of_mem (crumbFields_names_nodup crumb) h

theorem optional?_trail (crumb : Crumb) :
    optional? (crumbFields crumb) "trail_id" text? [] = some crumb.trail := by
  by_cases htrail : crumb.trail = []
  · have hmissing : "trail_id".toList ∉ (crumbFields crumb).map (·.1) := by
      rw [crumbFields_names, htrail, if_pos List.isEmpty_nil]
      split <;> decide
    rw [optional?, field?_of_notMem hmissing, htrail]
  · have hfield : ("trail_id".toList, Json.str crumb.trail) ∈ crumbFields crumb := by
      refine List.mem_append_left _ (List.mem_append_left _ (List.mem_append_right _ ?_))
      rw [if_neg (by simpa using htrail)]
      exact List.mem_singleton_self _
    rw [optional?, field?_crumbFields hfield]
    rfl

theorem optional?_step (crumb : Crumb) :
    optional? (crumbFields crumb) "trail_step" int? 0 = some crumb.step := by
  by_cases hstep : crumb.step = 0
  · have hmissing : "trail_step".toList ∉ (crumbFields crumb).map (·.1) := by
      rw [crumbFields_names, if_pos hstep]
      split <;> decide
    rw [optional?, field?_of_notMem hmissing, hstep]
  · have hfield : ("trail_step".toList, Json.int crumb.step) ∈ crumbFields crumb := by
      refine List.mem_append_left _ (List.mem_append_right _ ?_)
      rw [if_neg hstep]
      exact List.mem_singleton_self _
    rw [optional?, field?_crumbFields hfield]
    rfl

theorem crumb?_crumbFields (crumb : Crumb) :
    crumb? (.obj (crumbFields crumb)) = some crumb.settled := by
  have hfront {name : Text} {v : Json}
      (h : (name, v) ∈ [("id".toList, Json.str crumb.id), ("title".toList, .str crumb.title)]) :
      Json.field? (crumbFields crumb) name = some v :=
    field?_crumbFields (List.mem_append_left _ (List.mem_append_left _ (List.mem_append_left _ h)))
  have hid : Json.field? (crumbFields crumb) "id".toList = some (.str crumb.id) :=
    hfront (.head _)
  have htitle : Json.field? (crumbFields crumb) "title".toList = some (.str crumb.title) :=
    hfront (.tail _ (.head _))
  have hdescription : Json.field? (crumbFields crumb) "desc_lines".toList =
      some (.strs crumb.description) := field?_crumbFields (List.mem_append_right _ (.head _))
  have hpath : Json.field? (crumbFields crumb) "source_path".toList = some (.str crumb.path) :=
    field?_crumbFields (List.mem_append_right _ (.tail _ (.head _)))
  have hline : Json.field? (crumbFields crumb) "source_line".toList = some (.int crumb.line) :=
    field?_crumbFields (List.mem_append_right _ (.tail _ (.tail _ (.head _))))
  have hpeeked : Json.field? (crumbFields crumb) "peeked_lines".toList = some (.strs crumb.peeked) :=
    field?_crumbFields (List.mem_append_right _ (.tail _ (.tail _ (.tail _ (.head _)))))
  have hlanguage : Json.field? (crumbFields crumb) "lang_name".toList =
      some (.str crumb.language) :=
    field?_crumbFields (List.mem_append_right _ (.tail _ (.tail _ (.tail _ (.tail _ (.head _))))))
  simp only [crumb?, required?, hid, htitle, optional?_trail, optional?_step, hdescription, hpath,
    hline, hpeeked, hlanguage, Option.bind_some, text?, int?, list?_strs]
  rfl

theorem list?_crumbs (list : List Crumb) :
    list? crumb? (crumbs list) = some (list.map Crumb.settled) :=
  mapM_written _ _ _ crumb?_crumbFields list

theorem dictionary?_trails (trails : Trails) (h : (trails.map (·.1)).Nodup) :
    dictionary? (list? crumb?) (Document.trails trails) = some (trails.mapCrumbs Crumb.settled) := by
  have hnames : ((trails.mapCrumbs Crumb.settled).map (·.1)).Nodup := by
    rw [Trails.mapCrumbs, List.map_map]
    exact h
  have hread (entry : Text × List Crumb) :
      (list? crumb? (crumbs entry.2)).map (entry.1, ·) =
        some (entry.1, entry.2.map Crumb.settled) := by
    rw [list?_crumbs]
    rfl
  rw [Document.trails, dictionary?, mapM_written _ _ _ hread]
  exact congrArg some (Named.foldl_set [] (trails.mapCrumbs Crumb.settled) hnames)

theorem grouped?_value (h : grouped.NamesApart) :
    grouped? (value grouped) = some (grouped.mapCrumbs Crumb.settled) := by
  let fields : List (Text × Json) :=
    [("main_trails".toList, trails grouped.main), ("side_trails".toList, trails grouped.side),
      ("remarks".toList, crumbs grouped.remarks)]
  have hnames : ["main_trails".toList, "side_trails".toList, "remarks".toList].Nodup := by decide
  have hmain : Json.field? fields "main_trails".toList = some (trails grouped.main) :=
    field?_of_mem hnames (.head _)
  have hside : Json.field? fields "side_trails".toList = some (trails grouped.side) :=
    field?_of_mem hnames (.tail _ (.head _))
  have hremarks : Json.field? fields "remarks".toList = some (crumbs grouped.remarks) :=
    field?_of_mem hnames (.tail _ (.tail _ (.head _)))
  change grouped? (.obj fields) = _
  simp only [grouped?, required?, hmain, hside, hremarks, Option.bind_some,
    dictionary?_trails _ h.main, dictionary?_trails _ h.side, list?_crumbs]
  rfl

theorem printable_strs (texts : List Text) : Json.Printable (.strs texts) := by
  refine .arr ?_
  intro item hitem
  obtain ⟨text, -, rfl⟩ := List.mem_map.1 hitem
  exact .str

/-- The integers of the crumb have no more digits than can be written. -/
structure Printable (crumb : Crumb) : Prop where
  step : (Text.ofNat crumb.step.natAbs).length ≤ Integer.maxDigits
  line : (Text.ofNat crumb.line.natAbs).length ≤ Integer.maxDigits

theorem printable_iff : Printable crumb ↔
    ∀ n ∈ crumb.integers, Integer.isPrintable n = true := by
  simp only [Crumb.integers, List.forall_mem_cons, List.not_mem_nil, false_implies, implies_true,
    and_true, Integer.isPrintable, decide_eq_true_eq]
  exact ⟨fun h => ⟨h.step, h.line⟩, fun h => ⟨h.1, h.2⟩⟩

theorem exists_json?_iff :
    (∃ text, json? grouped = .ok text) ↔ ∀ crumb ∈ grouped.crumbs, Printable crumb := by
  simp only [json?_eq_ok_iff, exists_and_left, exists_eq, and_true, integers,
    List.forall_mem_flatMap, printable_iff]

theorem Printable.crumbFields (h : Printable crumb) :
    Json.Printable (.obj (crumbFields crumb)) := by
  refine .obj ?_
  simp only [Document.crumbFields, List.forall_mem_append, List.forall_mem_cons, List.not_mem_nil,
    false_implies, implies_true, and_true]
  have hline : Json.Printable (.int crumb.line) := .int (decide_eq_true h.line)
  refine ⟨⟨⟨⟨.str, .str⟩, ?_⟩, ?_⟩, printable_strs _, .str, hline, printable_strs _, .str⟩
  · split
    · nofun
    · exact List.forall_mem_singleton.2 .str
  · split
    · nofun
    · exact List.forall_mem_singleton.2 (.int (decide_eq_true h.step))

theorem printable_crumbs (h : ∀ crumb ∈ list, Printable crumb) : Json.Printable (crumbs list) := by
  refine .arr ?_
  intro item hitem
  obtain ⟨crumb, hcrumb, rfl⟩ := List.mem_map.1 hitem
  exact (h crumb hcrumb).crumbFields

theorem printable_trails {list : Trails} (h : ∀ crumb ∈ list.flatMap (·.2), Printable crumb) :
    Json.Printable (trails list) := by
  refine .obj ?_
  intro field hfield
  obtain ⟨⟨name, trail⟩, htrail, rfl⟩ := List.mem_map.1 hfield
  exact printable_crumbs fun crumb hcrumb => h crumb (List.mem_flatMap.2 ⟨_, htrail, hcrumb⟩)

theorem printable_value (h : ∀ crumb ∈ grouped.crumbs, Printable crumb) :
    Json.Printable (value grouped) := by
  simp only [Grouped.crumbs, List.forall_mem_append] at h
  obtain ⟨⟨hmain, hside⟩, hremarks⟩ := h
  refine .obj ?_
  simp only [List.forall_mem_cons, List.not_mem_nil, false_implies, implies_true, and_true]
  exact ⟨printable_trails hmain, printable_trails hside, printable_crumbs hremarks⟩

theorem read_of_json? (h : json? grouped = .ok text) : Json.read text = .ok (value grouped) := by
  have hprintable := exists_json?_iff.1 ⟨text, h⟩
  obtain ⟨-, rfl⟩ := json?_eq_ok_iff.1 h
  exact Json.read_pretty (printable_value hprintable)

/-- There is a document if no step and no line is too long to be written. It is JSON, and all but the
numbers of lines still waited for can be told from it, so that two documents are the same only if
they are made of the same crumbs. -/
theorem json_loses_only_peek (grouped : Grouped) (h : grouped.NamesApart) :
    ((∃ text, json? grouped = .ok text) ↔ ∀ crumb ∈ grouped.crumbs, Printable crumb) ∧
    ∀ text, json? grouped = .ok text →
      (∃ v, Json.read text = .ok v ∧ grouped? v = some (grouped.mapCrumbs Crumb.settled)) ∧
      ∀ other : Grouped, other.NamesApart → json? other = .ok text →
        grouped.mapCrumbs Crumb.settled = other.mapCrumbs Crumb.settled := by
  refine ⟨exists_json?_iff, ?_⟩
  intro text htext
  have hread := read_of_json? htext
  refine ⟨⟨value grouped, hread, grouped?_value h⟩, ?_⟩
  intro other hother htext'
  rw [read_of_json? htext', Except.ok.injEq] at hread
  apply Option.some.inj
  rw [← grouped?_value h, ← grouped?_value hother, hread]

def quotedCrumb : Crumb where
  id := "\"\\\"".toList
  path := "a/\té😀.go".toList
  line := -7
  language := "\x7f\x01".toList
  title := "\\u0041\n\r".toList
  trail := "\"t".toList
  step := 1180591620717411303424
  description := ["".toList, "]\x7d".toList]
  peek := 3

def quotedGrouped : Grouped where
  main := [("\"t".toList, [quotedCrumb]), ([], [])]
  side := [("\"t".toList, [])]
  remarks := [{}, { peek := 1 }]

theorem json_loses_only_peek_quoted :
    quotedGrouped.NamesApart ∧
    ∃ text v, json? quotedGrouped = .ok text ∧ Json.read text = .ok v ∧
      grouped? v = some
        { main := [("\"t".toList, [{ quotedCrumb with peek := 0 }]), ([], [])]
          side := [("\"t".toList, [])]
          remarks := [{}, {}] } := by
  have hnames : quotedGrouped.NamesApart := ⟨by decide, by decide⟩
  have hprintable : ∀ n ∈ integers quotedGrouped, Integer.isPrintable n = true := by decide
  have htext := json?_eq_ok_iff.2 ⟨hprintable, rfl⟩
  obtain ⟨⟨v, hread, hgrouped⟩, -⟩ := (json_loses_only_peek quotedGrouped hnames).2 _ htext
  exact ⟨hnames, _, v, htext, hread, hgrouped⟩

/-- The least number with more digits than can be written. -/
def endlessStep : Nat := Nat.pow 10 Integer.maxDigits

def endlessGrouped : Grouped where
  remarks := [{ step := endlessStep }]

theorem json_fails_endless : endlessGrouped.NamesApart ∧
    json? endlessGrouped = .error .tooManyDigits ∧ ∀ text, json? endlessGrouped ≠ .ok text := by
  have hlong : Integer.isPrintable endlessStep = false := by
    rw [Integer.isPrintable, decide_eq_false_iff_not, Int.natAbs_natCast, Nat.not_le]
    unfold endlessStep
    exact Text.lt_length_ofNat_pow Integer.maxDigits (by decide)
  have herror : json? endlessGrouped = .error .tooManyDigits := by
    have hstep : (endlessStep : Int) ∈ integers endlessGrouped := List.mem_cons_self
    rw [json?, Integer.written, if_neg]
    intro hall
    rw [List.all_eq_true.1 hall _ hstep] at hlong
    cases hlong
  refine ⟨⟨by decide, by decide⟩, herror, ?_⟩
  intro text htext
  cases herror.symm.trans htext

end Document

end Breadcrumb
