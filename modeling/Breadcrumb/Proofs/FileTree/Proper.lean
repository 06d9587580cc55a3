import Breadcrumb.World
import Mathlib.Data.List.Nodup

namespace Breadcrumb

namespace Named

variable {α : Type} {fields : List (Text × α)} {name : Text} {value : α}

theorem mem_of_get? (h : get? fields name = some value) : (name, value) ∈ fields := by
  obtain ⟨⟨other, _⟩, hfind, rfl⟩ := Option.map_eq_some_iff.1 h
  obtain rfl : other = name := by simpa using List.find?_some hfind
  exact List.mem_of_find?_eq_some hfind

theorem get?_of_mem (hnodup : (fields.map (·.1)).Nodup)
    (h : (name, value) ∈ fields) : get? fields name = some value := by
  induction fields with
  | nil => cases h
  | cons field fields ih =>
    rw [List.map_cons, List.nodup_cons] at hnodup
    rw [get?, List.find?_cons]
    rcases List.mem_cons.1 h with rfl | h
    · simp
    · have hne : field.1 ≠ name := by
        rintro rfl
        exact hnodup.1 (List.mem_map.2 ⟨_, h, rfl⟩)
      rw [decide_eq_false hne]
      exact ih hnodup.2 h

theorem set_of_notMem (value : α) (h : name ∉ fields.map (·.1)) :
    set fields name value = fields ++ [(name, value)] := by
  induction fields with
  | nil => rfl
  | cons field fields ih =>
    obtain ⟨hne, h⟩ := List.ne_and_not_mem_of_not_mem_cons h
    rw [set, if_neg (Ne.symm hne), ih h, List.cons_append]

/-- Names that are all different are put one behind the other. -/
theorem foldl_set (fields more : List (Text × α)) (h : ((fields ++ more).map (·.1)).Nodup) :
    more.foldl (fun fields field => set fields field.1 field.2) fields = fields ++ more := by
  induction more generalizing fields with
  | nil => exact (List.append_nil fields).symm
  | cons field more ih =>
    have hnew : field.1 ∉ fields.map (·.1) := by
      intro hmem
      rw [List.map_append] at h
      exact (List.nodup_append.1 h).2.2 _ hmem _ List.mem_cons_self rfl
    have happend : fields ++ field :: more = fields ++ [field] ++ more := by simp
    rw [happend] at h ⊢
    rw [List.foldl_cons, set_of_notMem _ hnew, ih _ h]

theorem names_set_of_mem (value : α) (h : name ∈ fields.map (·.1)) :
    (set fields name value).map (·.1) = fields.map (·.1) := by
  induction fields with
  | nil => cases h
  | cons field fields ih =>
    rw [set]
    split
    · rfl
    · rename_i hne
      have hrest := (List.mem_cons.1 h).resolve_left (Ne.symm hne)
      rw [List.map_cons, ih hrest, List.map_cons]

theorem nodup_names_set (name : Text) (value : α) (h : (fields.map (·.1)).Nodup) :
    ((set fields name value).map (·.1)).Nodup := by
  by_cases hmem : name ∈ fields.map (·.1)
  · rw [names_set_of_mem value hmem]
    exact h
  · rw [set_of_notMem value hmem, List.map_append, List.map_singleton, ← List.concat_eq_append]
    exact h.concat hmem

theorem mem_set (h : field ∈ set fields name value) : field ∈ fields ∨ field = (name, value) := by
  induction fields with
  | nil => exact .inr (List.mem_singleton.1 h)
  | cons first fields ih =>
    rw [set] at h
    split at h
    · rename_i heq
      rcases List.mem_cons.1 h with rfl | h
      · exact .inr (by rw [heq])
      · exact .inl (List.mem_cons_of_mem _ h)
    · rcases List.mem_cons.1 h with rfl | h
      · exact .inl List.mem_cons_self
      · exact (ih h).imp_left (List.mem_cons_of_mem _)

end Named

namespace Entry

theorem at?_append (entry : Entry) (place rest : Place) :
    entry.at? (place ++ rest) = (entry.at? place).bind (·.at? rest) := by
  induction place generalizing entry with
  | nil => simp [at?]
  | cons name place ih =>
    cases entry with
    | file bytes => rfl
    | link target => rfl
    | folder entries =>
      simp only [List.cons_append, at?]
      cases Named.get? entries name with
      | none => rfl
      | some inner => exact ih inner

/-- A text that can name an entry of a folder. -/
def IsName (name : Text) : Prop := name ≠ [] ∧ '/' ∉ name

instance (name : Text) : Decidable (IsName name) :=
  inferInstanceAs (Decidable (name ≠ [] ∧ '/' ∉ name))

/-- An entry with no name twice in a folder. -/
inductive Proper : Entry → Prop
  | file (bytes : Bytes) : Proper (.file bytes)
  | link (target : Text) : Proper (.link target)
  | folder {entries : List (Text × Entry)} (nodup : (entries.map (·.1)).Nodup)
      (names : ∀ e ∈ entries, IsName e.1) (inner : ∀ e ∈ entries, Proper e.2) :
      Proper (.folder entries)

theorem Proper.singleton {entry : Entry} (hname : IsName name) (h : entry.Proper) :
    (Entry.folder [(name, entry)]).Proper := by
  refine .folder (List.nodup_singleton name) ?_ ?_
  · intro e he
    obtain rfl := List.mem_singleton.1 he
    exact hname
  · intro e he
    obtain rfl := List.mem_singleton.1 he
    exact h

theorem Proper.at? {entry found : Entry} (h : entry.Proper) (hat : entry.at? place = some found) :
    found.Proper := by
  induction place generalizing entry with
  | nil =>
    cases hat
    exact h
  | cons name place ih =>
    cases h with
    | file => cases hat
    | link => cases hat
    | folder nodup names inner =>
      obtain ⟨next, hnext, hat⟩ := Option.bind_eq_some_iff.1 hat
      exact ih (inner _ (Named.mem_of_get? hnext)) hat

theorem Proper.isName_of_at? {entry found : Entry} (h : entry.Proper)
    (hat : entry.at? place = some found) : ∀ name ∈ place, IsName name := by
  induction place generalizing entry with
  | nil => exact fun _ hname => nomatch hname
  | cons first place ih =>
    cases h with
    | file => cases hat
    | link => cases hat
    | folder nodup names inner =>
      obtain ⟨next, hnext, hat⟩ := Option.bind_eq_some_iff.1 hat
      have hmem := Named.mem_of_get? hnext
      exact List.forall_mem_cons.2 ⟨names _ hmem, ih (inner _ hmem) hat⟩

theorem Proper.set {entries : List (Text × Entry)} {new : Entry} (h : (Entry.folder entries).Proper)
    (hname : IsName name) (hnew : new.Proper) :
    (Entry.folder (Named.set entries name new)).Proper := by
  cases h with
  | folder nodup names inner =>
    refine .folder (Named.nodup_names_set name new nodup) ?_ ?_
    · intro e he
      rcases Named.mem_set he with he | rfl
      · exact names e he
      · exact hname
    · intro e he
      rcases Named.mem_set he with he | rfl
      · exact inner e he
      · exact hnew

theorem Proper.put {entry new : Entry} (h : entry.Proper) (hnew : new.Proper)
    (hplace : ∀ name ∈ place, IsName name) : (entry.put place new).Proper := by
  induction place generalizing entry with
  | nil =>
    unfold Entry.put
    exact hnew
  | cons name place ih =>
    obtain ⟨hname, hplace⟩ := List.forall_mem_cons.1 hplace
    cases h with
    | file bytes => exact .file bytes
    | link target => exact .link target
    | @folder entries nodup names inner =>
      rw [Entry.put]
      have hold : ((Named.get? entries name).getD (.folder [])).Proper := by
        cases hget : Named.get? entries name with
        | none => exact .folder .nil (by simp) (by simp)
        | some old => exact inner _ (Named.mem_of_get? hget)
      exact Proper.set (.folder nodup names inner) hname (ih hold hplace)

end Entry

namespace World

/-- A world with proper files, whose log file, if there is one, can be named. -/
structure Proper (world : World) : Prop where
  tree : world.tree.root.Proper
  sink : ∀ place ∈ world.sink, ∀ name ∈ place, Entry.IsName name

theorem Proper.emit {world : World} (h : world.Proper) (record : Log.Record) :
    (world.emit record).Proper := by
  refine ⟨?_, h.sink⟩
  rw [World.emit]
  cases hsink : world.sink with
  | none => exact h.tree
  | some place =>
    have hput (bytes : Bytes) : (world.tree.root.put place (.file bytes)).Proper :=
      h.tree.put (.file bytes) (h.sink place hsink)
    simp only [FileTree.append, FileTree.putFile]
    split
    · exact hput _
    · exact hput _

end World

end Breadcrumb
