import Breadcrumb.Diagram
import Breadcrumb.Proofs.Text.Joining

namespace Breadcrumb.Diagram

def strokes : Text := "├└│─ ".toList

mutual

def labelsOfAll : List Diagram → List Text
  | [] => []
  | node :: rest => node.label :: (labelsBelow node ++ labelsOfAll rest)

def labelsBelow : Diagram → List Text
  | ⟨_, children⟩ => labelsOfAll children

end

variable {holds : Char → Prop} {indent : Text} {node other : Diagram} {nodes rest more : List Diagram}

theorem branch_subset_strokes (last : Bool) : branch last ⊆ strokes := by
  cases last with
  | false => decide
  | true => decide

theorem trunk_subset_strokes (last : Bool) : trunk last ⊆ strokes := by
  cases last with
  | false => decide
  | true => decide

theorem stroke_ne_newline : ∀ c ∈ strokes, c ≠ '\n' := by
  have hnone : '\n' ∉ strokes := by decide
  intro c hc he
  exact hnone (he ▸ hc)

mutual

theorem length_linesOfAll : ∀ (indent : Text) (nodes : List Diagram),
    (linesOfAll indent nodes).length = (labelsOfAll nodes).length
  | _, [] => rfl
  | indent, node :: rest => by
    rw [linesOfAll, labelsOfAll, List.length_cons, List.length_cons, List.length_append,
      List.length_append, length_linesBelow, length_linesOfAll]

theorem length_linesBelow : ∀ (indent : Text) (node : Diagram),
    (linesBelow indent node).length = (labelsBelow node).length
  | indent, ⟨_, children⟩ => length_linesOfAll indent children

end

theorem forall_mem_append_strokes (hstrokes : ∀ c ∈ strokes, holds c) {lead : Text}
    (hindent : ∀ c ∈ indent, holds c) (hlead : lead ⊆ strokes) : ∀ c ∈ indent ++ lead, holds c :=
  List.forall_mem_append.2 ⟨hindent, fun c hc => hstrokes c (hlead hc)⟩

mutual

/-- The lines are made of strokes and labels. -/
theorem forall_mem_linesOfAll (hstrokes : ∀ c ∈ strokes, holds c) :
    ∀ {indent : Text} {nodes : List Diagram}, (∀ c ∈ indent, holds c) →
      (∀ label ∈ labelsOfAll nodes, ∀ c ∈ label, holds c) →
      ∀ line ∈ linesOfAll indent nodes, ∀ c ∈ line, holds c
  | _, [], _, _ => nofun
  | indent, node :: rest, hindent, hlabels => by
    obtain ⟨hlabel, hlabels⟩ := List.forall_mem_cons.1 hlabels
    obtain ⟨hbelow, hrest⟩ := List.forall_mem_append.1 hlabels
    have hbranch := forall_mem_append_strokes hstrokes hindent (branch_subset_strokes rest.isEmpty)
    have htrunk := forall_mem_append_strokes hstrokes hindent (trunk_subset_strokes rest.isEmpty)
    rw [linesOfAll, List.forall_mem_cons]
    constructor
    · exact List.forall_mem_append.2 ⟨hbranch, hlabel⟩
    · rw [List.forall_mem_append]
      constructor
      · exact forall_mem_linesBelow hstrokes htrunk hbelow
      · exact forall_mem_linesOfAll hstrokes hindent hrest

theorem forall_mem_linesBelow (hstrokes : ∀ c ∈ strokes, holds c) :
    ∀ {indent : Text} {node : Diagram}, (∀ c ∈ indent, holds c) →
      (∀ label ∈ labelsBelow node, ∀ c ∈ label, holds c) →
      ∀ line ∈ linesBelow indent node, ∀ c ∈ line, holds c
  | _, ⟨_, _⟩, hindent, hlabels => forall_mem_linesOfAll hstrokes hindent hlabels

end

mutual

theorem linesOfAll_eq_map : ∀ (indent : Text) (nodes : List Diagram),
    linesOfAll indent nodes = (linesOfAll [] nodes).map (indent ++ ·)
  | _, [] => rfl
  | indent, node :: rest => by
    rw [linesOfAll, linesOfAll, List.map_cons, List.map_append, linesBelow_eq_map,
      linesBelow_eq_map ([] ++ _), linesOfAll_eq_map indent rest, List.map_map]
    simp [Function.comp_def]

theorem linesBelow_eq_map : ∀ (indent : Text) (node : Diagram),
    linesBelow indent node = (linesBelow [] node).map (indent ++ ·)
  | indent, ⟨_, children⟩ => linesOfAll_eq_map indent children

end

theorem linesOfAll_cons (node : Diagram) (rest : List Diagram) :
    linesOfAll [] (node :: rest) =
      (branch rest.isEmpty ++ node.label) ::
        ((linesBelow [] node).map (trunk rest.isEmpty ++ ·) ++ linesOfAll [] rest) := by
  rw [linesOfAll, linesBelow_eq_map]
  rfl

theorem length_branch (last : Bool) : (branch last).length = 4 := by
  cases last with
  | false => rfl
  | true => rfl

theorem branch_inj : ∀ {last final : Bool}, branch last = branch final → last = final := by decide

theorem branch_append_inj {last final : Bool} {label name : Text}
    (h : branch last ++ label = branch final ++ name) : last = final ∧ label = name := by
  obtain ⟨hbranch, hlabel⟩ := List.append_inj h (by rw [length_branch, length_branch])
  exact ⟨branch_inj hbranch, hlabel⟩

/-- Whether a line begins as one behind a trunk does. -/
def hangs (line : Text) : Bool := line.head? = some '│' ∨ line.head? = some ' '

theorem hangs_trunk_append (last : Bool) (line : Text) : hangs (trunk last ++ line) = true := by
  cases last with
  | false => rfl
  | true => rfl

theorem hangs_branch_append (last : Bool) (label : Text) :
    hangs (branch last ++ label) = false := by
  cases last with
  | false => rfl
  | true => rfl

theorem dropWhile_hangs_linesOfAll (nodes : List Diagram) :
    (linesOfAll [] nodes).dropWhile hangs = linesOfAll [] nodes := by
  cases nodes with
  | nil => rfl
  | cons node rest =>
    rw [linesOfAll_cons, List.dropWhile_cons_of_neg]
    rw [hangs_branch_append]
    exact Bool.false_ne_true

/-- What is below a node ends where the branch to the next one begins. -/
theorem dropWhile_hangs_append (last : Bool) (lines : List Text) (nodes : List Diagram) :
    (lines.map (trunk last ++ ·) ++ linesOfAll [] nodes).dropWhile hangs = linesOfAll [] nodes := by
  have hlines : ∀ line ∈ lines.map (trunk last ++ ·), hangs line = true := by
    intro line hline
    obtain ⟨text, -, rfl⟩ := List.mem_map.1 hline
    exact hangs_trunk_append last text
  rw [List.dropWhile_append_of_pos hlines, dropWhile_hangs_linesOfAll]

theorem linesOfAll_cons_inj (h : linesOfAll [] (node :: rest) = linesOfAll [] (other :: more)) :
    node.label = other.label ∧ linesBelow [] node = linesBelow [] other ∧
      linesOfAll [] rest = linesOfAll [] more := by
  rw [linesOfAll_cons, linesOfAll_cons] at h
  obtain ⟨hline, hlines⟩ := List.cons.inj h
  obtain ⟨hlast, hlabel⟩ := branch_append_inj hline
  have hrest := congrArg (List.dropWhile hangs) hlines
  rw [dropWhile_hangs_append, dropWhile_hangs_append] at hrest
  rw [hlast, hrest] at hlines
  have hbelow := List.append_cancel_right hlines
  exact ⟨hlabel, (List.map_inj_right fun _ _ => List.append_cancel_left).1 hbelow, hrest⟩

mutual

theorem eq_of_linesOfAll_eq : ∀ {nodes others : List Diagram},
    linesOfAll [] nodes = linesOfAll [] others → nodes = others
  | [], [], _ => rfl
  | [], _ :: _, h => by
    rw [linesOfAll, linesOfAll_cons] at h
    cases h
  | _ :: _, [], h => by
    rw [linesOfAll, linesOfAll_cons] at h
    cases h
  | ⟨label, children⟩ :: rest, ⟨name, below⟩ :: more, h => by
    obtain ⟨hlabel, hbelow, hrest⟩ := linesOfAll_cons_inj h
    obtain rfl : label = name := hlabel
    obtain rfl : children = below := children_eq_of_linesBelow_eq hbelow
    rw [eq_of_linesOfAll_eq hrest]

theorem children_eq_of_linesBelow_eq : ∀ {node other : Diagram},
    linesBelow [] node = linesBelow [] other → node.children = other.children
  | ⟨_, _⟩, ⟨_, _⟩, h => eq_of_linesOfAll_eq h

end

theorem render_congr (h : node.children = other.children) : node.render = other.render := by
  obtain ⟨_, children⟩ := node
  obtain ⟨_, others⟩ := other
  obtain rfl : children = others := h
  rfl

theorem notMem_linesBelow (h : ∀ label ∈ labelsBelow node, '\n' ∉ label) :
    ∀ line ∈ linesBelow [] node, '\n' ∉ line := by
  have hlabels : ∀ label ∈ labelsBelow node, ∀ c ∈ label, c ≠ '\n' := by
    intro label hlabel c hc he
    exact h label hlabel (he ▸ hc)
  intro line hline hin
  exact forall_mem_linesBelow stroke_ne_newline (List.forall_mem_nil _) hlabels line hline _ hin rfl

/-- Two drawings of labels without line breaks are the same only if what is below the roots is,
whatever else the labels are made of. -/
theorem render_eq_iff {root other : Diagram} (hroot : ∀ label ∈ root.labelsBelow, '\n' ∉ label)
    (hother : ∀ label ∈ other.labelsBelow, '\n' ∉ label) :
    root.render = other.render ↔ root.children = other.children := by
  constructor
  · intro h
    have hlines := Text.eq_of_flatMap_eq (notMem_linesBelow hroot) (notMem_linesBelow hother) h
    exact children_eq_of_linesBelow_eq hlines
  · exact render_congr

/-- A label that is drawn like the branch to a second one, in front of an empty label. -/
def disguised : Diagram := ⟨".".toList, [⟨"├── lib".toList, []⟩, ⟨[], []⟩]⟩

def nested : Diagram := ⟨"/".toList, [⟨[], [⟨"lib".toList, []⟩]⟩, ⟨[], []⟩]⟩

theorem render_disguised_ne : disguised.render ≠ nested.render := by
  intro h
  have hchildren := (render_eq_iff (by decide) (by decide)).1 h
  have hlabels := congrArg (List.map label) hchildren
  exact absurd hlabels (by decide)

end Breadcrumb.Diagram
