import JavaProjection.Proofs.Simulation

/-!
# Redacted trees

A name or a literal is spelled by everything below it. Outside of names and literals a part of a
node can be blotted out, and two trees that are then the same differ only in such parts. A
blotting that leaves alone what a projection decides by gives trees whose queries find the same
nodes, and these again differ only in such parts.
-/

set_option autoImplicit false

namespace JavaProjection

/-- The kinds of nodes that are spelled by everything below them. -/
def Kind.isSpelling : Kind → Bool
  | .rule .identifier | .rule .literal => true
  | _ => false

namespace Node

mutual

/-- The tree with a part blotted out of every node that is neither a name or a literal nor below
one. -/
def redacted (hide : Node → Node) : Node → Node
  | ⟨kind, span, children, text, label⟩ =>
    if kind.isSpelling then ⟨kind, span, children, text, label⟩
    else hide ⟨kind, span, redactedAll hide children, text, label⟩

def redactedAll (hide : Node → Node) : List Node → List Node
  | [] => []
  | child :: rest => child.redacted hide :: redactedAll hide rest

end

theorem redactedAll_eq_map (hide : Node → Node) (nodes : List Node) :
    redactedAll hide nodes = nodes.map (redacted hide) := by
  induction nodes with
  | nil => rfl
  | cons node rest ih => rw [redactedAll, ih, List.map_cons]

theorem redacted_of_spelling {hide : Node → Node} {node : Node}
    (spelling : node.kind.isSpelling = true) : node.redacted hide = node := by
  obtain ⟨kind, span, children, text, label⟩ := node
  rw [redacted, if_pos spelling]

theorem redacted_of_other {hide : Node → Node} {node : Node}
    (other : node.kind.isSpelling = false) :
    node.redacted hide = hide { node with children := node.children.map (redacted hide) } := by
  obtain ⟨kind, span, children, text, label⟩ := node
  rw [redacted, if_neg (Bool.eq_false_iff.1 other), redactedAll_eq_map]

def SameBut (hide : Node → Node) (left right : Node) : Prop :=
  left.redacted hide = right.redacted hide

instance (hide : Node → Node) (left right : Node) : Decidable (SameBut hide left right) :=
  inferInstanceAs (Decidable (left.redacted hide = right.redacted hide))

end Node

/-- What is blotted out is neither kind, place nor label of a node, and its children only where a
projection never looks at them. -/
structure Redaction (hide : Node → Node) : Prop where
  kind (node : Node) : (hide node).kind = node.kind
  span (node : Node) : (hide node).span = node.span
  label (node : Node) : (hide node).label = node.label
  children (node : Node) : node.Visible → (hide node).children = node.children

namespace Redaction

variable {hide : Node → Node} {left right : Node}

/-- What is neither blotted out nor read off the children is the same in both trees. -/
theorem view_eq {α : Type} {view : Node → α} (kept : ∀ node, view (hide node) = view node)
    (own : ∀ node children, view { node with children } = view node)
    (same : left.SameBut hide right) : view left = view right := by
  have view_redacted (node : Node) : view (node.redacted hide) = view node := by
    cases spelling : node.kind.isSpelling with
    | true => rw [Node.redacted_of_spelling spelling]
    | false => rw [Node.redacted_of_other spelling, kept, own]
  rw [← view_redacted left, ← view_redacted right, same]

theorem kind_eq (redaction : Redaction hide) (same : left.SameBut hide right) :
    left.kind = right.kind :=
  view_eq redaction.kind (fun _ _ => rfl) same

theorem span_eq (redaction : Redaction hide) (same : left.SameBut hide right) :
    left.span = right.span :=
  view_eq redaction.span (fun _ _ => rfl) same

theorem malformed_eq (redaction : Redaction hide) (same : left.SameBut hide right)
    (expected : String) : left.malformed expected = right.malformed expected := by
  rw [Node.malformed, Node.malformed, redaction.span_eq same]

theorem label_eq (redaction : Redaction hide) (same : left.SameBut hide right) :
    left.label = right.label :=
  view_eq redaction.label (fun _ _ => rfl) same

/-- Names and literals do not differ at all. -/
theorem eq_of_spelling (redaction : Redaction hide) (same : left.SameBut hide right)
    (spelling : left.kind.isSpelling = true) : left = right := by
  have spelling' : right.kind.isSpelling = true := by
    rw [← redaction.kind_eq same]
    exact spelling
  rw [← Node.redacted_of_spelling spelling, same, Node.redacted_of_spelling spelling']

theorem children_redacted (redaction : Redaction hide) {node : Node}
    (other : node.kind.isSpelling = false) (visible : node.Visible) :
    (node.redacted hide).children = node.children.map (Node.redacted hide) := by
  rw [Node.redacted_of_other other]
  exact redaction.children { node with children := node.children.map (Node.redacted hide) } visible

/-- Where the children can matter they are not blotted out, and the trees agree below them again. -/
theorem children_eq (redaction : Redaction hide) (same : left.SameBut hide right)
    (visible : left.Visible) :
    List.Forall₂ (Node.SameBut hide) left.children right.children := by
  cases spelling : left.kind.isSpelling with
  | true =>
    rw [redaction.eq_of_spelling same spelling]
    exact List.forall₂_same.2 fun _ _ => rfl
  | false =>
    have spelling' : right.kind.isSpelling = false := by
      rw [← redaction.kind_eq same]
      exact spelling
    have visible' : right.Visible := by
      rw [Node.Visible, ← redaction.kind_eq same, ← redaction.label_eq same]
      exact visible
    have below : left.children.map (Node.redacted hide) =
        right.children.map (Node.redacted hide) := by
      rw [← redaction.children_redacted spelling visible,
        ← redaction.children_redacted spelling' visible', same]
    rw [← List.forall₂_eq_eq_eq, List.forall₂_map_left_iff, List.forall₂_map_right_iff] at below
    exact below

theorem identifierText_eq (redaction : Redaction hide) (same : left.SameBut hide right)
    (kind : left.kind = .rule .identifier) : left.identifierText = right.identifierText := by
  have spelling : left.kind.isSpelling = true := by rw [kind]; rfl
  rw [redaction.eq_of_spelling same spelling]

theorem literal_eq (redaction : Redaction hide) (same : left.SameBut hide right)
    (kind : left.kind = .rule .literal) : left = right := by
  have spelling : left.kind.isSpelling = true := by rw [kind]; rfl
  exact redaction.eq_of_spelling same spelling

end Redaction

end JavaProjection
