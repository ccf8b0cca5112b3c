import JavaProjection.Kind
import JavaProjection.Span

/-!
# Parse trees

A node carries what it was read as, where it stands in the source, its children, the text of a
token and the label its parent rule bound it to. Nothing ties these together: any kind may have
children, text and a label, and what a tree means is settled by whoever reads it.
-/

set_option autoImplicit false

namespace JavaProjection

structure Node where
  kind : Kind
  span : Span
  children : List Node
  text : Option String
  label : Option String

namespace Node

def isRule (node : Node) (rule : Rule) : Bool :=
  node.kind == .rule rule

def isTerminal (node : Node) (terminal : Terminal) : Bool :=
  node.kind == .terminal terminal

def ownText (node : Node) : String :=
  node.text.getD ""

mutual

/-- All text at and below the node, in the order of the source. -/
def fullText : Node → String
  | ⟨_, _, children, text, _⟩ => text.getD "" ++ fullTextAll children

def fullTextAll : List Node → String
  | [] => ""
  | child :: rest => child.fullText ++ fullTextAll rest

end

mutual

def size : Node → Nat
  | ⟨_, _, children, _, _⟩ => 1 + sizeAll children

def sizeAll : List Node → Nat
  | [] => 0
  | child :: rest => child.size + sizeAll rest

end

mutual

/-- The number of nodes on the longest way down; a leaf has height one. -/
def height : Node → Nat
  | ⟨_, _, children, _, _⟩ => 1 + heightAll children

def heightAll : List Node → Nat
  | [] => 0
  | child :: rest => max child.height (heightAll rest)

end

mutual

def decEq : (left right : Node) → Decidable (left = right)
  | ⟨kind, span, children, text, label⟩, ⟨kind', span', children', text', label'⟩ =>
    match decEqAll children children' with
    | .isTrue sameChildren =>
      if same : kind = kind' ∧ span = span' ∧ text = text' ∧ label = label' then
        .isTrue (by
          obtain ⟨rfl, rfl, rfl, rfl⟩ := same
          rw [sameChildren])
      else
        .isFalse (by
          intro equal
          cases equal
          exact same ⟨rfl, rfl, rfl, rfl⟩)
    | .isFalse different =>
      .isFalse (by
        intro equal
        cases equal
        exact different rfl)

def decEqAll : (left right : List Node) → Decidable (left = right)
  | [], [] => .isTrue rfl
  | [], _ :: _ => .isFalse (by simp)
  | _ :: _, [] => .isFalse (by simp)
  | child :: rest, child' :: rest' =>
    match decEq child child', decEqAll rest rest' with
    | .isTrue sameHead, .isTrue sameTail => .isTrue (by rw [sameHead, sameTail])
    | .isFalse different, _ =>
      .isFalse (by
        intro equal
        cases equal
        exact different rfl)
    | _, .isFalse different =>
      .isFalse (by
        intro equal
        cases equal
        exact different rfl)

end

instance : DecidableEq Node :=
  decEq

end Node

end JavaProjection
