import JavaProjection.Proofs.Literals
import JavaProjection.Proofs.Lockstep.Unit

/-!
# Projections stand for themselves

What was reported before a projection starts has no effect on it: it comes to the same value or
failure, and what it reports is added at the end. So a projection can be judged by its run from no
reports. This holds at every node: what a node was read as decides only how a statement is
projected, while an expression, a block and a class body are read off the children.
-/

set_option autoImplicit false

namespace JavaProjection

open Projection

/-- From any reports the projection does what it does from none, and adds its reports to them. -/
def Independent {α : Type} (projection : Projection α) : Prop :=
  ∀ policy gathered, projection.runFrom policy gathered =
    ((projection.runFrom policy #[]).1, gathered ++ (projection.runFrom policy #[]).2)

namespace Independent

variable {α β : Type}

theorem of_pure (value : α) : Independent (pure value : Projection α) := by
  intro policy gathered
  simp only [runFrom_pure, Array.append_empty]

theorem of_throw (failure : Failure) : Independent (throw failure : Projection α) := by
  intro policy gathered
  simp only [runFrom_throw, Array.append_empty]

theorem of_report (diagnostic : Diagnostic) : Independent (report diagnostic) := by
  intro policy gathered
  simp only [runFrom_report, Array.push_eq_append, Array.empty_append]

theorem bind {first : Projection α} {next : α → Projection β} (head : Independent first)
    (tail : ∀ value, Independent (next value)) : Independent (first >>= next) := by
  intro policy gathered
  rw [runFrom_bind, runFrom_bind, head policy gathered]
  rcases first.runFrom policy #[] with ⟨failure | value, reports⟩
  · rfl
  · simp only
    rw [tail value policy (gathered ++ reports), tail value policy reports, Array.append_assoc]

theorem of_placeholder (node : Node) (tag : Placeholder) (construct : String) :
    Independent (node.placeholder tag construct) :=
  bind (of_report _) fun _ => of_pure _

theorem of_unsupportedLiteral (node : Node) : Independent node.unsupportedLiteral := by
  intro policy gathered
  unfold Node.unsupportedLiteral
  rw [runFrom_bind, runFrom_bind, runFrom_read, runFrom_read]
  cases policy with
  | reject => exact of_throw _ .reject gathered
  | sentinel => exact bind (of_report _) (fun _ => of_pure _) .sentinel gathered

theorem of_literal {node : Node} (kind : node.kind = .rule .literal) :
    Independent node.literal := by
  cases Node.readsLiteral kind with
  | kept token read =>
    rw [read]
    exact of_pure _
  | unreadable part _ _ read =>
    rw [read]
    exact of_throw _
  | unsupported part _ _ read =>
    rw [read]
    exact of_unsupportedLiteral part

/-- Independence is a property of one run, so a tree is paired with itself. -/
theorem simulation : Simulation Eq (fun _ first _ => Independent first) where
  pure := of_pure
  bind := bind
  kind := congrArg Node.kind
  label := congrArg Node.label
  children := by
    rintro x _ rfl _
    exact List.forall₂_same.2 fun _ _ => rfl
  identifierText same _ := congrArg Node.identifierText same
  literal _ kind := of_literal kind
  malformed _ _ := of_throw _
  unsupportedToken _ _ := of_throw _
  unsupportedLocalType _ _ _ := of_throw _
  placeholder tag construct _ := of_placeholder _ tag construct
  operatorPlaceholder _ _ := of_placeholder _ _ _
  droppedBranch _ := of_report _

end Independent

theorem Node.expression_independent {node : Node} (kind : node.kind = .rule .expression) :
    Independent node.expression :=
  (Independent.simulation.lockstep (rfl : node = node)).expression kind

/-! ## Nodes of another kind -/

namespace Node

def readAs (node : Node) (kind : Kind) : Node :=
  { node with kind }

section ReadAs

-- Once a function is opened, both sides make the same queries on the same children.
variable (node : Node) (kind : Kind)

theorem operandAt_readAs (index : Nat) (expected : String) :
    (node.readAs kind).operandAt index expected = node.operandAt index expected := by
  rw [operandAt, operandAt, visitRuleAt_eq, visitRuleAt_eq]
  rfl

theorem arrayAccess?_readAs : (node.readAs kind).arrayAccess? = node.arrayAccess? := by
  rw [arrayAccess?, arrayAccess?]
  simp only [operandAt_readAs]
  rfl

theorem unary?_readAs : (node.readAs kind).unary? = node.unary? := by
  rw [unary?, unary?]
  simp only [operandAt_readAs]
  rfl

theorem cast?_readAs : (node.readAs kind).cast? = node.cast? := by
  rw [cast?, cast?]
  simp only [operandAt_readAs]
  rfl

theorem recognized_readAs : (node.readAs kind).recognized = node.recognized := by
  rw [recognized, recognized, arrayAccess?_readAs, unary?_readAs, cast?_readAs]
  simp only [visitRule_eq]
  rfl

theorem binary_readAs (operator : Node) :
    (node.readAs kind).binary operator = node.binary operator := by
  rw [binary, binary]
  simp only [visitRuleAt_eq]
  rfl

theorem memberAccess_readAs : (node.readAs kind).memberAccess = node.memberAccess := by
  rw [memberAccess, memberAccess, recognized_readAs]
  simp only [visitRule_eq]
  rfl

theorem expression_readAs : (node.readAs kind).expression = node.expression := by
  rw [expression, expression, recognized_readAs, memberAccess_readAs]
  simp only [binary_readAs]
  rfl

theorem block_readAs : (node.readAs kind).block = node.block := by
  rw [block, block, visitRules_eq, visitRules_eq]
  rfl

theorem classBody_readAs : (node.readAs kind).classBody = node.classBody := by
  rw [classBody, classBody, visitRules_eq, visitRules_eq]
  rfl

end ReadAs

/-- Only the rules of statements are projected as statements. -/
theorem statement_eq_malformed {node : Node} {rule : Rule} (kind : node.kind = .rule rule)
    (other : rule.isStatement = false) :
    node.statement = throw (node.malformed "statement") := by
  have untranslated : rule.placeholderStatement? = none := by
    cases rule <;> simp [Rule.isStatement, Rule.placeholderStatement?] at other ⊢
  rw [statement, kind]
  split
  case h_10 rule' _ _ _ _ _ _ _ _ _ same =>
    cases same
    rw [untranslated]
  case h_11 same => cases same
  all_goals next same =>
    cases same
    cases other

end Node

/-! ## Independence at every node -/

namespace Independent

theorem of_expression (node : Node) : Independent node.expression := by
  rw [← node.expression_readAs (.rule .expression)]
  exact Node.expression_independent rfl

theorem of_statement (node : Node) : Independent node.statement := by
  cases kind : node.kind with
  | terminal terminal =>
    rw [Node.statement, kind]
    exact of_throw _
  | rule rule =>
    by_cases known : rule.isStatement = true
    · exact (simulation.lockstep rfl).statement ⟨rule, kind, known⟩
    · rw [Node.statement_eq_malformed kind (Bool.eq_false_iff.2 known)]
      exact of_throw _

theorem of_block (node : Node) : Independent node.block := by
  rw [← node.block_readAs (.rule .block)]
  exact simulation.block rfl (simulation.below _) (Node.visible_of_kind rfl rfl)

theorem of_classBody (node : Node) : Independent node.classBody := by
  rw [← node.classBody_readAs (.rule .classBody)]
  exact (simulation.lockstep rfl).classBody rfl

end Independent

end JavaProjection
