import Mathlib
import JavaProjection.Proofs.Independence
import JavaProjection.Proofs.Trees

/-!
# Operands are projected on their own

What was reported for the left operand of an operation has no effect on the right one. So the
operation is put together from what each operand comes to alone.
-/

set_option autoImplicit false

namespace JavaProjection

open Projection

/-- The node is an operation, other than the dot, with a code for its operator. It has two
operands, and may have a third. -/
structure Node.Operates (node : Node) (code : Code) (left right : Node) : Prop where
  operator : ∃ terminal, (node.labelled? "bop").map Node.kind = some (.terminal terminal) ∧
    terminal ≠ .dot ∧ terminal.isBinaryOperator = true ∧ Code.ofTerminal? terminal = some code
  left : node.ruleAt? .expression 0 = some left
  right : node.ruleAt? .expression 1 = some right

/-- What an operation reports itself: one loss if it is a conditional expression, whose last
operand is dropped, and nothing otherwise. -/
def Node.lossOf (node : Node) (code : Code) : Array Diagnostic :=
  if code = .question then
    #[(Diagnostic.warning .lossy
      "conditional expression translated without its `:` branch" node.span).withHint
      "the false branch is dropped"]
  else #[]

namespace Node.Operates

variable {node left right : Node} {code : Code}

/-- With two operands and a code for the operator there is nothing left to decide. -/
theorem expression_eq (operates : node.Operates code left right) :
    node.expression = do
      let leftValue ← left.expression
      let rightValue ← right.expression
      if code = .question then
        node.reportDroppedBranch
      return .binary code leftValue rightValue := by
  obtain ⟨terminal, labelled, notDot, inRange, coded⟩ := operates.operator
  obtain ⟨operator, found, kind⟩ := Option.map_eq_some_iff.1 labelled
  have spelled : operator.operatorCode = pure code := by
    simp only [operatorCode, kind, coded]
  have chosen : node.expression = node.binary operator := by
    rw [expression, found]
    simp only [kind, inRange, if_true]
  rw [chosen, binary]
  simp only [visitRuleAt_eq, operates.left, operates.right, Option.map_some, spelled, lift_pure,
    pure_bind]

theorem report_eq (node : Node) (code : Code) (value : Expression) (policy : LiteralPolicy)
    (gathered : Array Diagnostic) :
    (do
      if code = .question then
        node.reportDroppedBranch
      return value : Projection Expression).runFrom policy gathered =
      (.ok value, gathered ++ node.lossOf code) := by
  unfold lossOf
  by_cases conditional : code = .question
  · rw [if_pos conditional, if_pos conditional, ← Array.push_eq_append]
    rfl
  · rw [if_neg conditional, if_neg conditional, Array.append_empty]
    rfl

theorem value_eq (operates : node.Operates code left right) (policy : LiteralPolicy)
    (gathered : Array Diagnostic) :
    (node.expression.runFrom policy gathered).1 = do
      let leftValue ← (left.expression.runFrom policy #[]).1
      let rightValue ← (right.expression.runFrom policy #[]).1
      return .binary code leftValue rightValue := by
  rw [operates.expression_eq, runFrom_bind, Independent.of_expression left policy gathered]
  rcases left.expression.runFrom policy #[] with ⟨failure | leftValue, leftReports⟩
  · rfl
  · simp only
    rw [runFrom_bind, Independent.of_expression right]
    rcases right.expression.runFrom policy #[] with ⟨failure | rightValue, rightReports⟩
    · rfl
    · simp only [report_eq]
      rfl

theorem reports_eq (operates : node.Operates code left right) {policy : LiteralPolicy}
    {leftValue rightValue : Expression}
    (leftEnds : (left.expression.runFrom policy #[]).1 = .ok leftValue)
    (rightEnds : (right.expression.runFrom policy #[]).1 = .ok rightValue)
    (gathered : Array Diagnostic) :
    (node.expression.runFrom policy gathered).2 =
      gathered ++ (left.expression.runFrom policy #[]).2 ++
        (right.expression.runFrom policy #[]).2 ++ node.lossOf code := by
  rw [operates.expression_eq, runFrom_bind, Independent.of_expression left policy gathered,
    leftEnds]
  simp only
  rw [runFrom_bind, Independent.of_expression right, rightEnds]
  simp only [report_eq]

end Node.Operates

/-- From any reports an expression, a statement, a block and a class body come to the value or
failure that they come to from none, and add the same reports at the end. An operation is that of
its operands, each projected on its own; its reports are those of the left operand, then those of
the right, then at most one loss. -/
theorem projections_stand_alone (node : Node) :
    Independent node.expression ∧ Independent node.statement ∧ Independent node.block ∧
    Independent node.classBody ∧
    ∀ (code : Code) (left right : Node), node.Operates code left right →
      ∀ (policy : LiteralPolicy) (gathered : Array Diagnostic),
        ((node.expression.runFrom policy gathered).1 = do
          let leftValue ← (left.expression.runFrom policy #[]).1
          let rightValue ← (right.expression.runFrom policy #[]).1
          return .binary code leftValue rightValue) ∧
        ∀ leftValue rightValue : Expression,
          (left.expression.runFrom policy #[]).1 = .ok leftValue →
          (right.expression.runFrom policy #[]).1 = .ok rightValue →
          (node.expression.runFrom policy gathered).2 =
            gathered ++ (left.expression.runFrom policy #[]).2 ++
              (right.expression.runFrom policy #[]).2 ++ node.lossOf code := by
  refine ⟨.of_expression node, .of_statement node, .of_block node, .of_classBody node, ?_⟩
  intro code left right operates policy gathered
  refine ⟨operates.value_eq policy gathered, ?_⟩
  intro leftValue rightValue leftEnds rightEnds
  exact operates.reports_eq leftEnds rightEnds gathered

def untranslatedCondition : Node :=
  .branch .expression [.branch .lambdaExpression []]

/-- The expression `(() -> a) ? b : c`. -/
def conditionalNode : Node :=
  .branch .expression [untranslatedCondition, (Node.leaf .question "?").boundTo "bop",
    .primaryOf (.named "b"), .leaf .colon ":", .primaryOf (.named "c")]

def earlierReport : Diagnostic :=
  .warning .literalFallback "literal `0x1` replaced by 123456" .zero

theorem conditionalNode_operates :
    conditionalNode.Operates .question untranslatedCondition (.primaryOf (.named "b")) :=
  ⟨⟨.question, rfl, by decide, rfl, rfl⟩, rfl, rfl⟩

theorem conditionalNode_stands_alone :
    (conditionalNode.expression.runFrom .reject #[earlierReport]).1 =
      .ok (.binary .question (.placeholder .expression) (.name "b")) ∧
    (conditionalNode.expression.runFrom .reject #[earlierReport]).2 =
      #[earlierReport,
        .warning (.placeholder .expression) "lambda expression is not translated" .zero,
        (Diagnostic.warning .lossy "conditional expression translated without its `:` branch"
          .zero).withHint "the false branch is dropped"] := by
  have left : untranslatedCondition.expression.runFrom .reject #[] =
      (.ok (.placeholder .expression),
        #[.warning (.placeholder .expression) "lambda expression is not translated" .zero]) := by
    cbv
  have right : (Node.primaryOf (.named "b")).expression.runFrom .reject #[] =
      (.ok (.name "b"), #[]) := by cbv
  obtain ⟨value, reports⟩ := (projections_stand_alone conditionalNode).2.2.2.2 .question _ _
    conditionalNode_operates .reject #[earlierReport]
  constructor
  · rw [value, left, right]
    rfl
  · rw [reports _ _ (congrArg Prod.fst left) (congrArg Prod.fst right), left, right]
    rfl

end JavaProjection
