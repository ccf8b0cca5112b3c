import Mathlib
import JavaProjection.Proofs.Lockstep.Unit
import JavaProjection.Proofs.Redaction
import JavaProjection.Proofs.Trees

/-!
# The contents of untranslated constructs

A projection never looks below an untranslated construct, however deep in the tree it stands. So
nothing in there can change the result or make the projection fail. Only a node that its parent
binds to a label is looked into whatever it is.
-/

set_option autoImplicit false

namespace JavaProjection

open Projection

/-- The constructs that are not translated: the statements that a placeholder stands for, types
other than classes, generic methods and constructors, lambda and switch expressions, and
annotations. -/
def Rule.untranslated : List Rule :=
  [.statementFor, .statementSwitch, .statementSwitchExpression, .statementTryBlock,
    .statementTryResourceSpecification, .statementIdentifierLabel, .statementSemi,
    .statementThrow, .statementSynchronized, .statementYield, .enumDeclaration,
    .interfaceDeclaration, .recordDeclaration, .annotationTypeDeclaration,
    .genericMethodDeclaration, .genericConstructorDeclaration, .lambdaExpression,
    .switchExpression, .annotationUse]

theorem Rule.isHidden_of_untranslated : ∀ rule ∈ untranslated, rule.isHidden = true := by
  decide

/-- The node without its children if it is an untranslated construct that has no label. -/
def Node.hideContents (node : Node) : Node :=
  if node.label = none ∧ node.kind.rule?.any (· ∈ Rule.untranslated) = true then
    { node with children := [] }
  else node

theorem Node.hideContents_of_visible {node : Node} (visible : node.Visible) :
    node.hideContents = node := by
  refine if_neg ?_
  rintro ⟨unlabelled, untranslated⟩
  obtain ⟨rule, found, member⟩ := (Option.any_eq_true _ _).1 untranslated
  rcases visible with labelled | shown
  · exact labelled unlabelled
  · have hidden := Rule.isHidden_of_untranslated rule (of_decide_eq_true member)
    rw [shown rule (Kind.rule?_eq_some_iff.1 found)] at hidden
    cases hidden

namespace Redaction

theorem ofContents : Redaction Node.hideContents where
  kind node := by
    unfold Node.hideContents
    split <;> rfl
  span node := by
    unfold Node.hideContents
    split <;> rfl
  label node := by
    unfold Node.hideContents
    split <;> rfl
  children node visible := by rw [Node.hideContents_of_visible visible]

theorem ownText_eq {left right : Node} (same : left.SameBut Node.hideContents right) :
    left.ownText = right.ownText := by
  refine view_eq (fun node => ?_) (fun _ _ => rfl) same
  unfold Node.hideContents
  split <;> rfl

/-- Trees that differ only below untranslated constructs have one and the same projection. -/
theorem simulation_contents :
    Simulation (Node.SameBut Node.hideContents) (fun _ first second => first = second) where
  pure _ := rfl
  bind {_ _ _ _ next other} head tail := by
    rw [head, show next = other from funext tail]
  kind same := ofContents.kind_eq same
  label same := ofContents.label_eq same
  children same visible := ofContents.children_eq same visible
  identifierText same kind := ofContents.identifierText_eq same kind
  literal same kind := congrArg Node.literal (ofContents.literal_eq same kind)
  malformed same _ := congrArg throw (ofContents.malformed_eq same _)
  unsupportedToken same _ := by rw [ownText_eq same, ofContents.span_eq same]
  unsupportedLocalType same _ _ := by rw [ofContents.span_eq same]
  placeholder tag construct same := by
    rw [Node.placeholder, Node.placeholder, ofContents.span_eq same]
  operatorPlaceholder same operators := by
    rw [ownText_eq operators, Node.placeholder, Node.placeholder, ofContents.span_eq same]
  droppedBranch same := by
    rw [Node.reportDroppedBranch, Node.reportDroppedBranch, ofContents.span_eq same]

end Redaction

/-- Source files that differ only below untranslated constructs come to the same: to the same
syntax and reports, or to the same failure. -/
theorem untranslated_contents_ignored (settings : Settings) {left right : Node}
    (same : left.SameBut Node.hideContents right) :
    settings.project left = settings.project right := by
  have runs : left.compilationUnit = right.compilationUnit :=
    Redaction.simulation_contents.compilationUnit same fun _ =>
      congrArg throw (Redaction.ofContents.malformed_eq same _)
  rw [Settings.project, Settings.project, runs]

def loopFile (parts : List Node) : Node :=
  .classFile "A" [.branch .methodDeclaration
    [.branch .typeTypeOrVoid [.leaf .kwVoid "void"], .named "m", .branch .formalParameters [],
      .branch .methodBody [.branch .block [.branch .blockStatement [.branch .statementFor parts]]]]]

def modAssignment : Node :=
  .joined .modAssign "%="

/-- The assignment fails on its own, and in a loop it makes no difference. -/
theorem loopFile_projected :
    (modAssignment.expression.runFrom .reject #[]).1 =
        .error (.unsupportedToken .modAssign "%=" .zero) ∧
      (loopFile [modAssignment]).SameBut Node.hideContents (loopFile []) ∧
      (Settings.default.withLiterals .reject).project (loopFile [modAssignment]) =
        (Settings.default.withLiterals .reject).project (loopFile []) ∧
      ((Settings.default.withLiterals .reject).project (loopFile [])).map
        (fun projected => projected.diagnostics.map Diagnostic.kind) =
          .ok [.placeholder .forLoop] := by
  have same : (loopFile [modAssignment]).SameBut Node.hideContents (loopFile []) := by
    decide
  exact ⟨by cbv, same, untranslated_contents_ignored _ same, by cbv⟩

end JavaProjection
