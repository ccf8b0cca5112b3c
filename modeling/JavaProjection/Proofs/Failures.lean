import Mathlib
import JavaProjection.Proofs.Literals
import JavaProjection.Proofs.Lockstep.Unit
import JavaProjection.Proofs.Trees

/-!
# Every failure is justified

A projection that fails names a place of the source. At that place stands a node of the tree that
is defective in the way the failure says, so no failure is due to the projection itself.
-/

set_option autoImplicit false

namespace JavaProjection

open Projection

/-- Every failure of the projection is justified by a node of the tree of the root. -/
def FailsJustified (policy : LiteralPolicy) (root : Node) ⦃α : Type⦄
    (projection : Projection α) : Prop :=
  ∀ gathered failure, (projection.runFrom policy gathered).1 = .error failure →
    ∃ node, root.Contains node ∧ node.Justifies policy root failure

namespace FailsJustified

variable {policy : LiteralPolicy} {root node : Node} {α β : Type}

theorem of_pure (value : α) : FailsJustified policy root (pure value : Projection α) := by
  intro gathered failure failed
  cases failed

theorem of_throw {failure : Failure} (inside : root.Contains node)
    (justified : node.Justifies policy root failure) :
    FailsJustified policy root (throw failure : Projection α) := by
  intro gathered failure' failed
  cases failed
  exact ⟨node, inside, justified⟩

theorem of_report (diagnostic : Diagnostic) : FailsJustified policy root (report diagnostic) := by
  intro gathered failure failed
  cases failed

theorem bind {first : Projection α} {next : α → Projection β}
    (head : FailsJustified policy root first)
    (tail : ∀ value, FailsJustified policy root (next value)) :
    FailsJustified policy root (first >>= next) := by
  intro gathered failure failed
  rw [runFrom_bind] at failed
  split at failed
  · next value further run => exact tail value further failure failed
  · next failure' further run =>
    cases failed
    exact head gathered failure (by rw [run])

theorem of_placeholder (node : Node) (tag : Placeholder) (construct : String) :
    FailsJustified policy root (node.placeholder tag construct) :=
  bind (of_report _) fun _ => of_pure _

/-! ## Leaves -/

/-- A literal fails at itself or at a part of it, and which of them is to blame decides the node. -/
theorem of_literal (inside : root.Contains node) (kind : node.kind = .rule .literal) :
    FailsJustified policy root node.literal := by
  cases Node.readsLiteral kind with
  | kept token read =>
    rw [read]
    exact of_pure _
  | unreadable part below cause read =>
    rw [read]
    exact of_throw (inside.trans below) (.invalidLiteral (cause policy))
  | unsupported part below cause read =>
    rw [read]
    intro gathered failure failed
    cases policy with
    | sentinel => cases failed
    | reject =>
      cases failed
      exact ⟨part, inside.trans below, .invalidLiteral cause⟩

theorem of_unsupportedType (inside : root.Contains node)
    (kind : node.kind = .rule .localTypeDeclaration)
    (noClass : node.rule? .classDeclaration = none) :
    FailsJustified policy root
      (throw (.unsupportedLocalType node.localTypeTitle node.span) : Projection α) := by
  refine of_throw inside (.unsupportedLocalType ⟨kind, noClass, ?_⟩)
  unfold Node.localTypeTitle
  cases constructs : node.rulesWhere fun rule => rule != .classOrInterfaceModifier with
  | nil => exact Or.inr ⟨rfl, rfl⟩
  | cons child rest =>
    have member : child ∈ node.rulesWhere fun rule => rule != .classOrInterfaceModifier := by
      rw [constructs]
      exact List.mem_cons_self
    obtain ⟨rule, isRule, _⟩ := (Option.any_eq_true _ _).1 (List.mem_filter.1 member).2
    refine Or.inl ⟨child, rule, rest, ?_, Kind.rule?_eq_some_iff.1 isRule, rfl⟩
    simp [isRule]

/-- A tree paired with itself, node by node. -/
theorem simulation (policy : LiteralPolicy) (root : Node) :
    Simulation (fun x y => x = y ∧ root.Contains x)
      (fun _ first _ => FailsJustified policy root first) where
  pure := of_pure
  bind := bind
  kind related := congrArg Node.kind related.1
  label related := congrArg Node.label related.1
  children := by
    rintro x _ ⟨rfl, inside⟩ _
    exact List.forall₂_same.2 fun child member => ⟨rfl, .child inside member⟩
  identifierText related _ := congrArg Node.identifierText related.1
  literal related kind := of_literal related.2 kind
  malformed related defect := of_throw related.2 (.malformedTree defect)
  unsupportedToken related uncoded := of_throw related.2 (.unsupportedToken uncoded)
  unsupportedLocalType related kind noClass := of_unsupportedType related.2 kind noClass
  placeholder tag construct _ := of_placeholder _ tag construct
  operatorPlaceholder _ _ := of_placeholder _ _ _
  droppedBranch _ := of_report _

end FailsJustified

/-- Whenever a projection fails, a node of the tree explains the failure, and the failure names
its place. If it says that the root is no source file, the node is the root. That a node is taken
for a statement or a type without being one is never the cause. -/
theorem exists_justifying_node {settings : Settings} {root : Node} {failure : Failure}
    (failed : settings.project root = .error failure) :
    (∃ node, root.Contains node ∧ node.span = failure.span ∧
      node.Justifies settings.literals root failure ∧
      ∀ span, failure = .malformedTree "compilationUnit root" span → node = root) ∧
    ∀ span, failure ≠ .malformedTree "statement" span ∧
      failure ≠ .malformedTree "typeType alternative" span := by
  have run := Settings.project_error_iff.1 failed
  have walk := (FailsJustified.simulation settings.literals root).compilationUnit ⟨rfl, .root⟩
    fun other => FailsJustified.of_throw .root (.malformedRoot rfl other)
  obtain ⟨node, inside, justified⟩ := walk #[] failure run
  refine ⟨⟨node, inside, ?_, justified, ?_⟩, ?_⟩
  · cases justified <;> rfl
  · rintro span rfl
    obtain defect | ⟨isRoot, _⟩ := justified.malformed_cases
    · exact absurd rfl defect.text_ne.1
    · exact isRoot
  · intro span
    constructor <;> rintro rfl <;> obtain defect | ⟨_, text⟩ := justified.malformed_cases
    · exact defect.text_ne.2.1 rfl
    · exact absurd text (by decide)
    · exact defect.text_ne.2.2 rfl
    · exact absurd text (by decide)

/-- A file whose one field has the value `a %= b`, the operator at the bytes 22 to 24. -/
def modAssignFile : Node :=
  .classFile "A" [.intField "x" (.branch .expression
    [.primaryOf (.named "a"),
      ((Node.leaf .modAssign "%=").boundTo "bop").standingAt ⟨22, 24, by decide⟩,
      .primaryOf (.named "b")])]

theorem modAssignFile_justified :
    Settings.default.project modAssignFile =
      .error (.unsupportedToken .modAssign "%=" ⟨22, 24, by decide⟩) ∧
    ∃ node, modAssignFile.Contains node ∧ node.span = ⟨22, 24, by decide⟩ ∧
      node.Justifies .sentinel modAssignFile
        (.unsupportedToken .modAssign "%=" ⟨22, 24, by decide⟩) := by
  have failed : Settings.default.project modAssignFile =
      .error (.unsupportedToken .modAssign "%=" ⟨22, 24, by decide⟩) := by cbv
  obtain ⟨⟨node, inside, place, justified, _⟩, _⟩ := exists_justifying_node failed
  exact ⟨failed, node, inside, place, justified⟩

end JavaProjection
