import Mathlib
import JavaProjection.Proofs.Canonical.Types
import JavaProjection.Proofs.Independence
import JavaProjection.Proofs.Json.Records
import JavaProjection.Proofs.Skeletons.Syntax
import JavaProjection.Proofs.Trees

/-!
# Statements are projected expression by expression

A statement with a skeleton is projected by projecting the expressions of the skeleton in their
order and filling their values in. Nothing else in it can fail or report, so values, reports and
the first failure of the whole are those of the expressions.
-/

set_option autoImplicit false

namespace JavaProjection

open Projection

/-! ## Parts of a node -/

namespace Node

variable {node : Node} {rule : Rule} {parts : List Node}

theorem isRule_of_kind (kind : node.kind = .rule rule) (wanted : Rule) :
    node.isRule wanted = decide (rule = wanted) := by
  rw [Bool.eq_iff_iff]
  simp [isRule, kind]

namespace ConsistsOf

theorem rules (shape : node.ConsistsOf rule parts) (wanted : Rule) :
    node.rules wanted = parts.filter fun part => part.isRule wanted := by
  rw [← shape.parts, Node.parts, List.filter_filter]
  apply List.filter_congr
  intro child _
  cases found : child.isRule wanted with
  | false => rfl
  | true => rw [eq_of_beq found]; rfl

theorem rulesWhere (shape : node.ConsistsOf rule parts) (test : Rule → Bool) :
    node.rulesWhere test = parts.filter fun part => part.kind.rule?.any test := by
  rw [← shape.parts, Node.parts, List.filter_filter]
  apply List.filter_congr
  intro child _
  cases child.kind <;> simp

theorem ruleAt? (shape : node.ConsistsOf rule parts) (wanted : Rule) (index : Nat) :
    node.ruleAt? wanted index = (parts.filter fun part => part.isRule wanted)[index]? := by
  rw [Node.ruleAt?, shape.rules]

theorem rule? (shape : node.ConsistsOf rule parts) (wanted : Rule) :
    node.rule? wanted = parts.find? fun part => part.isRule wanted := by
  rw [Node.rule?, shape.ruleAt?, ← List.head?_eq_getElem?, List.head?_filter]

theorem statementAt? (shape : node.ConsistsOf rule parts) (index : Nat) :
    node.statementAt? index =
      (parts.filter fun part => part.kind.rule?.any Rule.isStatement)[index]? := by
  rw [Node.statementAt?, statements, shape.rulesWhere]

theorem typeNodeAt? (shape : node.ConsistsOf rule parts) (index : Nat) :
    node.typeNodeAt? index =
      (parts.filter fun part => part.kind.rule?.any Rule.isType)[index]? := by
  rw [Node.typeNodeAt?, typeNodes, shape.rulesWhere]

/-- If all parts are of one kind, all are found. -/
theorem rules_of_each {σ : Type} {Fits : σ → Node → Prop} {skeletons : List σ} {wanted : Rule}
    (shape : node.ConsistsOf rule parts) (each : List.Forall₂ Fits skeletons parts)
    (kind : ∀ {skeleton part}, Fits skeleton part → part.kind = .rule wanted) :
    node.rules wanted = parts := by
  rw [shape.rules]
  apply List.filter_eq_self.2
  intro part member
  obtain ⟨skeleton, fits⟩ := Json.exists_of_mem_right each member
  exact beq_iff_eq.2 (kind fits)

end ConsistsOf

end Node

/-! ## Projections put together from expressions -/

/-- The projection runs through the expressions in their order. It ends with the whole of their
values and adds their reports, each expression being projected on its own, or it fails with the
failure of the first of them that fails. -/
structure Assembles {α : Type} (projection : Projection α) (expressions : List Node)
    (whole : (Node → Expression) → α) : Prop where
  ends {policy : LiteralPolicy} {value : Node → Expression} {reports : Node → List Diagnostic}
    (each : ∀ node ∈ expressions,
      node.expression.runFrom policy #[] = (.ok (value node), (reports node).toArray))
    (gathered : Array Diagnostic) :
    projection.runFrom policy gathered =
      (.ok (whole value), gathered ++ (expressions.flatMap reports).toArray)
  fails {policy : LiteralPolicy} {before after : List Node} {node : Node} {failure : Failure}
    (split : expressions = before ++ node :: after)
    (passed : ∀ earlier ∈ before, ∃ value, (earlier.expression.runFrom policy #[]).1 = .ok value)
    (failed : (node.expression.runFrom policy #[]).1 = .error failure)
    (gathered : Array Diagnostic) :
    (projection.runFrom policy gathered).1 = .error failure

/-- Expressions that end have values and reports. -/
theorem exists_values {policy : LiteralPolicy} {expressions : List Node}
    (passed : ∀ node ∈ expressions, ∃ value, (node.expression.runFrom policy #[]).1 = .ok value) :
    ∃ (value : Node → Expression) (reports : Node → List Diagnostic), ∀ node ∈ expressions,
      node.expression.runFrom policy #[] = (.ok (value node), (reports node).toArray) := by
  have each (node : Node) : ∃ value, node ∈ expressions →
      (node.expression.runFrom policy #[]).1 = .ok value := by
    by_cases member : node ∈ expressions
    · obtain ⟨value, ended⟩ := passed node member
      exact ⟨value, fun _ => ended⟩
    · exact ⟨.thisObject, fun inside => absurd inside member⟩
  choose value ended using each
  refine ⟨value, fun node => (node.expression.runFrom policy #[]).2.toList, ?_⟩
  intro node member
  rw [Array.toArray_toList, ← ended node member]

/-- Where a member of two lists stands: in the first, or in the second after all of the first. -/
theorem append_split {α : Type} {front back before after : List α} {middle : α}
    (same : front ++ back = before ++ middle :: after) :
    (∃ rest, front = before ++ middle :: rest) ∨
      ∃ rest, before = front ++ rest ∧ back = rest ++ middle :: after := by
  rcases List.append_eq_append_iff.1 same with ⟨rest, inFront, inBack⟩ | ⟨rest, inFront, inBack⟩
  · exact Or.inr ⟨rest, inFront, inBack⟩
  · cases rest with
    | nil =>
      refine Or.inr ⟨[], ?_, inBack.symm⟩
      rw [inFront, List.append_nil, List.append_nil]
    | cons first others =>
      obtain ⟨rfl, rfl⟩ := List.cons.inj inBack
      exact Or.inl ⟨others, inFront⟩

namespace Assembles

variable {α β : Type}

theorem of_pure (result : α) : Assembles (pure result) [] fun _ => result where
  ends _ gathered := by simp
  fails split := by simp at split

theorem of_expression {node : Node} (kind : node.kind = .rule .expression) :
    Assembles node.expression [node] fun value => value node where
  ends each gathered := by
    rw [Node.expression_independent kind, each node List.mem_cons_self]
    simp
  fails {policy before after blamed failure} split _ failed gathered := by
    obtain ⟨rfl, rfl, rfl⟩ : before = [] ∧ node = blamed ∧ after = [] := by
      cases before with
      | nil => simpa using split
      | cons first rest => simp at split
    rw [Node.expression_independent kind, failed]

/-- The second part is assembled whatever the first one returns, so the expressions of the two
follow each other. -/
theorem bind {first : Projection α} {next : α → Projection β} {front back : List Node}
    {part : (Node → Expression) → α} {whole : α → (Node → Expression) → β}
    (head : Assembles first front part)
    (tail : ∀ result, Assembles (next result) back (whole result)) :
    Assembles (first >>= next) (front ++ back) fun value => whole (part value) value where
  ends each gathered := by
    have eachFront := fun node member => each node (List.mem_append_left back member)
    have eachBack := fun node member => each node (List.mem_append_right front member)
    rw [runFrom_bind, head.ends eachFront gathered]
    simp only
    rw [(tail _).ends eachBack]
    simp
  fails {policy before after node failure} split passed failed gathered := by
    rcases append_split split with ⟨rest, inFront⟩ | ⟨rest, rfl, inBack⟩
    · exact runFrom_bind_of_error _ _ (head.fails inFront passed failed gathered) next
    · -- All expressions of the first part have passed, so it ends and the second part fails.
      obtain ⟨value, reports, each⟩ := exists_values fun other member =>
        passed other (List.mem_append_left rest member)
      have passedRest := fun other member => passed other (List.mem_append_right front member)
      rw [runFrom_bind, head.ends each gathered]
      exact (tail _).fails inBack passedRest failed _

theorem congr {projection : Projection α} {expressions expressions' : List Node}
    {whole whole' : (Node → Expression) → α} (assembles : Assembles projection expressions whole)
    (sameExpressions : expressions = expressions') (same : ∀ value, whole value = whole' value) :
    Assembles projection expressions' whole' := by
  obtain rfl := funext same
  rw [← sameExpressions]
  exact assembles

theorem map {projection : Projection α} {expressions : List Node}
    {part : (Node → Expression) → α} (assembles : Assembles projection expressions part)
    (f : α → β) : Assembles (f <$> projection) expressions fun value => f (part value) := by
  rw [map_eq_pure_bind]
  exact (assembles.bind fun result => of_pure (f result)).congr (List.append_nil _) fun _ => rfl

theorem ifPresent {node : Option Node} (kind : ∀ inner ∈ node, inner.kind = .rule .expression) :
    Assembles (Projection.ifPresent (node.map Node.expression)) node.toList
      fun value => node.map value := by
  cases node with
  | none => exact of_pure none
  | some inner => exact (of_expression (kind inner rfl)).bind fun result => of_pure (some result)

theorem inOrder {σ : Type} {action : Node → Projection α} {expressions : σ → List Node}
    {whole : (Node → Expression) → σ → α} {skeletons : List σ} {nodes : List Node}
    (each : List.Forall₂ (fun skeleton node =>
      Assembles (action node) (expressions skeleton) fun value => whole value skeleton)
      skeletons nodes) :
    Assembles (Projection.inOrder (nodes.map action)) (skeletons.flatMap expressions)
      fun value => skeletons.map (whole value) := by
  induction each with
  | nil => exact of_pure []
  | cons head _ ih =>
    exact (head.bind fun first => ih.bind fun rest => of_pure (first :: rest)).congr
      (by simp) fun _ => rfl

end Assembles

/-! ## Local declarations -/

namespace Node

variable {node inner : Node}

theorem operandAt_eq {index : Nat} (found : node.ruleAt? .expression index = some inner)
    (expected : String) : node.operandAt index expected = inner.expression := by
  rw [operandAt]
  simp [found]

theorem initializer_eq (shape : node.ConsistsOf .variableInitializer [inner])
    (kind : inner.kind = .rule .expression) :
    node.initializer = Initializer.expression <$> inner.expression := by
  have value : node.ruleAt? .expression 0 = some inner := by
    simp [shape.ruleAt?, isRule_of_kind kind]
  have noArray : node.rule? .arrayInitializer = none := by
    simp [shape.rule?, isRule_of_kind kind]
  rw [initializer, visitRule_eq, noArray, Option.map_none, operandAt_eq value]

end Node

theorem VariableSkeleton.Shapes.assembles {declared : VariableSkeleton} {node : Node}
    (shapes : declared.Shapes node) (modifiers : Option Modifiers) (type : TypeRef) :
    Assembles (node.declarator modifiers type) declared.value.toList
      fun value => declared.filled value modifiers type := by
  cases shapes with
  | @plain _ id name text dims shape idShape names brackets =>
    have foundId : node.rule? .variableDeclaratorId = some id := by
      simp [shape.rule?, Node.isRule_of_kind idShape.kind]
    have foundName : id.rule? .identifier = some name := by
      simp [idShape.rule?, Node.isRule_of_kind names.kind]
    have noValue : node.rule? .variableInitializer = none := by
      simp [shape.rule?, Node.isRule_of_kind idShape.kind]
    rw [Node.declarator]
    simp only [Node.visitRule_eq, foundId, foundName, noValue, names.spelled, brackets,
      Option.map_none, ifPresent, pure_bind]
    exact Assembles.of_pure _
  | @initialized _ id name initial value text dims shape idShape names brackets initialShape
      expression =>
    have foundId : node.rule? .variableDeclaratorId = some id := by
      simp [shape.rule?, Node.isRule_of_kind idShape.kind]
    have foundName : id.rule? .identifier = some name := by
      simp [idShape.rule?, Node.isRule_of_kind names.kind]
    have foundValue : node.rule? .variableInitializer = some initial := by
      simp [shape.rule?, Node.isRule_of_kind idShape.kind,
        Node.isRule_of_kind initialShape.kind]
    rw [Node.declarator]
    simp only [Node.visitRule_eq, foundId, foundName, foundValue, names.spelled, brackets,
      Option.map_some, ifPresent, Node.initializer_eq initialShape expression, bind_assoc,
      pure_bind, map_eq_pure_bind]
    exact (Assembles.of_expression expression).bind fun result => Assembles.of_pure _

theorem VariableSkeleton.Shapes.kind {declared : VariableSkeleton} {node : Node}
    (shapes : declared.Shapes node) : node.kind = .rule .variableDeclarator := by
  cases shapes with
  | plain shape => exact shape.kind
  | initialized shape => exact shape.kind

namespace Node.ConsistsOf

variable {node : Node} {rule : Rule} {front rest : List Node} {modifiers : Option Modifiers}

/-- Behind the modifiers of a declaration, what is no modifier is found where it stands. -/
theorem rule?_behind (shape : node.ConsistsOf rule (front ++ rest))
    (modify : Node.Modify front modifiers) {wanted : Rule}
    (other : Rule.variableModifier ≠ wanted) :
    node.rule? wanted = rest.find? fun part => part.isRule wanted := by
  have skipped : front.find? (fun part => part.isRule wanted) = none := by
    apply List.find?_eq_none.2
    intro modifier member
    simp [isRule_of_kind (modify.kind modifier member), other]
  rw [shape.rule?, List.find?_append, skipped, Option.none_or]

theorem typeNodeAt?_behind (shape : node.ConsistsOf rule (front ++ rest))
    (modify : Node.Modify front modifiers) (index : Nat) :
    node.typeNodeAt? index = (rest.filter fun part => part.kind.rule?.any Rule.isType)[index]? := by
  have skipped : front.filter (fun part => part.kind.rule?.any Rule.isType) = [] := by
    apply List.filter_eq_nil_iff.2
    intro modifier member
    simp [modify.kind modifier member, Rule.isType]
  rw [shape.typeNodeAt?, List.filter_append, skipped, List.nil_append]

theorem modifiers_eq (shape : node.ConsistsOf rule (front ++ rest))
    (modify : Node.Modify front modifiers)
    (others : ∀ part ∈ rest, part.isRule .variableModifier = false) :
    modifiers? (node.rules .variableModifier) = modifiers := by
  have kept : front.filter (fun part => part.isRule .variableModifier) = front := by
    apply List.filter_eq_self.2
    intro modifier member
    simp [isRule_of_kind (modify.kind modifier member)]
  have dropped : rest.filter (fun part => part.isRule .variableModifier) = [] := by
    apply List.filter_eq_nil_iff.2
    intro part member
    simp [others part member]
  rw [shape.rules, List.filter_append, kept, dropped, List.append_nil, modify.spelled]

end Node.ConsistsOf

theorem LocalSkeleton.Shapes.kind {declared : LocalSkeleton} {node : Node}
    (shapes : declared.Shapes node) : node.kind = .rule .localVariableDeclaration := by
  cases shapes with
  | typed shape => exact shape.kind
  | inferred shape => exact shape.kind

theorem LocalSkeleton.Shapes.assembles {declared : LocalSkeleton} {node : Node}
    (shapes : declared.Shapes node) :
    Assembles node.localVariables declared.expressions fun value => declared.filled value := by
  cases shapes with
  | @typed _ typeNode list front declarators modifiers type declared shape modify written typeKind
      typed listShape each =>
    obtain ⟨typeRule, found, isType⟩ := (Option.any_eq_true _ _).1 typeKind
    have typeRuleKind : typeNode.kind = .rule typeRule := Kind.rule?_eq_some_iff.1 found
    -- A type is neither a modifier nor a list of declarators, so the three cannot be mixed up.
    have notType (wanted : Rule) (other : wanted.isType = false) : typeRule ≠ wanted := by
      rintro rfl
      rw [isType] at other
      cases other
    have foundModifiers : Node.modifiers? (node.rules .variableModifier) = modifiers := by
      apply shape.modifiers_eq modify
      simp [Node.isRule_of_kind typeRuleKind, Node.isRule_of_kind listShape.kind,
        notType .variableModifier rfl]
    have foundType : node.typeNodeAt? 0 = some typeNode := by
      simp [shape.typeNodeAt?_behind modify, typeRuleKind, isType]
    have foundList : node.rule? .variableDeclarators = some list := by
      simp [shape.rule?_behind modify, Node.isRule_of_kind typeRuleKind,
        Node.isRule_of_kind listShape.kind, notType .variableDeclarators rfl]
    have foundEach : list.rules .variableDeclarator = declarators :=
      listShape.rules_of_each each VariableSkeleton.Shapes.kind
    rw [Node.localVariables]
    simp only [written, foundModifiers, Bool.false_eq_true, if_false]
    rw [Node.typedVariables]
    simp only [Node.visitRule_eq, foundType, foundList, typed, lift_pure, pure_bind,
      Option.map_some, Option.getD_some]
    rw [Node.declarators]
    simp only [Node.visitRules_eq, foundEach]
    exact Assembles.inOrder (each.imp fun _ _ shapes => shapes.assembles _ type)
  | @inferred _ name value front modifiers text shape modify inferred names expression =>
    have foundModifiers : Node.modifiers? (node.rules .variableModifier) = modifiers := by
      apply shape.modifiers_eq modify
      simp [Node.isRule_of_kind names.kind, Node.isRule_of_kind expression]
    have foundName : node.rule? .identifier = some name := by
      simp [shape.rule?_behind modify, Node.isRule_of_kind names.kind]
    have foundValue : node.rule? .expression = some value := by
      simp [shape.rule?_behind modify, Node.isRule_of_kind names.kind,
        Node.isRule_of_kind expression]
    rw [Node.localVariables]
    simp only [Node.visitRule_eq, inferred, foundModifiers, foundName, foundValue, names.spelled,
      if_true, Option.map_some]
    exact (Assembles.of_expression expression).bind fun result => Assembles.of_pure _

/-! ## Statements -/

theorem StatementSkeleton.Shapes.exists_rule {skeleton : StatementSkeleton} {node : Node}
    (shapes : skeleton.Shapes node) : ∃ rule, node.kind = .rule rule ∧ rule.isStatement = true := by
  cases shapes <;> next shape => exact ⟨_, shape.kind, rfl⟩

theorem StatementSkeleton.Shapes.isStatement {skeleton : StatementSkeleton} {node : Node}
    (shapes : skeleton.Shapes node) : node.kind.rule?.any Rule.isStatement = true := by
  obtain ⟨rule, kind, isStatement⟩ := shapes.exists_rule
  rw [kind]
  exact isStatement

theorem StatementSkeleton.Shapes.isRule_eq_false {skeleton : StatementSkeleton} {node : Node}
    (shapes : skeleton.Shapes node) {wanted : Rule} (other : wanted.isStatement = false) :
    node.isRule wanted = false := by
  obtain ⟨rule, kind, isStatement⟩ := shapes.exists_rule
  rw [Node.isRule_of_kind kind]
  apply decide_eq_false
  rintro rfl
  rw [isStatement] at other
  cases other

namespace Node

variable {node inner enclosed condition : Node}

theorem condition_eq (found : node.rule? .parExpression = some enclosed)
    (encloses : enclosed.Encloses condition) : node.condition = condition.expression := by
  have foundInner : enclosed.ruleAt? .expression 0 = some condition := by
    simp [encloses.shape.ruleAt?, isRule_of_kind encloses.expression]
  rw [Node.condition]
  simp only [visitRule_eq, found, Option.map_some, Option.getD_some, operandAt_eq foundInner]

theorem substatement_eq (found : node.statementAt? 0 = some inner) :
    node.substatement = inner.statement := by
  rw [substatement]
  simp [found]

theorem Encloses.isStatement (encloses : enclosed.Encloses condition) :
    enclosed.kind.rule?.any Rule.isStatement = false := by
  rw [encloses.shape.kind]
  rfl

theorem Encloses.isRule (encloses : enclosed.Encloses condition) :
    enclosed.isRule .parExpression = true :=
  beq_iff_eq.2 encloses.shape.kind

/-- What is found in a statement that starts with a condition and a statement. -/
theorem ConsistsOf.guarded {rule : Rule} {rest : List Node} {body : StatementSkeleton}
    (shape : node.ConsistsOf rule (enclosed :: inner :: rest))
    (encloses : enclosed.Encloses condition) (bodyShape : body.Shapes inner) :
    node.condition = condition.expression ∧ node.substatement = inner.statement ∧
      node.statementAt? 1 =
        (rest.filter fun part => part.kind.rule?.any Rule.isStatement)[0]? := by
  have foundCondition : node.rule? .parExpression = some enclosed := by
    simp [shape.rule?, encloses.isRule]
  have foundBody : node.statementAt? 0 = some inner := by
    simp [shape.statementAt?, encloses.isStatement, bodyShape.isStatement]
  refine ⟨condition_eq foundCondition encloses, substatement_eq foundBody, ?_⟩
  simp [shape.statementAt?, encloses.isStatement, bodyShape.isStatement]

end Node

def StatementSkeleton.Assembled (skeleton : StatementSkeleton) (node : Node) : Prop :=
  Assembles node.statement skeleton.expressions fun value => skeleton.filled value

namespace StatementSkeleton.Assembled

variable {node enclosed condition inner other : Node} {body elseBranch : StatementSkeleton}

theorem branch (shape : node.ConsistsOf .statementIf [enclosed, inner])
    (encloses : enclosed.Encloses condition) (bodyShape : body.Shapes inner)
    (assembled : body.Assembled inner) :
    (StatementSkeleton.branch condition body none).Assembled node := by
  obtain ⟨foundCondition, foundBody, noElse⟩ := shape.guarded encloses bodyShape
  unfold Assembled
  rw [Node.statement, shape.kind]
  simp only [foundCondition, foundBody, Node.visitStatementAt_eq, noElse, List.filter_nil,
    List.getElem?_nil, Option.map_none, ifPresent, pure_bind]
  exact (Assembles.of_expression encloses.expression).bind fun condition =>
    (assembled.bind fun body => Assembles.of_pure _).congr (List.append_nil _) fun _ => rfl

theorem branchElse (shape : node.ConsistsOf .statementIf [enclosed, inner, other])
    (encloses : enclosed.Encloses condition) (bodyShape : body.Shapes inner)
    (elseShape : elseBranch.Shapes other) (assembled : body.Assembled inner)
    (assembledElse : elseBranch.Assembled other) :
    (StatementSkeleton.branch condition body (some elseBranch)).Assembled node := by
  obtain ⟨foundCondition, foundBody, foundElse⟩ := shape.guarded encloses bodyShape
  have foundElse : node.statementAt? 1 = some other := by
    simp [foundElse, elseShape.isStatement]
  unfold Assembled
  rw [Node.statement, shape.kind]
  simp only [foundCondition, foundBody, Node.visitStatementAt_eq, foundElse, Option.map_some,
    ifPresent, bind_assoc, pure_bind]
  exact (Assembles.of_expression encloses.expression).bind fun condition =>
    assembled.bind fun body =>
      (assembledElse.bind fun elseBranch => Assembles.of_pure _).congr (List.append_nil _)
        fun _ => rfl

theorem whileLoop (shape : node.ConsistsOf .statementWhile [enclosed, inner])
    (encloses : enclosed.Encloses condition) (bodyShape : body.Shapes inner)
    (assembled : body.Assembled inner) :
    (StatementSkeleton.whileLoop condition body).Assembled node := by
  obtain ⟨foundCondition, foundBody, _⟩ := shape.guarded encloses bodyShape
  unfold Assembled
  rw [Node.statement, shape.kind]
  simp only [foundCondition, foundBody]
  exact (Assembles.of_expression encloses.expression).bind fun condition =>
    (assembled.bind fun body => Assembles.of_pure _).congr (List.append_nil _) fun _ => rfl

-- The body of this loop comes before its condition.
theorem doLoop (shape : node.ConsistsOf .statementDo [inner, enclosed])
    (bodyShape : body.Shapes inner) (encloses : enclosed.Encloses condition)
    (assembled : body.Assembled inner) :
    (StatementSkeleton.doLoop body condition).Assembled node := by
  have notCondition : inner.isRule .parExpression = false := bodyShape.isRule_eq_false rfl
  have foundCondition : node.rule? .parExpression = some enclosed := by
    simp [shape.rule?, encloses.isRule, notCondition]
  have foundBody : node.statementAt? 0 = some inner := by
    simp [shape.statementAt?, bodyShape.isStatement]
  unfold Assembled
  rw [Node.statement, shape.kind]
  simp only [Node.condition_eq foundCondition encloses, Node.substatement_eq foundBody]
  exact assembled.bind fun body =>
    (Assembles.of_expression encloses.expression).bind fun condition => Assembles.of_pure _

theorem returns {value : Option Node} (shape : node.ConsistsOf .statementReturn value.toList)
    (expression : ∀ inner ∈ value, inner.kind = .rule .expression) :
    (StatementSkeleton.returns value).Assembled node := by
  have foundValue : node.rule? .expression = value := by
    cases value with
    | none => simp [shape.rule?]
    | some inner => simp [shape.rule?, Node.isRule_of_kind (expression inner rfl)]
  unfold Assembled
  rw [Node.statement, shape.kind]
  simp only [Node.visitRule_eq, foundValue]
  exact (Assembles.ifPresent expression).map Statement.returns

theorem jumpLabel?_eq {name : Option Node} {label : Option String} {rule : Rule}
    (shape : node.ConsistsOf rule name.toList) (names : Option.Rel Node.Names name label) :
    node.jumpLabel? = label := by
  cases names with
  | none => simp [Node.jumpLabel?, shape.rule?]
  | some inner => simp [Node.jumpLabel?, shape.rule?, Node.isRule_of_kind inner.kind, inner.spelled]

theorem breaks {name : Option Node} {label : Option String}
    (shape : node.ConsistsOf .statementBreak name.toList)
    (names : Option.Rel Node.Names name label) :
    (StatementSkeleton.breaks label).Assembled node := by
  unfold Assembled
  rw [Node.statement, shape.kind]
  simp only [jumpLabel?_eq shape names]
  exact Assembles.of_pure _

theorem continues {name : Option Node} {label : Option String}
    (shape : node.ConsistsOf .statementContinue name.toList)
    (names : Option.Rel Node.Names name label) :
    (StatementSkeleton.continues label).Assembled node := by
  unfold Assembled
  rw [Node.statement, shape.kind]
  simp only [jumpLabel?_eq shape names]
  exact Assembles.of_pure _

theorem asserts {message : Option Node}
    (shape : node.ConsistsOf .statementAssert (condition :: message.toList))
    (expression : condition.kind = .rule .expression)
    (expressions : ∀ inner ∈ message, inner.kind = .rule .expression) :
    (StatementSkeleton.asserts condition message).Assembled node := by
  have foundCondition : node.ruleAt? .expression 0 = some condition := by
    simp [shape.ruleAt?, Node.isRule_of_kind expression]
  have foundMessage : node.ruleAt? .expression 1 = message := by
    cases message with
    | none => simp [shape.ruleAt?, Node.isRule_of_kind expression]
    | some inner =>
      simp [shape.ruleAt?, Node.isRule_of_kind expression,
        Node.isRule_of_kind (expressions inner rfl)]
  unfold Assembled
  rw [Node.statement, shape.kind]
  simp only [Node.operandAt_eq foundCondition, Node.visitRuleAt_eq, foundMessage]
  exact (Assembles.of_expression expression).bind fun condition =>
    ((Assembles.ifPresent expressions).bind fun message => Assembles.of_pure _).congr
      (List.append_nil _) fun _ => rfl

theorem expression (shape : node.ConsistsOf .statementExpression [inner])
    (kind : inner.kind = .rule .expression) :
    (StatementSkeleton.expression inner).Assembled node := by
  have found : node.ruleAt? .expression 0 = some inner := by
    simp [shape.ruleAt?, Node.isRule_of_kind kind]
  unfold Assembled
  rw [Node.statement, shape.kind]
  simp only [Node.operandAt_eq found]
  exact (Assembles.of_expression kind).map Statement.expression

end StatementSkeleton.Assembled

/-! ## Blocks -/

namespace EntrySkeleton

structure Assembled (entry : EntrySkeleton) (node : Node) : Prop where
  kind : node.kind = .rule .blockStatement
  assembles : Assembles node.blockEntry entry.expressions fun value => entry.filled value

theorem Assembled.locals {node inner : Node} {declared : LocalSkeleton}
    (shape : node.ConsistsOf .blockStatement [inner]) (shapes : declared.Shapes inner) :
    (EntrySkeleton.locals declared).Assembled node := by
  refine ⟨shape.kind, ?_⟩
  have found : node.rule? .localVariableDeclaration = some inner := by
    simp [shape.rule?, Node.isRule_of_kind shapes.kind]
  rw [Node.blockEntry]
  simp only [Node.visitRule_eq, found, Option.map_some]
  exact shapes.assembles.map _

theorem Assembled.statement {node inner : Node} {skeleton : StatementSkeleton}
    (shape : node.ConsistsOf .blockStatement [inner]) (shapes : skeleton.Shapes inner)
    (assembled : skeleton.Assembled inner) : (EntrySkeleton.statement skeleton).Assembled node := by
  refine ⟨shape.kind, ?_⟩
  have notVariable : inner.isRule .localVariableDeclaration = false := shapes.isRule_eq_false rfl
  have noVariable : node.rule? .localVariableDeclaration = none := by
    simp [shape.rule?, notVariable]
  have found : node.statementAt? 0 = some inner := by
    simp [shape.statementAt?, shapes.isStatement]
  rw [Node.blockEntry]
  simp only [Node.visitRule_eq, Node.visitStatementAt_eq, noVariable, found, Option.map_none,
    Option.map_some]
  exact (assembled.bind fun result => Assembles.of_pure _).congr (List.append_nil _) fun _ => rfl

theorem block_assembles {node : Node} {nodes : List Node} {entries : List EntrySkeleton}
    (shape : node.ConsistsOf .block nodes) (each : List.Forall₂ Assembled entries nodes) :
    Assembles node.block (expressionsAll entries) fun value => filledAll value entries := by
  have found : node.rules .blockStatement = nodes := shape.rules_of_each each Assembled.kind
  have inOrder := Assembles.inOrder (each.imp fun _ _ assembled => assembled.assembles)
  rw [Node.block]
  simp only [Node.visitRules_eq, found]
  refine (inOrder.map List.flatten).congr (expressionsAll_eq_flatMap entries).symm ?_
  intro value
  exact (filledAll_eq_flatten value entries).symm

end EntrySkeleton

theorem StatementSkeleton.Assembled.block {node body : Node} {nodes : List Node}
    {entries : List EntrySkeleton} (shape : node.ConsistsOf .statementBlockLabel [body])
    (bodyShape : body.ConsistsOf .block nodes)
    (each : List.Forall₂ EntrySkeleton.Assembled entries nodes) :
    (StatementSkeleton.block entries).Assembled node := by
  have found : node.rule? .block = some body := by
    simp [shape.rule?, Node.isRule_of_kind bodyShape.kind]
  unfold Assembled
  rw [Node.statement, shape.kind]
  simp only [Node.visitRule_eq, found, Option.map_some, Option.getD_some]
  exact (EntrySkeleton.block_assembles bodyShape each).map Statement.block

mutual

/-- The recursion follows the shape; one theorem for each form of statement does the work. -/
theorem StatementSkeleton.Shapes.assembled {skeleton : StatementSkeleton} {node : Node} :
    skeleton.Shapes node → skeleton.Assembled node
  | .branch shape encloses thenShape => .branch shape encloses thenShape thenShape.assembled
  | .branchElse shape encloses thenShape elseShape =>
    .branchElse shape encloses thenShape elseShape thenShape.assembled elseShape.assembled
  | .whileLoop shape encloses bodyShape => .whileLoop shape encloses bodyShape bodyShape.assembled
  | .doLoop shape bodyShape encloses => .doLoop shape bodyShape encloses bodyShape.assembled
  | .returns shape expression => .returns shape expression
  | .breaks shape names => .breaks shape names
  | .continues shape names => .continues shape names
  | .asserts shape expression expressions => .asserts shape expression expressions
  | .block shape bodyShape each => .block shape bodyShape each.assembled
  | .expression shape kind => .expression shape kind

theorem EntrySkeleton.Shapes.assembled {entry : EntrySkeleton} {node : Node} :
    entry.Shapes node → entry.Assembled node
  | .locals shape innerShape => .locals shape innerShape
  | .statement shape innerShape => .statement shape innerShape innerShape.assembled

theorem EntrySkeleton.ShapesAll.assembled {entries : List EntrySkeleton} {nodes : List Node} :
    EntrySkeleton.ShapesAll entries nodes → List.Forall₂ EntrySkeleton.Assembled entries nodes
  | .nil => .nil
  | .cons head tail => .cons head.assembled tail.assembled

end

/-- Every statement and every block with a skeleton is projected by its expressions: if each of
them has a value on its own, the whole is the skeleton filled with the values, and its reports are
theirs in order; otherwise it fails as the first of them that fails. -/
theorem statements_follow_expressions :
    (∀ (skeleton : StatementSkeleton) (node : Node), skeleton.Shapes node →
      Assembles node.statement skeleton.expressions fun value => skeleton.filled value) ∧
    ∀ (entries : List EntrySkeleton) (node : Node) (inner : List Node),
      node.ConsistsOf .block inner → EntrySkeleton.ShapesAll entries inner →
      Assembles node.block (EntrySkeleton.expressionsAll entries)
        fun value => EntrySkeleton.filledAll value entries :=
  ⟨fun _ _ shapes => shapes.assembled,
    fun _ _ _ shape shapes => EntrySkeleton.block_assembles shape shapes.assembled⟩

/-! ## A block -/

section LoopBlock

open Node

def nameExpression (name : String) : Node :=
  primaryOf (named name)

def lambdaNode : Node :=
  branch .expression [branch .lambdaExpression []]

def conditionNode (condition : Node) : Node :=
  branch .parExpression [leaf .leftParen "(", condition, leaf .rightParen ")"]

/-- The declaration `final int x, y[] = a`. -/
def localNode : Node :=
  branch .localVariableDeclaration
    [branch .variableModifier [leaf .kwFinal "final"], (TypeRef.primitive .kwInt 0).tree,
      branch .variableDeclarators
        [branch .variableDeclarator [branch .variableDeclaratorId [named "x"]], leaf .comma ",",
          branch .variableDeclarator
            [branch .variableDeclaratorId (named "y" :: bracketPairs 1), leaf .assign "=",
              branch .variableInitializer [nameExpression "a"]]]]

/-- The statement `do if (b) return value; else break out; while (c);`. -/
def loopNode (value : Node) : Node :=
  branch .statementDo [leaf .kwDo "do",
    branch .statementIf [leaf .kwIf "if", conditionNode (nameExpression "b"),
      branch .statementReturn [leaf .kwReturn "return", value, leaf .semi ";"],
      leaf .kwElse "else",
      branch .statementBreak [leaf .kwBreak "break", named "out", leaf .semi ";"]],
    leaf .kwWhile "while", conditionNode (nameExpression "c"), leaf .semi ";"]

def loopBlock (value : Node) : Node :=
  branch .block [leaf .leftBrace "\x7b",
    branch .blockStatement [localNode, leaf .semi ";"],
    branch .blockStatement [loopNode value],
    branch .blockStatement [branch .statementExpression [lambdaNode, leaf .semi ";"]],
    leaf .rightBrace "\x7d"]

def localModifiers : Option Modifiers :=
  some (Modifiers.ofCodes [.kwFinal])

def localSkeleton : LocalSkeleton :=
  .typed localModifiers (.primitive .kwInt 0)
    [⟨"x", 0, none⟩, ⟨"y", 1, some (nameExpression "a")⟩]

def loopSkeleton (value : Node) : StatementSkeleton :=
  .doLoop (.branch (nameExpression "b") (.returns (some value)) (some (.breaks (some "out"))))
    (nameExpression "c")

def loopEntries (value : Node) : List EntrySkeleton :=
  [.locals localSkeleton, .statement (loopSkeleton value), .statement (.expression lambdaNode)]

theorem localSkeleton_shapes : localSkeleton.Shapes localNode := by
  have modify : Modify [branch .variableModifier [leaf .kwFinal "final"]] localModifiers :=
    ⟨by simp, rfl⟩
  exact .typed ⟨rfl, rfl⟩ modify rfl rfl (TypeRef.typeRef_tree _ rfl) ⟨rfl, rfl⟩
    (.cons (.plain ⟨rfl, rfl⟩ ⟨rfl, rfl⟩ ⟨rfl, rfl⟩ rfl)
      (.cons (.initialized ⟨rfl, rfl⟩ ⟨rfl, rfl⟩ ⟨rfl, rfl⟩ rfl ⟨rfl, rfl⟩ rfl) .nil))

theorem loopSkeleton_shapes {value : Node} (kind : value.kind = .rule .expression) :
    (loopSkeleton value).Shapes (loopNode value) := by
  have returned : StatementSkeleton.Shapes (.returns (some value))
      (branch .statementReturn [leaf .kwReturn "return", value, leaf .semi ";"]) := by
    refine .returns ⟨rfl, by simp [parts, kind]⟩ ?_
    rintro _ ⟨⟩
    exact kind
  have broken : StatementSkeleton.Shapes (.breaks (some "out"))
      (branch .statementBreak [leaf .kwBreak "break", named "out", leaf .semi ";"]) :=
    .breaks ⟨rfl, rfl⟩ (.some ⟨rfl, rfl⟩)
  exact .doLoop ⟨rfl, rfl⟩ (.branchElse ⟨rfl, rfl⟩ ⟨⟨rfl, rfl⟩, rfl⟩ returned broken)
    ⟨⟨rfl, rfl⟩, rfl⟩

theorem loopEntries_shapes {value : Node} (kind : value.kind = .rule .expression) :
    EntrySkeleton.ShapesAll (loopEntries value) (loopBlock value).parts :=
  .cons (.locals ⟨rfl, rfl⟩ localSkeleton_shapes)
    (.cons (.statement ⟨rfl, rfl⟩ (loopSkeleton_shapes kind))
      (.cons (.statement ⟨rfl, rfl⟩ (.expression ⟨rfl, rfl⟩ rfl)) .nil))

def loopValue (node : Node) : Expression :=
  if node = lambdaNode then .placeholder .expression else .name node.fullText

def loopReports (node : Node) : List Diagnostic :=
  if node = lambdaNode then
    [.warning (.placeholder .expression) "lambda expression is not translated" .zero]
  else []

/-- With `return d` the block reports the lambda. With `return a %= b` the assignment, after two
expressions that end, is the failure of the loop and of the block. -/
theorem loopBlock_assembled :
    (loopBlock (nameExpression "d")).block.runFrom .reject #[] =
        (.ok (EntrySkeleton.filledAll loopValue (loopEntries (nameExpression "d"))),
          #[.warning (.placeholder .expression) "lambda expression is not translated" .zero]) ∧
      ((loopNode (joined .modAssign "%=")).statement.runFrom .reject #[]).1 =
        .error (.unsupportedToken .modAssign "%=" .zero) ∧
      ((loopBlock (joined .modAssign "%=")).block.runFrom .reject #[]).1 =
        .error (.unsupportedToken .modAssign "%=" .zero) := by
  have ended (name : String) (known : name ∈ ["a", "b", "c", "d"]) :
      (nameExpression name).expression.runFrom .reject #[] =
        (.ok (loopValue (nameExpression name)), (loopReports (nameExpression name)).toArray) := by
    fin_cases known <;> cbv
  have reported : lambdaNode.expression.runFrom .reject #[] =
      (.ok (loopValue lambdaNode), (loopReports lambdaNode).toArray) := by cbv
  have failed : ((joined .modAssign "%=").expression.runFrom .reject #[]).1 =
      .error (.unsupportedToken .modAssign "%=" .zero) := by cbv
  have each : ∀ node ∈ EntrySkeleton.expressionsAll (loopEntries (nameExpression "d")),
      node.expression.runFrom .reject #[] = (.ok (loopValue node), (loopReports node).toArray) := by
    change ∀ node ∈ [nameExpression "a", nameExpression "b", nameExpression "d",
      nameExpression "c", lambdaNode], _
    simp only [List.forall_mem_cons]
    exact ⟨ended "a" (by simp), ended "b" (by simp), ended "d" (by simp), ended "c" (by simp),
      reported, List.forall_mem_nil _⟩
  have loopSplit : (loopSkeleton (joined .modAssign "%=")).expressions =
      [nameExpression "b"] ++ joined .modAssign "%=" :: [nameExpression "c"] := rfl
  have blockSplit : EntrySkeleton.expressionsAll (loopEntries (joined .modAssign "%=")) =
      [nameExpression "a", nameExpression "b"] ++
        joined .modAssign "%=" :: [nameExpression "c", lambdaNode] := rfl
  have loopPassed : ∀ node ∈ [nameExpression "b"], ∃ value,
      (node.expression.runFrom .reject #[]).1 = .ok value := by
    simp only [List.forall_mem_singleton, ended "b" (by simp)]
    exact ⟨_, rfl⟩
  have blockPassed : ∀ node ∈ [nameExpression "a", nameExpression "b"], ∃ value,
      (node.expression.runFrom .reject #[]).1 = .ok value := by
    refine List.forall_mem_cons.2 ⟨?_, loopPassed⟩
    rw [ended "a" (by simp)]
    exact ⟨_, rfl⟩
  refine ⟨?_, ?_, ?_⟩
  · exact (statements_follow_expressions.2 _ _ _ ⟨rfl, rfl⟩ (loopEntries_shapes rfl)).ends each #[]
  · exact (statements_follow_expressions.1 _ _ (loopSkeleton_shapes rfl)).fails
      loopSplit loopPassed failed #[]
  · exact (statements_follow_expressions.2 _ _ _ ⟨rfl, rfl⟩ (loopEntries_shapes rfl)).fails
      blockSplit blockPassed failed #[]

end LoopBlock

end JavaProjection
