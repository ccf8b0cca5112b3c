import Mathlib
import JavaProjection.Proofs.Modifiers
import JavaProjection.Proofs.Results
import JavaProjection.Proofs.WellFormed.Syntax

/-!
# Projections build well-formed syntax

One theorem for each function of the projection: whatever the tree looks like, what the function
ends with is well formed. No kind, label or number of children is assumed of a node, so the tests
that the functions make themselves are all there is to go by.
-/

set_option autoImplicit false

namespace JavaProjection

open Projection

/-! ## Codes and modifiers -/

theorem Code.isPrimitive_of_primitiveOf? {terminal : Terminal} {code : Code}
    (spelled : primitiveOf? terminal = some code) : code.isPrimitive = true :=
  (Option.filter_eq_some_iff.1 spelled).2

theorem Code.rank_le_question {terminal : Terminal} {code : Code}
    (binary : terminal.isBinaryOperator = true) (other : terminal ≠ .dot)
    (coded : ofTerminal? terminal = some code) : code.rank ≤ question.rank := by
  cases terminal with
  | dot => exact absurd rfl other
  | _ => cases binary <;> cases coded <;> decide

theorem Node.modifiers?_proper (nodes : List Node) : ∀ set ∈ modifiers? nodes, set.Proper := by
  cases nodes with
  | nil => simp [modifiers?]
  | cons node rest =>
    rintro _ ⟨⟩ code present
    exact (Modifiers.mem_ofCodes.1 present).2

/-! ## Types -/

theorem TypeArgument.canonicalAll_iff {arguments : List TypeArgument} :
    CanonicalAll arguments ↔ ∀ argument ∈ arguments, argument.Canonical := by
  induction arguments with
  | nil => simp [CanonicalAll]
  | cons argument rest ih => simp only [CanonicalAll, List.forall_mem_cons, ih]

theorem TypeRef.canonical_named {name : DottedName} {arguments : Option (List TypeArgument)}
    {dims : Nat} (given : ∀ list ∈ arguments, TypeArgument.CanonicalAll list) :
    (TypeRef.named name arguments dims).Canonical := by
  cases arguments with
  | none => trivial
  | some list => exact given list rfl

theorem TypeRef.canonical_addDims {type : TypeRef} (canonical : type.Canonical) (extra : Nat) :
    (type.addDims extra).Canonical := by
  rcases type with _ | ⟨_, _ | _, _⟩ <;> exact canonical

namespace Node

theorem primitiveType_gives (node : Node) (dims : Nat) :
    Gives (node.primitiveType dims)
      fun type => ∃ code, code.isPrimitive = true ∧ type = .primitive code dims := by
  unfold primitiveType
  split
  · next code found =>
    apply Gives.rules.pure
    obtain ⟨token, _, inner⟩ := Option.bind_eq_some_iff.1 found
    obtain ⟨terminal, _, spelled⟩ := Option.bind_eq_some_iff.1 inner
    exact ⟨code, Code.isPrimitive_of_primitiveOf? spelled, rfl⟩
  · exact Gives.of_throw _

mutual

theorem typeRef_gives (node : Node) : Gives node.typeRef TypeRef.Canonical := by
  rw [typeRef]
  split
  · rw [visitRule_eq]
    apply judged_getD _ (Gives.of_throw _)
    apply judged_map
    intro named found
    have smaller := sizeOf_lt_of_mem (mem_of_ruleAt? found)
    exact namedType_gives named _
  · split
    · next primitive found =>
      apply (primitive.primitiveType_gives _).mono
      rintro _ ⟨code, isPrimitive, rfl⟩
      exact isPrimitive
    · exact Gives.of_throw _
  · exact Gives.of_throw _
termination_by sizeOf node

theorem namedType_gives (node : Node) (dims : Nat) :
    Gives (node.namedType dims) TypeRef.Canonical := by
  rw [namedType, visitRules_eq]
  apply Gives.rules.bind (Gives.trivial _)
  intro name _
  have given : Gives (ifPresent ((node.rules .typeArguments).map typeArguments).getLast?)
      fun result => ∀ list ∈ result, TypeArgument.CanonicalAll list := by
    apply Gives.rules.ifPresent
    intro inner last
    obtain ⟨arguments, child, rfl⟩ := List.mem_map.1 (List.mem_of_getLast? last)
    have smaller := sizeOf_lt_of_mem (mem_of_mem_rules child)
    exact typeArguments_gives arguments
  apply Gives.rules.bind given
  intro arguments ok
  exact Gives.rules.pure (TypeRef.canonical_named ok)
termination_by sizeOf node

theorem typeArguments_gives (node : Node) :
    Gives node.typeArguments TypeArgument.CanonicalAll := by
  rw [typeArguments, visitRules_eq]
  have each : Gives (inOrder ((node.rules .typeArgument).map typeArgument))
      fun arguments => ∀ argument ∈ arguments, argument.Canonical := by
    apply Gives.rules.inOrder
    intro action member
    obtain ⟨argument, child, rfl⟩ := List.mem_map.1 member
    have smaller := sizeOf_lt_of_mem (mem_of_mem_rules child)
    exact typeArgument_gives argument
  apply each.mono
  intro arguments canonical
  exact TypeArgument.canonicalAll_iff.2 canonical
termination_by sizeOf node

theorem typeArgument_gives (node : Node) : Gives node.typeArgument TypeArgument.Canonical := by
  rw [typeArgument, visitTypeAt_eq]
  have bound : Gives (ifPresent ((node.typeNodeAt? 0).map typeRef))
      fun result => ∀ type ∈ result, type.Canonical := by
    apply Gives.rules.ifPresent
    apply judged_map
    intro type found
    have smaller := sizeOf_lt_of_mem (mem_of_typeNodeAt? found)
    exact typeRef_gives type
  apply Gives.rules.bind bound
  intro result ok
  split
  · apply Gives.rules.pure
    cases result with
    | none => trivial
    | some type =>
      rw [Option.map_some]
      split <;> exact ok type rfl
  · cases result with
    | none => exact Gives.of_throw _
    | some type => exact Gives.rules.pure (ok type rfl)
termination_by sizeOf node

end

theorem firstType?_gives (node : Node) :
    Gives node.firstType? fun result => ∀ type ∈ result, type.Canonical := by
  apply Gives.rules.ifPresent
  apply judged_map
  intro type _
  exact type.typeRef_gives

theorem typeRefs_gives (node : Node) :
    Gives node.typeRefs fun types => ∀ type ∈ types, type.Canonical := by
  apply Gives.rules.inOrder
  intro action member
  obtain ⟨type, _, rfl⟩ := List.mem_map.1 member
  exact type.typeRef_gives

theorem typeParameter_gives (node : Node) :
    Gives node.typeParameter fun parameter => ∀ bound ∈ parameter.bounds, bound.Canonical := by
  unfold typeParameter
  apply Gives.rules.bind (Gives.trivial _)
  intro name _
  split
  · next bound _ =>
    apply Gives.rules.bind bound.typeRefs_gives
    intro bounds ok
    exact Gives.rules.pure ok
  · apply Gives.rules.pure
    simp

theorem typeParameters?_gives (node : Node) :
    Gives node.typeParameters? fun result => ∀ parameters ∈ result, ∀ parameter ∈ parameters,
      ∀ bound ∈ parameter.bounds, bound.Canonical := by
  apply Gives.rules.ifPresent
  apply judged_map
  intro list _
  apply Gives.rules.inOrder
  intro action member
  obtain ⟨parameter, _, rfl⟩ := List.mem_map.1 member
  exact parameter.typeParameter_gives

theorem interfaces?_gives (node : Node) :
    Gives node.interfaces? fun result => ∀ types ∈ result, ∀ type ∈ types, type.Canonical := by
  apply Gives.rules.ifPresent
  apply judged_map
  intro list _
  exact list.typeRefs_gives

theorem thrownTypes_gives (node : Node) :
    Gives node.thrownTypes fun types => ∀ type ∈ types, type.IsPlain := by
  unfold thrownTypes
  split
  · apply Gives.rules.inOrder
    intro action member
    obtain ⟨name, _, rfl⟩ := List.mem_map.1 member
    apply Gives.rules.bind (Gives.trivial _)
    intro name _
    exact Gives.rules.pure ⟨name, rfl⟩
  · apply Gives.rules.pure
    simp

theorem parameter_gives (node : Node) :
    Gives node.parameter fun parameter => parameter.type.Canonical := by
  unfold parameter
  split
  · exact Gives.of_throw _
  · next typeNode _ =>
    split
    · exact Gives.of_throw _
    · apply Gives.rules.bind (Gives.trivial _)
      intro name _
      apply Gives.rules.bind typeNode.typeRef_gives
      intro type canonical
      exact Gives.rules.pure (TypeRef.canonical_addDims canonical _)

theorem parameters_gives (node : Node) :
    Gives node.parameters
      fun parameters => ∀ parameter ∈ parameters, parameter.type.Canonical := by
  unfold parameters
  split
  · apply Gives.rules.inOrder
    intro action member
    obtain ⟨parameter, _, rfl⟩ := List.mem_map.1 member
    exact parameter.parameter_gives
  · apply Gives.rules.pure
    simp

/-! ## Leaves of expressions -/

theorem placeholder_yields (node : Node) {tag : Placeholder} (operand : tag.isOperand = true)
    (construct : String) : Yields (node.placeholder tag construct) Expression.WellFormed := by
  apply Yields.rules.bind (Yields.of_report _)
  intro _ _
  exact Yields.rules.pure operand

theorem writtenLiteral_gives (node : Node) {code : Code} {text : String}
    (kept : text ≠ "" → (Token.withText code text).IsLiteral) :
    Gives (node.writtenLiteral code text) Expression.WellFormed := by
  unfold writtenLiteral
  split
  · exact Gives.of_throw _
  · next written => exact Gives.rules.pure (kept written)

theorem unsupportedLiteral_yields (node : Node) :
    Yields node.unsupportedLiteral Expression.WellFormed := by
  constructor
  intro policy gathered value ended
  cases policy with
  | reject => cases ended
  | sentinel =>
    cases ended
    exact Token.IsLiteral.integer (by decide)

theorem literal_yields (node : Node) : Yields node.literal Expression.WellFormed := by
  unfold literal
  split
  · apply Yields.of_lift
    unfold booleanLiteral
    split
    · exact Gives.rules.pure Token.IsLiteral.true
    · exact Gives.rules.pure Token.IsLiteral.false
    · exact Gives.of_throw _
  · split
    · split
      · exact Yields.of_lift (writtenLiteral_gives _ .integer)
      · exact unsupportedLiteral_yields _
    · split
      · exact Yields.rules.pure Token.IsLiteral.null
      · split
        · exact Yields.of_lift (writtenLiteral_gives _ .floating)
        · split
          · apply Yields.of_lift
            unfold stringLiteral
            split
            · exact Gives.rules.pure (Token.IsLiteral.string _)
            · exact Gives.of_throw _
          · split
            · exact unsupportedLiteral_yields _
            · exact Yields.of_throw _

theorem reference?_wellFormed (node : Node) :
    ∀ expression ∈ node.reference?, expression.WellFormed := by
  intro expression found
  obtain ⟨identifier, _, rfl⟩ := Option.map_eq_some_iff.1 found
  rfl

theorem operatorCode_gives {node : Node} {terminal : Terminal}
    (kind : node.kind = .terminal terminal) (binary : terminal.isBinaryOperator = true)
    (other : terminal ≠ .dot) :
    Gives node.operatorCode fun code => code.rank ≤ Code.question.rank := by
  unfold operatorCode
  rw [kind]
  simp only
  split
  · next code coded => exact Gives.rules.pure (Code.rank_le_question binary other coded)
  · exact Gives.of_throw _

theorem invokedName_gives (node : Node) (onSuper : Bool) :
    Gives node.invokedName fun name => name.Invokes (node.hasTerminal .kwSuper || onSuper) := by
  unfold invokedName
  split
  · exact Gives.rules.pure (Or.inl ⟨_, rfl⟩)
  · split
    · next marked =>
      apply Gives.rules.pure
      refine Or.inr (Or.inl ⟨rfl, ?_⟩)
      rw [marked, Bool.true_or]
    · split
      · exact Gives.rules.pure (Or.inr (Or.inr rfl))
      · exact Gives.of_throw _

end Node

/-! ## Children -/

section Children

variable {α : Type} {property : α → Prop} {x : Node} {f : Node → Projection α}

theorem yields_ruleAt {rule : Rule} {index : Nat}
    (each : ∀ c, sizeOf c < sizeOf x → Yields (f c) property) :
    ∀ inner ∈ (x.ruleAt? rule index).map f, Yields inner property := by
  apply judged_map
  intro c child
  exact each c (Node.sizeOf_lt_of_mem (Node.mem_of_ruleAt? child))

theorem yields_rule {rule : Rule} (each : ∀ c, sizeOf c < sizeOf x → Yields (f c) property) :
    ∀ inner ∈ (x.rule? rule).map f, Yields inner property :=
  yields_ruleAt each

theorem yields_statementAt {index : Nat}
    (each : ∀ c, sizeOf c < sizeOf x → Yields (f c) property) :
    ∀ inner ∈ (x.statementAt? index).map f, Yields inner property := by
  apply judged_map
  intro c child
  exact each c (Node.sizeOf_lt_of_mem (Node.mem_of_statementAt? child))

theorem yields_labelled {label : String}
    (each : ∀ c, sizeOf c < sizeOf x → Yields (f c) property) :
    ∀ inner ∈ (x.labelled? label).map f, Yields inner property := by
  apply judged_map
  intro c child
  exact each c (Node.sizeOf_lt_of_mem (Node.mem_of_labelled? child))

theorem yields_rules {rule : Rule} (each : ∀ c, sizeOf c < sizeOf x → Yields (f c) property) :
    Yields (inOrder ((x.rules rule).map f)) fun values => ∀ value ∈ values, property value := by
  apply Yields.rules.inOrder
  intro projection member
  obtain ⟨c, child, rfl⟩ := List.mem_map.1 member
  exact each c (Node.sizeOf_lt_of_mem (Node.mem_of_mem_rules child))

end Children

/-! ## Expressions -/

/-- The functions through which all recursion passes build well-formed syntax at the node. -/
structure Builds (x : Node) : Prop where
  expression : Yields x.expression Expression.WellFormed
  initializers : Yields x.initializers Initializer.WellFormedAll
  statement : Yields x.statement Statement.WellFormed
  classBody : Yields x.classBody Declaration.MembersWellFormed

def BuildsBelow (x : Node) : Prop :=
  ∀ ⦃c : Node⦄, sizeOf c < sizeOf x → Builds c

namespace BuildsBelow

variable {x : Node}

theorem child {c : Node} (below : BuildsBelow x) (smaller : sizeOf c < sizeOf x) :
    BuildsBelow c := by
  intro d inner
  exact below (Nat.lt_trans inner smaller)

theorem operandAt (below : BuildsBelow x) (index : Nat) (expected : String) :
    Yields (x.operandAt index expected) Expression.WellFormed := by
  rw [Node.operandAt, Node.visitRuleAt_eq]
  apply judged_getD _ (Yields.of_throw _)
  exact yields_ruleAt fun c smaller => (below smaller).expression

theorem expressions (below : BuildsBelow x) :
    Yields x.expressions Expression.WellFormedAll := by
  rw [Node.expressions, Node.visitRules_eq]
  apply (yields_rules fun c smaller => (below smaller).expression).mono
  intro expressions formed
  exact Expression.wellFormedAll_iff.2 formed

theorem arguments (below : BuildsBelow x) : Yields x.arguments Expression.WellFormedAll := by
  rw [Node.arguments, Node.visitRule_eq]
  apply judged_getD _ (Yields.rules.pure trivial)
  exact yields_rule fun c smaller => (below.child smaller).expressions

theorem invocation (below : BuildsBelow x) {target : Option Expression} (onSuper : Bool)
    (formed : ∀ object ∈ target, object.WellFormed) :
    Yields (x.invocation target onSuper) Expression.WellFormed := by
  rw [Node.invocation]
  simp only [Node.visitRule_eq]
  apply Yields.rules.bind (Yields.of_lift (x.invokedName_gives onSuper))
  intro name invokes
  have given : Yields (((x.rule? .expressionList).map Node.expressions
      <|> (x.rule? .arguments).map Node.arguments).getD (pure [])) Expression.WellFormedAll := by
    apply judged_getD _ (Yields.rules.pure trivial)
    apply judged_orElse
    · exact yields_rule fun c smaller => (below.child smaller).expressions
    · exact yields_rule fun c smaller => (below.child smaller).arguments
  apply Yields.rules.bind given
  intro arguments argumentsFormed
  apply Yields.rules.pure
  cases target with
  | none => exact ⟨invokes, argumentsFormed⟩
  | some object => exact ⟨invokes, formed object rfl, argumentsFormed⟩

theorem initializer (below : BuildsBelow x) : Yields x.initializer Initializer.WellFormed := by
  rw [Node.initializer, Node.visitRule_eq]
  split
  · next elements found =>
    apply Yields.rules.map
    exact yields_rule (fun c smaller => (below smaller).initializers) elements found
  · exact Yields.rules.map (below.operandAt _ _)

theorem initializers (below : BuildsBelow x) :
    Yields x.initializers Initializer.WellFormedAll := by
  rw [Node.initializers, Node.visitRules_eq]
  apply (yields_rules fun c smaller => (below.child smaller).initializer).mono
  intro initializers formed
  exact Initializer.wellFormedAll_iff.2 formed

theorem arrayCreation (below : BuildsBelow x) (name : Node) :
    Yields (x.arrayCreation name) Expression.WellFormed := by
  rw [Node.arrayCreation]
  simp only [Node.visitRule_eq]
  have elements : Yields (((x.rule? .arrayInitializer).map Node.initializers).getD do
      let size ← x.operandAt 0 "operand expression"
      return [.expression size]) Initializer.WellFormedAll := by
    apply judged_getD
    · exact yields_rule fun c smaller => (below smaller).initializers
    · apply Yields.rules.bind (below.operandAt _ _)
      intro size formed
      exact Yields.rules.pure ⟨formed, trivial⟩
  split
  · next primitive _ =>
    apply Yields.rules.bind (Yields.of_lift (primitive.primitiveType_gives 0))
    intro element isPrimitive
    apply Yields.rules.bind elements
    intro initializer formed
    exact Yields.rules.pure ⟨Or.inr isPrimitive, formed⟩
  · rw [bind_map_left]
    apply Yields.rules.bind (Yields.of_lift (Gives.trivial _))
    intro element _
    apply Yields.rules.bind elements
    intro initializer formed
    exact Yields.rules.pure ⟨Or.inl ⟨element, rfl⟩, formed⟩

theorem instanceCreation (below : BuildsBelow x) (name : Node) :
    Yields (x.instanceCreation name) Expression.WellFormed := by
  rw [Node.instanceCreation]
  simp only [Node.visitRule_eq]
  have given : Yields (((x.rule? .arguments).map Node.arguments).getD (pure []))
      Expression.WellFormedAll := by
    apply judged_getD _ (Yields.rules.pure trivial)
    exact yields_rule fun c smaller => (below.child smaller).arguments
  have members : Yields (ifPresent ((x.rule? .classBody).map Node.classBody))
      fun body => ∀ members ∈ body, Declaration.MembersWellFormed members := by
    apply Yields.rules.ifPresent
    exact yields_rule fun c smaller => (below smaller).classBody
  apply Yields.rules.bind given
  intro arguments argumentsFormed
  apply Yields.rules.bind members
  intro body bodyFormed
  apply Yields.rules.bind (Yields.of_lift (Gives.trivial _))
  intro created _
  apply Yields.rules.pure
  cases body with
  | none => exact ⟨⟨created, rfl⟩, argumentsFormed⟩
  | some members => exact ⟨⟨created, rfl⟩, argumentsFormed, bodyFormed members rfl⟩

theorem creation (below : BuildsBelow x) : Yields x.creation Expression.WellFormed := by
  rw [Node.creation]
  simp only [Node.visitRule_eq]
  split
  · exact Yields.of_throw _
  · apply judged_getD _ (x.placeholder_yields rfl _)
    apply judged_orElse
    · exact yields_rule fun c smaller => (below.child smaller).instanceCreation _
    · exact yields_rule fun c smaller => (below.child smaller).arrayCreation _

theorem primary (below : BuildsBelow x) : Yields x.primary Expression.WellFormed := by
  rw [Node.primary, Node.visitRule_eq]
  split
  · next inner found =>
    apply Yields.rules.bind (yields_rule (fun c smaller => (below smaller).expression) inner found)
    intro value formed
    apply Yields.rules.pure
    split <;> exact formed
  · split
    · next reference found => exact Yields.rules.pure (x.reference?_wellFormed reference found)
    · split
      · exact Yields.rules.pure trivial
      · split
        · next literal _ => exact literal.literal_yields
        · exact x.placeholder_yields rfl _

theorem arrayAccess? (below : BuildsBelow x) :
    ∀ inner ∈ x.arrayAccess?, Yields inner Expression.WellFormed := by
  intro inner found
  rw [Node.arrayAccess?] at found
  split at found
  · cases found
    apply Yields.rules.bind (below.operandAt _ _)
    intro object objectFormed
    apply Yields.rules.bind (below.operandAt _ _)
    intro index indexFormed
    exact Yields.rules.pure ⟨objectFormed, indexFormed⟩
  · cases found

theorem unary? (below : BuildsBelow x) :
    ∀ inner ∈ x.unary?, Yields inner Expression.WellFormed := by
  rw [Node.unary?]
  apply judged_map
  rintro ⟨operator, behind⟩ _
  apply Yields.rules.bind (Yields.of_lift (Gives.trivial _))
  intro code _
  apply Yields.rules.bind (below.operandAt _ _)
  intro operand formed
  apply Yields.rules.pure
  cases behind <;> exact formed

theorem cast? (below : BuildsBelow x) :
    ∀ inner ∈ x.cast?, Yields inner Expression.WellFormed := by
  rw [Node.cast?]
  split
  · apply judged_map
    intro typeNode _
    apply Yields.rules.bind (Yields.of_lift typeNode.typeRef_gives)
    intro type canonical
    apply Yields.rules.bind (below.operandAt _ _)
    intro operand formed
    exact Yields.rules.pure ⟨canonical, formed⟩
  · simp

theorem recognized (below : BuildsBelow x) : Yields x.recognized Expression.WellFormed := by
  rw [Node.recognized]
  simp only [Node.visitRule_eq]
  apply judged_getD _ (x.placeholder_yields rfl _)
  refine judged_orElse below.arrayAccess? <| judged_orElse below.unary? <|
    judged_orElse below.cast? <| judged_orElse ?uncoded <| judged_orElse ?nested <|
    judged_orElse ?primary <| judged_orElse ?reference <| judged_orElse ?creation <|
    judged_orElse ?call ?switch
  case uncoded => exact judged_map fun construct _ => x.placeholder_yields rfl construct
  case nested => exact yields_rule fun c smaller => (below smaller).expression
  case primary => exact yields_rule fun c smaller => (below.child smaller).primary
  case reference =>
    apply judged_map
    intro reference found
    exact Yields.rules.pure (x.reference?_wellFormed reference found)
  case creation => exact yields_rule fun c smaller => (below.child smaller).creation
  case call =>
    apply yields_rule
    intro c smaller
    exact (below.child smaller).invocation false (by simp)
  case switch => exact judged_map fun _ _ => x.placeholder_yields rfl _

theorem binary (below : BuildsBelow x) {operator : Node} {terminal : Terminal}
    (kind : operator.kind = .terminal terminal) (inRange : terminal.isBinaryOperator = true)
    (other : terminal ≠ .dot) : Yields (x.binary operator) Expression.WellFormed := by
  rw [Node.binary]
  simp only [Node.visitRuleAt_eq]
  split
  · next left right leftFound rightFound =>
    have leftBuilds := yields_ruleAt (fun c smaller => (below smaller).expression) left leftFound
    have rightBuilds :=
      yields_ruleAt (fun c smaller => (below smaller).expression) right rightFound
    apply Yields.rules.bind (Yields.of_lift (Node.operatorCode_gives kind inRange other))
    intro code operator
    apply Yields.rules.bind leftBuilds
    intro leftValue leftFormed
    apply Yields.rules.bind rightBuilds
    intro rightValue rightFormed
    have ended : Yields (pure (.binary code leftValue rightValue)) Expression.WellFormed :=
      Yields.rules.pure ⟨operator, leftFormed, rightFormed⟩
    split
    · exact Yields.rules.bind (Yields.of_report _) fun _ _ => ended
    · exact ended
  · exact x.placeholder_yields rfl _

theorem memberAccess (below : BuildsBelow x) : Yields x.memberAccess Expression.WellFormed := by
  rw [Node.memberAccess]
  simp only [Node.visitRule_eq]
  split
  · next invoke found =>
    obtain ⟨call, child, rfl⟩ := Option.map_eq_some_iff.1 found
    have smaller := Node.sizeOf_lt_of_mem (Node.mem_of_ruleAt? child)
    split
    · exact (below.child smaller).invocation _ (by simp)
    · have onTarget : Yields (some <$> x.recognized)
          fun target => ∀ object ∈ target, object.WellFormed := by
        apply Yields.rules.map
        apply below.recognized.mono
        rintro object formed _ ⟨⟩
        exact formed
      apply Yields.rules.bind onTarget
      intro target formed
      exact (below.child smaller).invocation _ formed
  · split
    · split
      · exact Yields.rules.pure ⟨trivial, _, rfl⟩
      · apply Yields.rules.bind below.recognized
        intro object formed
        exact Yields.rules.pure ⟨formed, _, rfl⟩
    · exact x.placeholder_yields rfl _

theorem expression (below : BuildsBelow x) : Yields x.expression Expression.WellFormed := by
  rw [Node.expression]
  split
  · exact below.recognized
  · split
    · exact Yields.of_throw _
    · exact below.memberAccess
    · next terminal other kind =>
      split
      · next inRange => exact below.binary kind inRange other
      · exact x.placeholder_yields rfl _

/-! ## Statements -/

theorem declarator (below : BuildsBelow x) {modifiers : Option Modifiers} {type : TypeRef}
    (proper : ∀ set ∈ modifiers, set.Proper) (canonical : type.Canonical) :
    Yields (x.declarator modifiers type) fun declaration =>
      (declaration.IsMember ∧ declaration.IsLocal) ∧ declaration.WellFormed := by
  rw [Node.declarator, Node.visitRule_eq]
  split
  · exact Yields.of_throw _
  · split
    · exact Yields.of_throw _
    · apply Yields.rules.bind (Yields.rules.ifPresent (yields_rule fun c smaller =>
        (below.child smaller).initializer))
      intro initializer formed
      apply Yields.rules.pure
      refine ⟨⟨by simp [Declaration.IsMember], by simp [Declaration.IsLocal]⟩, ?_⟩
      apply Declaration.wellFormed_variable _ formed
      refine ⟨proper, ?_⟩
      rintro _ ⟨⟩
      exact canonical

theorem typedVariables (below : BuildsBelow x) (expected : String) {modifiers : Option Modifiers}
    (proper : ∀ set ∈ modifiers, set.Proper) :
    Yields (x.typedVariables expected modifiers) fun declarations =>
      ∀ declaration ∈ declarations,
        (declaration.IsMember ∧ declaration.IsLocal) ∧ declaration.WellFormed := by
  rw [Node.typedVariables]
  simp only [Node.visitRule_eq]
  split
  · exact Yields.of_throw _
  · next typeNode _ =>
    apply Yields.rules.bind (Yields.of_lift typeNode.typeRef_gives)
    intro type canonical
    apply judged_getD _ (Yields.of_throw _)
    apply yields_rule
    intro list smaller
    rw [Node.declarators, Node.visitRules_eq]
    exact yields_rules fun c inner =>
      ((below.child smaller).child inner).declarator proper canonical

theorem localVariables (below : BuildsBelow x) :
    Yields x.localVariables fun declarations =>
      ∀ declaration ∈ declarations, declaration.IsLocal ∧ declaration.WellFormed := by
  rw [Node.localVariables]
  simp only [Node.visitRule_eq]
  have proper := Node.modifiers?_proper (x.rules .variableModifier)
  split
  · split
    · exact Yields.of_throw _
    · split
      · exact Yields.of_throw _
      · next value found =>
        apply Yields.rules.bind
          (yields_rule (fun c smaller => (below smaller).expression) value found)
        intro value formed
        apply Yields.rules.pure
        intro declaration member
        obtain rfl := List.mem_singleton.1 member
        exact ⟨fun _ => ⟨rfl, value, rfl⟩, ⟨proper, by simp⟩, formed⟩
  · apply (below.typedVariables _ proper).mono
    intro declarations formed declaration member
    exact ⟨(formed declaration member).1.2, (formed declaration member).2⟩

theorem classDeclaration (below : BuildsBelow x) {modifiers : Option Modifiers}
    (proper : ∀ set ∈ modifiers, set.Proper) :
    Yields (x.classDeclaration modifiers) fun declaration =>
      declaration.IsClass ∧ declaration.WellFormed := by
  rw [Node.classDeclaration, Node.visitRule_eq]
  have body : Yields (((x.rule? .classBody).map Node.classBody).getD
      (throw (x.malformed "class body"))) Declaration.MembersWellFormed := by
    apply judged_getD _ (Yields.of_throw _)
    exact yields_rule fun c smaller => (below smaller).classBody
  apply Yields.rules.bind (Yields.of_lift (Gives.trivial _))
  intro name _
  apply Yields.rules.bind (Yields.of_lift x.typeParameters?_gives)
  intro typeParameters parametersFormed
  apply Yields.rules.bind (Yields.of_lift x.firstType?_gives)
  intro superclass superFormed
  apply Yields.rules.bind (Yields.of_lift x.interfaces?_gives)
  intro interfaces interfacesFormed
  apply Yields.rules.bind body
  intro members membersFormed
  apply Yields.rules.pure
  exact ⟨trivial, ⟨proper, parametersFormed, superFormed, interfacesFormed⟩, membersFormed⟩

theorem localType (below : BuildsBelow x) :
    Yields x.localType fun declaration => declaration.IsClass ∧ declaration.WellFormed := by
  rw [Node.localType, Node.visitRule_eq]
  apply judged_getD _ (Yields.of_throw _)
  exact yields_rule fun c smaller =>
    (below.child smaller).classDeclaration (Node.modifiers?_proper _)

theorem blockEntry (below : BuildsBelow x) :
    Yields x.blockEntry fun entries => ∀ entry ∈ entries, entry.WellFormed := by
  rw [Node.blockEntry]
  simp only [Node.visitRule_eq, Node.visitStatementAt_eq]
  apply judged_getD _ (Yields.of_throw _)
  refine judged_orElse ?declared <| judged_orElse ?statement ?type
  case declared =>
    apply yields_rule
    intro c smaller
    apply Yields.rules.map
    apply (below.child smaller).localVariables.mono
    intro declarations formed entry member
    obtain ⟨declaration, inside, rfl⟩ := List.mem_map.1 member
    exact formed declaration inside
  case statement =>
    apply yields_statementAt
    intro c smaller
    apply Yields.rules.bind (below smaller).statement
    intro statement formed
    apply Yields.rules.pure
    intro entry member
    obtain rfl := List.mem_singleton.1 member
    exact formed
  case type =>
    apply yields_rule
    intro c smaller
    apply Yields.rules.bind (below.child smaller).localType
    intro declaration formed
    apply Yields.rules.pure
    intro entry member
    obtain rfl := List.mem_singleton.1 member
    exact ⟨formed.1.isLocal, formed.2⟩

theorem block (below : BuildsBelow x) : Yields x.block BlockStatement.WellFormedAll := by
  rw [Node.block, Node.visitRules_eq]
  apply Yields.rules.map
  apply (yields_rules fun c smaller => (below.child smaller).blockEntry).mono
  intro groups formed
  apply BlockStatement.wellFormedAll_iff.2
  intro entry member
  obtain ⟨group, inside, present⟩ := List.mem_flatten.1 member
  exact formed group inside entry present

theorem condition (below : BuildsBelow x) : Yields x.condition Expression.WellFormed := by
  rw [Node.condition, Node.visitRule_eq]
  apply judged_getD _ (Yields.of_throw _)
  exact yields_rule fun c smaller => (below.child smaller).operandAt _ _

theorem substatement (below : BuildsBelow x) : Yields x.substatement Statement.WellFormed := by
  rw [Node.substatement, Node.visitStatementAt_eq]
  apply judged_getD _ (Yields.of_throw _)
  exact yields_statementAt fun c smaller => (below smaller).statement

theorem statement (below : BuildsBelow x) : Yields x.statement Statement.WellFormed := by
  rw [Node.statement]
  simp only [Node.visitRule_eq, Node.visitRuleAt_eq, Node.visitStatementAt_eq]
  split
  · apply Yields.rules.map
    apply judged_getD _ (Yields.of_throw _)
    exact yields_rule fun c smaller => (below.child smaller).block
  · apply Yields.rules.bind below.condition
    intro condition conditionFormed
    apply Yields.rules.bind below.substatement
    intro thenBranch thenFormed
    apply Yields.rules.bind (Yields.rules.ifPresent (yields_statementAt fun c smaller =>
      (below smaller).statement))
    intro elseBranch elseFormed
    apply Yields.rules.pure
    cases elseBranch with
    | none => exact ⟨conditionFormed, thenFormed⟩
    | some branch => exact ⟨conditionFormed, thenFormed, elseFormed branch rfl⟩
  · apply Yields.rules.bind below.condition
    intro condition conditionFormed
    apply Yields.rules.bind below.substatement
    intro body bodyFormed
    exact Yields.rules.pure ⟨conditionFormed, bodyFormed⟩
  · apply Yields.rules.bind below.substatement
    intro body bodyFormed
    apply Yields.rules.bind below.condition
    intro condition conditionFormed
    exact Yields.rules.pure ⟨bodyFormed, conditionFormed⟩
  · apply Yields.rules.map
    apply (Yields.rules.ifPresent (yields_rule fun c smaller => (below smaller).expression)).mono
    intro value formed
    cases value with
    | none => trivial
    | some value => exact formed value rfl
  · exact Yields.rules.pure trivial
  · exact Yields.rules.pure trivial
  · apply Yields.rules.bind (below.operandAt _ _)
    intro condition conditionFormed
    apply Yields.rules.bind (Yields.rules.ifPresent (yields_ruleAt fun c smaller =>
      (below smaller).expression))
    intro message messageFormed
    apply Yields.rules.pure
    cases message with
    | none => exact conditionFormed
    | some message => exact ⟨conditionFormed, messageFormed message rfl⟩
  · apply Yields.rules.map
    apply (below.operandAt _ _).mono
    intro value formed
    exact Statement.wellFormed_expression formed
  · split
    · apply Yields.rules.map
      apply Yields.rules.bind (Yields.of_report _)
      intro _ _
      exact Yields.rules.pure trivial
    · exact Yields.of_throw _
  · exact Yields.of_throw _

/-! ## Classes -/

theorem method (below : BuildsBelow x) {modifiers : Option Modifiers}
    (proper : ∀ set ∈ modifiers, set.Proper) :
    Yields (x.method modifiers) fun declaration =>
      declaration.IsMember ∧ declaration.WellFormed := by
  rw [Node.method]
  simp only [Node.visitRule_eq]
  split
  · exact Yields.of_throw _
  · next result _ =>
    have body : Yields (((x.rule? .methodBody).map fun body : Node =>
        (body.rule? .block).map Node.block).join.getD (pure [])) BlockStatement.WellFormedAll := by
      apply judged_getD _ (Yields.rules.pure trivial)
      intro inner found
      obtain ⟨outer, child, block⟩ := Option.map_eq_some_iff.1 (Option.join_eq_some_iff.1 found)
      have smaller := Node.sizeOf_lt_of_mem (Node.mem_of_ruleAt? child)
      exact yields_rule (fun c inside => ((below.child smaller).child inside).block) inner block
    apply Yields.rules.bind (Yields.of_lift result.firstType?_gives)
    intro returnType returnFormed
    apply Yields.rules.bind (Yields.of_lift (Gives.trivial _))
    intro name _
    apply Yields.rules.bind (Yields.of_lift x.parameters_gives)
    intro parameters parametersFormed
    apply Yields.rules.bind (Yields.of_lift x.thrownTypes_gives)
    intro throws throwsFormed
    apply Yields.rules.bind body
    intro body bodyFormed
    apply Yields.rules.pure
    exact ⟨trivial, ⟨proper, returnFormed, parametersFormed, throwsFormed⟩, bodyFormed⟩

theorem constructor (below : BuildsBelow x) {modifiers : Option Modifiers}
    (proper : ∀ set ∈ modifiers, set.Proper) :
    Yields (x.constructor modifiers) fun declaration =>
      declaration.IsMember ∧ declaration.WellFormed := by
  rw [Node.constructor]
  simp only [Node.visitRule_eq, Node.visitLabelled_eq]
  have body : Yields (((x.labelled? "constructorBody").map Node.block
      <|> (x.rule? .block).map Node.block).getD (throw (x.malformed "constructor body")))
      BlockStatement.WellFormedAll := by
    apply judged_getD _ (Yields.of_throw _)
    apply judged_orElse
    · exact yields_labelled fun c smaller => (below.child smaller).block
    · exact yields_rule fun c smaller => (below.child smaller).block
  apply Yields.rules.bind (Yields.of_lift x.parameters_gives)
  intro parameters parametersFormed
  apply Yields.rules.bind (Yields.of_lift x.thrownTypes_gives)
  intro throws throwsFormed
  apply Yields.rules.bind body
  intro body bodyFormed
  apply Yields.rules.pure
  exact ⟨trivial, ⟨proper, parametersFormed, throwsFormed⟩, bodyFormed⟩

/-- A member on its own, as the list of members that it makes up. -/
theorem singleMember {projection : Projection Declaration}
    (formed : Yields projection fun declaration =>
      declaration.IsMember ∧ declaration.WellFormed) :
    Yields (do let declaration ← projection; return [declaration])
      Declaration.MembersWellFormed := by
  apply Yields.rules.bind formed
  intro declaration formed
  exact Yields.rules.pure ⟨formed, trivial⟩

theorem member (below : BuildsBelow x) {modifiers : Option Modifiers}
    (proper : ∀ set ∈ modifiers, set.Proper) :
    Yields (x.member modifiers) Declaration.MembersWellFormed := by
  rw [Node.member]
  simp only [Node.visitRule_eq]
  apply judged_getD _ (Yields.rules.pure trivial)
  refine judged_orElse ?method <| judged_orElse ?nested <| judged_orElse ?field ?constructor
  case method =>
    apply yields_rule
    intro c smaller
    exact singleMember ((below.child smaller).method proper)
  case nested =>
    apply yields_rule
    intro c smaller
    apply singleMember
    apply ((below.child smaller).classDeclaration proper).mono
    intro declaration formed
    exact ⟨formed.1.isMember, formed.2⟩
  case field =>
    apply yields_rule
    intro c smaller
    apply ((below.child smaller).typedVariables _ proper).mono
    intro declarations formed
    apply Declaration.membersWellFormed_iff.2
    intro declaration member
    exact ⟨(formed declaration member).1.1, (formed declaration member).2⟩
  case constructor =>
    exact yields_rule fun c smaller => singleMember ((below.child smaller).constructor proper)

theorem classEntry (below : BuildsBelow x) :
    Yields x.classEntry Declaration.MembersWellFormed := by
  rw [Node.classEntry]
  simp only [Node.visitRule_eq]
  apply judged_getD _ (Yields.rules.pure trivial)
  apply judged_orElse
  · apply yields_rule
    intro c smaller
    apply Yields.rules.bind (below.child smaller).block
    intro body formed
    exact Yields.rules.pure ⟨⟨trivial, formed⟩, trivial⟩
  · exact yields_rule fun c smaller => (below.child smaller).member (Node.modifiers?_proper _)

theorem classBody (below : BuildsBelow x) :
    Yields x.classBody Declaration.MembersWellFormed := by
  rw [Node.classBody, Node.visitRules_eq]
  apply Yields.rules.map
  apply (yields_rules fun c smaller => (below.child smaller).classEntry).mono
  intro groups formed
  apply Declaration.membersWellFormed_iff.2
  intro declaration member
  obtain ⟨group, inside, present⟩ := List.mem_flatten.1 member
  exact Declaration.membersWellFormed_iff.1 (formed group inside) declaration present

end BuildsBelow

/-! ## Whole source files -/

theorem builds (x : Node) : Builds x := by
  have below : BuildsBelow x := by
    intro c smaller
    exact builds c
  exact {
    expression := below.expression
    initializers := below.initializers
    statement := below.statement
    classBody := below.classBody }
termination_by sizeOf x

theorem Node.typeDeclaration_yields (node : Node) :
    Yields node.typeDeclaration fun declarations =>
      ∀ declaration ∈ declarations, declaration.IsClass ∧ declaration.WellFormed := by
  unfold typeDeclaration
  split
  · apply Yields.rules.pure
    simp
  · next declared _ =>
    have below : BuildsBelow declared := fun c _ => builds c
    apply Yields.rules.bind (below.classDeclaration (modifiers?_proper _))
    intro declaration formed
    apply Yields.rules.pure
    intro other member
    obtain rfl := List.mem_singleton.1 member
    exact formed

/-- Everything that is projected is well formed, also from trees that no grammar would give. -/
theorem Node.compilationUnit_yields (root : Node) :
    Yields root.compilationUnit CompilationUnit.WellFormed := by
  unfold compilationUnit
  split
  · have declared : Yields (inOrder ((root.rules .typeDeclaration).map typeDeclaration))
        fun groups => ∀ group ∈ groups, ∀ declaration ∈ group,
          declaration.IsClass ∧ declaration.WellFormed :=
      yields_rules fun c _ => c.typeDeclaration_yields
    apply Yields.rules.bind (Yields.of_lift (Gives.trivial _))
    intro package _
    apply Yields.rules.bind (Yields.of_lift (Gives.trivial _))
    intro imports _
    apply Yields.rules.bind declared
    intro groups formed
    apply Yields.rules.pure
    intro declaration member
    obtain ⟨group, inside, present⟩ := List.mem_flatten.1 member
    exact formed group inside declaration present
  · exact Yields.of_throw _

/-- Whatever a projection ends with is well formed throughout, and its names have segments. -/
theorem projected_unit_wellFormed {settings : Settings} {root : Node} {projected : Projected}
    (ok : settings.project root = .ok projected) :
    projected.unit.WellFormed ∧ ∀ name : DottedName, name.toList ≠ [] := by
  obtain ⟨gathered, run, _⟩ := Settings.project_ok_iff.1 ok
  constructor
  · exact root.compilationUnit_yields.holds settings.literals #[] projected.unit (by rw [run])
  · intro name
    exact List.cons_ne_nil _ _

/-- A file with the method `void m() { var y = super.f(a[0]); for ... }`. -/
def localsFile : Node :=
  .classFile "A" [.branch .methodDeclaration
    [.branch .typeTypeOrVoid [.leaf .kwVoid "void"], .named "m",
      .branch .formalParameters [.leaf .leftParen "(", .leaf .rightParen ")"],
      .branch .methodBody [.branch .block
        [.branch .blockStatement [.branch .localVariableDeclaration
          [.leaf .kwVar "var", .named "y", .leaf .assign "=",
            memberOf superObject (callOf (.named "f") [.branch .expression
              [.primaryOf (.named "a"), .leaf .leftBracket "[",
                .primaryOf (.branch .literal [.branch .integerLiteral [.leaf .decimalLiteral "0"]]),
                .leaf .rightBracket "]"]])]],
          .branch .blockStatement [.branch .statementFor []]]]]]

def localsClass : Declaration :=
  .classType ⟨"A", none, none, none, none⟩
    [.method ⟨none, none, "m", [], []⟩
      [.declaration (.variable ⟨"y", none, none, 0⟩ (some (.expression
          (.invocation none true (.identifier "f")
            [.arrayAccess (.name "a") (.literal (.withText .integerLiteral "0"))])))),
        .statement (.placeholder .forLoop)]]

theorem localsFile_wellFormed :
    ∃ projected, Settings.default.project localsFile = .ok projected ∧
      projected.unit.declarations = [localsClass] ∧ projected.unit.WellFormed := by
  have declared : (Settings.default.project localsFile).map
      (fun projected => projected.unit.declarations) = .ok [localsClass] := by cbv
  cases run : Settings.default.project localsFile with
  | error failure =>
    rw [run] at declared
    cases declared
  | ok projected =>
    rw [run] at declared
    exact ⟨projected, rfl, Except.ok.inj declared, (projected_unit_wellFormed run).1⟩

end JavaProjection
