import JavaProjection.Proofs.Lockstep.Types

/-!
# Lockstep of expressions, statements and declarations

One theorem for each function of the projection: if the functions keep step below a node, they
keep step at the node. The kind of a node is known wherever a function is called, which rules out
the failures that no tree can reach. All recursion passes through four of the functions, so one
induction on the size of the tree closes the circle for these.
-/

set_option autoImplicit false

namespace JavaProjection

open Projection

/-- Two nodes are projected in step by the functions through which all recursion passes. -/
structure Lockstep (P : ⦃α : Type⦄ → Projection α → Projection α → Prop) (x y : Node) : Prop where
  expression : x.kind = .rule .expression → P x.expression y.expression
  initializers : x.kind = .rule .arrayInitializer → P x.initializers y.initializers
  statement : (∃ rule, x.kind = .rule rule ∧ rule.isStatement = true) →
    P x.statement y.statement
  classBody : x.kind = .rule .classBody → P x.classBody y.classBody

def Below (R : Node → Node → Prop) (P : ⦃α : Type⦄ → Projection α → Projection α → Prop)
    (x : Node) : Prop :=
  ∀ ⦃fits : Node → Prop⦄ ⦃c d : Node⦄, Part R x fits c d → Lockstep P c d

section

variable {R : Node → Node → Prop} {P : ⦃α : Type⦄ → Projection α → Projection α → Prop}
  {x y : Node}

theorem Below.of_part {fits : Node → Prop} {c d : Node} (below : Below R P x)
    (part : Part R x fits c d) : Below R P c := by
  intro fits' c' d' inner
  exact below ⟨inner.related, Nat.lt_trans inner.smaller part.smaller, inner.fits⟩

theorem Rule.statement_cases {rule : Rule} (known : rule.isStatement = true) :
    (∃ tag construct, rule.placeholderStatement? = some (tag, construct)) ∨
      rule = .statementBlockLabel ∨ rule = .statementIf ∨ rule = .statementWhile ∨
      rule = .statementDo ∨ rule = .statementReturn ∨ rule = .statementBreak ∨
      rule = .statementContinue ∨ rule = .statementAssert ∨ rule = .statementExpression := by
  cases rule <;> simp [isStatement, placeholderStatement?] at known ⊢

theorem Node.statement_eq_placeholder {node : Node} {rule : Rule} {tag : Placeholder}
    {construct : String} (kind : node.kind = .rule rule)
    (placeholder : rule.placeholderStatement? = some (tag, construct)) :
    node.statement = .expression <$> node.placeholder tag construct := by
  rw [Node.statement, kind]
  split
  case h_10 rule' _ _ _ _ _ _ _ _ _ same =>
    cases same
    rw [placeholder]
  all_goals next same =>
    cases same <;> cases placeholder

namespace Simulation

/-! ## Expressions -/

theorem operandAt (sim : Simulation R P) (related : R x y) (below : Below R P x)
    (visible : x.Visible) (index : Nat) {expected : String}
    (defect : x.ruleAt? .expression index = none → x.Defect expected) :
    P (x.operandAt index expected) (y.operandAt index expected) := by
  rw [Node.operandAt, Node.operandAt]
  simp only [Node.visitRuleAt_eq]
  refine rel_getD (rel_map (sim.ruleAt? related visible .expression index) ?_) ?_
  · intro c d part
    exact (below part).expression part.fits
  · intro none
    exact sim.malformed related (defect (Option.map_eq_none_iff.1 none))

theorem expressions (sim : Simulation R P) (related : R x y) (below : Below R P x)
    (visible : x.Visible) : P x.expressions y.expressions := by
  rw [Node.expressions, Node.expressions]
  simp only [Node.visitRules_eq]
  refine sim.inOrder (List.rel_map ?_ (sim.rules related visible .expression))
  intro c d part
  exact (below part).expression part.fits

theorem arguments (sim : Simulation R P) (related : R x y) (below : Below R P x)
    (kind : x.kind = .rule .arguments) : P x.arguments y.arguments := by
  have visible := Node.visible_of_kind kind rfl
  rw [Node.arguments, Node.arguments]
  simp only [Node.visitRule_eq]
  refine rel_getD (rel_map (sim.rule? related visible .expressionList) ?_) fun _ => sim.pure _
  intro c d part
  exact sim.expressions part.related (below.of_part part) (Node.visible_of_kind part.fits rfl)

theorem invocation (sim : Simulation R P) (related : R x y) (below : Below R P x)
    (kind : x.kind = .rule .methodCall) (target : Option Expression) (onSuper : Bool) :
    P (x.invocation target onSuper) (y.invocation target onSuper) := by
  have visible := Node.visible_of_kind kind rfl
  rw [Node.invocation, Node.invocation]
  simp only [Node.visitRule_eq, ← sim.hasTerminal related visible]
  refine sim.bind (sim.invokedName related kind) fun name =>
    sim.bind (rel_getD (rel_orElse (rel_map (sim.rule? related visible .expressionList) ?_)
      (rel_map (sim.rule? related visible .arguments) ?_)) fun _ => sim.pure _)
      fun arguments => sim.pure _
  · intro c d part
    exact sim.expressions part.related (below.of_part part) (Node.visible_of_kind part.fits rfl)
  · intro c d part
    exact sim.arguments part.related (below.of_part part) part.fits

theorem initializer (sim : Simulation R P) (related : R x y) (below : Below R P x)
    (kind : x.kind = .rule .variableInitializer) : P x.initializer y.initializer := by
  have visible := Node.visible_of_kind kind rfl
  rw [Node.initializer, Node.initializer]
  simp only [Node.visitRule_eq]
  obtain ⟨none, none'⟩ | ⟨elements, elements', found, found', part⟩ :=
    rel_cases (sim.rule? related visible .arrayInitializer)
  · simp only [none, none', Option.map_none]
    refine sim.map _ (sim.operandAt related below visible 0 ?_)
    exact .value (Or.inl kind) none
  · simp only [found, found', Option.map_some]
    exact sim.map _ ((below part).initializers part.fits)

theorem initializers (sim : Simulation R P) (related : R x y) (below : Below R P x)
    (kind : x.kind = .rule .arrayInitializer) : P x.initializers y.initializers := by
  have visible := Node.visible_of_kind kind rfl
  rw [Node.initializers, Node.initializers]
  simp only [Node.visitRules_eq]
  refine sim.inOrder (List.rel_map ?_ (sim.rules related visible .variableInitializer))
  intro c d part
  exact sim.initializer part.related (below.of_part part) part.fits

theorem arrayCreation (sim : Simulation R P) {name name' : Node} (related : R x y)
    (below : Below R P x)
    (kind : x.kind = .rule .arrayCreatorRest) (named : R name name')
    (nameKind : name.kind = .rule .createdName) :
    P (x.arrayCreation name) (y.arrayCreation name') := by
  have visible := Node.visible_of_kind kind rfl
  have nameVisible := Node.visible_of_kind nameKind rfl
  rw [Node.arrayCreation, Node.arrayCreation]
  simp only [Node.visitRule_eq]
  have elements : P ((((x.rule? .arrayInitializer).map Node.initializers).getD do
        let size ← x.operandAt 0 "operand expression"
        return [.expression size]) : Projection (List Initializer))
      (((y.rule? .arrayInitializer).map Node.initializers).getD do
        let size ← y.operandAt 0 "operand expression"
        return [.expression size]) := by
    refine rel_getD (rel_map (sim.rule? related visible .arrayInitializer) ?_) fun none => ?_
    · intro c d part
      exact (below part).initializers part.fits
    · refine sim.bind (sim.operandAt related below visible 0 ?_) fun size => sim.pure _
      exact .value (Or.inr kind) (Option.map_eq_none_iff.1 none)
  obtain ⟨none, none'⟩ | ⟨primitive, primitive', found, found', part⟩ :=
    rel_cases (sim.rule? named nameVisible .primitiveType)
  · simp only [none, none']
    refine sim.bind (sim.map _ ?_) fun element => sim.bind elements fun _ => sim.pure _
    exact sim.dottedName named nameVisible (.createdName nameKind)
  · simp only [found, found']
    refine sim.bind ?_ fun element => sim.bind elements fun _ => sim.pure _
    exact sim.primitiveType part.related part.fits 0

theorem instanceCreation (sim : Simulation R P) {name name' : Node} (related : R x y)
    (below : Below R P x)
    (kind : x.kind = .rule .classCreatorRest) (named : R name name')
    (nameKind : name.kind = .rule .createdName) :
    P (x.instanceCreation name) (y.instanceCreation name') := by
  have visible := Node.visible_of_kind kind rfl
  rw [Node.instanceCreation, Node.instanceCreation]
  simp only [Node.visitRule_eq]
  refine sim.bind (rel_getD (rel_map (sim.rule? related visible .arguments) ?_) fun _ =>
    sim.pure _) fun arguments => ?_
  · intro c d part
    exact sim.arguments part.related (below.of_part part) part.fits
  · refine sim.bind (sim.ifPresent (rel_map (sim.rule? related visible .classBody) ?_))
      fun body => ?_
    · intro c d part
      exact (below part).classBody part.fits
    · refine sim.bind ?_ fun name => sim.pure _
      exact sim.dottedName named (Node.visible_of_kind nameKind rfl) (.createdName nameKind)

theorem creation (sim : Simulation R P) (related : R x y) (below : Below R P x)
    (kind : x.kind = .rule .creator) : P x.creation y.creation := by
  have visible := Node.visible_of_kind kind rfl
  rw [Node.creation, Node.creation]
  simp only [Node.visitRule_eq]
  obtain ⟨none, none'⟩ | ⟨name, name', found, found', named⟩ :=
    rel_cases (sim.rule? related visible .createdName)
  · simp only [none, none']
    exact sim.malformed related (.part kind (.head _) none)
  · simp only [found, found']
    refine rel_getD (rel_orElse (rel_map (sim.rule? related visible .classCreatorRest) ?_)
      (rel_map (sim.rule? related visible .arrayCreatorRest) ?_)) fun _ =>
        sim.placeholder .unknownCreatorContext _ related
    · intro c d part
      exact sim.instanceCreation part.related (below.of_part part) part.fits named.related
        named.fits
    · intro c d part
      exact sim.arrayCreation part.related (below.of_part part) part.fits named.related named.fits

theorem primary (sim : Simulation R P) (related : R x y) (below : Below R P x)
    (kind : x.kind = .rule .primary) : P x.primary y.primary := by
  have visible := Node.visible_of_kind kind rfl
  rw [Node.primary, Node.primary]
  simp only [Node.visitRule_eq, ← sim.hasParens related visible, ← sim.reference? related visible,
    ← sim.hasTerminal related visible, ← sim.unknownPrimary related visible]
  obtain ⟨none, none'⟩ | ⟨inner, inner', found, found', part⟩ :=
    rel_cases (sim.rule? related visible .expression)
  · simp only [none, none', Option.map_none]
    split
    · exact sim.pure _
    · split
      · exact sim.pure _
      · obtain ⟨none, none'⟩ | ⟨literal, literal', found, found', part⟩ :=
          rel_cases (sim.rule? related visible .literal)
        · simp only [none, none']
          exact sim.placeholder .expression _ related
        · simp only [found, found']
          exact sim.literal part.related part.fits
  · simp only [found, found', Option.map_some]
    exact sim.bind ((below part).expression part.fits) fun value => sim.pure _

theorem arrayAccess? (sim : Simulation R P) (related : R x y) (below : Below R P x)
    (kind : x.kind = .rule .expression) :
    Option.Rel (@P Expression) x.arrayAccess? y.arrayAccess? := by
  have visible := Node.visible_of_kind kind rfl
  rw [Node.arrayAccess?, Node.arrayAccess?, ← sim.hasBrackets related visible]
  split
  · next brackets =>
    refine .some (sim.bind (sim.operandAt related below visible 0 ?_) fun object =>
      sim.bind (sim.operandAt related below visible 1 ?_) fun index => sim.pure _)
    · intro none
      refine .arrayElement kind brackets ?_
      have short := List.getElem?_eq_none_iff.1 none
      omega
    · intro none
      refine .arrayElement kind brackets ?_
      have short := List.getElem?_eq_none_iff.1 none
      omega
  · exact .none

theorem unary? (sim : Simulation R P) (related : R x y) (below : Below R P x)
    (kind : x.kind = .rule .expression) :
    Option.Rel (@P Expression) x.unary? y.unary? := by
  have visible := Node.visible_of_kind kind rfl
  rw [Node.unary?, Node.unary?]
  refine rel_map (sim.unaryOperator? related visible) ?_
  rintro ⟨operator, behind⟩ ⟨operator', _⟩ ⟨operators, rfl, present, label⟩
  refine sim.bind (sim.operatorCode operators (Or.inr label) ?_) fun code =>
    sim.bind (sim.operandAt related below visible 0 ?_) fun operand => sim.pure _
  · intro bop
    rcases label with label | label <;> exact absurd (label.symm.trans bop) (by decide)
  · intro none
    rw [Node.rule?, none] at present
    cases present

theorem cast? (sim : Simulation R P) (related : R x y) (below : Below R P x)
    (kind : x.kind = .rule .expression) :
    Option.Rel (@P Expression) x.cast? y.cast? := by
  have visible := Node.visible_of_kind kind rfl
  rw [Node.cast?, Node.cast?, ← sim.hasParens related visible]
  split
  · next parens =>
    obtain ⟨none, none'⟩ | ⟨type, type', found, found', part⟩ :=
      rel_cases (sim.typeNodeAt? related visible 0)
    · rw [none, none']
      exact .none
    · rw [found, found']
      refine .some (sim.bind (sim.typeRef part.related part.fits) fun type =>
        sim.bind (sim.operandAt related below visible 0 ?_) fun operand => sim.pure _)
      have typed : x.typeNodes ≠ [] := List.ne_nil_of_mem (List.mem_of_getElem? found)
      exact fun none => .castOperand kind parens typed none
  · exact .none

/-- The chain of recognizers. Related nodes pass and fail the same tests, so the first form that
fits is the same on both sides. -/
theorem recognized (sim : Simulation R P) (related : R x y) (below : Below R P x)
    (kind : x.kind = .rule .expression) : P x.recognized y.recognized := by
  have visible := Node.visible_of_kind kind rfl
  rw [Node.recognized, Node.recognized]
  simp only [Node.visitRule_eq, ← sim.uncodedForm? related visible,
    ← sim.reference? related visible, ← sim.unknownForm related visible]
  refine rel_getD (rel_orElse (sim.arrayAccess? related below kind) <|
    rel_orElse (sim.unary? related below kind) <| rel_orElse (sim.cast? related below kind) <|
    rel_orElse ?uncoded <| rel_orElse ?nested <| rel_orElse ?primary <| rel_orElse ?reference <|
    rel_orElse ?creation <| rel_orElse ?call ?switch) fun _ =>
      sim.placeholder .expression _ related
  case uncoded =>
    cases x.uncodedForm? with
    | none => exact .none
    | some construct => exact .some (sim.placeholder .expression construct related)
  case nested =>
    refine rel_map (sim.rule? related visible .expression) ?_
    intro c d part
    exact (below part).expression part.fits
  case primary =>
    refine rel_map (sim.rule? related visible .primary) ?_
    intro c d part
    exact sim.primary part.related (below.of_part part) part.fits
  case reference =>
    cases x.reference? with
    | none => exact .none
    | some reference => exact .some (sim.pure reference)
  case creation =>
    refine rel_map (sim.rule? related visible .creator) ?_
    intro c d part
    exact sim.creation part.related (below.of_part part) part.fits
  case call =>
    refine rel_map (sim.rule? related visible .methodCall) ?_
    intro c d part
    exact sim.invocation part.related (below.of_part part) part.fits _ _
  case switch =>
    refine rel_map (sim.rule? related visible .switchExpression) ?_
    intro c d part
    exact sim.placeholder .switchExpression _ related

theorem binary (sim : Simulation R P) {operator operator' : Node}
    (related : R x y) (below : Below R P x)
    (kind : x.kind = .rule .expression) (operators : R operator operator')
    (bop : operator.label = some "bop") {terminal : Terminal}
    (operatorKind : operator.kind = .terminal terminal)
    (inRange : terminal.isBinaryOperator = true) :
    P (x.binary operator) (y.binary operator') := by
  have visible := Node.visible_of_kind kind rfl
  rw [Node.binary, Node.binary]
  simp only [Node.visitRuleAt_eq]
  obtain ⟨none, none'⟩ | ⟨left, left', found, found', leftPart⟩ :=
    rel_cases (sim.ruleAt? related visible .expression 0)
  · simp only [none, none', Option.map_none]
    exact sim.placeholder .expression _ related
  · obtain ⟨none, none'⟩ | ⟨right, right', rightFound, rightFound', rightPart⟩ :=
      rel_cases (sim.ruleAt? related visible .expression 1)
    · simp only [found, found', none, none', Option.map_none, Option.map_some]
      exact sim.placeholder .expression _ related
    · simp only [found, found', rightFound, rightFound', Option.map_some]
      refine sim.bind (sim.operatorCode operators (Or.inl bop) ?_) fun code => ?_
      · intro _ terminal' kind'
        rw [operatorKind] at kind'
        cases kind'
        exact inRange
      · refine sim.bind ((below leftPart).expression leftPart.fits) fun leftValue => ?_
        refine sim.bind ((below rightPart).expression rightPart.fits) fun rightValue => ?_
        split
        · exact sim.bind (sim.droppedBranch related) fun _ => sim.pure _
        · exact sim.pure _

theorem memberAccess (sim : Simulation R P) (related : R x y) (below : Below R P x)
    (kind : x.kind = .rule .expression) : P x.memberAccess y.memberAccess := by
  have visible := Node.visible_of_kind kind rfl
  have onSuper := sim.isOnSuper related visible
  rw [Node.memberAccess, Node.memberAccess]
  simp only [Node.visitRule_eq, ← onSuper, ← sim.hasTerminal related visible]
  obtain ⟨none, none'⟩ | ⟨call, call', found, found', part⟩ :=
    rel_cases (sim.rule? related visible .methodCall)
  · simp only [none, none', Option.map_none]
    obtain ⟨none, none'⟩ | ⟨name, name', found, found', part⟩ :=
      rel_cases (sim.rule? related visible .identifier)
    · simp only [none, none']
      exact sim.placeholder .expression _ related
    · simp only [found, found', sim.identifierText part.related part.fits]
      split
      · exact sim.pure _
      · exact sim.bind (sim.recognized related below kind) fun object => sim.pure _
  · simp only [found, found', Option.map_some]
    split
    · exact sim.invocation part.related (below.of_part part) part.fits _ _
    · refine sim.bind (sim.map _ (sim.recognized related below kind)) fun target => ?_
      exact sim.invocation part.related (below.of_part part) part.fits _ _

theorem expression (sim : Simulation R P) (related : R x y) (below : Below R P x)
    (kind : x.kind = .rule .expression) : P x.expression y.expression := by
  have visible := Node.visible_of_kind kind rfl
  rw [Node.expression, Node.expression]
  obtain ⟨none, none'⟩ | ⟨operator, operator', found, found', part⟩ :=
    rel_cases (sim.labelled? related visible "bop")
  · rw [none, none']
    exact sim.recognized related below kind
  · rw [found, found']
    simp only
    rw [← sim.kind part.related]
    split
    · next rule operatorKind =>
      exact sim.malformed part.related (.operator operatorKind (Or.inl part.fits))
    · exact sim.memberAccess related below kind
    · next terminal _ operatorKind =>
      split
      · next inRange =>
        exact sim.binary related below kind part.related part.fits operatorKind inRange
      · exact sim.operatorPlaceholder related part.related

/-! ## Statements -/

theorem declarator (sim : Simulation R P) (related : R x y) (below : Below R P x)
    (kind : x.kind = .rule .variableDeclarator) (modifiers : Option Modifiers)
    (type : TypeRef) : P (x.declarator modifiers type) (y.declarator modifiers type) := by
  have visible := Node.visible_of_kind kind rfl
  rw [Node.declarator, Node.declarator]
  simp only [Node.visitRule_eq]
  obtain ⟨none, none'⟩ | ⟨id, id', found, found', idPart⟩ :=
    rel_cases (sim.rule? related visible .variableDeclaratorId)
  · simp only [none, none']
    exact sim.malformed related (.part kind (.head _) none)
  · have idVisible := Node.visible_of_kind idPart.fits rfl
    simp only [found, found', ← sim.countTerminal idPart.related idVisible]
    obtain ⟨none, none'⟩ | ⟨name, name', found, found', part⟩ :=
      rel_cases (sim.rule? idPart.related idVisible .identifier)
    · simp only [none, none']
      exact sim.malformed idPart.related (.part idPart.fits (.tail _ (.head _)) none)
    · simp only [found, found', sim.identifierText part.related part.fits]
      refine sim.bind (sim.ifPresent (rel_map
        (sim.rule? related visible .variableInitializer) ?_)) fun initializer => sim.pure _
      intro c d part
      exact sim.initializer part.related (below.of_part part) part.fits

theorem declarators (sim : Simulation R P) (related : R x y) (below : Below R P x)
    (kind : x.kind = .rule .variableDeclarators) (modifiers : Option Modifiers)
    (type : TypeRef) : P (x.declarators modifiers type) (y.declarators modifiers type) := by
  have visible := Node.visible_of_kind kind rfl
  rw [Node.declarators, Node.declarators]
  simp only [Node.visitRules_eq]
  refine sim.inOrder (List.rel_map ?_ (sim.rules related visible .variableDeclarator))
  intro c d part
  exact sim.declarator part.related (below.of_part part) part.fits modifiers type

theorem typedVariables (sim : Simulation R P) (related : R x y) (below : Below R P x)
    (visible : x.Visible) {expected : String} (modifiers : Option Modifiers)
    (noType : x.typeNodeAt? 0 = none → x.Defect expected)
    (noDeclarators : x.rule? .variableDeclarators = none → x.Defect "variableDeclarators") :
    P (x.typedVariables expected modifiers) (y.typedVariables expected modifiers) := by
  rw [Node.typedVariables, Node.typedVariables]
  simp only [Node.visitRule_eq]
  obtain ⟨none, none'⟩ | ⟨type, type', found, found', part⟩ :=
    rel_cases (sim.typeNodeAt? related visible 0)
  · simp only [none, none']
    exact sim.malformed related (noType none)
  · simp only [found, found']
    refine sim.bind (sim.typeRef part.related part.fits) fun type => ?_
    refine rel_getD (rel_map (sim.rule? related visible .variableDeclarators) ?_) fun none => ?_
    · intro c d part
      exact sim.declarators part.related (below.of_part part) part.fits modifiers type
    · exact sim.malformed related (noDeclarators (Option.map_eq_none_iff.1 none))

theorem localVariables (sim : Simulation R P) (related : R x y) (below : Below R P x)
    (kind : x.kind = .rule .localVariableDeclaration) :
    P x.localVariables y.localVariables := by
  have visible := Node.visible_of_kind kind rfl
  rw [Node.localVariables, Node.localVariables]
  simp only [Node.visitRule_eq, ← sim.hasTerminal related visible,
    ← sim.modifiers? related visible (show Rule.isHidden .variableModifier = false from rfl)]
  split
  · next inferred =>
    obtain ⟨none, none'⟩ | ⟨name, name', found, found', part⟩ :=
      rel_cases (sim.rule? related visible .identifier)
    · simp only [none, none']
      exact sim.malformed related (.inferredName kind inferred none)
    · simp only [found, found', sim.identifierText part.related part.fits]
      obtain ⟨none, none'⟩ | ⟨value, value', found, found', part⟩ :=
        rel_cases (sim.rule? related visible .expression)
      · simp only [none, none', Option.map_none]
        exact sim.malformed related (.inferredValue kind inferred none)
      · simp only [found, found', Option.map_some]
        exact sim.bind ((below part).expression part.fits) fun value => sim.pure _
  · next written =>
    have written := Bool.eq_false_iff.2 written
    exact sim.typedVariables related below visible _ (.localType kind written)
      (.localDeclarators kind written)

theorem classDeclaration (sim : Simulation R P) (related : R x y) (below : Below R P x)
    (kind : x.kind = .rule .classDeclaration) (modifiers : Option Modifiers) :
    P (x.classDeclaration modifiers) (y.classDeclaration modifiers) := by
  have visible := Node.visible_of_kind kind rfl
  rw [Node.classDeclaration, Node.classDeclaration]
  simp only [Node.visitRule_eq]
  refine sim.bind (sim.declaredName related visible fun none => .part kind (.head _) none)
    fun name => ?_
  refine sim.bind (sim.typeParameters? related visible) fun typeParameters => ?_
  refine sim.bind (sim.firstType? related visible) fun superclass => ?_
  refine sim.bind (sim.interfaces? related visible) fun interfaces => ?_
  refine sim.bind (rel_getD (rel_map (sim.rule? related visible .classBody) ?_) fun none => ?_)
    fun members => sim.pure _
  · intro c d part
    exact (below part).classBody part.fits
  · exact sim.malformed related
      (.part kind (.tail _ (.head _)) (Option.map_eq_none_iff.1 none))

theorem localType (sim : Simulation R P) (related : R x y) (below : Below R P x)
    (kind : x.kind = .rule .localTypeDeclaration) : P x.localType y.localType := by
  have visible := Node.visible_of_kind kind rfl
  rw [Node.localType, Node.localType]
  simp only [Node.visitRule_eq, ← sim.localTypeTitle related visible,
    ← sim.modifiers? related visible
      (show Rule.isHidden .classOrInterfaceModifier = false from rfl)]
  refine rel_getD (rel_map (sim.rule? related visible .classDeclaration) ?_) fun none => ?_
  · intro c d part
    exact sim.classDeclaration part.related (below.of_part part) part.fits _
  · exact sim.unsupportedLocalType related kind (Option.map_eq_none_iff.1 none)

theorem blockEntry (sim : Simulation R P) (related : R x y) (below : Below R P x)
    (kind : x.kind = .rule .blockStatement) : P x.blockEntry y.blockEntry := by
  have visible := Node.visible_of_kind kind rfl
  rw [Node.blockEntry, Node.blockEntry]
  simp only [Node.visitRule_eq, Node.visitStatementAt_eq]
  refine rel_getD (rel_orElse
    (rel_map (sim.rule? related visible .localVariableDeclaration) ?declared) <|
    rel_orElse (rel_map (sim.statementAt? related visible 0) ?statement)
    (rel_map (sim.rule? related visible .localTypeDeclaration) ?type)) fun none => ?_
  case declared =>
    intro c d part
    exact sim.map _ (sim.localVariables part.related (below.of_part part) part.fits)
  case statement =>
    intro c d part
    exact sim.bind ((below part).statement part.fits) fun statement => sim.pure _
  case type =>
    intro c d part
    exact sim.bind (sim.localType part.related (below.of_part part) part.fits)
      fun declaration => sim.pure _
  simp only [Option.orElse_eq_orElse, Option.orElse_eq_or, Option.or_eq_none_iff,
    Option.map_eq_none_iff] at none
  exact sim.malformed related (.blockEntry kind none.1 none.2.1 none.2.2)

theorem block (sim : Simulation R P) (related : R x y) (below : Below R P x)
    (visible : x.Visible) : P x.block y.block := by
  rw [Node.block, Node.block]
  simp only [Node.visitRules_eq]
  refine sim.map _ (sim.inOrder (List.rel_map ?_ (sim.rules related visible .blockStatement)))
  intro c d part
  exact sim.blockEntry part.related (below.of_part part) part.fits

theorem condition (sim : Simulation R P) (related : R x y) (below : Below R P x)
    {rule : Rule} (kind : x.kind = .rule rule) (shown : rule.isHidden = false)
    (required : (.parExpression, "parenthesized condition") ∈ rule.requiredParts) :
    P x.condition y.condition := by
  have visible := Node.visible_of_kind kind shown
  rw [Node.condition, Node.condition]
  simp only [Node.visitRule_eq]
  refine rel_getD (rel_map (sim.rule? related visible .parExpression) ?_) fun none => ?_
  · intro c d part
    refine sim.operandAt part.related (below.of_part part) (Node.visible_of_kind part.fits rfl) 0 ?_
    exact fun none => .part part.fits (.head _) none
  · exact sim.malformed related (.part kind required (Option.map_eq_none_iff.1 none))

theorem substatement (sim : Simulation R P) (related : R x y) (below : Below R P x)
    (visible : x.Visible) (kind : x.kind = .rule .statementIf ∨ x.kind = .rule .statementWhile ∨
      x.kind = .rule .statementDo) : P x.substatement y.substatement := by
  rw [Node.substatement, Node.substatement]
  simp only [Node.visitStatementAt_eq]
  refine rel_getD (rel_map (sim.statementAt? related visible 0) ?_) fun none => ?_
  · intro c d part
    exact (below part).statement part.fits
  · exact sim.malformed related (.nestedStatement kind (Option.map_eq_none_iff.1 none))

theorem statement (sim : Simulation R P) (related : R x y) (below : Below R P x)
    (isStatement : ∃ rule, x.kind = .rule rule ∧ rule.isStatement = true) :
    P x.statement y.statement := by
  obtain ⟨rule, kind, isStatement⟩ := isStatement
  have kind' : y.kind = .rule rule := sim.kind related ▸ kind
  obtain ⟨tag, construct, placeholder⟩ | translated := Rule.statement_cases isStatement
  · rw [Node.statement_eq_placeholder kind placeholder,
      Node.statement_eq_placeholder kind' placeholder]
    exact sim.map _ (sim.placeholder tag construct related)
  · rw [Node.statement, Node.statement]
    simp only [Node.visitRule_eq, Node.visitRuleAt_eq, Node.visitStatementAt_eq]
    rcases translated with rfl | rfl | rfl | rfl | rfl | rfl | rfl | rfl | rfl
    all_goals simp only [kind, kind']
    all_goals have visible := Node.visible_of_kind kind rfl
    · refine sim.map _ (rel_getD (rel_map (sim.rule? related visible .block) ?_) fun none => ?_)
      · intro c d part
        exact sim.block part.related (below.of_part part) (Node.visible_of_kind part.fits rfl)
      · exact sim.malformed related (.part kind (.head _) (Option.map_eq_none_iff.1 none))
    · refine sim.bind (sim.condition related below kind rfl (.head _)) fun condition => ?_
      refine sim.bind (sim.substatement related below visible (Or.inl kind)) fun thenBranch => ?_
      refine sim.bind (sim.ifPresent (rel_map (sim.statementAt? related visible 1) ?_))
        fun elseBranch => sim.pure _
      intro c d part
      exact (below part).statement part.fits
    · refine sim.bind (sim.condition related below kind rfl (.head _)) fun condition => ?_
      exact sim.bind (sim.substatement related below visible (Or.inr (Or.inl kind)))
        fun body => sim.pure _
    · refine sim.bind (sim.substatement related below visible (Or.inr (Or.inr kind)))
        fun body => ?_
      exact sim.bind (sim.condition related below kind rfl (.head _)) fun condition => sim.pure _
    · refine sim.map _ (sim.ifPresent (rel_map (sim.rule? related visible .expression) ?_))
      intro c d part
      exact (below part).expression part.fits
    · rw [sim.jumpLabel? related visible]
      exact sim.pure _
    · rw [sim.jumpLabel? related visible]
      exact sim.pure _
    · refine sim.bind (sim.operandAt related below visible 0 fun none =>
        .part kind (.head _) none) fun condition => ?_
      refine sim.bind (sim.ifPresent (rel_map (sim.ruleAt? related visible .expression 1) ?_))
        fun message => sim.pure _
      intro c d part
      exact (below part).expression part.fits
    · exact sim.map _ (sim.operandAt related below visible 0 fun none =>
        .part kind (.head _) none)

/-! ## Classes -/

theorem method (sim : Simulation R P) (related : R x y) (below : Below R P x)
    (kind : x.kind = .rule .methodDeclaration) (modifiers : Option Modifiers) :
    P (x.method modifiers) (y.method modifiers) := by
  have visible := Node.visible_of_kind kind rfl
  rw [Node.method, Node.method]
  simp only [Node.visitRule_eq]
  obtain ⟨none, none'⟩ | ⟨result, result', found, found', part⟩ :=
    rel_cases (sim.rule? related visible .typeTypeOrVoid)
  · simp only [none, none']
    exact sim.malformed related (.part kind (.head _) none)
  · simp only [found, found']
    refine sim.bind (sim.firstType? part.related (Node.visible_of_kind part.fits rfl))
      fun returnType => ?_
    refine sim.bind (sim.declaredName related visible fun none =>
      .part kind (.tail _ (.head _)) none) fun name => ?_
    refine sim.bind (sim.parameters related visible) fun parameters => ?_
    refine sim.bind (sim.thrownTypes related visible) fun throws => ?_
    refine sim.bind ?_ fun body => sim.pure _
    obtain ⟨none, none'⟩ | ⟨outer, outer', found, found', part⟩ :=
      rel_cases (sim.rule? related visible .methodBody)
    · simp only [none, none', Option.map_none, Option.join_none]
      exact sim.pure _
    · simp only [found, found', Option.map_some, Option.join_some]
      have outerVisible := Node.visible_of_kind part.fits rfl
      refine rel_getD (rel_map (sim.rule? part.related outerVisible .block) ?_) fun _ =>
        sim.pure _
      intro c d inner
      exact sim.block inner.related ((below.of_part part).of_part inner)
        (Node.visible_of_kind inner.fits rfl)

theorem constructor (sim : Simulation R P) (related : R x y) (below : Below R P x)
    (kind : x.kind = .rule .constructorDeclaration) (modifiers : Option Modifiers) :
    P (x.constructor modifiers) (y.constructor modifiers) := by
  have visible := Node.visible_of_kind kind rfl
  rw [Node.constructor, Node.constructor]
  simp only [Node.visitRule_eq, Node.visitLabelled_eq]
  refine sim.bind (sim.parameters related visible) fun parameters => ?_
  refine sim.bind (sim.thrownTypes related visible) fun throws => ?_
  refine sim.bind (rel_getD (rel_orElse
    (rel_map (sim.labelled? related visible "constructorBody") ?_)
    (rel_map (sim.rule? related visible .block) ?_)) fun none => ?_) fun body => sim.pure _
  · intro c d part
    refine sim.block part.related (below.of_part part) (Or.inl ?_)
    rw [part.fits]
    simp
  · intro c d part
    exact sim.block part.related (below.of_part part) (Node.visible_of_kind part.fits rfl)
  · simp only [Option.orElse_eq_orElse, Option.orElse_eq_or, Option.or_eq_none_iff,
      Option.map_eq_none_iff] at none
    exact sim.malformed related (.constructorBody kind none.1 none.2)

theorem member (sim : Simulation R P) (related : R x y) (below : Below R P x)
    (kind : x.kind = .rule .memberDeclaration) (modifiers : Option Modifiers) :
    P (x.member modifiers) (y.member modifiers) := by
  have visible := Node.visible_of_kind kind rfl
  rw [Node.member, Node.member]
  simp only [Node.visitRule_eq]
  refine rel_getD (rel_orElse (rel_map (sim.rule? related visible .methodDeclaration) ?method) <|
    rel_orElse (rel_map (sim.rule? related visible .classDeclaration) ?nested) <|
    rel_orElse (rel_map (sim.rule? related visible .fieldDeclaration) ?field)
    (rel_map (sim.rule? related visible .constructorDeclaration) ?constructor)) fun _ =>
      sim.pure _
  case method =>
    intro c d part
    exact sim.bind (sim.method part.related (below.of_part part) part.fits modifiers)
      fun method => sim.pure _
  case nested =>
    intro c d part
    exact sim.bind (sim.classDeclaration part.related (below.of_part part) part.fits modifiers)
      fun nested => sim.pure _
  case field =>
    intro c d part
    exact sim.typedVariables part.related (below.of_part part)
      (Node.visible_of_kind part.fits rfl) modifiers (.fieldType part.fits)
      fun none => .part part.fits (.head _) none
  case constructor =>
    intro c d part
    exact sim.bind (sim.constructor part.related (below.of_part part) part.fits modifiers)
      fun constructor => sim.pure _

theorem classEntry (sim : Simulation R P) (related : R x y) (below : Below R P x)
    (kind : x.kind = .rule .classBodyDeclaration) : P x.classEntry y.classEntry := by
  have visible := Node.visible_of_kind kind rfl
  rw [Node.classEntry, Node.classEntry]
  simp only [Node.visitRule_eq, ← sim.hasTerminal related visible,
    ← sim.modifiers? related visible (show Rule.isHidden .modifier = false from rfl)]
  refine rel_getD (rel_orElse (rel_map (sim.rule? related visible .block) ?_)
    (rel_map (sim.rule? related visible .memberDeclaration) ?_)) fun _ => sim.pure _
  · intro c d part
    have shown := Node.visible_of_kind part.fits rfl
    exact sim.bind (sim.block part.related (below.of_part part) shown) fun body => sim.pure _
  · intro c d part
    exact sim.member part.related (below.of_part part) part.fits _

theorem classBody (sim : Simulation R P) (related : R x y) (below : Below R P x)
    (kind : x.kind = .rule .classBody) : P x.classBody y.classBody := by
  have visible := Node.visible_of_kind kind rfl
  rw [Node.classBody, Node.classBody]
  simp only [Node.visitRules_eq]
  refine sim.map _ (sim.inOrder (List.rel_map ?_
    (sim.rules related visible .classBodyDeclaration)))
  intro c d part
  exact sim.classEntry part.related (below.of_part part) part.fits

/-! ## The induction -/

/-- By induction on the size of the left tree: every function recurs on children of its node only,
or on the node itself through functions that do. -/
theorem lockstep (sim : Simulation R P) {x y : Node} (related : R x y) : Lockstep P x y := by
  have below : Below R P x := by
    intro fits c d part
    have smaller := part.smaller
    exact sim.lockstep part.related
  exact {
    expression := sim.expression related below
    initializers := sim.initializers related below
    statement := sim.statement related below
    classBody := sim.classBody related below }
termination_by sizeOf x

theorem below (sim : Simulation R P) (x : Node) : Below R P x := by
  intro fits c d part
  exact sim.lockstep part.related

end Simulation

end

end JavaProjection
