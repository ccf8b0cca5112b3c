import JavaProjection.Proofs.Canonical.Expressions

/-!
# Canonical trees are recognized

One theorem for each form of expression: its canonical tree is missed by every test that comes
before the one for the form, whatever the parts are, and the parts are found where the form looks
for them. The left side of a dot is told apart from the same node, so it is missed twice.
-/

set_option autoImplicit false

namespace JavaProjection

open Projection Node

/-! ## Operators -/

theorem Code.binary_terminal {op : Code} (inRange : op.rank ≤ minusMinus.rank) :
    op.rank ≤ question.rank ∧ op.terminal.isBinaryOperator = true ∧ op.terminal ≠ .dot ∧
      op ≠ .question := by
  revert inRange
  cases op <;> decide

theorem Code.unary_terminal {op : Code} (inRange : op.rank ≤ question.rank) :
    op.terminal ≠ .leftBracket ∧ op.terminal ≠ .boolLiteral := by
  revert inRange
  cases op <;> decide

theorem Code.ofTerminal?_terminal {op : Code} (inRange : op.rank ≤ question.rank) :
    ofTerminal? op.terminal = some op :=
  ofTerminal?_eq_some_iff.2 ⟨rfl, (unary_terminal inRange).2⟩

theorem operatorCode_token {op : Code} (inRange : op.rank ≤ Code.question.rank)
    (label : String) : (op.token.boundTo label).operatorCode = pure op := by
  simp [operatorCode, Code.token, Code.ofTerminal?_terminal inRange]

/-! ## Operands and arguments -/

theorem operandAt_branch (rule : Rule) (children : List Node) (index : Nat) (expected : String) :
    (branch rule children).operandAt index expected =
      ((children.filter fun child => child.isRule .expression)[index]?.map Node.expression).getD
        (throw ((branch rule children).malformed expected)) := by
  rw [operandAt]
  simp

theorem expressions_listed (rule : Rule) (arguments : List Expression) :
    (branch rule (listed (Expression.treeAll arguments))).expressions =
      inOrder ((Expression.treeAll arguments).map Node.expression) := by
  rw [expressions]
  simp [listed, filter_intersperse, Expression.rules_treeAll]

theorem arguments_inParens {arguments : List Expression}
    (given : inOrder ((Expression.treeAll arguments).map Node.expression) =
      (pure arguments : Projection _)) :
    (branch .arguments (inParens (Expression.treeAll arguments))).arguments = pure arguments := by
  rw [Node.arguments]
  cases arguments with
  | nil => simp [Expression.treeAll, inParens]
  | cons first rest =>
    have listed := expressions_listed .expressionList (first :: rest)
    rw [given] at listed
    simpa [Expression.treeAll, inParens] using listed

theorem any_inParens {sought : Terminal} (notLeft : Terminal.leftParen ≠ sought)
    (notRight : Terminal.rightParen ≠ sought) (arguments : List Node) :
    (inParens arguments).any (fun child => child.isTerminal sought) = false := by
  cases arguments <;> simp [inParens, notLeft, notRight]

theorem find?_inParens {wanted : Rule} (other : Rule.expressionList ≠ wanted)
    (arguments : List Node) :
    (inParens arguments).find? (fun child => child.isRule wanted) = none := by
  cases arguments <;> simp [inParens, other]

theorem invocation_callOf {name : Node} {token : Token} {arguments : List Expression}
    (noList : name.isRule .expressionList = false) (noArguments : name.isRule .arguments = false)
    (spelled : (callOf name (Expression.treeAll arguments)).invokedName = pure token)
    (given : inOrder ((Expression.treeAll arguments).map Node.expression) =
      (pure arguments : Projection _)) (target : Option Expression) (onSuper : Bool) :
    (callOf name (Expression.treeAll arguments)).invocation target onSuper =
      pure (.invocation target (name.isTerminal .kwSuper || onSuper) token arguments) := by
  have marked : (callOf name (Expression.treeAll arguments)).hasTerminal .kwSuper =
      name.isTerminal .kwSuper := by
    simp [callOf, any_inParens]
  rw [invocation, spelled, marked]
  cases arguments with
  | nil => simp [Expression.treeAll, inParens, callOf, noList, noArguments]
  | cons first rest =>
    have listed := expressions_listed .expressionList (first :: rest)
    rw [given, Expression.treeAll] at listed
    simp [Expression.treeAll, inParens, callOf, noList, noArguments, listed]

theorem invocation_named {name : Token} (isName : name.IsName) {arguments : List Expression}
    (given : inOrder ((Expression.treeAll arguments).map Node.expression) =
      (pure arguments : Projection _)) (target : Option Expression) (onSuper : Bool) :
    (callOf name.nameNode (Expression.treeAll arguments)).invocation target onSuper =
      pure (.invocation target onSuper name arguments) := by
  obtain ⟨text, rfl⟩ := isName
  refine (invocation_callOf rfl rfl ?_ given target onSuper).trans (by rfl)
  simp [callOf, invokedName, Token.nameNode, Token.identifier, Token.withText, Token.spelling]

theorem invocation_this {arguments : List Expression}
    (given : inOrder ((Expression.treeAll arguments).map Node.expression) =
      (pure arguments : Projection _)) :
    (callOf (Token.withText .kwThis "this").nameNode
      (Expression.treeAll arguments)).invocation none false =
      pure (.invocation none false (.withText .kwThis "this") arguments) := by
  have node : (Token.withText .kwThis "this").nameNode = leaf .kwThis "this" := by decide
  have spelled : (callOf (leaf .kwThis "this") (Expression.treeAll arguments)).invokedName =
      pure (.withText .kwThis "this") := by
    simp [callOf, invokedName, any_inParens, find?_inParens]
  rw [node, invocation_callOf (isRule_leaf ..) (isRule_leaf ..) spelled given]
  simp

theorem invocation_super {arguments : List Expression}
    (given : inOrder ((Expression.treeAll arguments).map Node.expression) =
      (pure arguments : Projection _)) :
    (callOf (Token.withText .kwSuper "super").nameNode
      (Expression.treeAll arguments)).invocation none false =
      pure (.invocation none true (.withText .kwSuper "super") arguments) := by
  have node : (Token.withText .kwSuper "super").nameNode = leaf .kwSuper "super" := by decide
  have spelled : (callOf (leaf .kwSuper "super") (Expression.treeAll arguments)).invokedName =
      pure (.withText .kwSuper "super") := by
    simp [callOf, invokedName, find?_inParens]
  rw [node, invocation_callOf (isRule_leaf ..) (isRule_leaf ..) spelled given]
  simp

/-! ## Recognition -/

/-- A node that fails the tests on brackets and operators is taken for the first of its rule
children in a fixed order. -/
theorem recognized_plain {node : Node} (noBrackets : node.hasBrackets = false)
    (noUnary : node.unaryOperator? = none) (noParens : node.hasParens = false)
    (noForm : node.uncodedForm? = none) :
    node.recognized =
      ((node.rule? .expression).map Node.expression
        <|> (node.rule? .primary).map Node.primary
        <|> node.reference?.map pure
        <|> (node.rule? .creator).map Node.creation
        <|> ((node.rule? .methodCall).map fun call => Node.invocation call none false)
        <|> ((node.rule? .switchExpression).map fun _ =>
          node.placeholder .switchExpression "switch expression")).getD
        (node.placeholder .expression node.unknownForm) := by
  rw [recognized, arrayAccess?, unary?, cast?, noBrackets, noUnary, noParens, noForm]
  simp

theorem expression_of_unlabelled {node : Node} (unlabelled : node.labelled? "bop" = none) :
    node.expression = node.recognized := by
  rw [Node.expression, unlabelled]

theorem expression_binary {op : Code} {left right : Expression}
    (inRange : op.rank ≤ Code.minusMinus.rank) (first : left.tree.expression = pure left)
    (second : right.tree.expression = pure right) :
    (Expression.binary op left right).tree.expression = pure (.binary op left right) := by
  obtain ⟨coded, between, notDot, notQuestion⟩ := Code.binary_terminal inRange
  have operator : (Expression.binary op left right).tree.labelled? "bop" =
      some (op.token.boundTo "bop") := by
    simp [Expression.tree]
  have binary : (Expression.binary op left right).tree.binary (op.token.boundTo "bop") =
      pure (.binary op left right) := by
    rw [Expression.tree, Node.binary]
    simp [operatorCode_token coded, first, second, notQuestion]
  rw [Node.expression, operator]
  simp only [kind_boundTo, Code.kind_token, between, if_true, binary]

theorem expression_prefixed {op : Code} {operand : Expression}
    (inRange : op.rank ≤ Code.question.rank) (inner : operand.tree.expression = pure operand) :
    (Expression.prefixed op operand).tree.expression = pure (.prefixed op operand) := by
  obtain ⟨notBracket, _⟩ := Code.unary_terminal inRange
  rw [Expression.tree, expression_of_unlabelled (by simp), recognized, arrayAccess?, unary?]
  simp [hasBrackets, notBracket, unaryOperator?, operatorCode_token inRange, operandAt_branch,
    inner]

theorem expression_postfixed {op : Code} {operand : Expression}
    (inRange : op.rank ≤ Code.question.rank) (inner : operand.tree.expression = pure operand) :
    (Expression.postfixed op operand).tree.expression = pure (.postfixed op operand) := by
  obtain ⟨notBracket, _⟩ := Code.unary_terminal inRange
  rw [Expression.tree, expression_of_unlabelled (by simp), recognized, arrayAccess?, unary?]
  simp [hasBrackets, notBracket, unaryOperator?, operatorCode_token inRange, operandAt_branch,
    inner]

theorem expression_cast {type : TypeRef} {operand : Expression} (canonical : type.Canonical)
    (inner : operand.tree.expression = pure operand) :
    (Expression.cast type operand).tree.expression = pure (.cast type operand) := by
  have notOperand := type.isRule_tree (show Rule.isType .expression = false from rfl)
  rw [Expression.tree, expression_of_unlabelled (by simp), recognized, arrayAccess?, unary?, cast?]
  simp [hasBrackets, hasParens, unaryOperator?, type.typeRef_tree canonical, operandAt_branch,
    notOperand, inner]

theorem expression_arrayAccess {object index : Expression}
    (first : object.tree.expression = pure object) (second : index.tree.expression = pure index) :
    (Expression.arrayAccess object index).tree.expression = pure (.arrayAccess object index) := by
  rw [Expression.tree, expression_of_unlabelled (by simp), recognized, arrayAccess?]
  simp [hasBrackets, operandAt_branch, first, second]

/-! ## Behind a dot -/

theorem expression_memberOf {object member : Node} (unlabelled : object.label = none) :
    (memberOf object member).expression = (memberOf object member).memberAccess := by
  rw [Node.expression]
  simp [memberOf, unlabelled]

/-- Without its label, what a member stands behind is a nested expression. -/
theorem recognized_memberOf {object : Expression} {member : Node}
    (inner : object.tree.expression = pure object)
    (noToken : ∀ terminal, member.isTerminal terminal = false) :
    (memberOf object.tree member).recognized = pure object := by
  rw [memberOf, recognized_plain]
  all_goals simp [hasBrackets, hasParens, unaryOperator?, uncodedForm?, noToken, inner]

theorem isOnSuper_tree (object : Expression) (member : Node) :
    (memberOf object.tree member).isOnSuper = false := by
  simpa [memberOf, isOnSuper] using object.tree_ne_super

theorem isOnSuper_superObject (member : Node) :
    (memberOf superObject member).isOnSuper = true := by
  simp [memberOf, isOnSuper, superObject, primaryOf]

theorem expression_fieldAccess {object : Expression} {field : Token} (isName : field.IsName)
    (inner : object.tree.expression = pure object) :
    (Expression.fieldAccess object false field).tree.expression =
      pure (.fieldAccess object false field) := by
  obtain ⟨name, rfl⟩ := isName
  rw [Expression.tree, expression_memberOf object.label_tree, memberAccess, isOnSuper_tree,
    recognized_memberOf inner (isTerminal_named · _)]
  simp [memberOf]

theorem expression_superField {field : Token} (isName : field.IsName) :
    (Expression.fieldAccess .thisObject true field).tree.expression =
      pure (.fieldAccess .thisObject true field) := by
  obtain ⟨name, rfl⟩ := isName
  rw [Expression.tree, expression_memberOf rfl, memberAccess, isOnSuper_superObject]
  simp [memberOf]

theorem expression_call {target : Expression} {name : Token} {arguments : List Expression}
    (isName : name.IsName) (inner : target.tree.expression = pure target)
    (given : inOrder ((Expression.treeAll arguments).map Node.expression) =
      (pure arguments : Projection _)) :
    (Expression.invocation (some target) false name arguments).tree.expression =
      pure (.invocation (some target) false name arguments) := by
  rw [Expression.tree, expression_memberOf target.label_tree, memberAccess, isOnSuper_tree,
    recognized_memberOf inner (isTerminal_callOf _ _)]
  simp [memberOf, invocation_named isName given]

theorem expression_superCall {name : Token} {arguments : List Expression}
    (isName : name.IsName)
    (given : inOrder ((Expression.treeAll arguments).map Node.expression) =
      (pure arguments : Projection _)) :
    (Expression.invocation none true name arguments).tree.expression =
      pure (.invocation none true name arguments) := by
  have onSuper : true = true ∧ name.code = .identifier := by
    obtain ⟨text, rfl⟩ := isName
    exact ⟨rfl, rfl⟩
  rw [Expression.tree, if_pos onSuper, expression_memberOf rfl, memberAccess,
    isOnSuper_superObject]
  simp [memberOf, invocation_named isName given]

theorem expression_callOf (name : Node) (arguments : List Node) :
    (branch .expression [callOf name arguments]).expression =
      (callOf name arguments).invocation none false := by
  rw [expression_of_unlabelled (by simp), recognized_plain]
  all_goals simp [hasBrackets, hasParens, unaryOperator?, uncodedForm?, reference?]

theorem expression_callWithoutObject {name : Token} {isSuper : Bool} {arguments : List Expression}
    (calls : name.CallsWithoutObject isSuper)
    (given : inOrder ((Expression.treeAll arguments).map Node.expression) =
      (pure arguments : Projection _)) :
    (Expression.invocation none isSuper name arguments).tree.expression =
      pure (.invocation none isSuper name arguments) := by
  obtain isName | ⟨rfl, rfl⟩ | ⟨rfl, rfl⟩ := calls
  · cases isSuper with
    | true => exact expression_superCall isName given
    | false =>
      rw [Expression.tree, if_neg (by simp), expression_callOf]
      exact invocation_named isName given none false
  · rw [Expression.tree, if_neg (by simp), expression_callOf]
    exact invocation_this given
  · rw [Expression.tree, if_neg (by simp [Token.withText]), expression_callOf]
    exact invocation_super given

/-! ## Primary expressions -/

theorem expression_primaryOf (part : Node) :
    (primaryOf part).expression = (branch .primary [part]).primary := by
  rw [primaryOf, expression_of_unlabelled (by simp), recognized_plain]
  all_goals simp [hasBrackets, hasParens, unaryOperator?, uncodedForm?]

theorem expression_parenthesized {inner : Expression}
    (projected : inner.tree.expression = pure inner) :
    (Expression.parenthesized inner).tree.expression = pure (.parenthesized inner) := by
  rw [Expression.tree, expression_of_unlabelled (by simp), recognized_plain]
  all_goals simp [hasBrackets, hasParens, unaryOperator?, uncodedForm?]
  rw [primary]
  simp [projected, hasParens]

theorem expression_thisObject : Expression.thisObject.tree.expression = pure .thisObject := by
  rw [Expression.tree, expression_primaryOf, primary]
  simp [reference?]

theorem expression_reference (segment : String) :
    (Expression.name segment).tree.expression = pure (.name segment) := by
  rw [Expression.name, Expression.tree, expression_primaryOf, primary]
  simp [reference?]
  rfl

theorem literal_literalNode {token : Token} (isLiteral : token.IsLiteral) :
    (branch .literal [token.literalNode]).literal = pure (.literal token) := by
  cases isLiteral with
  | true => rfl
  | false => rfl
  | null => rfl
  | integer written =>
    simp [literal, Token.literalNode, Token.withText, Token.spelling, writtenLiteral, written]
  | @floating text written =>
    have spelled : (branch .floatLiteral [leaf .floatLiteral text]).fullText = text := by
      simp [branch, leaf, fullText, fullTextAll]
    simp [literal, Token.literalNode, Token.withText, Token.spelling, writtenLiteral, spelled,
      written]
  | string content =>
    have enclosed : unquoted? ("\"" ++ content ++ "\"") = some content := by
      rw [unquoted?_eq_some_iff]
      simp
    simp [literal, Token.literalNode, Token.withText, Token.spelling, stringLiteral, enclosed]

theorem expression_literal {token : Token} (isLiteral : token.IsLiteral) :
    (Expression.literal token).tree.expression = pure (.literal token) := by
  rw [Expression.tree, expression_primaryOf, primary]
  simp [reference?, literal_literalNode isLiteral]

/-! ## Creations -/

theorem expression_newOf (parts : List Node) :
    (newOf parts).expression = (branch .creator parts).creation := by
  rw [newOf, expression_of_unlabelled (by simp), recognized_plain]
  all_goals simp [hasBrackets, hasParens, unaryOperator?, uncodedForm?, reference?]

theorem creation_class (type : TypeRef) (parts : List Node) :
    (branch .creator [type.createdName, branch .classCreatorRest parts]).creation =
      (branch .classCreatorRest parts).instanceCreation type.createdName := by
  rw [creation]
  simp

theorem creation_array (type : TypeRef) (parts : List Node) :
    (branch .creator [type.createdName, branch .arrayCreatorRest parts]).creation =
      (branch .arrayCreatorRest parts).arrayCreation type.createdName := by
  rw [creation]
  simp

theorem expression_instanceCreation {arguments : List Expression} (name : DottedName)
    (given : inOrder ((Expression.treeAll arguments).map Node.expression) =
      (pure arguments : Projection _)) :
    (Expression.instanceCreation (.plain name) arguments none).tree.expression =
      pure (.instanceCreation (.plain name) arguments none) := by
  rw [Expression.tree, expression_newOf, creation_class, instanceCreation]
  simp [arguments_inParens given, ifPresent, TypeRef.plain, TypeRef.createdName, dottedName_plain]

theorem initializers_inBraces (elements : List Initializer) :
    (inBraces (Initializer.treeAll elements)).initializers =
      inOrder ((Initializer.treeAll elements).map Node.initializer) := by
  rw [inBraces, initializers]
  simp [listed, filter_intersperse, Initializer.rules_treeAll]

theorem expression_arrayCreation {element : TypeRef} {initializer : List Initializer}
    (isElement : element.IsElement)
    (given : inOrder ((Initializer.treeAll initializer).map Node.initializer) =
      (pure initializer : Projection _)) :
    (Expression.arrayCreation element initializer).tree.expression =
      pure (.arrayCreation element initializer) := by
  rw [Expression.tree, expression_newOf, creation_array, arrayCreation]
  obtain ⟨name, rfl⟩ | ⟨code, primitive, rfl⟩ := isElement
  · simp [TypeRef.plain, TypeRef.createdName, find?_dotted, dottedName_plain,
      initializers_inBraces, given]
  · simp [TypeRef.createdName, primitiveType_tree primitive, initializers_inBraces, given]

/-! ## All expressions -/

mutual

/-- The recursion follows the expression. Each form is recognized by its own theorem once its parts
are projected to themselves. -/
theorem Expression.expression_tree : ∀ expression : Expression, expression.Canonical →
    expression.tree.expression = pure expression
  | .binary _ left right, canonical =>
    expression_binary canonical.1 (Expression.expression_tree left canonical.2.1)
      (Expression.expression_tree right canonical.2.2)
  | .prefixed _ operand, canonical =>
    expression_prefixed canonical.1 (Expression.expression_tree operand canonical.2)
  | .postfixed _ operand, canonical =>
    expression_postfixed canonical.1 (Expression.expression_tree operand canonical.2)
  | .cast _ operand, canonical =>
    expression_cast canonical.1 (Expression.expression_tree operand canonical.2)
  | .arrayAccess object index, canonical =>
    expression_arrayAccess (Expression.expression_tree object canonical.1)
      (Expression.expression_tree index canonical.2)
  | .fieldAccess object false _, canonical =>
    expression_fieldAccess canonical.1 (Expression.expression_tree object canonical.2)
  | .fieldAccess _ true _, canonical => by
    obtain ⟨isName, rfl⟩ := canonical
    exact expression_superField isName
  | .invocation (some target) _ _ arguments, canonical => by
    obtain ⟨isName, rfl, onTarget, given⟩ := canonical
    exact expression_call isName (Expression.expression_tree target onTarget)
      (Expression.expressions_treeAll arguments given)
  | .invocation none _ _ arguments, canonical =>
    expression_callWithoutObject canonical.1
      (Expression.expressions_treeAll arguments canonical.2)
  | .instanceCreation _ arguments _, canonical => by
    obtain ⟨⟨name, rfl⟩, rfl, given⟩ := canonical
    exact expression_instanceCreation name (Expression.expressions_treeAll arguments given)
  | .arrayCreation _ initializer, canonical =>
    expression_arrayCreation canonical.1 (Initializer.initializers_treeAll initializer canonical.2)
  | .literal _, canonical => expression_literal canonical
  | .reference _, canonical => by
    obtain ⟨segment, rfl⟩ := canonical
    exact expression_reference segment
  | .thisObject, _ => expression_thisObject
  | .parenthesized inner, canonical =>
    expression_parenthesized (Expression.expression_tree inner canonical)
  | .placeholder _, canonical => canonical.elim

theorem Expression.expressions_treeAll : ∀ expressions : List Expression,
    Expression.CanonicalAll expressions →
    inOrder ((Expression.treeAll expressions).map Node.expression) =
      (pure expressions : Projection _)
  | [], _ => rfl
  | expression :: rest, canonical => by
    rw [Expression.treeAll, List.map_cons, inOrder,
      Expression.expression_tree expression canonical.1,
      Expression.expressions_treeAll rest canonical.2]
    simp

theorem Initializer.initializer_tree : ∀ initializer : Initializer, initializer.Canonical →
    initializer.tree.initializer = pure initializer
  | .expression value, canonical => by
    rw [Initializer.tree, initializer]
    simp [operandAt_branch, Expression.expression_tree value canonical]
  | .array elements, canonical => by
    rw [Initializer.tree, initializer]
    simp [initializers_inBraces, Initializer.initializers_treeAll elements canonical]

theorem Initializer.initializers_treeAll : ∀ initializers : List Initializer,
    Initializer.CanonicalAll initializers →
    inOrder ((Initializer.treeAll initializers).map Node.initializer) =
      (pure initializers : Projection _)
  | [], _ => rfl
  | initializer :: rest, canonical => by
    rw [Initializer.treeAll, List.map_cons, inOrder,
      Initializer.initializer_tree initializer canonical.1,
      Initializer.initializers_treeAll rest canonical.2]
    simp

end

/-- Every operator up to the decrement is read from exactly one token that can stand between
operands, and every canonical tree is projected to the expression it was made from, under either
policy and without a report. -/
theorem canonical_tree_recognized :
    (∀ op : Code, op.rank ≤ Code.minusMinus.rank → ∀ terminal : Terminal,
      terminal.isBinaryOperator = true ∧ Code.ofTerminal? terminal = some op ↔
        terminal = op.terminal) ∧
    ∀ expression : Expression, expression.Canonical → ∀ policy gathered,
      expression.tree.expression.runFrom policy gathered = (.ok expression, gathered) := by
  constructor
  · intro op inRange terminal
    obtain ⟨coded, between, _⟩ := Code.binary_terminal inRange
    constructor
    · rintro ⟨_, spelled⟩
      exact (Code.ofTerminal?_eq_some_iff.1 spelled).1.symm
    · rintro rfl
      exact ⟨between, Code.ofTerminal?_terminal coded⟩
  · intro expression canonical policy gathered
    rw [Expression.expression_tree expression canonical, runFrom_pure]

/-- The expression `(int[]) this.f(a + 1, new B("x")).y[i++]`. -/
def nestedExpression : Expression :=
  .cast (.primitive .kwInt 1) (.arrayAccess
    (.fieldAccess (.invocation (some .thisObject) false (.identifier "f")
      [.binary .plus (.name "a") (.literal (.withText .integerLiteral "1")),
        .instanceCreation (.plain (.single "B")) [.literal (.withText .stringLiteral "x")] none])
      false (.identifier "y"))
    (.postfixed .plusPlus (.name "i")))

theorem nestedExpression_recognized :
    nestedExpression.Canonical ∧
      nestedExpression.tree.expression.runFrom .reject #[] = (.ok nestedExpression, #[]) := by
  have sum : (Expression.binary .plus (.name "a")
      (.literal (.withText .integerLiteral "1"))).Canonical :=
    ⟨by decide, ⟨"a", rfl⟩, .integer (by decide)⟩
  have created : (Expression.instanceCreation (.plain (.single "B"))
      [.literal (.withText .stringLiteral "x")] none).Canonical :=
    ⟨⟨_, rfl⟩, rfl, .string "x", trivial⟩
  have canonical : nestedExpression.Canonical :=
    ⟨rfl, ⟨⟨"y", rfl⟩, ⟨"f", rfl⟩, rfl, trivial, sum, created, trivial⟩, by decide, "i", rfl⟩
  exact ⟨canonical, canonical_tree_recognized.2 nestedExpression canonical .reject #[]⟩

end JavaProjection
