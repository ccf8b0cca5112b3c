import JavaProjection.Projection.Unit

/-!
# Defects of parse trees

What is wrong with a node at which a projection stops. A defect is local: it is told by the kind
and the label of the node and by what stands among its direct children.
-/

set_option autoImplicit false

namespace JavaProjection

/-- The parts that every node of a rule must have, each with what a failure calls it. -/
def Rule.requiredParts : Rule → List (Rule × String)
  | .packageDeclaration => [(.qualifiedName, "package name")]
  | .importDeclaration => [(.qualifiedName, "imported name")]
  | .qualifiedName | .classOrInterfaceType => [(.identifier, "at least one identifier")]
  | .classDeclaration => [(.identifier, "identifier"), (.classBody, "class body")]
  | .typeParameter => [(.identifier, "identifier")]
  | .methodDeclaration => [(.typeTypeOrVoid, "return type"), (.identifier, "identifier")]
  | .fieldDeclaration => [(.variableDeclarators, "variableDeclarators")]
  | .formalParameter | .lastFormalParameter => [(.variableDeclaratorId, "parameter name")]
  | .variableDeclarator => [(.variableDeclaratorId, "variableDeclaratorId")]
  | .variableDeclaratorId => [(.identifier, "identifier"), (.identifier, "variable name")]
  | .typeClassOrInterfaceType => [(.classOrInterfaceType, "classOrInterfaceType")]
  | .typePrimitiveType => [(.primitiveType, "primitiveType")]
  | .statementBlockLabel => [(.block, "block")]
  | .statementIf | .statementWhile | .statementDo =>
    [(.parExpression, "parenthesized condition")]
  | .parExpression | .statementAssert | .statementExpression => [(.expression, "expression")]
  | .creator => [(.createdName, "createdName")]
  | _ => []

theorem Rule.requiredParts_local (rule : Rule) : ∀ entry ∈ rule.requiredParts,
    entry.2 ≠ "compilationUnit root" ∧ entry.2 ≠ "statement" ∧
      entry.2 ≠ "typeType alternative" := by
  cases rule <;> decide

namespace Node

def IsOperator (node : Node) : Prop :=
  node.label = some "bop" ∨ node.label = some "prefix" ∨ node.label = some "postfix"

structure UncodedOperator (node : Node) (terminal : Terminal) : Prop where
  kind : node.kind = .terminal terminal
  operator : node.IsOperator
  uncoded : Code.ofTerminal? terminal = none
  unmapped : node.label = some "bop" → terminal ∈ Terminal.unmappedOperators

/-- The node is malformed in the way that a failure describes by a text. Two texts never occur:
whatever is taken for a statement or for a type is one. A third one is said of the root alone. -/
inductive Defect : Node → String → Prop
  | part {node : Node} {rule part : Rule} {expected : String} (kind : node.kind = .rule rule)
    (required : (part, expected) ∈ rule.requiredParts) (missing : node.rule? part = none) :
    Defect node expected
  | createdName {node : Node} (kind : node.kind = .rule .createdName)
    (unnamed : node.rule? .identifier = none) :
    Defect node "at least one identifier"
  | primitiveType {node : Node} (kind : node.kind = .rule .primitiveType)
    (noKeyword : (node.firstTerminal?.bind fun token =>
      token.kind.terminal?.bind Code.primitiveOf?) = none) :
    Defect node "primitive type keyword"
  | typeArgument {node : Node} (kind : node.kind = .rule .typeArgument)
    (noWildcard : node.hasTerminal .question = false) (noType : node.typeNodeAt? 0 = none) :
    Defect node "type argument"
  | parameterType {node : Node}
    (kind : node.kind = .rule .formalParameter ∨ node.kind = .rule .lastFormalParameter)
    (noType : node.typeNodeAt? 0 = none) :
    Defect node "parameter type"
  | fieldType {node : Node} (kind : node.kind = .rule .fieldDeclaration)
    (noType : node.typeNodeAt? 0 = none) :
    Defect node "field type"
  | localType {node : Node} (kind : node.kind = .rule .localVariableDeclaration)
    (written : node.hasTerminal .kwVar = false) (noType : node.typeNodeAt? 0 = none) :
    Defect node "local variable type"
  | localDeclarators {node : Node} (kind : node.kind = .rule .localVariableDeclaration)
    (written : node.hasTerminal .kwVar = false)
    (missing : node.rule? .variableDeclarators = none) :
    Defect node "variableDeclarators"
  | inferredName {node : Node} (kind : node.kind = .rule .localVariableDeclaration)
    (inferred : node.hasTerminal .kwVar = true) (missing : node.rule? .identifier = none) :
    Defect node "`var` variable name"
  | inferredValue {node : Node} (kind : node.kind = .rule .localVariableDeclaration)
    (inferred : node.hasTerminal .kwVar = true) (missing : node.rule? .expression = none) :
    Defect node "`var` initializer"
  | blockEntry {node : Node} (kind : node.kind = .rule .blockStatement)
    (noVariable : node.rule? .localVariableDeclaration = none)
    (noStatement : node.statementAt? 0 = none)
    (noType : node.rule? .localTypeDeclaration = none) :
    Defect node "local declaration or statement"
  | nestedStatement {node : Node}
    (kind : node.kind = .rule .statementIf ∨ node.kind = .rule .statementWhile ∨
      node.kind = .rule .statementDo)
    (missing : node.statementAt? 0 = none) :
    Defect node "nested statement"
  | constructorBody {node : Node} (kind : node.kind = .rule .constructorDeclaration)
    (noLabel : node.labelled? "constructorBody" = none) (noBlock : node.rule? .block = none) :
    Defect node "constructor body"
  | invokedName {node : Node} (kind : node.kind = .rule .methodCall)
    (noName : node.rule? .identifier = none) (noSuper : node.hasTerminal .kwSuper = false)
    (noThis : node.hasTerminal .kwThis = false) :
    Defect node "method name, `this` or `super`"
  | operator {node : Node} {rule : Rule} (kind : node.kind = .rule rule)
    (labelled : node.IsOperator) :
    Defect node "operator token"
  | arrayElement {node : Node} (kind : node.kind = .rule .expression)
    (brackets : node.hasBrackets = true) (few : (node.rules .expression).length < 2) :
    Defect node "operand expression"
  | castOperand {node : Node} (kind : node.kind = .rule .expression)
    (parens : node.hasParens = true) (typed : node.typeNodes ≠ [])
    (missing : node.rule? .expression = none) :
    Defect node "operand expression"
  | value {node : Node}
    (kind : node.kind = .rule .variableInitializer ∨ node.kind = .rule .arrayCreatorRest)
    (noElements : node.rule? .arrayInitializer = none)
    (missing : node.rule? .expression = none) :
    Defect node "operand expression"

/-- The texts of local defects keep clear of the one for the root and of the two unreachable
ones. -/
theorem Defect.text_ne {node : Node} {expected : String} (defect : node.Defect expected) :
    expected ≠ "compilationUnit root" ∧ expected ≠ "statement" ∧
      expected ≠ "typeType alternative" := by
  cases defect with
  | part kind required missing => exact Rule.requiredParts_local _ _ required
  | _ => decide

/-- The node is a local type that is no class, and a failure calls it `construct`: by the first
rule below the node that is no modifier, if there is one. -/
structure UnsupportedType (node : Node) (construct : String) : Prop where
  kind : node.kind = .rule .localTypeDeclaration
  noClass : node.rule? .classDeclaration = none
  title : (∃ child rule rest, construct = rule.title ∧ child.kind = .rule rule ∧
      (node.rulesWhere fun rule => rule != .classOrInterfaceModifier) = child :: rest) ∨
    (construct = "empty declaration" ∧
      (node.rulesWhere fun rule => rule != .classOrInterfaceModifier) = [])

/-- The node is a literal, or a part of one, that cannot be read. The last two are literals of a
form that is not kept, which only the strict policy refuses. -/
inductive UnreadableLiteral (policy : LiteralPolicy) (node : Node) : Prop
  | boolean (kind : node.kind = .terminal .boolLiteral) (notTrue : node.ownText ≠ "true")
    (notFalse : node.ownText ≠ "false")
  | decimal (kind : node.kind = .terminal .decimalLiteral)
    (blank : node.text = none ∨ node.text = some "")
  | float (kind : node.kind = .rule .floatLiteral) (blank : node.fullText = "")
  | string (kind : node.kind = .terminal .stringLiteral)
    (unquoted : ∀ content, node.ownText.toList ≠ '"' :: content ++ ['"'])
  | empty (kind : node.kind = .rule .literal) (noToken : node.firstTerminal? = none)
    (noInteger : node.rule? .integerLiteral = none) (noFloat : node.rule? .floatLiteral = none)
  | integerForm (strict : policy = .reject) (kind : node.kind = .rule .integerLiteral)
    (noDecimal : node.terminal? .decimalLiteral = none)
  | literalForm (strict : policy = .reject) (kind : node.kind = .rule .literal)
    (token : node.firstTerminal?.isSome = true) (noBoolean : node.terminal? .boolLiteral = none)
    (noInteger : node.rule? .integerLiteral = none)
    (noNull : node.terminal? .nullLiteral = none) (noFloat : node.rule? .floatLiteral = none)
    (noString : node.terminal? .stringLiteral = none)

/-- The node explains the failure of a projection from the root. -/
inductive Justifies (policy : LiteralPolicy) (node root : Node) : Failure → Prop
  | unsupportedToken {terminal : Terminal} (uncoded : node.UncodedOperator terminal) :
    Justifies policy node root (.unsupportedToken terminal node.ownText node.span)
  | unsupportedLocalType {construct : String} (unsupported : node.UnsupportedType construct) :
    Justifies policy node root (.unsupportedLocalType construct node.span)
  | invalidLiteral (unreadable : node.UnreadableLiteral policy) :
    Justifies policy node root (.invalidLiteral node.fullText node.span)
  | malformedTree {expected : String} (defect : node.Defect expected) :
    Justifies policy node root (.malformedTree expected node.span)
  | malformedRoot (isRoot : node = root) (other : node.kind ≠ .rule .compilationUnit) :
    Justifies policy node root (.malformedTree "compilationUnit root" node.span)

theorem Justifies.malformed_cases {policy : LiteralPolicy} {node root : Node} {expected : String}
    {span : Span} (justified : node.Justifies policy root (.malformedTree expected span)) :
    node.Defect expected ∨ (node = root ∧ expected = "compilationUnit root") := by
  cases justified with
  | malformedTree defect => exact Or.inl defect
  | malformedRoot isRoot _ => exact Or.inr ⟨isRoot, rfl⟩

end Node

end JavaProjection
