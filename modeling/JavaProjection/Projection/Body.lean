import JavaProjection.Projection.Forms
import JavaProjection.Projection.Literals
import JavaProjection.Projection.Types

/-!
# Expressions, statements and declarations

The three are projected together: a class body holds statements, statements hold expressions, and
an expression that creates an object can hold a class body.

An expression without an operator label is taken for the first form that fits, in this order:
array access, unary operation, cast, an operator form without a code, a nested expression, a
primary expression, a name, a creation, a call. With an operator label the operands are the first
two expressions below the node; for the dot the left operand is what the same node is taken for
without its label.

Every step goes down to a child or, on the same node, to a rule of lower rank.

Functions are named for what they give. `expression` resolves the operator label of an `expression`
node and `recognized` runs the chain of recognizers on it. Of the other rules, `creation` reads
`creator`, `invocation` reads `methodCall`, `initializer` and `initializers` read
`variableInitializer` and `arrayInitializer`, `blockEntry` reads `blockStatement`, `classEntry` and
`member` read `classBodyDeclaration` and `memberDeclaration`, and `declarators` reads
`variableDeclarators`. A `fieldDeclaration` and a `localVariableDeclaration` with a written type
have one reader, `typedVariables`.
-/

set_option autoImplicit false

namespace JavaProjection

namespace Node

open Projection

mutual

-- Expressions

def expression (node : Node) : Projection Expression :=
  match node.labelled? "bop" with
  | none => node.recognized
  | some operator =>
    match operator.kind with
    | .rule _ => throw (operator.malformed "operator token")
    | .terminal .dot => node.memberAccess
    | .terminal terminal =>
      if terminal.isBinaryOperator then node.binary operator
      else node.placeholder .expression s!"`{operator.ownText}` expression"
termination_by (sizeOf node, 4)

def operandAt (node : Node) (index : Nat) (expected : String) : Projection Expression :=
  (node.visitRuleAt .expression index fun operand _ => operand.expression).getD
    (throw (node.malformed expected))
termination_by (sizeOf node, 0)

def expressions (node : Node) : Projection (List Expression) :=
  inOrder (node.visitRules .expression fun operand _ => operand.expression)
termination_by (sizeOf node, 0)

/-- An operation with two operands. The third operand of a conditional expression is dropped,
which is reported. -/
def binary (node operator : Node) : Projection Expression :=
  match node.visitRuleAt .expression 0 fun left _ => left.expression,
    node.visitRuleAt .expression 1 fun right _ => right.expression with
  | some left, some right => do
    -- An operator without a code fails before either operand is looked at.
    let code ← operator.operatorCode
    let left ← left
    let right ← right
    if code = .question then
      node.reportDroppedBranch
    return .binary code left right
  | _, _ => node.placeholder .expression "incomplete binary expression"
termination_by (sizeOf node, 3)

/-- A field or a call behind a dot. The bare word `super` in front of the dot is no operand but
marks the access. -/
def memberAccess (node : Node) : Projection Expression :=
  match node.visitRule .methodCall fun call _ target => call.invocation target node.isOnSuper with
  | some invoke => do
    -- The object is what this very node is taken for. With nothing in front of the dot that is the
    -- call again, which is then projected twice.
    let target ← if node.isOnSuper then pure none else some <$> node.recognized
    invoke target
  | none =>
    match node.rule? .identifier with
    | some identifier => do
      let object ← if node.isOnSuper then pure .thisObject else node.recognized
      return .fieldAccess object (node.isOnSuper || node.hasTerminal .kwSuper)
        (.identifier identifier.identifierText)
    | none =>
      node.placeholder .expression "member access to something other than a field or method"
termination_by (sizeOf node, 3)

/-- The first form that fits the node, whatever its operator label. -/
def recognized (node : Node) : Projection Expression :=
  -- Shifts are tested ahead of nested expressions, so that `a << b` does not collapse to `a`.
  (node.arrayAccess? <|> node.unary? <|> node.cast?
    <|> node.uncodedForm?.map (node.placeholder .expression)
    <|> (node.visitRule .expression fun nested _ => nested.expression)
    <|> (node.visitRule .primary fun primary _ => primary.primary)
    <|> node.reference?.map pure
    <|> (node.visitRule .creator fun creator _ => creator.creation)
    <|> (node.visitRule .methodCall fun call _ => call.invocation none false)
    <|> ((node.rule? .switchExpression).map fun _ =>
      node.placeholder .switchExpression "switch expression")).getD
    (node.placeholder .expression node.unknownForm)
termination_by (sizeOf node, 2)

def arrayAccess? (node : Node) : Option (Projection Expression) :=
  if node.hasBrackets then
    some do
      let object ← node.operandAt 0 "operand expression"
      let index ← node.operandAt 1 "operand expression"
      return .arrayAccess object index
  else none
termination_by (sizeOf node, 1)

def unary? (node : Node) : Option (Projection Expression) :=
  node.unaryOperator?.map fun (operator, behind) => do
    let code ← operator.operatorCode
    let operand ← node.operandAt 0 "operand expression"
    return if behind then .postfixed code operand else .prefixed code operand
termination_by (sizeOf node, 1)

def cast? (node : Node) : Option (Projection Expression) :=
  if node.hasParens then
    (node.typeNodeAt? 0).map fun typeNode => do
      let type ← typeNode.typeRef
      let operand ← node.operandAt 0 "operand expression"
      return .cast type operand
  else none
termination_by (sizeOf node, 1)

def primary (node : Node) : Projection Expression :=
  match node.visitRule .expression fun inner _ => inner.expression with
  | some inner => do
    let inner ← inner
    return if node.hasParens then .parenthesized inner else inner
  | none =>
    match node.reference? with
    | some reference => pure reference
    | none =>
      if node.hasTerminal .kwThis then pure .thisObject
      else
        match node.rule? .literal with
        | some literal => literal.literal
        | none => node.placeholder .expression node.unknownPrimary
termination_by (sizeOf node, 1)

def creation (node : Node) : Projection Expression :=
  match node.rule? .createdName with
  | none => throw (node.malformed "createdName")
  | some name =>
    ((node.visitRule .classCreatorRest fun rest _ => rest.instanceCreation name)
      <|> (node.visitRule .arrayCreatorRest fun rest _ => rest.arrayCreation name)).getD
      (node.placeholder .unknownCreatorContext "object creation form")
termination_by (sizeOf node, 1)

/-- A new object of the class called `name`, from the arguments and the class body below the
node. The name is read last. -/
def instanceCreation (node name : Node) : Projection Expression := do
  let arguments ← (node.visitRule .arguments fun arguments _ => arguments.arguments).getD (pure [])
  let body ← ifPresent (node.visitRule .classBody fun body _ => body.classBody)
  let name ← name.dottedName
  return .instanceCreation (.plain name) arguments body
termination_by (sizeOf node, 1)

/-- A new array of elements of the type called `name`, from an initializer or else from the
first size below the node. -/
def arrayCreation (node name : Node) : Projection Expression := do
  let element ← match name.rule? .primitiveType with
    | some primitive => primitive.primitiveType 0
    | none => TypeRef.plain <$> name.dottedName
  let initializer ← (node.visitRule .arrayInitializer fun elements _ =>
    elements.initializers).getD do
      let size ← node.operandAt 0 "operand expression"
      return [.expression size]
  return .arrayCreation element initializer
termination_by (sizeOf node, 1)

def invocation (node : Node) (target : Option Expression) (onSuper : Bool) :
    Projection Expression := do
  let name ← node.invokedName
  let arguments ← ((node.visitRule .expressionList fun list _ => list.expressions)
    <|> (node.visitRule .arguments fun arguments _ => arguments.arguments)).getD (pure [])
  return .invocation target (node.hasTerminal .kwSuper || onSuper) name arguments
termination_by (sizeOf node, 1)

def arguments (node : Node) : Projection (List Expression) :=
  (node.visitRule .expressionList fun list _ => list.expressions).getD (pure [])
termination_by (sizeOf node, 1)

def initializer (node : Node) : Projection Initializer :=
  match node.visitRule .arrayInitializer fun elements _ => elements.initializers with
  | some elements => .array <$> elements
  | none => .expression <$> node.operandAt 0 "operand expression"
termination_by (sizeOf node, 1)

def initializers (node : Node) : Projection (List Initializer) :=
  inOrder (node.visitRules .variableInitializer fun element _ => element.initializer)
termination_by (sizeOf node, 1)

-- Statements

def block (node : Node) : Projection Block :=
  List.flatten <$> inOrder (node.visitRules .blockStatement fun entry _ => entry.blockEntry)
termination_by (sizeOf node, 1)

/-- An entry of a block. A declaration of several variables gives one entry for each. -/
def blockEntry (node : Node) : Projection Block :=
  ((node.visitRule .localVariableDeclaration fun declared _ =>
      List.map BlockStatement.declaration <$> declared.localVariables)
    <|> (node.visitStatementAt 0 fun statement _ => do
      let statement ← statement.statement
      return [BlockStatement.statement statement])
    <|> (node.visitRule .localTypeDeclaration fun type _ => do
      let declaration ← type.localType
      return [BlockStatement.declaration declaration])).getD
    (throw (node.malformed "local declaration or statement"))
termination_by (sizeOf node, 1)

/-- The variables of a local declaration. With `var` there is one, without a type. -/
def localVariables (node : Node) : Projection (List Declaration) :=
  let modifiers := modifiers? (node.rules .variableModifier)
  if node.hasTerminal .kwVar then
    match node.rule? .identifier with
    | none => throw (node.malformed "`var` variable name")
    | some identifier =>
      match node.visitRule .expression fun value _ => value.expression with
      | none => throw (node.malformed "`var` initializer")
      | some value => do
        let value ← value
        return [.variable ⟨identifier.identifierText, modifiers, none, 0⟩
          (some (.expression value))]
  else node.typedVariables "local variable type" modifiers
termination_by (sizeOf node, 1)

/-- Variables of one written type, in the order of their declarators. -/
def typedVariables (node : Node) (expected : String) (modifiers : Option Modifiers) :
    Projection (List Declaration) :=
  match node.typeNodeAt? 0 with
  | none => throw (node.malformed expected)
  | some typeNode => do
    let type ← typeNode.typeRef
    (node.visitRule .variableDeclarators fun list _ => list.declarators modifiers type).getD
      (throw (node.malformed "variableDeclarators"))
termination_by (sizeOf node, 0)

def declarators (node : Node) (modifiers : Option Modifiers) (type : TypeRef) :
    Projection (List Declaration) :=
  inOrder (node.visitRules .variableDeclarator fun declarator _ =>
    declarator.declarator modifiers type)
termination_by (sizeOf node, 1)

def declarator (node : Node) (modifiers : Option Modifiers) (type : TypeRef) :
    Projection Declaration :=
  match node.rule? .variableDeclaratorId with
  | none => throw (node.malformed "variableDeclaratorId")
  | some id =>
    match id.rule? .identifier with
    | none => throw (id.malformed "variable name")
    | some identifier => do
      let initializer ← ifPresent
        (node.visitRule .variableInitializer fun value _ => value.initializer)
      return .variable
        ⟨identifier.identifierText, modifiers, some type, id.countTerminal .leftBracket⟩
        initializer
termination_by (sizeOf node, 1)

def statement (node : Node) : Projection Statement :=
  match node.kind with
  | .rule .statementBlockLabel =>
    .block <$> (node.visitRule .block fun body _ => body.block).getD
      (throw (node.malformed "block"))
  | .rule .statementIf => do
    let condition ← node.condition
    let thenBranch ← node.substatement
    let elseBranch ← ifPresent (node.visitStatementAt 1 fun branch _ => branch.statement)
    return .branch condition thenBranch elseBranch
  | .rule .statementWhile => do
    let condition ← node.condition
    let body ← node.substatement
    return .whileLoop condition body
  | .rule .statementDo => do
    let body ← node.substatement
    let condition ← node.condition
    return .doLoop body condition
  | .rule .statementReturn =>
    .returns <$> ifPresent (node.visitRule .expression fun value _ => value.expression)
  | .rule .statementBreak => pure (.breaks node.jumpLabel?)
  | .rule .statementContinue => pure (.continues node.jumpLabel?)
  | .rule .statementAssert => do
    let condition ← node.operandAt 0 "expression"
    let message ← ifPresent (node.visitRuleAt .expression 1 fun message _ => message.expression)
    return .asserts condition message
  | .rule .statementExpression => .expression <$> node.operandAt 0 "expression"
  | .rule rule =>
    match rule.placeholderStatement? with
    | some (tag, construct) => .expression <$> node.placeholder tag construct
    -- Only statement nodes are visited, and all their rules are listed here or have a placeholder.
    | none => throw (node.malformed "statement")
  | .terminal _ => throw (node.malformed "statement")
termination_by (sizeOf node, 1)

def condition (node : Node) : Projection Expression :=
  (node.visitRule .parExpression fun inner _ => inner.operandAt 0 "expression").getD
    (throw (node.malformed "parenthesized condition"))
termination_by (sizeOf node, 0)

def substatement (node : Node) : Projection Statement :=
  (node.visitStatementAt 0 fun inner _ => inner.statement).getD
    (throw (node.malformed "nested statement"))
termination_by (sizeOf node, 0)

def localType (node : Node) : Projection Declaration :=
  (node.visitRule .classDeclaration fun declared _ =>
    declared.classDeclaration (modifiers? (node.rules .classOrInterfaceModifier))).getD
    (throw (.unsupportedLocalType node.localTypeTitle node.span))
termination_by (sizeOf node, 1)

-- Classes

def classDeclaration (node : Node) (modifiers : Option Modifiers) : Projection Declaration := do
  let name ← node.declaredName
  let typeParameters ← node.typeParameters?
  let superclass ← node.firstType?
  let interfaces ← node.interfaces?
  let members ← (node.visitRule .classBody fun body _ => body.classBody).getD
    (throw (node.malformed "class body"))
  return .classType ⟨name, modifiers, typeParameters, superclass, interfaces⟩ members
termination_by (sizeOf node, 1)

def classBody (node : Node) : Projection (List Declaration) :=
  List.flatten <$> inOrder (node.visitRules .classBodyDeclaration fun entry _ => entry.classEntry)
termination_by (sizeOf node, 1)

/-- An entry of a class body: an initializer block, or a member with its modifiers. -/
def classEntry (node : Node) : Projection (List Declaration) :=
  ((node.visitRule .block fun body _ => do
      let body ← body.block
      return [Declaration.initializer body (node.hasTerminal .kwStatic)])
    <|> (node.visitRule .memberDeclaration fun member _ =>
      member.member (modifiers? (node.rules .modifier)))).getD (pure [])
termination_by (sizeOf node, 1)

/-- A member of a class. A member of any other kind is left out. -/
def member (node : Node) (modifiers : Option Modifiers) : Projection (List Declaration) :=
  ((node.visitRule .methodDeclaration fun declared _ => do
      let method ← declared.method modifiers
      return [method])
    <|> (node.visitRule .classDeclaration fun declared _ => do
      let nested ← declared.classDeclaration modifiers
      return [nested])
    <|> (node.visitRule .fieldDeclaration fun declared _ =>
      declared.typedVariables "field type" modifiers)
    <|> (node.visitRule .constructorDeclaration fun declared _ => do
      let constructor ← declared.constructor modifiers
      return [constructor])).getD (pure [])
termination_by (sizeOf node, 1)

/-- A method. Without a body it has the empty one. -/
def method (node : Node) (modifiers : Option Modifiers) : Projection Declaration :=
  match node.rule? .typeTypeOrVoid with
  | none => throw (node.malformed "return type")
  | some result => do
    let returnType ← result.firstType?
    let name ← node.declaredName
    let parameters ← node.parameters
    let throws ← node.thrownTypes
    let body ← ((node.visitRule .methodBody fun body _ =>
      body.visitRule .block fun body _ => body.block).join).getD (pure [])
    return .method ⟨modifiers, returnType, name, parameters, throws⟩ body
termination_by (sizeOf node, 1)

def constructor (node : Node) (modifiers : Option Modifiers) : Projection Declaration := do
  let parameters ← node.parameters
  let throws ← node.thrownTypes
  let body ← ((node.visitLabelled "constructorBody" fun body _ => body.block)
    <|> (node.visitRule .block fun body _ => body.block)).getD
    (throw (node.malformed "constructor body"))
  return .constructor ⟨modifiers, parameters, throws⟩ body
termination_by (sizeOf node, 1)

end

end Node

end JavaProjection
