/-!
# Grammar rules

The rules of the Java grammar that an inner node of a parse tree can stand for. The labelled
alternatives of a statement and of a type are rules of their own, so that a node says which
alternative it was read as.
-/

set_option autoImplicit false

namespace JavaProjection

/-- A rule of the Java grammar, in the grammar's order. -/
inductive Rule where
  | compilationUnit | packageDeclaration | importDeclaration | typeDeclaration | qualifiedName
  | qualifiedNameList
  | modifier | classOrInterfaceModifier | variableModifier | annotationUse
  | classDeclaration | enumDeclaration | interfaceDeclaration | recordDeclaration
  | annotationTypeDeclaration | typeParameters | typeParameter | typeBound | typeList
  | classBody | classBodyDeclaration | memberDeclaration | localTypeDeclaration
  | methodDeclaration | genericMethodDeclaration | methodBody | typeTypeOrVoid
  | constructorDeclaration | genericConstructorDeclaration | fieldDeclaration
  | formalParameters | formalParameterList | formalParameter | lastFormalParameter
  | variableDeclarators | variableDeclarator | variableDeclaratorId | variableInitializer
  | arrayInitializer | localVariableDeclaration | identifier
  | typeClassOrInterfaceType | typePrimitiveType | classOrInterfaceType | primitiveType
  | typeArguments | typeArgument
  | block | blockStatement | statementBlockLabel | statementAssert | statementIf | statementFor
  | statementWhile | statementDo | statementTryBlock | statementTryResourceSpecification
  | statementSwitch | statementSynchronized | statementReturn | statementThrow | statementBreak
  | statementContinue | statementYield | statementSemi | statementExpression
  | statementSwitchExpression | statementIdentifierLabel | forControl | catchClause
  | finallyBlock | resourceSpecification | switchBlockStatementGroup | switchLabel
  | parExpression
  | expression | expressionList | methodCall | primary | literal | integerLiteral
  | floatLiteral | creator | createdName | classCreatorRest | arrayCreatorRest | innerCreator
  | arguments | superSuffix | explicitGenericInvocation | nonWildcardTypeArguments
  | lambdaExpression | switchExpression | pattern
  deriving DecidableEq

namespace Rule

def all : List Rule :=
  [.compilationUnit, .packageDeclaration, .importDeclaration, .typeDeclaration, .qualifiedName,
    .qualifiedNameList, .modifier, .classOrInterfaceModifier, .variableModifier, .annotationUse,
    .classDeclaration, .enumDeclaration, .interfaceDeclaration, .recordDeclaration,
    .annotationTypeDeclaration, .typeParameters, .typeParameter, .typeBound, .typeList,
    .classBody, .classBodyDeclaration, .memberDeclaration, .localTypeDeclaration,
    .methodDeclaration, .genericMethodDeclaration, .methodBody, .typeTypeOrVoid,
    .constructorDeclaration, .genericConstructorDeclaration, .fieldDeclaration,
    .formalParameters, .formalParameterList, .formalParameter, .lastFormalParameter,
    .variableDeclarators, .variableDeclarator, .variableDeclaratorId, .variableInitializer,
    .arrayInitializer, .localVariableDeclaration, .identifier, .typeClassOrInterfaceType,
    .typePrimitiveType, .classOrInterfaceType, .primitiveType, .typeArguments, .typeArgument,
    .block, .blockStatement, .statementBlockLabel, .statementAssert, .statementIf, .statementFor,
    .statementWhile, .statementDo, .statementTryBlock, .statementTryResourceSpecification,
    .statementSwitch, .statementSynchronized, .statementReturn, .statementThrow, .statementBreak,
    .statementContinue, .statementYield, .statementSemi, .statementExpression,
    .statementSwitchExpression, .statementIdentifierLabel, .forControl, .catchClause,
    .finallyBlock, .resourceSpecification, .switchBlockStatementGroup, .switchLabel,
    .parExpression, .expression, .expressionList, .methodCall, .primary, .literal,
    .integerLiteral, .floatLiteral, .creator, .createdName, .classCreatorRest, .arrayCreatorRest,
    .innerCreator, .arguments, .superSuffix, .explicitGenericInvocation,
    .nonWildcardTypeArguments, .lambdaExpression, .switchExpression, .pattern]

def name : Rule → String
  | .compilationUnit => "compilationUnit"
  | .packageDeclaration => "packageDeclaration"
  | .importDeclaration => "importDeclaration"
  | .typeDeclaration => "typeDeclaration"
  | .qualifiedName => "qualifiedName"
  | .qualifiedNameList => "qualifiedNameList"
  | .modifier => "modifier"
  | .classOrInterfaceModifier => "classOrInterfaceModifier"
  | .variableModifier => "variableModifier"
  | .annotationUse => "annotation"
  | .classDeclaration => "classDeclaration"
  | .enumDeclaration => "enumDeclaration"
  | .interfaceDeclaration => "interfaceDeclaration"
  | .recordDeclaration => "recordDeclaration"
  | .annotationTypeDeclaration => "annotationTypeDeclaration"
  | .typeParameters => "typeParameters"
  | .typeParameter => "typeParameter"
  | .typeBound => "typeBound"
  | .typeList => "typeList"
  | .classBody => "classBody"
  | .classBodyDeclaration => "classBodyDeclaration"
  | .memberDeclaration => "memberDeclaration"
  | .localTypeDeclaration => "localTypeDeclaration"
  | .methodDeclaration => "methodDeclaration"
  | .genericMethodDeclaration => "genericMethodDeclaration"
  | .methodBody => "methodBody"
  | .typeTypeOrVoid => "typeTypeOrVoid"
  | .constructorDeclaration => "constructorDeclaration"
  | .genericConstructorDeclaration => "genericConstructorDeclaration"
  | .fieldDeclaration => "fieldDeclaration"
  | .formalParameters => "formalParameters"
  | .formalParameterList => "formalParameterList"
  | .formalParameter => "formalParameter"
  | .lastFormalParameter => "lastFormalParameter"
  | .variableDeclarators => "variableDeclarators"
  | .variableDeclarator => "variableDeclarator"
  | .variableDeclaratorId => "variableDeclaratorId"
  | .variableInitializer => "variableInitializer"
  | .arrayInitializer => "arrayInitializer"
  | .localVariableDeclaration => "localVariableDeclaration"
  | .identifier => "identifier"
  | .typeClassOrInterfaceType => "typeClassOrInterfaceType"
  | .typePrimitiveType => "typePrimitiveType"
  | .classOrInterfaceType => "classOrInterfaceType"
  | .primitiveType => "primitiveType"
  | .typeArguments => "typeArguments"
  | .typeArgument => "typeArgument"
  | .block => "block"
  | .blockStatement => "blockStatement"
  | .statementBlockLabel => "statementBlockLabel"
  | .statementAssert => "statementAssert"
  | .statementIf => "statementIf"
  | .statementFor => "statementFor"
  | .statementWhile => "statementWhile"
  | .statementDo => "statementDo"
  | .statementTryBlock => "statementTryBlock"
  | .statementTryResourceSpecification => "statementTryResourceSpecification"
  | .statementSwitch => "statementSwitch"
  | .statementSynchronized => "statementSynchronized"
  | .statementReturn => "statementReturn"
  | .statementThrow => "statementThrow"
  | .statementBreak => "statementBreak"
  | .statementContinue => "statementContinue"
  | .statementYield => "statementYield"
  | .statementSemi => "statementSemi"
  | .statementExpression => "statementExpression"
  | .statementSwitchExpression => "statementSwitchExpression"
  | .statementIdentifierLabel => "statementIdentifierLabel"
  | .forControl => "forControl"
  | .catchClause => "catchClause"
  | .finallyBlock => "finallyBlock"
  | .resourceSpecification => "resourceSpecification"
  | .switchBlockStatementGroup => "switchBlockStatementGroup"
  | .switchLabel => "switchLabel"
  | .parExpression => "parExpression"
  | .expression => "expression"
  | .expressionList => "expressionList"
  | .methodCall => "methodCall"
  | .primary => "primary"
  | .literal => "literal"
  | .integerLiteral => "integerLiteral"
  | .floatLiteral => "floatLiteral"
  | .creator => "creator"
  | .createdName => "createdName"
  | .classCreatorRest => "classCreatorRest"
  | .arrayCreatorRest => "arrayCreatorRest"
  | .innerCreator => "innerCreator"
  | .arguments => "arguments"
  | .superSuffix => "superSuffix"
  | .explicitGenericInvocation => "explicitGenericInvocation"
  | .nonWildcardTypeArguments => "nonWildcardTypeArguments"
  | .lambdaExpression => "lambdaExpression"
  | .switchExpression => "switchExpression"
  | .pattern => "pattern"

/-- The name as messages spell it, with a capital first letter. -/
def title (rule : Rule) : String :=
  rule.name.capitalize

def ofName? (name : String) : Option Rule :=
  all.find? fun rule => rule.name == name

def isStatement : Rule → Bool
  | .statementBlockLabel | .statementAssert | .statementIf | .statementFor | .statementWhile
  | .statementDo | .statementTryBlock | .statementTryResourceSpecification | .statementSwitch
  | .statementSynchronized | .statementReturn | .statementThrow | .statementBreak
  | .statementContinue | .statementYield | .statementSemi | .statementExpression
  | .statementSwitchExpression | .statementIdentifierLabel => true
  | _ => false

def isType : Rule → Bool
  | .typeClassOrInterfaceType | .typePrimitiveType => true
  | _ => false

theorem isType_iff {rule : Rule} :
    rule.isType = true ↔ rule = .typeClassOrInterfaceType ∨ rule = .typePrimitiveType := by
  cases rule <;> simp [isType]

end Rule

end JavaProjection
