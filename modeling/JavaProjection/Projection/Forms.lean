import JavaProjection.Projection.Names

/-!
# Forms of expressions and statements

All forms of expression share one grammar rule and are told apart by what stands among their
children. The tests here look one or two levels down and project nothing. `uncodedForm?` is the
test for operator forms without a code, `isOnSuper` the test for a bare `super`; `unknownForm`,
`unknownPrimary` and `localTypeTitle` name constructs in reports and failures.
-/

set_option autoImplicit false

namespace JavaProjection

/-- The statements outside the abstract syntax: the placeholder for each and how a report
calls it. -/
def Rule.placeholderStatement? : Rule → Option (Placeholder × String)
  | .statementSwitchExpression => some (.switchExpression, "switch expression")
  | .statementFor => some (.forLoop, "for loop")
  | .statementIdentifierLabel => some (.identifierLabel, "labelled statement")
  | .statementSemi => some (.semiNoop, "empty statement")
  | .statementSwitch => some (.switchStatement, "switch statement")
  | .statementTryResourceSpecification => some (.tryResource, "try-with-resources statement")
  | .statementTryBlock => some (.tryBlock, "try statement")
  | .statementThrow => some (.statement, "throw statement")
  | .statementSynchronized => some (.statement, "synchronized statement")
  | .statementYield => some (.statement, "yield statement")
  | _ => none

namespace Node

def hasParens (node : Node) : Bool :=
  node.hasTerminal .leftParen && node.hasTerminal .rightParen

def hasBrackets (node : Node) : Bool :=
  node.hasTerminal .leftBracket && node.hasTerminal .rightBracket

def reference? (node : Node) : Option Expression :=
  (node.rule? .identifier).map fun identifier => .name identifier.identifierText

def operatorCode (node : Node) : Except Failure Code :=
  match node.kind with
  | .rule _ => throw (node.malformed "operator token")
  | .terminal terminal =>
    match Code.ofTerminal? terminal with
    | some code => pure code
    | none => throw (.unsupportedToken terminal node.ownText node.span)

/-- The operator of a unary expression and whether it stands behind its operand. Such an
expression has two children, of which one is its operand. -/
def unaryOperator? (node : Node) : Option (Node × Bool) :=
  if node.children.length = 2 ∧ (node.rule? .expression).isSome then
    match node.labelled? "prefix" with
    | some operator => some (operator, false)
    | none => (node.labelled? "postfix").map fun operator => (operator, true)
  else none

/-- Operator forms that have no abstract code and no operator label: method references and
shifts. -/
def uncodedForm? (node : Node) : Option String :=
  if node.hasTerminal .colonColon then some "method reference"
  else if (node.labelled? "bop").isNone && (node.rules .expression).length == 2
      && (node.hasTerminal .less || node.hasTerminal .greater) then
    some "shift expression"
  else none

def unknownForm (node : Node) : String :=
  if (node.rule? .lambdaExpression).isSome then "lambda expression" else "expression form"

def unknownPrimary (node : Node) : String :=
  if node.hasTerminal .kwSuper then "`super` expression"
  else if node.hasTerminal .kwClass then "class literal"
  else "primary expression"

/-- The left operand of a dot is the bare word `super`. -/
def isOnSuper (node : Node) : Bool :=
  ((node.rule? .expression).bind fun left => left.rule? .primary).any fun primary =>
    primary.children.length == 1 && primary.hasTerminal .kwSuper

/-- The name that a call invokes: an identifier, or the word that stands for a constructor. -/
def invokedName (node : Node) : Except Failure Token :=
  match node.rule? .identifier with
  | some identifier => pure (.identifier identifier.identifierText)
  | none =>
    if node.hasTerminal .kwSuper then pure (.withText .kwSuper "super")
    else if node.hasTerminal .kwThis then pure (.withText .kwThis "this")
    else throw (node.malformed "method name, `this` or `super`")

def jumpLabel? (node : Node) : Option String :=
  (node.rule? .identifier).map identifierText

def localTypeTitle (node : Node) : String :=
  match (node.rulesWhere fun rule => rule != .classOrInterfaceModifier).head?.bind
      fun construct => construct.kind.rule? with
  | some rule => rule.title
  | none => "empty declaration"

end Node

end JavaProjection
