import JavaProjection.Proofs.Canonical.Types
import JavaProjection.Proofs.Runs

/-!
# Canonical trees of expressions

The tree that the grammar gives an expression, for the expressions that the abstract syntax can
say in full. All forms share one rule and are told apart by overlapping tests in a fixed order.
Main statement: every canonical tree is taken for the form it was made from, whatever its parts
are.
-/

set_option autoImplicit false

namespace JavaProjection

open Projection Node

/-! ## Trees -/

/-- The arguments of a call in round brackets. Without arguments there is no list. -/
def inParens : List Node → List Node
  | [] => [leaf .leftParen "(", leaf .rightParen ")"]
  | first :: rest =>
    [leaf .leftParen "(", branch .expressionList (listed (first :: rest)), leaf .rightParen ")"]

def inBraces (elements : List Node) : Node :=
  branch .arrayInitializer
    (leaf .leftBrace "\x7b" :: (listed elements ++ [leaf .rightBrace "\x7d"]))

def callOf (name : Node) (arguments : List Node) : Node :=
  branch .methodCall (name :: inParens arguments)

def memberOf (object member : Node) : Node :=
  branch .expression [object, (leaf .dot ".").boundTo "bop", member]

def superObject : Node :=
  primaryOf (leaf .kwSuper "super")

def newOf (parts : List Node) : Node :=
  branch .expression [leaf .kwNew "new", branch .creator parts]

/-- The name of a call: an identifier, or the word that stands for a constructor. -/
def Token.nameNode (token : Token) : Node :=
  if token.code = .identifier then named token.spelling
  else leaf token.code.terminal token.spelling

def Token.literalNode (token : Token) : Node :=
  match token.code with
  | .kwTrue => leaf .boolLiteral "true"
  | .kwFalse => leaf .boolLiteral "false"
  | .kwNull => leaf .nullLiteral "null"
  | .integerLiteral => branch .integerLiteral [leaf .decimalLiteral token.spelling]
  | .floatingLiteral => branch .floatLiteral [leaf .floatLiteral token.spelling]
  | _ => leaf .stringLiteral ("\"" ++ token.spelling ++ "\"")

def TypeRef.createdName : TypeRef → Node
  | .primitive code _ => branch .createdName [branch .primitiveType [code.token]]
  | .named name _ _ => branch .createdName (dotted (name.toList.map Node.named))

mutual

def Expression.tree : Expression → Node
  | .binary op left right =>
    branch .expression [left.tree, op.token.boundTo "bop", right.tree]
  | .prefixed op operand => branch .expression [op.token.boundTo "prefix", operand.tree]
  | .postfixed op operand => branch .expression [operand.tree, op.token.boundTo "postfix"]
  | .cast type operand =>
    branch .expression [leaf .leftParen "(", type.tree, leaf .rightParen ")", operand.tree]
  | .arrayAccess object index =>
    branch .expression [object.tree, leaf .leftBracket "[", index.tree, leaf .rightBracket "]"]
  | .fieldAccess object false field => memberOf object.tree (named field.spelling)
  | .fieldAccess _ true field => memberOf superObject (named field.spelling)
  | .invocation (some target) _ name arguments =>
    memberOf target.tree (callOf name.nameNode (Expression.treeAll arguments))
  | .invocation none isSuper name arguments =>
    if isSuper = true ∧ name.code = .identifier then
      memberOf superObject (callOf name.nameNode (Expression.treeAll arguments))
    else branch .expression [callOf name.nameNode (Expression.treeAll arguments)]
  | .instanceCreation type arguments _ =>
    newOf [type.createdName, branch .classCreatorRest
      [branch .arguments (inParens (Expression.treeAll arguments))]]
  | .arrayCreation element initializer =>
    newOf [element.createdName, branch .arrayCreatorRest
      [leaf .leftBracket "[", leaf .rightBracket "]",
        inBraces (Initializer.treeAll initializer)]]
  | .literal token => primaryOf (branch .literal [token.literalNode])
  | .reference name => primaryOf (named name.first)
  | .thisObject => primaryOf (leaf .kwThis "this")
  | .parenthesized inner =>
    branch .expression [branch .primary [leaf .leftParen "(", inner.tree, leaf .rightParen ")"]]
  | .placeholder _ => branch .expression []

def Expression.treeAll : List Expression → List Node
  | [] => []
  | expression :: rest => expression.tree :: Expression.treeAll rest

def Initializer.tree : Initializer → Node
  | .expression value => branch .variableInitializer [value.tree]
  | .array elements => branch .variableInitializer [inBraces (Initializer.treeAll elements)]

def Initializer.treeAll : List Initializer → List Node
  | [] => []
  | initializer :: rest => initializer.tree :: Initializer.treeAll rest

end

inductive Token.IsLiteral : Token → Prop
  | true : IsLiteral (.ofCode .kwTrue)
  | false : IsLiteral (.ofCode .kwFalse)
  | null : IsLiteral (.ofCode .kwNull)
  | integer {text : String} (written : text ≠ "") : IsLiteral (.withText .integerLiteral text)
  | floating {text : String} (written : text ≠ "") : IsLiteral (.withText .floatingLiteral text)
  | string (content : String) : IsLiteral (.withText .stringLiteral content)

def Token.IsName (token : Token) : Prop :=
  ∃ name, token = .identifier name

/-- The name and the mark of a call without an object: a method, perhaps of the superclass, or a
constructor of this class or of the superclass. -/
def Token.CallsWithoutObject (name : Token) (isSuper : Bool) : Prop :=
  name.IsName ∨ (name = .withText .kwThis "this" ∧ isSuper = false) ∨
    (name = .withText .kwSuper "super" ∧ isSuper = true)

def TypeRef.IsElement (type : TypeRef) : Prop :=
  (∃ name, type = .plain name) ∨ ∃ code, code.isPrimitive = true ∧ type = .primitive code 0

mutual

/-- The expression has a canonical tree. Binary operators are those up to the decrement, unary ones
those up to the question mark. -/
def Expression.Canonical : Expression → Prop
  | .binary op left right =>
    op.rank ≤ Code.minusMinus.rank ∧ left.Canonical ∧ right.Canonical
  | .prefixed op operand => op.rank ≤ Code.question.rank ∧ operand.Canonical
  | .postfixed op operand => op.rank ≤ Code.question.rank ∧ operand.Canonical
  | .cast type operand => type.Canonical ∧ operand.Canonical
  | .arrayAccess object index => object.Canonical ∧ index.Canonical
  | .fieldAccess object false field => field.IsName ∧ object.Canonical
  | .fieldAccess object true field => field.IsName ∧ object = .thisObject
  | .invocation (some target) isSuper name arguments =>
    name.IsName ∧ isSuper = false ∧ target.Canonical ∧ Expression.CanonicalAll arguments
  | .invocation none isSuper name arguments =>
    name.CallsWithoutObject isSuper ∧ Expression.CanonicalAll arguments
  | .instanceCreation type arguments body =>
    (∃ name, type = .plain name) ∧ body = none ∧ Expression.CanonicalAll arguments
  | .arrayCreation element initializer =>
    element.IsElement ∧ Initializer.CanonicalAll initializer
  | .literal token => token.IsLiteral
  | .reference name => ∃ segment, name = .single segment
  | .thisObject => True
  | .parenthesized inner => inner.Canonical
  | .placeholder _ => False

def Expression.CanonicalAll : List Expression → Prop
  | [] => True
  | expression :: rest => expression.Canonical ∧ Expression.CanonicalAll rest

def Initializer.Canonical : Initializer → Prop
  | .expression value => value.Canonical
  | .array elements => Initializer.CanonicalAll elements

def Initializer.CanonicalAll : List Initializer → Prop
  | [] => True
  | initializer :: rest => initializer.Canonical ∧ Initializer.CanonicalAll rest

end

/-! ## Parts of trees -/

@[simp] theorem isRule_superObject (wanted : Rule) :
    superObject.isRule wanted = decide (Rule.expression = wanted) :=
  isRule_branch ..

@[simp] theorem isRule_callOf (name : Node) (arguments : List Node) (wanted : Rule) :
    (callOf name arguments).isRule wanted = decide (Rule.methodCall = wanted) :=
  isRule_branch ..

@[simp] theorem isTerminal_callOf (name : Node) (arguments : List Node) (terminal : Terminal) :
    (callOf name arguments).isTerminal terminal = false :=
  isTerminal_branch ..

@[simp] theorem isRule_inBraces (elements : List Node) (wanted : Rule) :
    (inBraces elements).isRule wanted = decide (Rule.arrayInitializer = wanted) :=
  isRule_branch ..

@[simp] theorem TypeRef.isRule_createdName (type : TypeRef) (wanted : Rule) :
    type.createdName.isRule wanted = decide (Rule.createdName = wanted) := by
  cases type <;> exact isRule_branch ..

@[simp] theorem label_callOf (name : Node) (arguments : List Node) :
    (callOf name arguments).label = none :=
  rfl

theorem Expression.exists_parts (expression : Expression) :
    ∃ parts, expression.tree = branch .expression parts := by
  cases expression with
  | fieldAccess object isSuper field => cases isSuper <;> exact ⟨_, rfl⟩
  | invocation target isSuper name arguments =>
    cases target with
    | none =>
      rw [tree]
      split <;> exact ⟨_, rfl⟩
    | some target => exact ⟨_, rfl⟩
  | _ => exact ⟨_, rfl⟩

@[simp] theorem Expression.label_tree (expression : Expression) : expression.tree.label = none := by
  obtain ⟨parts, shape⟩ := expression.exists_parts
  rw [shape, label_branch]

@[simp] theorem Expression.isRule_tree (expression : Expression) (wanted : Rule) :
    expression.tree.isRule wanted = decide (Rule.expression = wanted) := by
  obtain ⟨parts, shape⟩ := expression.exists_parts
  rw [shape, isRule_branch]

@[simp] theorem Expression.isTerminal_tree (expression : Expression) (terminal : Terminal) :
    expression.tree.isTerminal terminal = false := by
  obtain ⟨parts, shape⟩ := expression.exists_parts
  rw [shape, isTerminal_branch]

theorem Expression.rules_treeAll (expressions : List Expression) :
    (treeAll expressions).filter (fun child => child.isRule .expression) =
      treeAll expressions := by
  induction expressions with
  | nil => rfl
  | cons expression rest ih => simp [treeAll, ih]

@[simp] theorem Initializer.isRule_tree (initializer : Initializer) :
    initializer.tree.isRule .variableInitializer = true := by
  cases initializer <;> simp [tree]

theorem Initializer.rules_treeAll (initializers : List Initializer) :
    (treeAll initializers).filter (fun child => child.isRule .variableInitializer) =
      treeAll initializers := by
  induction initializers with
  | nil => rfl
  | cons initializer rest ih => simp [treeAll, ih]

/-- No tree of an expression is the bare word `super`. -/
theorem Expression.tree_ne_super (expression : Expression) :
    (expression.tree.rule? .primary).any (fun primary =>
      primary.children.length == 1 && primary.hasTerminal .kwSuper) = false := by
  cases expression with
  | fieldAccess object isSuper field =>
    cases isSuper <;> simp [tree, memberOf]
  | invocation target isSuper name arguments =>
    cases target with
    | none =>
      rw [tree]
      split <;> simp [memberOf]
    | some target => simp [tree, memberOf]
  | cast type operand => simp [tree, type.isRule_tree (show Rule.isType .primary = false from rfl)]
  | _ => simp [tree, newOf, primaryOf]

end JavaProjection
