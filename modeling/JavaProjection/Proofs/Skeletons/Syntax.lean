import Mathlib.Data.List.Forall2
import JavaProjection.Projection.Types

/-!
# Skeletons of statements

A skeleton is a statement or the entries of a block with expressions of a parse tree in the places
of its expressions. It lists these expressions in the order of the syntax, it gives the statement
with values in their places, and it says which parse trees it is the skeleton of. Words and marks
of a tree are passed over: what a node consists of are its children that are no tokens.
-/

set_option autoImplicit false

namespace JavaProjection

/-! ## Skeletons -/

structure VariableSkeleton where
  name : String
  dims : Nat
  value : Option Node

/-- The variables of a local declaration, with a written type or with `var`. -/
inductive LocalSkeleton where
  | typed (modifiers : Option Modifiers) (type : TypeRef) (declared : List VariableSkeleton)
  | inferred (modifiers : Option Modifiers) (name : String) (value : Node)

mutual

/-- A statement with nodes for its expressions. -/
inductive StatementSkeleton where
  | branch (condition : Node) (thenBranch : StatementSkeleton)
      (elseBranch : Option StatementSkeleton)
  | whileLoop (condition : Node) (body : StatementSkeleton)
  | doLoop (body : StatementSkeleton) (condition : Node)
  | returns (value : Option Node)
  | breaks (label : Option String)
  | continues (label : Option String)
  | asserts (condition : Node) (message : Option Node)
  | block (entries : List EntrySkeleton)
  | expression (value : Node)

inductive EntrySkeleton where
  | locals (declared : LocalSkeleton)
  | statement (value : StatementSkeleton)

end

/-! ## Their expressions, in the order of the syntax -/

namespace LocalSkeleton

def expressions : LocalSkeleton → List Node
  | .typed _ _ declared => declared.flatMap fun declarator => declarator.value.toList
  | .inferred _ _ value => [value]

end LocalSkeleton

mutual

def StatementSkeleton.expressions : StatementSkeleton → List Node
  | .branch condition thenBranch none => condition :: thenBranch.expressions
  | .branch condition thenBranch (some elseBranch) =>
    condition :: (thenBranch.expressions ++ elseBranch.expressions)
  | .whileLoop condition body => condition :: body.expressions
  | .doLoop body condition => body.expressions ++ [condition]
  | .returns value => value.toList
  | .breaks _ => []
  | .continues _ => []
  | .asserts condition message => condition :: message.toList
  | .block entries => EntrySkeleton.expressionsAll entries
  | .expression value => [value]

def EntrySkeleton.expressions : EntrySkeleton → List Node
  | .locals declared => declared.expressions
  | .statement value => value.expressions

def EntrySkeleton.expressionsAll : List EntrySkeleton → List Node
  | [] => []
  | entry :: rest => entry.expressions ++ EntrySkeleton.expressionsAll rest

end

/-! ## Values in the places of the expressions -/

section Filled

variable (value : Node → Expression)

def VariableSkeleton.filled (modifiers : Option Modifiers) (type : TypeRef)
    (declarator : VariableSkeleton) : Declaration :=
  .variable ⟨declarator.name, modifiers, some type, declarator.dims⟩
    (declarator.value.map fun node => .expression (value node))

def LocalSkeleton.filled : LocalSkeleton → List Declaration
  | .typed modifiers type declared => declared.map (VariableSkeleton.filled value modifiers type)
  | .inferred modifiers name node =>
    [.variable ⟨name, modifiers, none, 0⟩ (some (.expression (value node)))]

end Filled

mutual

/-- The statement with a value in the place of each expression. -/
def StatementSkeleton.filled (value : Node → Expression) : StatementSkeleton → Statement
  | .branch condition thenBranch none =>
    .branch (value condition) (thenBranch.filled value) none
  | .branch condition thenBranch (some elseBranch) =>
    .branch (value condition) (thenBranch.filled value) (some (elseBranch.filled value))
  | .whileLoop condition body => .whileLoop (value condition) (body.filled value)
  | .doLoop body condition => .doLoop (body.filled value) (value condition)
  | .returns node => .returns (node.map value)
  | .breaks label => .breaks label
  | .continues label => .continues label
  | .asserts condition message => .asserts (value condition) (message.map value)
  | .block entries => .block (EntrySkeleton.filledAll value entries)
  | .expression node => .expression (value node)

/-- The entries of a block that an entry gives: one for each variable, or one statement. -/
def EntrySkeleton.filled (value : Node → Expression) : EntrySkeleton → Block
  | .locals declared => (declared.filled value).map .declaration
  | .statement inner => [.statement (inner.filled value)]

def EntrySkeleton.filledAll (value : Node → Expression) : List EntrySkeleton → Block
  | [] => []
  | entry :: rest => entry.filled value ++ EntrySkeleton.filledAll value rest

end

theorem EntrySkeleton.expressionsAll_eq_flatMap (entries : List EntrySkeleton) :
    expressionsAll entries = entries.flatMap expressions := by
  induction entries with
  | nil => rfl
  | cons entry rest ih => rw [expressionsAll, ih, List.flatMap_cons]

theorem EntrySkeleton.filledAll_eq_flatten (value : Node → Expression)
    (entries : List EntrySkeleton) :
    filledAll value entries = (entries.map (filled value)).flatten := by
  induction entries with
  | nil => rfl
  | cons entry rest ih => rw [filledAll, ih, List.map_cons, List.flatten_cons]

/-! ## Trees of a skeleton -/

namespace Node

def parts (node : Node) : List Node :=
  node.children.filter fun child => child.kind.rule?.isSome

/-- The node was read as `rule` from the parts, with any tokens between them. -/
structure ConsistsOf (node : Node) (rule : Rule) (parts : List Node) : Prop where
  kind : node.kind = .rule rule
  parts : node.parts = parts

end Node

structure Node.Names (node : Node) (text : String) : Prop where
  kind : node.kind = .rule .identifier
  spelled : node.identifierText = text

structure Node.Modify (nodes : List Node) (modifiers : Option Modifiers) : Prop where
  kind : ∀ node ∈ nodes, node.kind = .rule .variableModifier
  spelled : Node.modifiers? nodes = modifiers

/-- The node declares the variable. Its dimensions are the brackets after its name. -/
inductive VariableSkeleton.Shapes : VariableSkeleton → Node → Prop
  | plain {node id name : Node} {text : String} {dims : Nat}
    (shape : node.ConsistsOf .variableDeclarator [id])
    (idShape : id.ConsistsOf .variableDeclaratorId [name]) (names : name.Names text)
    (brackets : id.countTerminal .leftBracket = dims) :
    Shapes ⟨text, dims, none⟩ node
  | initialized {node id name initial value : Node} {text : String} {dims : Nat}
    (shape : node.ConsistsOf .variableDeclarator [id, initial])
    (idShape : id.ConsistsOf .variableDeclaratorId [name]) (names : name.Names text)
    (brackets : id.countTerminal .leftBracket = dims)
    (initialShape : initial.ConsistsOf .variableInitializer [value])
    (expression : value.kind = .rule .expression) :
    Shapes ⟨text, dims, some value⟩ node

/-- The node is the local declaration, with any modifiers in front. -/
inductive LocalSkeleton.Shapes : LocalSkeleton → Node → Prop
  | typed {node typeNode list : Node} {front declarators : List Node}
    {modifiers : Option Modifiers} {type : TypeRef} {declared : List VariableSkeleton}
    (shape : node.ConsistsOf .localVariableDeclaration (front ++ [typeNode, list]))
    (modify : Node.Modify front modifiers) (written : node.hasTerminal .kwVar = false)
    (typeKind : typeNode.kind.rule?.any Rule.isType = true) (typed : typeNode.typeRef = pure type)
    (listShape : list.ConsistsOf .variableDeclarators declarators)
    (each : List.Forall₂ VariableSkeleton.Shapes declared declarators) :
    Shapes (.typed modifiers type declared) node
  | inferred {node name value : Node} {front : List Node} {modifiers : Option Modifiers}
    {text : String}
    (shape : node.ConsistsOf .localVariableDeclaration (front ++ [name, value]))
    (modify : Node.Modify front modifiers) (inferred : node.hasTerminal .kwVar = true)
    (names : name.Names text) (expression : value.kind = .rule .expression) :
    Shapes (.inferred modifiers text value) node

structure Node.Encloses (node condition : Node) : Prop where
  shape : node.ConsistsOf .parExpression [condition]
  expression : condition.kind = .rule .expression

mutual

inductive StatementSkeleton.Shapes : StatementSkeleton → Node → Prop
  | branch {node enclosed condition inner : Node} {thenBranch : StatementSkeleton}
    (shape : node.ConsistsOf .statementIf [enclosed, inner])
    (encloses : enclosed.Encloses condition) (thenShape : thenBranch.Shapes inner) :
    StatementSkeleton.Shapes (.branch condition thenBranch none) node
  | branchElse {node enclosed condition inner other : Node}
    {thenBranch elseBranch : StatementSkeleton}
    (shape : node.ConsistsOf .statementIf [enclosed, inner, other])
    (encloses : enclosed.Encloses condition) (thenShape : thenBranch.Shapes inner)
    (elseShape : elseBranch.Shapes other) :
    StatementSkeleton.Shapes (.branch condition thenBranch (some elseBranch)) node
  | whileLoop {node enclosed condition inner : Node} {body : StatementSkeleton}
    (shape : node.ConsistsOf .statementWhile [enclosed, inner])
    (encloses : enclosed.Encloses condition) (bodyShape : body.Shapes inner) :
    StatementSkeleton.Shapes (.whileLoop condition body) node
  | doLoop {node enclosed condition inner : Node} {body : StatementSkeleton}
    (shape : node.ConsistsOf .statementDo [inner, enclosed])
    (bodyShape : body.Shapes inner) (encloses : enclosed.Encloses condition) :
    StatementSkeleton.Shapes (.doLoop body condition) node
  | returns {node : Node} {value : Option Node}
    (shape : node.ConsistsOf .statementReturn value.toList)
    (expression : ∀ inner ∈ value, inner.kind = .rule .expression) :
    StatementSkeleton.Shapes (.returns value) node
  | breaks {node : Node} {name : Option Node} {label : Option String}
    (shape : node.ConsistsOf .statementBreak name.toList)
    (names : Option.Rel Node.Names name label) :
    StatementSkeleton.Shapes (.breaks label) node
  | continues {node : Node} {name : Option Node} {label : Option String}
    (shape : node.ConsistsOf .statementContinue name.toList)
    (names : Option.Rel Node.Names name label) :
    StatementSkeleton.Shapes (.continues label) node
  | asserts {node condition : Node} {message : Option Node}
    (shape : node.ConsistsOf .statementAssert (condition :: message.toList))
    (expression : condition.kind = .rule .expression)
    (expressions : ∀ inner ∈ message, inner.kind = .rule .expression) :
    StatementSkeleton.Shapes (.asserts condition message) node
  | block {node body : Node} {inner : List Node} {entries : List EntrySkeleton}
    (shape : node.ConsistsOf .statementBlockLabel [body]) (bodyShape : body.ConsistsOf .block inner)
    (each : EntrySkeleton.ShapesAll entries inner) :
    StatementSkeleton.Shapes (.block entries) node
  | expression {node value : Node} (shape : node.ConsistsOf .statementExpression [value])
    (expression : value.kind = .rule .expression) :
    StatementSkeleton.Shapes (.expression value) node

inductive EntrySkeleton.Shapes : EntrySkeleton → Node → Prop
  | locals {node inner : Node} {declared : LocalSkeleton}
    (shape : node.ConsistsOf .blockStatement [inner]) (innerShape : declared.Shapes inner) :
    EntrySkeleton.Shapes (.locals declared) node
  | statement {node inner : Node} {value : StatementSkeleton}
    (shape : node.ConsistsOf .blockStatement [inner]) (innerShape : value.Shapes inner) :
    EntrySkeleton.Shapes (.statement value) node

inductive EntrySkeleton.ShapesAll : List EntrySkeleton → List Node → Prop
  | nil : EntrySkeleton.ShapesAll [] []
  | cons {entry : EntrySkeleton} {node : Node} {entries : List EntrySkeleton} {nodes : List Node}
    (head : entry.Shapes node) (tail : EntrySkeleton.ShapesAll entries nodes) :
    EntrySkeleton.ShapesAll (entry :: entries) (node :: nodes)

end

end JavaProjection
