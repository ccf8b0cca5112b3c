import JavaProjection.DottedName
import JavaProjection.Modifiers

/-!
# Abstract syntax

The normalised syntax of one Java source file. Positions do not occur in it. A construct outside
it is a placeholder expression with a tag; a local variable without a written type has no type.
-/

set_option autoImplicit false

namespace JavaProjection

/-! ## Placeholders -/

/-- What a construct outside the abstract syntax was. -/
inductive Placeholder where
  | forLoop | identifierLabel | semiNoop | switchStatement | switchExpression | tryResource
  | tryBlock | statement | expression | unknownCreatorContext
  deriving DecidableEq

namespace Placeholder

def all : List Placeholder :=
  [.forLoop, .identifierLabel, .semiNoop, .switchStatement, .switchExpression, .tryResource,
    .tryBlock, .statement, .expression, .unknownCreatorContext]

/-- The tag that later stages see. -/
def tag : Placeholder → String
  | .forLoop => "for_loop_placeholder"
  | .identifierLabel => "identifier_label_placeholder"
  | .semiNoop => "semi_noop_placeholder"
  | .switchStatement => "switch_statement_placeholder"
  | .switchExpression => "switch_expression_placeholder"
  | .tryResource => "try_resource_placeholder"
  | .tryBlock => "try_block_placeholder"
  | .statement => "statement_placeholder"
  | .expression => "expression_placeholder"
  | .unknownCreatorContext => "unknown_creator_context_placeholder"

def title : Placeholder → String
  | .forLoop => "ForLoop"
  | .identifierLabel => "IdentifierLabel"
  | .semiNoop => "SemiNoop"
  | .switchStatement => "SwitchStatement"
  | .switchExpression => "SwitchExpression"
  | .tryResource => "TryResource"
  | .tryBlock => "TryBlock"
  | .statement => "Statement"
  | .expression => "Expression"
  | .unknownCreatorContext => "UnknownCreatorContext"

def ofTag? (tag : String) : Option Placeholder :=
  all.find? fun placeholder => placeholder.tag == tag

end Placeholder

/-! ## Types -/

mutual

inductive TypeRef where
  | primitive (code : Code) (dims : Nat)
  | named (name : DottedName) (arguments : Option (List TypeArgument)) (dims : Nat)

inductive TypeArgument where
  | type (value : TypeRef)
  | wildcard (bound : Option WildcardBound)

/-- The bound of a wildcard: `? extends T` from above, `? super T` from below. -/
inductive WildcardBound where
  | upper (type : TypeRef)
  | lower (type : TypeRef)

end

namespace TypeRef

def plain (name : DottedName) : TypeRef :=
  .named name none 0

def dims : TypeRef → Nat
  | .primitive _ dims => dims
  | .named _ _ dims => dims

def addDims (extra : Nat) : TypeRef → TypeRef
  | .primitive code dims => .primitive code (dims + extra)
  | .named name arguments dims => .named name arguments (dims + extra)

end TypeRef

structure TypeParameter where
  name : String
  bounds : List TypeRef

structure Parameter where
  type : TypeRef
  name : String
  isVarargs : Bool

/-! ## Declarations, statements, expressions -/

structure ClassHead where
  name : String
  modifiers : Option Modifiers
  typeParameters : Option (List TypeParameter)
  superclass : Option TypeRef
  interfaces : Option (List TypeRef)

/-- A declared variable up to its initial value. The dimensions are those written after the
name. -/
structure VariableHead where
  name : String
  modifiers : Option Modifiers
  type : Option TypeRef
  dims : Nat

/-- A method up to its body. A method without a return type is `void`. -/
structure MethodHead where
  modifiers : Option Modifiers
  returnType : Option TypeRef
  name : String
  parameters : List Parameter
  throws : List TypeRef

structure ConstructorHead where
  modifiers : Option Modifiers
  parameters : List Parameter
  throws : List TypeRef

mutual

inductive Declaration where
  | classType (head : ClassHead) (members : List Declaration)
  | variable (head : VariableHead) (initializer : Option Initializer)
  | method (head : MethodHead) (body : List BlockStatement)
  | constructor (head : ConstructorHead) (body : List BlockStatement)
  | initializer (body : List BlockStatement) (isStatic : Bool)

inductive Initializer where
  | expression (value : Expression)
  | array (elements : List Initializer)

inductive BlockStatement where
  | declaration (value : Declaration)
  | statement (value : Statement)

inductive Statement where
  | branch (condition : Expression) (thenBranch : Statement) (elseBranch : Option Statement)
  | whileLoop (condition : Expression) (body : Statement)
  | doLoop (body : Statement) (condition : Expression)
  | returns (value : Option Expression)
  | breaks (label : Option String)
  | continues (label : Option String)
  | asserts (condition : Expression) (message : Option Expression)
  | block (body : List BlockStatement)
  | expression (value : Expression)

inductive Expression where
  | binary (op : Code) (left right : Expression)
  | prefixed (op : Code) (operand : Expression)
  | postfixed (op : Code) (operand : Expression)
  | cast (type : TypeRef) (operand : Expression)
  | arrayAccess (object index : Expression)
  | fieldAccess (object : Expression) (isSuper : Bool) (field : Token)
  | invocation (target : Option Expression) (isSuper : Bool) (name : Token)
      (arguments : List Expression)
  | instanceCreation (type : TypeRef) (arguments : List Expression)
      (body : Option (List Declaration))
  | arrayCreation (element : TypeRef) (initializer : List Initializer)
  | literal (token : Token)
  | reference (name : DottedName)
  | thisObject
  | parenthesized (inner : Expression)
  | placeholder (tag : Placeholder)

end

abbrev Block := List BlockStatement

namespace Expression

def name (segment : String) : Expression :=
  .reference (.single segment)

def isPlaceholder : Expression → Bool
  | .placeholder _ => true
  | _ => false

end Expression

namespace Statement

def placeholder (tag : Placeholder) : Statement :=
  .expression (.placeholder tag)

def placeholder? : Statement → Option Placeholder
  | .expression (.placeholder tag) => some tag
  | _ => none

end Statement

/-! ## Source files -/

structure Import where
  isStatic : Bool
  name : DottedName
  isWildcard : Bool
  deriving DecidableEq

structure CompilationUnit where
  package : Option DottedName
  imports : List Import
  declarations : List Declaration

end JavaProjection
