import JavaProjection.Ast.ToJson

/-!
# Reading abstract syntax from JSON

The readers undo the writers, and take records as arrays, unknown members, missing optional
members and members in any order as well. Sets of modifiers are put in order and rid of
repetitions. The first argument of a reader is the room left for containers.
-/

set_option autoImplicit false

namespace JavaProjection

open Json (required optional nullable)

/-! ## Names, codes, tags -/

def Code.ofJson? (room : Nat) (json : Json) : Option Code :=
  (json.word? room).bind Code.ofName?

def Placeholder.ofJson? (room : Nat) (json : Json) : Option Placeholder :=
  (json.word? room).bind Placeholder.ofTag?

def DottedName.ofJson? : Nat → Json → Option DottedName
  | _ + 1, json => (json.elements? Json.text?).bind DottedName.ofList?
  | 0, _ => none

def Modifiers.ofJson? : Nat → Json → Option Modifiers
  | room + 1, json => (json.elements? (Code.ofJson? room)).map Modifiers.ofList
  | 0, _ => none

def Token.ofJson? : Nat → Json → Option Token
  | room + 1, json =>
    match json.record? ["code", "text"] 2 with
    | some [code, text] => do
      let code ← required (Code.ofJson? room) code
      let text ← optional Json.text? text
      return ⟨code, text⟩
    | _ => none
  | 0, _ => none

/-! ## Types -/

mutual

def TypeRef.ofJson? : Nat → Json → Option TypeRef
  | room + 2, .object [(some "Primitive", content)] =>
    match content.record? ["code", "dims"] 2 with
    | some [code, dims] => do
      let code ← required (Code.ofJson? room) code
      let dims ← required Json.nat? dims
      return .primitive code dims
    | _ => none
  | room + 2, .object [(some "Named", content)] =>
    match content.record? ["name", "arguments", "dims"] 3 with
    | some [name, arguments, dims] => do
      let name ← required (DottedName.ofJson? room) name
      let arguments ← optional (TypeArgument.listOfJson? room) arguments
      let dims ← required Json.nat? dims
      return .named name arguments dims
    | _ => none
  | _, _ => none

def TypeArgument.ofJson? : Nat → Json → Option TypeArgument
  | room + 1, .object [(some "Type", content)] => .type <$> TypeRef.ofJson? room content
  | room + 1, .object [(some "Wildcard", content)] =>
    .wildcard <$> nullable (WildcardBound.ofJson? room) content
  | _, _ => none

def WildcardBound.ofJson? : Nat → Json → Option WildcardBound
  | room + 1, .object [(some "Extends", content)] => .upper <$> TypeRef.ofJson? room content
  | room + 1, .object [(some "Super", content)] => .lower <$> TypeRef.ofJson? room content
  | _, _ => none

def TypeArgument.listOfJson? : Nat → Json → Option (List TypeArgument)
  | room + 1, json => json.elements? (TypeArgument.ofJson? room)
  | 0, _ => none

end

def TypeRef.listOfJson? : Nat → Json → Option (List TypeRef)
  | room + 1, json => json.elements? (TypeRef.ofJson? room)
  | 0, _ => none

def TypeParameter.ofJson? : Nat → Json → Option TypeParameter
  | room + 1, json =>
    match json.record? ["name", "bounds"] 2 with
    | some [name, bounds] => do
      let name ← required Json.text? name
      let bounds ← required (TypeRef.listOfJson? room) bounds
      return ⟨name, bounds⟩
    | _ => none
  | 0, _ => none

def TypeParameter.listOfJson? : Nat → Json → Option (List TypeParameter)
  | room + 1, json => json.elements? (TypeParameter.ofJson? room)
  | 0, _ => none

def Parameter.ofJson? : Nat → Json → Option Parameter
  | room + 1, json =>
    match json.record? ["ty", "name", "is_varargs"] 3 with
    | some [type, name, isVarargs] => do
      let type ← required (TypeRef.ofJson? room) type
      let name ← required Json.text? name
      let isVarargs ← required Json.bool? isVarargs
      return ⟨type, name, isVarargs⟩
    | _ => none
  | 0, _ => none

def Parameter.listOfJson? : Nat → Json → Option (List Parameter)
  | room + 1, json => json.elements? (Parameter.ofJson? room)
  | 0, _ => none

/-! ## Declarations, statements, expressions -/

mutual

def Declaration.ofJson? : Nat → Json → Option Declaration
  | room + 2, .object [(some "Class", content)] =>
    match content.record?
        ["name", "modifiers", "type_parameters", "superclass", "interfaces", "members"] 6 with
    | some [name, modifiers, typeParameters, superclass, interfaces, members] => do
      let name ← required Json.text? name
      let modifiers ← optional (Modifiers.ofJson? room) modifiers
      let typeParameters ← optional (TypeParameter.listOfJson? room) typeParameters
      let superclass ← optional (TypeRef.ofJson? room) superclass
      let interfaces ← optional (TypeRef.listOfJson? room) interfaces
      let members ← required (Declaration.listOfJson? room) members
      return .classType ⟨name, modifiers, typeParameters, superclass, interfaces⟩ members
    | _ => none
  | room + 2, .object [(some "Variable", content)] =>
    match content.record? ["name", "modifiers", "ty", "dims", "initializer"] 5 with
    | some [name, modifiers, type, dims, initializer] => do
      let name ← required Json.text? name
      let modifiers ← optional (Modifiers.ofJson? room) modifiers
      let type ← optional (TypeRef.ofJson? room) type
      let dims ← required Json.nat? dims
      let initializer ← optional (Initializer.ofJson? room) initializer
      return .variable ⟨name, modifiers, type, dims⟩ initializer
    | _ => none
  | room + 2, .object [(some "Method", content)] =>
    match content.record?
        ["modifiers", "return_type", "name", "parameters", "throws", "body"] 6 with
    | some [modifiers, returnType, name, parameters, throws, body] => do
      let modifiers ← optional (Modifiers.ofJson? room) modifiers
      let returnType ← optional (TypeRef.ofJson? room) returnType
      let name ← required Json.text? name
      let parameters ← required (Parameter.listOfJson? room) parameters
      let throws ← required (TypeRef.listOfJson? room) throws
      let body ← required (BlockStatement.blockOfJson? room) body
      return .method ⟨modifiers, returnType, name, parameters, throws⟩ body
    | _ => none
  | room + 2, .object [(some "Constructor", content)] =>
    match content.record? ["modifiers", "parameters", "throws", "body"] 4 with
    | some [modifiers, parameters, throws, body] => do
      let modifiers ← optional (Modifiers.ofJson? room) modifiers
      let parameters ← required (Parameter.listOfJson? room) parameters
      let throws ← required (TypeRef.listOfJson? room) throws
      let body ← required (BlockStatement.blockOfJson? room) body
      return .constructor ⟨modifiers, parameters, throws⟩ body
    | _ => none
  | room + 2, .object [(some "Initializer", content)] =>
    match content.record? ["body", "is_static"] 2 with
    | some [body, isStatic] => do
      let body ← required (BlockStatement.blockOfJson? room) body
      let isStatic ← required Json.bool? isStatic
      return .initializer body isStatic
    | _ => none
  | _, _ => none

def Declaration.listOfJson? : Nat → Json → Option (List Declaration)
  | room + 1, json => json.elements? (Declaration.ofJson? room)
  | 0, _ => none

def Initializer.ofJson? : Nat → Json → Option Initializer
  | room + 1, .object [(some "Expression", content)] =>
    .expression <$> Expression.ofJson? room content
  | room + 1, .object [(some "Array", content)] =>
    .array <$> Initializer.listOfJson? room content
  | _, _ => none

def Initializer.listOfJson? : Nat → Json → Option (List Initializer)
  | room + 1, json => json.elements? (Initializer.ofJson? room)
  | 0, _ => none

/-- A block, which is a record with its entries as the one member. -/
def BlockStatement.blockOfJson? : Nat → Json → Option Block
  | room + 1, json =>
    match json.record? ["statements"] 1 with
    | some [statements] => required (BlockStatement.listOfJson? room) statements
    | _ => none
  | 0, _ => none

def BlockStatement.listOfJson? : Nat → Json → Option (List BlockStatement)
  | room + 1, json => json.elements? (BlockStatement.ofJson? room)
  | 0, _ => none

def BlockStatement.ofJson? : Nat → Json → Option BlockStatement
  | room + 1, .object [(some "Declaration", content)] =>
    .declaration <$> Declaration.ofJson? room content
  | room + 1, .object [(some "Statement", content)] =>
    .statement <$> Statement.ofJson? room content
  | _, _ => none

def Statement.ofJson? : Nat → Json → Option Statement
  | room + 2, .object [(some "If", content)] =>
    match content.record? ["condition", "then_branch", "else_branch"] 3 with
    | some [condition, thenBranch, elseBranch] => do
      let condition ← required (Expression.ofJson? room) condition
      let thenBranch ← required (Statement.ofJson? room) thenBranch
      let elseBranch ← optional (Statement.ofJson? room) elseBranch
      return .branch condition thenBranch elseBranch
    | _ => none
  | room + 2, .object [(some "While", content)] =>
    match content.record? ["condition", "body"] 2 with
    | some [condition, body] => do
      let condition ← required (Expression.ofJson? room) condition
      let body ← required (Statement.ofJson? room) body
      return .whileLoop condition body
    | _ => none
  | room + 2, .object [(some "Do", content)] =>
    match content.record? ["body", "condition"] 2 with
    | some [body, condition] => do
      let body ← required (Statement.ofJson? room) body
      let condition ← required (Expression.ofJson? room) condition
      return .doLoop body condition
    | _ => none
  | room + 1, .object [(some "Return", content)] =>
    .returns <$> nullable (Expression.ofJson? room) content
  | _ + 1, .object [(some "Break", content)] => .breaks <$> nullable Json.text? content
  | _ + 1, .object [(some "Continue", content)] => .continues <$> nullable Json.text? content
  | room + 2, .object [(some "Assert", content)] =>
    match content.record? ["condition", "message"] 2 with
    | some [condition, message] => do
      let condition ← required (Expression.ofJson? room) condition
      let message ← optional (Expression.ofJson? room) message
      return .asserts condition message
    | _ => none
  | room + 1, .object [(some "Block", content)] =>
    .block <$> BlockStatement.blockOfJson? room content
  | room + 1, .object [(some "Expression", content)] =>
    .expression <$> Expression.ofJson? room content
  | _, _ => none

def Expression.ofJson? : Nat → Json → Option Expression
  | _, .text "This" => some .thisObject
  | _ + 1, .object [(some "This", .null)] => some .thisObject
  | room + 2, .object [(some "Binary", content)] =>
    match content.record? ["op", "left", "right"] 3 with
    | some [op, left, right] => do
      let op ← required (Code.ofJson? room) op
      let left ← required (Expression.ofJson? room) left
      let right ← required (Expression.ofJson? room) right
      return .binary op left right
    | _ => none
  | room + 2, .object [(some "UnaryPrefix", content)] =>
    match content.record? ["op", "operand"] 2 with
    | some [op, operand] => do
      let op ← required (Code.ofJson? room) op
      let operand ← required (Expression.ofJson? room) operand
      return .prefixed op operand
    | _ => none
  | room + 2, .object [(some "UnaryPostfix", content)] =>
    match content.record? ["op", "operand"] 2 with
    | some [op, operand] => do
      let op ← required (Code.ofJson? room) op
      let operand ← required (Expression.ofJson? room) operand
      return .postfixed op operand
    | _ => none
  | room + 2, .object [(some "Cast", content)] =>
    match content.record? ["ty", "operand"] 2 with
    | some [type, operand] => do
      let type ← required (TypeRef.ofJson? room) type
      let operand ← required (Expression.ofJson? room) operand
      return .cast type operand
    | _ => none
  | room + 2, .object [(some "ArrayAccess", content)] =>
    match content.record? ["object", "index"] 2 with
    | some [object, index] => do
      let object ← required (Expression.ofJson? room) object
      let index ← required (Expression.ofJson? room) index
      return .arrayAccess object index
    | _ => none
  | room + 2, .object [(some "FieldAccess", content)] =>
    match content.record? ["object", "is_super", "field"] 3 with
    | some [object, isSuper, field] => do
      let object ← required (Expression.ofJson? room) object
      let isSuper ← required Json.bool? isSuper
      let field ← required (Token.ofJson? room) field
      return .fieldAccess object isSuper field
    | _ => none
  | room + 2, .object [(some "MethodInvocation", content)] =>
    match content.record? ["target", "is_super", "name", "arguments"] 4 with
    | some [target, isSuper, name, arguments] => do
      let target ← optional (Expression.ofJson? room) target
      let isSuper ← required Json.bool? isSuper
      let name ← required (Token.ofJson? room) name
      let arguments ← required (Expression.listOfJson? room) arguments
      return .invocation target isSuper name arguments
    | _ => none
  | room + 2, .object [(some "InstanceCreation", content)] =>
    match content.record? ["ty", "arguments", "body"] 3 with
    | some [type, arguments, body] => do
      let type ← required (TypeRef.ofJson? room) type
      let arguments ← required (Expression.listOfJson? room) arguments
      let body ← optional (Declaration.listOfJson? room) body
      return .instanceCreation type arguments body
    | _ => none
  | room + 2, .object [(some "ArrayCreation", content)] =>
    match content.record? ["element", "initializer"] 2 with
    | some [element, initializer] => do
      let element ← required (TypeRef.ofJson? room) element
      let initializer ← required (Initializer.listOfJson? room) initializer
      return .arrayCreation element initializer
    | _ => none
  | room + 1, .object [(some "Literal", content)] => .literal <$> Token.ofJson? room content
  | room + 1, .object [(some "SimpleReference", content)] =>
    .reference <$> DottedName.ofJson? room content
  | room + 1, .object [(some "Parenthesized", content)] =>
    .parenthesized <$> Expression.ofJson? room content
  | room + 1, .object [(some "Placeholder", content)] =>
    .placeholder <$> Placeholder.ofJson? room content
  | _, _ => none

def Expression.listOfJson? : Nat → Json → Option (List Expression)
  | room + 1, json => json.elements? (Expression.ofJson? room)
  | 0, _ => none

end

/-! ## Source files and diagnostics -/

def Import.ofJson? : Nat → Json → Option Import
  | room + 1, json =>
    match json.record? ["is_static", "name", "is_wildcard"] 3 with
    | some [isStatic, name, isWildcard] => do
      let isStatic ← required Json.bool? isStatic
      let name ← required (DottedName.ofJson? room) name
      let isWildcard ← required Json.bool? isWildcard
      return ⟨isStatic, name, isWildcard⟩
    | _ => none
  | 0, _ => none

def Import.listOfJson? : Nat → Json → Option (List Import)
  | room + 1, json => json.elements? (Import.ofJson? room)
  | 0, _ => none

def CompilationUnit.ofJson? : Nat → Json → Option CompilationUnit
  | room + 1, json =>
    match json.record? ["package", "imports", "declarations"] 3 with
    | some [package, imports, declarations] => do
      let package ← optional (DottedName.ofJson? room) package
      let imports ← required (Import.listOfJson? room) imports
      let declarations ← required (Declaration.listOfJson? room) declarations
      return ⟨package, imports, declarations⟩
    | _ => none
  | 0, _ => none

def Severity.ofJson? (room : Nat) (json : Json) : Option Severity :=
  match json.word? room with
  | some "Error" => some .error
  | some "Warning" => some .warning
  | _ => none

def DiagnosticKind.ofJson? : Nat → Json → Option DiagnosticKind
  | room + 1, .object [(some "Placeholder", content)] =>
    .placeholder <$> Placeholder.ofJson? room content
  | room, json =>
    match json.word? room with
    | some "LiteralFallback" => some .literalFallback
    | some "Lossy" => some .lossy
    | _ => none

def Diagnostic.ofJson? : Nat → Json → Option Diagnostic
  | room + 1, json =>
    match json.record? ["severity", "kind", "message", "span", "hint"] 5 with
    | some [severity, kind, message, span, hint] => do
      let severity ← required (Severity.ofJson? room) severity
      let kind ← required (DiagnosticKind.ofJson? room) kind
      let message ← required Json.text? message
      let span ← required (Span.ofJson? room) span
      let hint ← optional Json.text? hint
      return ⟨severity, kind, message, span, hint⟩
    | _ => none
  | 0, _ => none

end JavaProjection
