import JavaProjection.Projection.Names

/-!
# Types

Projection of types, type arguments, type parameters and formal parameters. Of a qualified
generic name only the last list of arguments is kept: `A<B>.C<D>` keeps `<D>`.

Functions are named for what they give. Of the rules of the grammar, `typeRef` reads the two
alternatives of `typeType`, `namedType` reads `classOrInterfaceType`, `firstType?` the type of
`typeTypeOrVoid`, `typeRefs` reads `typeList` and `typeBound`, `thrownTypes` the `qualifiedNameList`
after `throws`, and `parameter` reads `formalParameter` and `lastFormalParameter`.
-/

set_option autoImplicit false

namespace JavaProjection

namespace Node

open Projection

def primitiveType (node : Node) (dims : Nat) : Except Failure TypeRef :=
  match node.firstTerminal?.bind fun token => token.kind.terminal?.bind Code.primitiveOf? with
  | some code => pure (.primitive code dims)
  | none => throw (node.malformed "primitive type keyword")

mutual

/-- A type. Its dimensions are the brackets written directly in it. -/
def typeRef (node : Node) : Except Failure TypeRef :=
  match node.kind with
  | .rule .typeClassOrInterfaceType =>
    (node.visitRule .classOrInterfaceType fun named _ =>
      named.namedType (node.countTerminal .leftBracket)).getD
        (throw (node.malformed "classOrInterfaceType"))
  | .rule .typePrimitiveType =>
    match node.rule? .primitiveType with
    | some primitive => primitive.primitiveType (node.countTerminal .leftBracket)
    | none => throw (node.malformed "primitiveType")
  | _ => throw (node.malformed "typeType alternative")
termination_by sizeOf node

def namedType (node : Node) (dims : Nat) : Except Failure TypeRef := do
  let name ← node.dottedName
  let arguments ← ifPresent
    (node.visitRules .typeArguments fun arguments _ => arguments.typeArguments).getLast?
  return .named name arguments dims
termination_by sizeOf node

def typeArguments (node : Node) : Except Failure (List TypeArgument) :=
  inOrder (node.visitRules .typeArgument fun argument _ => argument.typeArgument)
termination_by sizeOf node

def typeArgument (node : Node) : Except Failure TypeArgument := do
  let bound ← ifPresent (node.visitTypeAt 0 fun type _ => type.typeRef)
  if node.hasTerminal .question then
    return .wildcard (bound.map fun type =>
      if node.hasTerminal .kwSuper then .lower type else .upper type)
  else
    match bound with
    | some type => return .type type
    | none => throw (node.malformed "type argument")
termination_by sizeOf node

end

def firstType? (node : Node) : Except Failure (Option TypeRef) :=
  ifPresent ((node.typeNodeAt? 0).map typeRef)

def typeRefs (node : Node) : Except Failure (List TypeRef) :=
  inOrder (node.typeNodes.map typeRef)

def typeParameter (node : Node) : Except Failure TypeParameter := do
  let name ← node.declaredName
  let bounds ← match node.rule? .typeBound with
    | some bound => bound.typeRefs
    | none => pure []
  return ⟨name, bounds⟩

def typeParameters? (node : Node) : Except Failure (Option (List TypeParameter)) :=
  ifPresent ((node.rule? .typeParameters).map fun list =>
    inOrder ((list.rules .typeParameter).map typeParameter))

def interfaces? (node : Node) : Except Failure (Option (List TypeRef)) :=
  ifPresent ((node.ruleAfter? .kwImplements .typeList).map typeRefs)

def thrownTypes (node : Node) : Except Failure (List TypeRef) :=
  match node.ruleAfter? .kwThrows .qualifiedNameList with
  | some list => inOrder ((list.rules .qualifiedName).map fun name => do
      let name ← name.dottedName
      return .plain name)
  | none => pure []

/-- A parameter. Brackets after its name count as dimensions of its type. The parts must be
there before the type is looked into. -/
def parameter (node : Node) : Except Failure Parameter :=
  match node.typeNodeAt? 0 with
  | none => throw (node.malformed "parameter type")
  | some typeNode =>
    match node.rule? .variableDeclaratorId with
    | none => throw (node.malformed "parameter name")
    | some id => do
      let name ← id.declaredName
      let type ← typeNode.typeRef
      return ⟨type.addDims (id.countTerminal .leftBracket), name, node.hasTerminal .ellipsis⟩

def parameters (node : Node) : Except Failure (List Parameter) :=
  match (node.rule? .formalParameters).bind fun list => list.rule? .formalParameterList with
  | some list => inOrder ((list.rulesWhere fun rule =>
      rule == .formalParameter || rule == .lastFormalParameter).map parameter)
  | none => pure []

end Node

end JavaProjection
