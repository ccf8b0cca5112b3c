import JavaProjection.Diagnostic
import JavaProjection.Node.Json

/-!
# Writing abstract syntax as JSON

A record is an object with all its members, null for those it lacks. A choice is an object with
the name of the alternative over its content, or the bare name when there is no content.
-/

set_option autoImplicit false

namespace JavaProjection

def Json.tagged (tag : String) (content : Json) : Json :=
  .record [(tag, content)]

/-! ## Names, codes, tags -/

def Code.toJson (code : Code) : Json :=
  .text code.name

def Placeholder.toJson (placeholder : Placeholder) : Json :=
  .text placeholder.tag

def DottedName.toJson (name : DottedName) : Json :=
  .array (name.toList.map Json.text)

def Modifiers.toJson (modifiers : Modifiers) : Json :=
  .array (modifiers.codes.map Code.toJson)

def Token.toJson (token : Token) : Json :=
  .record [("code", token.code.toJson), ("text", .orNull (token.text.map Json.text))]

/-! ## Types -/

mutual

def TypeRef.toJson : TypeRef → Json
  | .primitive code dims =>
    .tagged "Primitive" (.record [("code", code.toJson), ("dims", .nat dims)])
  | .named name arguments dims =>
    .tagged "Named" (.record [("name", name.toJson),
      ("arguments", match arguments with
        | some arguments => .array (TypeArgument.listToJson arguments)
        | none => .null),
      ("dims", .nat dims)])

def TypeArgument.toJson : TypeArgument → Json
  | .type value => .tagged "Type" value.toJson
  | .wildcard (some bound) => .tagged "Wildcard" bound.toJson
  | .wildcard none => .tagged "Wildcard" .null

def WildcardBound.toJson : WildcardBound → Json
  | .upper type => .tagged "Extends" type.toJson
  | .lower type => .tagged "Super" type.toJson

def TypeArgument.listToJson : List TypeArgument → List Json
  | [] => []
  | argument :: rest => argument.toJson :: TypeArgument.listToJson rest

end

def TypeParameter.toJson (parameter : TypeParameter) : Json :=
  .record [("name", .text parameter.name),
    ("bounds", .array (parameter.bounds.map TypeRef.toJson))]

def Parameter.toJson (parameter : Parameter) : Json :=
  .record [("ty", parameter.type.toJson), ("name", .text parameter.name),
    ("is_varargs", .bool parameter.isVarargs)]

/-! ## Declarations, statements, expressions -/

def ClassHead.members (head : ClassHead) : List (String × Json) :=
  [("name", .text head.name),
    ("modifiers", .orNull (head.modifiers.map Modifiers.toJson)),
    ("type_parameters", .orNull (head.typeParameters.map fun parameters =>
      .array (parameters.map TypeParameter.toJson))),
    ("superclass", .orNull (head.superclass.map TypeRef.toJson)),
    ("interfaces", .orNull (head.interfaces.map fun types =>
      .array (types.map TypeRef.toJson)))]

def VariableHead.members (head : VariableHead) : List (String × Json) :=
  [("name", .text head.name),
    ("modifiers", .orNull (head.modifiers.map Modifiers.toJson)),
    ("ty", .orNull (head.type.map TypeRef.toJson)),
    ("dims", .nat head.dims)]

def MethodHead.members (head : MethodHead) : List (String × Json) :=
  [("modifiers", .orNull (head.modifiers.map Modifiers.toJson)),
    ("return_type", .orNull (head.returnType.map TypeRef.toJson)),
    ("name", .text head.name),
    ("parameters", .array (head.parameters.map Parameter.toJson)),
    ("throws", .array (head.throws.map TypeRef.toJson))]

def ConstructorHead.members (head : ConstructorHead) : List (String × Json) :=
  [("modifiers", .orNull (head.modifiers.map Modifiers.toJson)),
    ("parameters", .array (head.parameters.map Parameter.toJson)),
    ("throws", .array (head.throws.map TypeRef.toJson))]

def Block.json (entries : List Json) : Json :=
  .record [("statements", .array entries)]

mutual

def Declaration.toJson : Declaration → Json
  | .classType head members =>
    .tagged "Class" (.record (head.members ++
      [("members", .array (Declaration.listToJson members))]))
  | .variable head initializer =>
    .tagged "Variable" (.record (head.members ++
      [("initializer", match initializer with
        | some initializer => initializer.toJson
        | none => .null)]))
  | .method head body =>
    .tagged "Method" (.record (head.members ++
      [("body", Block.json (BlockStatement.listToJson body))]))
  | .constructor head body =>
    .tagged "Constructor" (.record (head.members ++
      [("body", Block.json (BlockStatement.listToJson body))]))
  | .initializer body isStatic =>
    .tagged "Initializer" (.record
      [("body", Block.json (BlockStatement.listToJson body)), ("is_static", .bool isStatic)])

def Declaration.listToJson : List Declaration → List Json
  | [] => []
  | declaration :: rest => declaration.toJson :: Declaration.listToJson rest

def Initializer.toJson : Initializer → Json
  | .expression value => .tagged "Expression" value.toJson
  | .array elements => .tagged "Array" (.array (Initializer.listToJson elements))

def Initializer.listToJson : List Initializer → List Json
  | [] => []
  | initializer :: rest => initializer.toJson :: Initializer.listToJson rest

def BlockStatement.toJson : BlockStatement → Json
  | .declaration value => .tagged "Declaration" value.toJson
  | .statement value => .tagged "Statement" value.toJson

def BlockStatement.listToJson : List BlockStatement → List Json
  | [] => []
  | entry :: rest => entry.toJson :: BlockStatement.listToJson rest

def Statement.toJson : Statement → Json
  | .branch condition thenBranch elseBranch =>
    .tagged "If" (.record [("condition", condition.toJson), ("then_branch", thenBranch.toJson),
      ("else_branch", match elseBranch with
        | some branch => branch.toJson
        | none => .null)])
  | .whileLoop condition body =>
    .tagged "While" (.record [("condition", condition.toJson), ("body", body.toJson)])
  | .doLoop body condition =>
    .tagged "Do" (.record [("body", body.toJson), ("condition", condition.toJson)])
  | .returns (some value) => .tagged "Return" value.toJson
  | .returns none => .tagged "Return" .null
  | .breaks label => .tagged "Break" (.orNull (label.map Json.text))
  | .continues label => .tagged "Continue" (.orNull (label.map Json.text))
  | .asserts condition message =>
    .tagged "Assert" (.record [("condition", condition.toJson),
      ("message", match message with
        | some message => message.toJson
        | none => .null)])
  | .block body => .tagged "Block" (Block.json (BlockStatement.listToJson body))
  | .expression value => .tagged "Expression" value.toJson

def Expression.toJson : Expression → Json
  | .binary op left right =>
    .tagged "Binary" (.record
      [("op", op.toJson), ("left", left.toJson), ("right", right.toJson)])
  | .prefixed op operand =>
    .tagged "UnaryPrefix" (.record [("op", op.toJson), ("operand", operand.toJson)])
  | .postfixed op operand =>
    .tagged "UnaryPostfix" (.record [("op", op.toJson), ("operand", operand.toJson)])
  | .cast type operand =>
    .tagged "Cast" (.record [("ty", type.toJson), ("operand", operand.toJson)])
  | .arrayAccess object index =>
    .tagged "ArrayAccess" (.record [("object", object.toJson), ("index", index.toJson)])
  | .fieldAccess object isSuper field =>
    .tagged "FieldAccess" (.record
      [("object", object.toJson), ("is_super", .bool isSuper), ("field", field.toJson)])
  | .invocation target isSuper name arguments =>
    .tagged "MethodInvocation" (.record
      [("target", match target with
        | some target => target.toJson
        | none => .null),
      ("is_super", .bool isSuper), ("name", name.toJson),
      ("arguments", .array (Expression.listToJson arguments))])
  | .instanceCreation type arguments body =>
    .tagged "InstanceCreation" (.record
      [("ty", type.toJson), ("arguments", .array (Expression.listToJson arguments)),
      ("body", match body with
        | some members => .array (Declaration.listToJson members)
        | none => .null)])
  | .arrayCreation element initializer =>
    .tagged "ArrayCreation" (.record
      [("element", element.toJson), ("initializer", .array (Initializer.listToJson initializer))])
  | .literal token => .tagged "Literal" token.toJson
  | .reference name => .tagged "SimpleReference" name.toJson
  | .thisObject => .text "This"
  | .parenthesized inner => .tagged "Parenthesized" inner.toJson
  | .placeholder tag => .tagged "Placeholder" tag.toJson

def Expression.listToJson : List Expression → List Json
  | [] => []
  | expression :: rest => expression.toJson :: Expression.listToJson rest

end

/-! ## Source files and diagnostics -/

def Import.toJson (value : Import) : Json :=
  .record [("is_static", .bool value.isStatic), ("name", value.name.toJson),
    ("is_wildcard", .bool value.isWildcard)]

def CompilationUnit.toJson (unit : CompilationUnit) : Json :=
  .record [("package", .orNull (unit.package.map DottedName.toJson)),
    ("imports", .array (unit.imports.map Import.toJson)),
    ("declarations", .array (Declaration.listToJson unit.declarations))]

def Severity.toJson : Severity → Json
  | .error => .text "Error"
  | .warning => .text "Warning"

def DiagnosticKind.toJson : DiagnosticKind → Json
  | .placeholder tag => .tagged "Placeholder" tag.toJson
  | .literalFallback => .text "LiteralFallback"
  | .lossy => .text "Lossy"

def Diagnostic.toJson (diagnostic : Diagnostic) : Json :=
  .record [("severity", diagnostic.severity.toJson), ("kind", diagnostic.kind.toJson),
    ("message", .text diagnostic.message), ("span", diagnostic.span.toJson),
    ("hint", .orNull (diagnostic.hint.map Json.text))]

end JavaProjection
