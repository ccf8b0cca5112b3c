import JavaProjection.Proofs.Ast.Types

/-!
# Declarations, statements and expressions are read back

The readers of the mutually nested parts of abstract syntax are faithful at every room. For each
of them the two halves of faithfulness follow from all readers with less room, one alternative
after the other; the induction on the room then covers them together.
-/

set_option autoImplicit false

namespace JavaProjection

open Json (Faithful faithful_text faithful_bool faithful_nat faithful_list fits_text
  fits_record_iff fits_tagged_iff fits_alternative_iff)

/-! ## Written forms of lists and of missing parts -/

theorem Declaration.listToJson_eq_map (declarations : List Declaration) :
    Declaration.listToJson declarations = declarations.map Declaration.toJson := by
  induction declarations with
  | nil => rfl
  | cons declaration rest ih => rw [Declaration.listToJson, ih, List.map_cons]

theorem Initializer.listToJson_eq_map (initializers : List Initializer) :
    Initializer.listToJson initializers = initializers.map Initializer.toJson := by
  induction initializers with
  | nil => rfl
  | cons initializer rest ih => rw [Initializer.listToJson, ih, List.map_cons]

theorem BlockStatement.listToJson_eq_map (entries : List BlockStatement) :
    BlockStatement.listToJson entries = entries.map BlockStatement.toJson := by
  induction entries with
  | nil => rfl
  | cons entry rest ih => rw [BlockStatement.listToJson, ih, List.map_cons]

theorem Expression.listToJson_eq_map (expressions : List Expression) :
    Expression.listToJson expressions = expressions.map Expression.toJson := by
  induction expressions with
  | nil => rfl
  | cons expression rest ih => rw [Expression.listToJson, ih, List.map_cons]

theorem Declaration.toJson_variable (head : VariableHead) (start : Option Initializer) :
    (Declaration.variable head start).toJson =
      .tagged "Variable" (.record (head.members ++
        [("initializer", .orNull (start.map Initializer.toJson))])) := by
  cases start <;> rfl

theorem Statement.toJson_branch (condition : Expression) (thenBranch : Statement)
    (elseBranch : Option Statement) :
    (Statement.branch condition thenBranch elseBranch).toJson =
      .tagged "If" (.record [("condition", condition.toJson), ("then_branch", thenBranch.toJson),
        ("else_branch", .orNull (elseBranch.map Statement.toJson))]) := by
  cases elseBranch <;> rfl

theorem Statement.toJson_returns (value : Option Expression) :
    (Statement.returns value).toJson =
      .tagged "Return" (.orNull (value.map Expression.toJson)) := by
  cases value <;> rfl

theorem Statement.toJson_asserts (condition : Expression) (message : Option Expression) :
    (Statement.asserts condition message).toJson =
      .tagged "Assert" (.record [("condition", condition.toJson),
        ("message", .orNull (message.map Expression.toJson))]) := by
  cases message <;> rfl

theorem Expression.toJson_invocation (target : Option Expression) (isSuper : Bool) (name : Token)
    (arguments : List Expression) :
    (Expression.invocation target isSuper name arguments).toJson =
      .tagged "MethodInvocation" (.record
        [("target", .orNull (target.map Expression.toJson)), ("is_super", .bool isSuper),
        ("name", name.toJson), ("arguments", .array (Expression.listToJson arguments))]) := by
  cases target <;> rfl

theorem Expression.toJson_instanceCreation (type : TypeRef) (arguments : List Expression)
    (body : Option (List Declaration)) :
    (Expression.instanceCreation type arguments body).toJson =
      .tagged "InstanceCreation" (.record
        [("ty", type.toJson), ("arguments", .array (Expression.listToJson arguments)),
        ("body", .orNull (body.map fun members => .array (Declaration.listToJson members)))]) := by
  cases body <;> rfl

/-! ## One step of the induction -/

structure SyntaxFaithful (room : Nat) : Prop where
  declaration : Faithful Declaration.toJson (Declaration.ofJson? room) room
  declarations : Faithful (fun members => .array (Declaration.listToJson members))
    (Declaration.listOfJson? room) room
  initializer : Faithful Initializer.toJson (Initializer.ofJson? room) room
  initializers : Faithful (fun elements => .array (Initializer.listToJson elements))
    (Initializer.listOfJson? room) room
  block : Faithful (fun body => Block.json (BlockStatement.listToJson body))
    (BlockStatement.blockOfJson? room) room
  entries : Faithful (fun entries => .array (BlockStatement.listToJson entries))
    (BlockStatement.listOfJson? room) room
  entry : Faithful BlockStatement.toJson (BlockStatement.ofJson? room) room
  statement : Faithful Statement.toJson (Statement.ofJson? room) room
  expression : Faithful Expression.toJson (Expression.ofJson? room) room
  expressions : Faithful (fun arguments => .array (Expression.listToJson arguments))
    (Expression.listOfJson? room) room

section Step

variable {room : Nat} (below : ∀ inner < room, SyntaxFaithful inner)

include below

theorem Declaration.reads_of_below (declaration : Declaration)
    (fits : declaration.toJson.Fits room) :
    Declaration.ofJson? room declaration.toJson = some declaration := by
  cases declaration with
  | classType head members =>
    obtain ⟨inner, rfl, name, modifiers, parameters, superclass, interfaces, membersFit, _⟩ :=
      fits_alternative_iff.1 fits
    have inside := below inner (by omega)
    exact (faithful_text inner).reads_required name
      ((Modifiers.faithful inner).reads_optional modifiers
      ((TypeParameter.faithful_list inner).reads_optional parameters
      ((TypeRef.faithful inner).reads_optional superclass
      ((TypeRef.faithful_list inner).reads_optional interfaces
      (inside.declarations.reads_required membersFit rfl)))))
  | «variable» head start =>
    rw [Declaration.toJson_variable] at fits ⊢
    obtain ⟨inner, rfl, name, modifiers, type, dims, startFits, _⟩ := fits_alternative_iff.1 fits
    have inside := below inner (by omega)
    exact (faithful_text inner).reads_required name
      ((Modifiers.faithful inner).reads_optional modifiers
      ((TypeRef.faithful inner).reads_optional type
      ((faithful_nat inner).reads_required dims
      (inside.initializer.reads_optional startFits rfl))))
  | method head body =>
    obtain ⟨inner, rfl, modifiers, returnType, name, parameters, throws, bodyFits, _⟩ :=
      fits_alternative_iff.1 fits
    have inside := below inner (by omega)
    exact (Modifiers.faithful inner).reads_optional modifiers
      ((TypeRef.faithful inner).reads_optional returnType
      ((faithful_text inner).reads_required name
      ((Parameter.faithful_list inner).reads_required parameters
      ((TypeRef.faithful_list inner).reads_required throws
      (inside.block.reads_required bodyFits rfl)))))
  | constructor head body =>
    obtain ⟨inner, rfl, modifiers, parameters, throws, bodyFits, _⟩ := fits_alternative_iff.1 fits
    have inside := below inner (by omega)
    exact (Modifiers.faithful inner).reads_optional modifiers
      ((Parameter.faithful_list inner).reads_required parameters
      ((TypeRef.faithful_list inner).reads_required throws
      (inside.block.reads_required bodyFits rfl)))
  | initializer body isStatic =>
    obtain ⟨inner, rfl, bodyFits, static, _⟩ := fits_alternative_iff.1 fits
    have inside := below inner (by omega)
    exact inside.block.reads_required bodyFits
      ((faithful_bool inner).reads_required static rfl)

theorem Declaration.fits_of_below {json : Json} {declaration : Declaration}
    (read : Declaration.ofJson? room json = some declaration) :
    declaration.toJson.Fits room := by
  unfold Declaration.ofJson? at read
  split at read
  · next inner content =>
    have inside := below inner (by omega)
    split at read
    · obtain ⟨name, nameFits, read⟩ := (faithful_text inner).of_required read
      obtain ⟨modifiers, modifiersFit, read⟩ := (Modifiers.faithful inner).of_optional read
      obtain ⟨parameters, parametersFit, read⟩ :=
        (TypeParameter.faithful_list inner).of_optional read
      obtain ⟨superclass, superclassFits, read⟩ := (TypeRef.faithful inner).of_optional read
      obtain ⟨interfaces, interfacesFit, read⟩ := (TypeRef.faithful_list inner).of_optional read
      obtain ⟨members, membersFit, made⟩ := inside.declarations.of_required read
      cases made
      exact fits_alternative_iff.2 ⟨inner, rfl, nameFits, modifiersFit, parametersFit,
        superclassFits, interfacesFit, membersFit, trivial⟩
    · cases read
  · next inner content =>
    have inside := below inner (by omega)
    split at read
    · obtain ⟨name, nameFits, read⟩ := (faithful_text inner).of_required read
      obtain ⟨modifiers, modifiersFit, read⟩ := (Modifiers.faithful inner).of_optional read
      obtain ⟨type, typeFits, read⟩ := (TypeRef.faithful inner).of_optional read
      obtain ⟨dims, dimsFits, read⟩ := (faithful_nat inner).of_required read
      obtain ⟨start, startFits, made⟩ := inside.initializer.of_optional read
      cases made
      rw [Declaration.toJson_variable]
      exact fits_alternative_iff.2 ⟨inner, rfl, nameFits, modifiersFit, typeFits, dimsFits,
        startFits, trivial⟩
    · cases read
  · next inner content =>
    have inside := below inner (by omega)
    split at read
    · obtain ⟨modifiers, modifiersFit, read⟩ := (Modifiers.faithful inner).of_optional read
      obtain ⟨returnType, returnTypeFits, read⟩ := (TypeRef.faithful inner).of_optional read
      obtain ⟨name, nameFits, read⟩ := (faithful_text inner).of_required read
      obtain ⟨parameters, parametersFit, read⟩ := (Parameter.faithful_list inner).of_required read
      obtain ⟨throws, throwsFit, read⟩ := (TypeRef.faithful_list inner).of_required read
      obtain ⟨body, bodyFits, made⟩ := inside.block.of_required read
      cases made
      exact fits_alternative_iff.2 ⟨inner, rfl, modifiersFit, returnTypeFits, nameFits,
        parametersFit, throwsFit, bodyFits, trivial⟩
    · cases read
  · next inner content =>
    have inside := below inner (by omega)
    split at read
    · obtain ⟨modifiers, modifiersFit, read⟩ := (Modifiers.faithful inner).of_optional read
      obtain ⟨parameters, parametersFit, read⟩ := (Parameter.faithful_list inner).of_required read
      obtain ⟨throws, throwsFit, read⟩ := (TypeRef.faithful_list inner).of_required read
      obtain ⟨body, bodyFits, made⟩ := inside.block.of_required read
      cases made
      exact fits_alternative_iff.2 ⟨inner, rfl, modifiersFit, parametersFit, throwsFit, bodyFits,
        trivial⟩
    · cases read
  · next inner content =>
    have inside := below inner (by omega)
    split at read
    · obtain ⟨body, bodyFits, read⟩ := inside.block.of_required read
      obtain ⟨isStatic, staticFits, made⟩ := (faithful_bool inner).of_required read
      cases made
      exact fits_alternative_iff.2 ⟨inner, rfl, bodyFits, staticFits, trivial⟩
    · cases read
  · cases read

theorem Initializer.reads_of_below (initializer : Initializer)
    (fits : initializer.toJson.Fits room) :
    Initializer.ofJson? room initializer.toJson = some initializer := by
  cases initializer with
  | expression value =>
    obtain ⟨inner, rfl, valueFits⟩ := fits_tagged_iff.1 fits
    have inside := below inner (by omega)
    exact congrArg (Option.map Initializer.expression) (inside.expression.reads value valueFits)
  | array elements =>
    obtain ⟨inner, rfl, elementsFit⟩ := fits_tagged_iff.1 fits
    have inside := below inner (by omega)
    exact congrArg (Option.map Initializer.array) (inside.initializers.reads elements elementsFit)

theorem Initializer.fits_of_below {json : Json} {initializer : Initializer}
    (read : Initializer.ofJson? room json = some initializer) : initializer.toJson.Fits room := by
  unfold Initializer.ofJson? at read
  split at read
  · next inner content =>
    have inside := below inner (by omega)
    obtain ⟨value, valueRead, rfl⟩ := Option.map_eq_some_iff.1 read
    exact fits_tagged_iff.2 ⟨inner, rfl, inside.expression.fits valueRead⟩
  · next inner content =>
    have inside := below inner (by omega)
    obtain ⟨elements, elementsRead, rfl⟩ := Option.map_eq_some_iff.1 read
    exact fits_tagged_iff.2 ⟨inner, rfl, inside.initializers.fits elementsRead⟩
  · cases read

theorem BlockStatement.faithful_block_of_below :
    Faithful (fun body => Block.json (BlockStatement.listToJson body))
      (BlockStatement.blockOfJson? room) room where
  refuses := by cases room <;> rfl
  reads body fits := by
    obtain ⟨inner, rfl, entriesFit, _⟩ := fits_record_iff.1 fits
    exact (below inner (by omega)).entries.reads body entriesFit
  fits := by
    intro json body read
    cases room with
    | zero => cases read
    | succ inner =>
      have inside := below inner (by omega)
      rw [BlockStatement.blockOfJson?] at read
      split at read
      · obtain ⟨entries, _, entriesRead⟩ := Option.bind_eq_some_iff.1 read
        exact fits_record_iff.2 ⟨inner, rfl, inside.entries.fits entriesRead, trivial⟩
      · cases read

theorem BlockStatement.reads_of_below (entry : BlockStatement) (fits : entry.toJson.Fits room) :
    BlockStatement.ofJson? room entry.toJson = some entry := by
  cases entry with
  | declaration value =>
    obtain ⟨inner, rfl, valueFits⟩ := fits_tagged_iff.1 fits
    have inside := below inner (by omega)
    exact congrArg (Option.map BlockStatement.declaration)
      (inside.declaration.reads value valueFits)
  | statement value =>
    obtain ⟨inner, rfl, valueFits⟩ := fits_tagged_iff.1 fits
    have inside := below inner (by omega)
    exact congrArg (Option.map BlockStatement.statement) (inside.statement.reads value valueFits)

theorem BlockStatement.fits_of_below {json : Json} {entry : BlockStatement}
    (read : BlockStatement.ofJson? room json = some entry) : entry.toJson.Fits room := by
  unfold BlockStatement.ofJson? at read
  split at read
  · next inner content =>
    have inside := below inner (by omega)
    obtain ⟨value, valueRead, rfl⟩ := Option.map_eq_some_iff.1 read
    exact fits_tagged_iff.2 ⟨inner, rfl, inside.declaration.fits valueRead⟩
  · next inner content =>
    have inside := below inner (by omega)
    obtain ⟨value, valueRead, rfl⟩ := Option.map_eq_some_iff.1 read
    exact fits_tagged_iff.2 ⟨inner, rfl, inside.statement.fits valueRead⟩
  · cases read

theorem Statement.reads_of_below (statement : Statement) (fits : statement.toJson.Fits room) :
    Statement.ofJson? room statement.toJson = some statement := by
  -- The reader tells room for one container from room for two before it looks at the tag.
  cases statement with
  | branch condition thenBranch elseBranch =>
    rw [Statement.toJson_branch] at fits ⊢
    obtain ⟨inner, rfl, conditionFits, thenFits, elseFits, _⟩ := fits_alternative_iff.1 fits
    have inside := below inner (by omega)
    exact inside.expression.reads_required conditionFits
      (inside.statement.reads_required thenFits (inside.statement.reads_optional elseFits rfl))
  | whileLoop condition body =>
    obtain ⟨inner, rfl, conditionFits, bodyFits, _⟩ := fits_alternative_iff.1 fits
    have inside := below inner (by omega)
    exact inside.expression.reads_required conditionFits
      (inside.statement.reads_required bodyFits rfl)
  | doLoop body condition =>
    obtain ⟨inner, rfl, bodyFits, conditionFits, _⟩ := fits_alternative_iff.1 fits
    have inside := below inner (by omega)
    exact inside.statement.reads_required bodyFits
      (inside.expression.reads_required conditionFits rfl)
  | returns value =>
    rw [Statement.toJson_returns] at fits ⊢
    obtain ⟨inner, rfl, valueFits⟩ := fits_tagged_iff.1 fits
    have inside := below inner (by omega)
    have given := inside.expression.reads_nullable valueFits
    cases inner <;> exact congrArg (Option.map Statement.returns) given
  | breaks label =>
    obtain ⟨inner, rfl, labelFits⟩ := fits_tagged_iff.1 fits
    have given := (faithful_text inner).reads_nullable labelFits
    cases inner <;> exact congrArg (Option.map Statement.breaks) given
  | continues label =>
    obtain ⟨inner, rfl, labelFits⟩ := fits_tagged_iff.1 fits
    have given := (faithful_text inner).reads_nullable labelFits
    cases inner <;> exact congrArg (Option.map Statement.continues) given
  | asserts condition message =>
    rw [Statement.toJson_asserts] at fits ⊢
    obtain ⟨inner, rfl, conditionFits, messageFits, _⟩ := fits_alternative_iff.1 fits
    have inside := below inner (by omega)
    exact inside.expression.reads_required conditionFits
      (inside.expression.reads_optional messageFits rfl)
  | block body =>
    obtain ⟨inner, rfl, bodyFits⟩ := fits_tagged_iff.1 fits
    have inside := below inner (by omega)
    have given := inside.block.reads body bodyFits
    cases inner <;> exact congrArg (Option.map Statement.block) given
  | expression value =>
    obtain ⟨inner, rfl, valueFits⟩ := fits_tagged_iff.1 fits
    have inside := below inner (by omega)
    have given := inside.expression.reads value valueFits
    cases inner <;> exact congrArg (Option.map Statement.expression) given

theorem Statement.fits_of_below {json : Json} {statement : Statement}
    (read : Statement.ofJson? room json = some statement) : statement.toJson.Fits room := by
  unfold Statement.ofJson? at read
  split at read
  · next inner content =>
    have inside := below inner (by omega)
    split at read
    · obtain ⟨condition, conditionFits, read⟩ := inside.expression.of_required read
      obtain ⟨thenBranch, thenFits, read⟩ := inside.statement.of_required read
      obtain ⟨elseBranch, elseFits, made⟩ := inside.statement.of_optional read
      cases made
      rw [Statement.toJson_branch]
      exact fits_alternative_iff.2 ⟨inner, rfl, conditionFits, thenFits, elseFits, trivial⟩
    · cases read
  · next inner content =>
    have inside := below inner (by omega)
    split at read
    · obtain ⟨condition, conditionFits, read⟩ := inside.expression.of_required read
      obtain ⟨body, bodyFits, made⟩ := inside.statement.of_required read
      cases made
      exact fits_alternative_iff.2 ⟨inner, rfl, conditionFits, bodyFits, trivial⟩
    · cases read
  · next inner content =>
    have inside := below inner (by omega)
    split at read
    · obtain ⟨body, bodyFits, read⟩ := inside.statement.of_required read
      obtain ⟨condition, conditionFits, made⟩ := inside.expression.of_required read
      cases made
      exact fits_alternative_iff.2 ⟨inner, rfl, bodyFits, conditionFits, trivial⟩
    · cases read
  · next inner content =>
    have inside := below inner (by omega)
    obtain ⟨value, valueRead, rfl⟩ := Option.map_eq_some_iff.1 read
    rw [Statement.toJson_returns]
    exact fits_tagged_iff.2 ⟨inner, rfl, inside.expression.of_nullable valueRead⟩
  · next inner content =>
    obtain ⟨label, labelRead, rfl⟩ := Option.map_eq_some_iff.1 read
    exact fits_tagged_iff.2 ⟨inner, rfl, (faithful_text inner).of_nullable labelRead⟩
  · next inner content =>
    obtain ⟨label, labelRead, rfl⟩ := Option.map_eq_some_iff.1 read
    exact fits_tagged_iff.2 ⟨inner, rfl, (faithful_text inner).of_nullable labelRead⟩
  · next inner content =>
    have inside := below inner (by omega)
    split at read
    · obtain ⟨condition, conditionFits, read⟩ := inside.expression.of_required read
      obtain ⟨message, messageFits, made⟩ := inside.expression.of_optional read
      cases made
      rw [Statement.toJson_asserts]
      exact fits_alternative_iff.2 ⟨inner, rfl, conditionFits, messageFits, trivial⟩
    · cases read
  · next inner content =>
    have inside := below inner (by omega)
    obtain ⟨body, bodyRead, rfl⟩ := Option.map_eq_some_iff.1 read
    exact fits_tagged_iff.2 ⟨inner, rfl, inside.block.fits bodyRead⟩
  · next inner content =>
    have inside := below inner (by omega)
    obtain ⟨value, valueRead, rfl⟩ := Option.map_eq_some_iff.1 read
    exact fits_tagged_iff.2 ⟨inner, rfl, inside.expression.fits valueRead⟩
  · cases read

theorem Expression.reads_of_below (expression : Expression) (fits : expression.toJson.Fits room) :
    Expression.ofJson? room expression.toJson = some expression := by
  cases expression with
  | binary op left right =>
    obtain ⟨inner, rfl, opFits, leftFits, rightFits, _⟩ := fits_alternative_iff.1 fits
    have inside := below inner (by omega)
    exact (Code.faithful inner).reads_required opFits
      (inside.expression.reads_required leftFits (inside.expression.reads_required rightFits rfl))
  | prefixed op operand =>
    obtain ⟨inner, rfl, opFits, operandFits, _⟩ := fits_alternative_iff.1 fits
    have inside := below inner (by omega)
    exact (Code.faithful inner).reads_required opFits
      (inside.expression.reads_required operandFits rfl)
  | postfixed op operand =>
    obtain ⟨inner, rfl, opFits, operandFits, _⟩ := fits_alternative_iff.1 fits
    have inside := below inner (by omega)
    exact (Code.faithful inner).reads_required opFits
      (inside.expression.reads_required operandFits rfl)
  | cast type operand =>
    obtain ⟨inner, rfl, typeFits, operandFits, _⟩ := fits_alternative_iff.1 fits
    have inside := below inner (by omega)
    exact (TypeRef.faithful inner).reads_required typeFits
      (inside.expression.reads_required operandFits rfl)
  | arrayAccess object index =>
    obtain ⟨inner, rfl, objectFits, indexFits, _⟩ := fits_alternative_iff.1 fits
    have inside := below inner (by omega)
    exact inside.expression.reads_required objectFits
      (inside.expression.reads_required indexFits rfl)
  | fieldAccess object isSuper field =>
    obtain ⟨inner, rfl, objectFits, superFits, fieldFits, _⟩ := fits_alternative_iff.1 fits
    have inside := below inner (by omega)
    exact inside.expression.reads_required objectFits
      ((faithful_bool inner).reads_required superFits
      ((Token.faithful inner).reads_required fieldFits rfl))
  | invocation target isSuper name arguments =>
    rw [Expression.toJson_invocation] at fits ⊢
    obtain ⟨inner, rfl, targetFits, superFits, nameFits, argumentsFit, _⟩ :=
      fits_alternative_iff.1 fits
    have inside := below inner (by omega)
    exact inside.expression.reads_optional targetFits
      ((faithful_bool inner).reads_required superFits
      ((Token.faithful inner).reads_required nameFits
      (inside.expressions.reads_required argumentsFit rfl)))
  | instanceCreation type arguments body =>
    rw [Expression.toJson_instanceCreation] at fits ⊢
    obtain ⟨inner, rfl, typeFits, argumentsFit, bodyFits, _⟩ := fits_alternative_iff.1 fits
    have inside := below inner (by omega)
    exact (TypeRef.faithful inner).reads_required typeFits
      (inside.expressions.reads_required argumentsFit
      (inside.declarations.reads_optional bodyFits rfl))
  | arrayCreation element elements =>
    obtain ⟨inner, rfl, elementFits, elementsFit, _⟩ := fits_alternative_iff.1 fits
    have inside := below inner (by omega)
    exact (TypeRef.faithful inner).reads_required elementFits
      (inside.initializers.reads_required elementsFit rfl)
  | literal token =>
    obtain ⟨inner, rfl, tokenFits⟩ := fits_tagged_iff.1 fits
    exact congrArg (Option.map Expression.literal) ((Token.faithful inner).reads token tokenFits)
  | reference name =>
    obtain ⟨inner, rfl, nameFits⟩ := fits_tagged_iff.1 fits
    exact congrArg (Option.map Expression.reference)
      ((DottedName.faithful inner).reads name nameFits)
  | thisObject => rcases room with _ | _ | room <;> rfl
  | parenthesized operand =>
    obtain ⟨inner, rfl, operandFits⟩ := fits_tagged_iff.1 fits
    have inside := below inner (by omega)
    exact congrArg (Option.map Expression.parenthesized)
      (inside.expression.reads operand operandFits)
  | placeholder tag =>
    obtain ⟨inner, rfl, tagFits⟩ := fits_tagged_iff.1 fits
    exact congrArg (Option.map Expression.placeholder)
      ((Placeholder.faithful inner).reads tag tagFits)

theorem Expression.fits_of_below {json : Json} {expression : Expression}
    (read : Expression.ofJson? room json = some expression) : expression.toJson.Fits room := by
  unfold Expression.ofJson? at read
  split at read
  · cases read
    exact fits_text _ _
  · cases read
    exact fits_text _ _
  · next inner content =>
    have inside := below inner (by omega)
    split at read
    · obtain ⟨op, opFits, read⟩ := (Code.faithful inner).of_required read
      obtain ⟨left, leftFits, read⟩ := inside.expression.of_required read
      obtain ⟨right, rightFits, made⟩ := inside.expression.of_required read
      cases made
      exact fits_alternative_iff.2 ⟨inner, rfl, opFits, leftFits, rightFits, trivial⟩
    · cases read
  · next inner content =>
    have inside := below inner (by omega)
    split at read
    · obtain ⟨op, opFits, read⟩ := (Code.faithful inner).of_required read
      obtain ⟨operand, operandFits, made⟩ := inside.expression.of_required read
      cases made
      exact fits_alternative_iff.2 ⟨inner, rfl, opFits, operandFits, trivial⟩
    · cases read
  · next inner content =>
    have inside := below inner (by omega)
    split at read
    · obtain ⟨op, opFits, read⟩ := (Code.faithful inner).of_required read
      obtain ⟨operand, operandFits, made⟩ := inside.expression.of_required read
      cases made
      exact fits_alternative_iff.2 ⟨inner, rfl, opFits, operandFits, trivial⟩
    · cases read
  · next inner content =>
    have inside := below inner (by omega)
    split at read
    · obtain ⟨type, typeFits, read⟩ := (TypeRef.faithful inner).of_required read
      obtain ⟨operand, operandFits, made⟩ := inside.expression.of_required read
      cases made
      exact fits_alternative_iff.2 ⟨inner, rfl, typeFits, operandFits, trivial⟩
    · cases read
  · next inner content =>
    have inside := below inner (by omega)
    split at read
    · obtain ⟨object, objectFits, read⟩ := inside.expression.of_required read
      obtain ⟨index, indexFits, made⟩ := inside.expression.of_required read
      cases made
      exact fits_alternative_iff.2 ⟨inner, rfl, objectFits, indexFits, trivial⟩
    · cases read
  · next inner content =>
    have inside := below inner (by omega)
    split at read
    · obtain ⟨object, objectFits, read⟩ := inside.expression.of_required read
      obtain ⟨isSuper, superFits, read⟩ := (faithful_bool inner).of_required read
      obtain ⟨field, fieldFits, made⟩ := (Token.faithful inner).of_required read
      cases made
      exact fits_alternative_iff.2 ⟨inner, rfl, objectFits, superFits, fieldFits, trivial⟩
    · cases read
  · next inner content =>
    have inside := below inner (by omega)
    split at read
    · obtain ⟨target, targetFits, read⟩ := inside.expression.of_optional read
      obtain ⟨isSuper, superFits, read⟩ := (faithful_bool inner).of_required read
      obtain ⟨name, nameFits, read⟩ := (Token.faithful inner).of_required read
      obtain ⟨arguments, argumentsFit, made⟩ := inside.expressions.of_required read
      cases made
      rw [Expression.toJson_invocation]
      exact fits_alternative_iff.2
        ⟨inner, rfl, targetFits, superFits, nameFits, argumentsFit, trivial⟩
    · cases read
  · next inner content =>
    have inside := below inner (by omega)
    split at read
    · obtain ⟨type, typeFits, read⟩ := (TypeRef.faithful inner).of_required read
      obtain ⟨arguments, argumentsFit, read⟩ := inside.expressions.of_required read
      obtain ⟨body, bodyFits, made⟩ := inside.declarations.of_optional read
      cases made
      rw [Expression.toJson_instanceCreation]
      exact fits_alternative_iff.2 ⟨inner, rfl, typeFits, argumentsFit, bodyFits, trivial⟩
    · cases read
  · next inner content =>
    have inside := below inner (by omega)
    split at read
    · obtain ⟨element, elementFits, read⟩ := (TypeRef.faithful inner).of_required read
      obtain ⟨elements, elementsFit, made⟩ := inside.initializers.of_required read
      cases made
      exact fits_alternative_iff.2 ⟨inner, rfl, elementFits, elementsFit, trivial⟩
    · cases read
  · next inner content =>
    obtain ⟨token, tokenRead, rfl⟩ := Option.map_eq_some_iff.1 read
    exact fits_tagged_iff.2 ⟨inner, rfl, (Token.faithful inner).fits tokenRead⟩
  · next inner content =>
    obtain ⟨name, nameRead, rfl⟩ := Option.map_eq_some_iff.1 read
    exact fits_tagged_iff.2 ⟨inner, rfl, (DottedName.faithful inner).fits nameRead⟩
  · next inner content =>
    have inside := below inner (by omega)
    obtain ⟨operand, operandRead, rfl⟩ := Option.map_eq_some_iff.1 read
    exact fits_tagged_iff.2 ⟨inner, rfl, inside.expression.fits operandRead⟩
  · next inner content =>
    obtain ⟨tag, tagRead, rfl⟩ := Option.map_eq_some_iff.1 read
    exact fits_tagged_iff.2 ⟨inner, rfl, (Placeholder.faithful inner).fits tagRead⟩
  · cases read

/-- The readers pass each other the room left inside a container, so faithfulness at a smaller room
is all that their cases need. -/
theorem syntaxFaithful_of_below : SyntaxFaithful room where
  declaration :=
    ⟨by rcases room with _ | _ | room <;> rfl, Declaration.reads_of_below below,
      Declaration.fits_of_below below⟩
  declarations := by
    simp only [Declaration.listToJson_eq_map]
    exact faithful_list (fun _ => rfl) (fun _ _ => rfl)
      fun inner smaller => (below inner smaller).declaration
  initializer :=
    ⟨by cases room <;> rfl, Initializer.reads_of_below below, Initializer.fits_of_below below⟩
  initializers := by
    simp only [Initializer.listToJson_eq_map]
    exact faithful_list (fun _ => rfl) (fun _ _ => rfl)
      fun inner smaller => (below inner smaller).initializer
  block := BlockStatement.faithful_block_of_below below
  entries := by
    simp only [BlockStatement.listToJson_eq_map]
    exact faithful_list (fun _ => rfl) (fun _ _ => rfl)
      fun inner smaller => (below inner smaller).entry
  entry :=
    ⟨by cases room <;> rfl, BlockStatement.reads_of_below below,
      BlockStatement.fits_of_below below⟩
  statement :=
    ⟨by rcases room with _ | _ | room <;> rfl, Statement.reads_of_below below,
      Statement.fits_of_below below⟩
  expression :=
    ⟨by rcases room with _ | _ | room <;> rfl, Expression.reads_of_below below,
      Expression.fits_of_below below⟩
  expressions := by
    simp only [Expression.listToJson_eq_map]
    exact faithful_list (fun _ => rfl) (fun _ _ => rfl)
      fun inner smaller => (below inner smaller).expression

end Step

theorem syntaxFaithful (room : Nat) : SyntaxFaithful room := by
  induction room using Nat.strongRecOn with
  | ind room ih => exact syntaxFaithful_of_below ih

end JavaProjection
