import Mathlib
import JavaProjection.Proofs.Canonical.Types
import JavaProjection.Proofs.Members

/-!
# Sizes and dimensions of arrays

Of the sizes of a new array only the first is projected. Of the brackets of a declaration those in
the type and those behind the name of a parameter or variable are all counted, but those behind the
parameters of a method are not.
-/

set_option autoImplicit false

namespace JavaProjection

open Projection

/-! ## Sizes -/

namespace Node

def elementType (name : Node) : Except Failure TypeRef :=
  match name.rule? .primitiveType with
  | some primitive => primitive.primitiveType 0
  | none => TypeRef.plain <$> name.dottedName

/-- The node, behind `new`, is an array of elements of the type called `name`, with the sizes and
without an initializer. -/
structure CreatesArray (node name : Node) (sizes : List Node) : Prop where
  name : node.rule? .createdName = some name
  noClass : node.rule? .classCreatorRest = none
  sizes : ∃ rest, node.rule? .arrayCreatorRest = some rest ∧
    rest.rule? .arrayInitializer = none ∧ rest.rules .expression = sizes

end Node

/-- All sizes have a value, and the initializer holds these values in order. -/
def SizesKept (policy : LiteralPolicy) (sizes : List Node) (initializer : List Initializer) :
    Prop :=
  ∃ values, List.Forall₂ (fun size value => Returns size.expression policy value) sizes values ∧
    (values.map Initializer.expression).Sublist initializer

theorem Node.CreatesArray.creation_eq {node name first : Node} {others : List Node}
    (creates : node.CreatesArray name (first :: others)) :
    node.creation = do
      let element ← liftM name.elementType
      let size ← first.expression
      return .arrayCreation element [.expression size] := by
  obtain ⟨rest, restFound, noInitializer, sizes⟩ := creates.sizes
  have operand : rest.operandAt 0 "operand expression" = first.expression := by
    rw [operandAt, visitRuleAt_eq, ruleAt?, sizes]
    rfl
  have restCreation : node.creation = rest.arrayCreation name := by
    rw [creation]
    simp only [creates.name, visitRule_eq, creates.noClass, restFound]
    rfl
  rw [restCreation, arrayCreation]
  simp only [visitRule_eq, noInitializer, Option.map_none, Option.getD_none, operand, bind_assoc,
    pure_bind]
  unfold elementType
  cases name.rule? .primitiveType with
  | some primitive => rfl
  | none =>
    -- The name is read on its own on one side and as part of the type on the other.
    have lifted : (TypeRef.plain <$> liftM name.dottedName : Projection TypeRef) =
        liftM (TypeRef.plain <$> name.dottedName) := by
      cases name.dottedName <;> rfl
    simp only [lifted]

theorem Node.CreatesArray.ends_iff {node name first : Node} {others : List Node}
    (creates : node.CreatesArray name (first :: others)) {policy : LiteralPolicy}
    {gathered : Array Diagnostic} {created : Expression} {reports : Array Diagnostic} :
    node.creation.runFrom policy gathered = (.ok created, reports) ↔
      ∃ element size own, name.elementType = .ok element ∧
        first.expression.runFrom policy #[] = (.ok size, own) ∧
        created = .arrayCreation element [.expression size] ∧ reports = gathered ++ own := by
  rw [creates.creation_eq, runFrom_bind, runFrom_lift]
  cases name.elementType with
  | error failure => simp
  | ok element =>
    simp only
    rw [runFrom_bind, Independent.of_expression first policy gathered]
    rcases first.expression.runFrom policy #[] with ⟨failure | size, own⟩
    · simp
    · simp [eq_comm]

theorem sizesKept_iff {policy : LiteralPolicy} {first : Node} {others : List Node}
    {size : Expression} (returned : Returns first.expression policy size) :
    SizesKept policy (first :: others) [.expression size] ↔ others = [] := by
  constructor
  · -- There are as many values as sizes, and room for one.
    rintro ⟨values, each, kept⟩
    have same := each.length_eq
    have few := kept.length_le
    simp only [List.length_cons, List.length_map, List.length_nil] at same few
    exact List.length_eq_zero_iff.1 (by omega)
  · rintro rfl
    exact ⟨[size], .cons returned .nil, List.Sublist.refl _⟩

/-- A new array with sizes holds the value of the first size and nothing else, and its reports are
those of the first size. The other sizes have no part in it, so all sizes are kept exactly if there
is only one. -/
theorem first_size_kept {node name first : Node} {others : List Node}
    (creates : node.CreatesArray name (first :: others)) (policy : LiteralPolicy)
    (gathered : Array Diagnostic) :
    (∀ created reports, node.creation.runFrom policy gathered = (.ok created, reports) ↔
      ∃ element size own, name.elementType = .ok element ∧
        first.expression.runFrom policy #[] = (.ok size, own) ∧
        created = .arrayCreation element [.expression size] ∧ reports = gathered ++ own) ∧
    ∀ element initializer,
      (node.creation.runFrom policy gathered).1 = .ok (.arrayCreation element initializer) →
      (SizesKept policy (first :: others) initializer ↔ others = []) := by
  refine ⟨fun created reports => creates.ends_iff, ?_⟩
  intro element initializer ended
  obtain ⟨_, size, own, _, run, same, _⟩ := creates.ends_iff.1 (Prod.ext ended rfl)
  cases same
  exact sizesKept_iff (congrArg Prod.fst run)

def intName : Node :=
  .branch .createdName [.branch .primitiveType [.leaf .kwInt "int"]]

/-- What stands behind `new` in `new int[n][size]`. -/
def twoSizes (size : Node) : Node :=
  .branch .creator [intName, .branch .arrayCreatorRest
    [.leaf .leftBracket "[", .primaryOf (.named "n"), .leaf .rightBracket "]",
      .leaf .leftBracket "[", size, .leaf .rightBracket "]"]]

theorem twoSizes_creates {size : Node} (kind : size.kind = .rule .expression) :
    (twoSizes size).CreatesArray intName [.primaryOf (.named "n"), size] := by
  refine ⟨rfl, rfl, _, rfl, ?_, ?_⟩
  · simp [Node.isRule, kind, Node.primaryOf]
  · simp [Node.isRule, kind, Node.primaryOf]

/-- The operator `%=` has no code, so `a %= b` has no value. -/
theorem modAssign_fails (policy : LiteralPolicy) (gathered : Array Diagnostic) :
    ((Node.joined .modAssign "%=").expression.runFrom policy gathered).1 =
      .error (.unsupportedToken .modAssign "%=" .zero) := by
  have operator : (Node.joined .modAssign "%=").labelled? "bop" =
      some ((Node.leaf .modAssign "%=").boundTo "bop") := rfl
  rw [Node.expression, operator]
  simp only [Node.kind_boundTo, Node.kind_leaf, Terminal.isBinaryOperator, if_true]
  rw [Node.binary]
  rfl

/-- The array `new int[n][a %= b]` is created although its second size has no value. -/
theorem twoSizes_first_kept :
    (twoSizes (.joined .modAssign "%=")).creation.runFrom .reject #[] =
      (.ok (.arrayCreation (.primitive .kwInt 0) [.expression (.name "n")]), #[]) ∧
    ((Node.joined .modAssign "%=").expression.runFrom .reject #[]).1 =
      .error (.unsupportedToken .modAssign "%=" .zero) ∧
    ¬ SizesKept .reject [.primaryOf (.named "n"), .joined .modAssign "%="]
      [.expression (.name "n")] := by
  have first : (Node.primaryOf (.named "n")).expression.runFrom .reject #[] =
      (.ok (.name "n"), #[]) := by cbv
  have creates : (twoSizes (.joined .modAssign "%=")).CreatesArray intName
      [.primaryOf (.named "n"), .joined .modAssign "%="] := twoSizes_creates rfl
  obtain ⟨ends, kept⟩ := first_size_kept creates .reject #[]
  have created := (ends _ _).2 ⟨.primitive .kwInt 0, .name "n", #[], rfl, first, rfl, rfl⟩
  refine ⟨created, modAssign_fails _ _, ?_⟩
  rw [kept _ _ (congrArg Prod.fst created)]
  simp

/-- The array `new int[n][m]` is created without a report and without its second size. -/
theorem twoSizes_second_lost :
    (twoSizes (.primaryOf (.named "m"))).CreatesArray intName
      [.primaryOf (.named "n"), .primaryOf (.named "m")] ∧
    (twoSizes (.primaryOf (.named "m"))).creation.runFrom .sentinel #[] =
      (.ok (.arrayCreation (.primitive .kwInt 0) [.expression (.name "n")]), #[]) ∧
    Returns (Node.primaryOf (.named "m")).expression .sentinel (.name "m") ∧
    ¬ SizesKept .sentinel [.primaryOf (.named "n"), .primaryOf (.named "m")]
      [.expression (.name "n")] := by
  have creates : (twoSizes (.primaryOf (.named "m"))).CreatesArray intName
      [.primaryOf (.named "n"), .primaryOf (.named "m")] := twoSizes_creates rfl
  have first : (Node.primaryOf (.named "n")).expression.runFrom .sentinel #[] =
      (.ok (.name "n"), #[]) := by cbv
  refine ⟨creates, creates.ends_iff.2 ⟨_, _, _, rfl, first, rfl, rfl⟩, by cbv, ?_⟩
  rw [sizesKept_iff (congrArg Prod.fst first)]
  simp

/-! ## Dimensions -/

namespace Node

def brackets (node : Node) : Nat :=
  node.countTerminal .leftBracket

theorem typeRef_dims (node : Node) : Gives node.typeRef fun type => type.dims = node.brackets := by
  rw [typeRef]
  split
  · rw [visitRule_eq]
    apply judged_getD _ (Gives.of_throw _)
    apply judged_map
    intro named _
    rw [namedType]
    apply Gives.rules.bind (Gives.trivial _)
    intro name _
    apply Gives.rules.bind (Gives.trivial _)
    intro arguments _
    exact Gives.rules.pure rfl
  · split
    · rw [primitiveType]
      split
      · exact Gives.rules.pure rfl
      · exact Gives.of_throw _
    · exact Gives.of_throw _
  · exact Gives.of_throw _

/-- The parameter has a dimension for each bracket in its type and behind its name. -/
theorem parameter_dims (node : Node) : Gives node.parameter fun parameter =>
    ∃ typeNode id, node.typeNodeAt? 0 = some typeNode ∧
      node.rule? .variableDeclaratorId = some id ∧
      parameter.type.dims = typeNode.brackets + id.brackets := by
  unfold parameter
  split
  · exact Gives.of_throw _
  · next typeNode typeFound =>
    split
    · exact Gives.of_throw _
    · next id idFound =>
      apply Gives.rules.bind (Gives.trivial _)
      intro name _
      apply Gives.rules.bind typeNode.typeRef_dims
      intro type dims
      apply Gives.rules.pure
      refine ⟨typeNode, id, typeFound, idFound, ?_⟩
      cases type with
      | primitive code written => exact congrArg (· + id.brackets) dims
      | named name arguments written => exact congrArg (· + id.brackets) dims

/-- The declaration is a variable of a written type. Type and variable together have a dimension
for each bracket in the type and behind the name. -/
def VariableDims (typeNode declarator : Node) (declaration : Declaration) : Prop :=
  ∃ id head initial type, declarator.rule? .variableDeclaratorId = some id ∧
    declaration = .variable head initial ∧ head.type = some type ∧
    type.dims + head.dims = typeNode.brackets + id.brackets

theorem DeclaresAll.dims {policy : LiteralPolicy} {modifiers : Option Modifiers} {node : Node}
    {declared : List Declaration} (declares : node.DeclaresAll policy modifiers declared) :
    ∃ typeNode list, node.typeNodeAt? 0 = some typeNode ∧
      node.rule? .variableDeclarators = some list ∧
      List.Forall₂ (VariableDims typeNode) (list.rules .variableDeclarator) declared := by
  obtain ⟨typeFound, typed, listFound, each⟩ := declares
  refine ⟨_, _, typeFound, listFound, each.imp ?_⟩
  rintro declarator declaration ⟨idFound, nameFound, initialized, rfl⟩
  refine ⟨_, _, _, _, idFound, rfl, rfl, ?_⟩
  rw [(typeRef_dims _).holds _ typed]
  rfl

theorem firstType?_dims (node : Node) : Gives node.firstType? fun found =>
    ∀ type ∈ found, ∃ typeNode, node.typeNodeAt? 0 = some typeNode ∧
      type.dims = typeNode.brackets := by
  apply Gives.rules.ifPresent
  apply judged_map
  intro typeNode found
  apply typeNode.typeRef_dims.mono
  intro type dims
  exact ⟨typeNode, found, dims⟩

/-- The return type of a method has a dimension for each bracket in it, and no more. -/
theorem method_dims (node : Node) (modifiers : Option Modifiers) :
    Yields (node.method modifiers) fun declaration =>
      ∃ head body, declaration = .method head body ∧ ∀ type, head.returnType = some type →
        ∃ result typeNode, node.rule? .typeTypeOrVoid = some result ∧
          result.typeNodeAt? 0 = some typeNode ∧ type.dims = typeNode.brackets := by
  apply (node.method_yields modifiers).mono
  rintro _ ⟨head, body, rfl, _, result, found, typed⟩
  refine ⟨head, body, rfl, ?_⟩
  intro type returned
  obtain ⟨typeNode, typeFound, dims⟩ := result.firstType?_dims.holds _ typed type returned
  exact ⟨result, typeNode, found, typeFound, dims⟩

end Node

/-- Every bracket of a parameter and of a variable with a written type, be it a field or local, is a
dimension. For the return type of a method this holds exactly if no bracket stands behind the
parameters: such brackets are lost. -/
theorem declared_dims (node : Node) (modifiers : Option Modifiers) (policy : LiteralPolicy)
    (gathered : Array Diagnostic) :
    (∀ parameter, node.parameter = .ok parameter →
      ∃ typeNode id, node.typeNodeAt? 0 = some typeNode ∧
        node.rule? .variableDeclaratorId = some id ∧
        parameter.type.dims = typeNode.brackets + id.brackets) ∧
    (∀ expected declared,
      ((node.typedVariables expected modifiers).runFrom policy gathered).1 = .ok declared →
      ∃ typeNode list, node.typeNodeAt? 0 = some typeNode ∧
        node.rule? .variableDeclarators = some list ∧
        List.Forall₂ (Node.VariableDims typeNode) (list.rules .variableDeclarator) declared) ∧
    ∀ declaration, ((node.method modifiers).runFrom policy gathered).1 = .ok declaration →
      ∃ head body, declaration = .method head body ∧ ∀ type, head.returnType = some type →
        ∃ result typeNode, node.rule? .typeTypeOrVoid = some result ∧
          result.typeNodeAt? 0 = some typeNode ∧ type.dims = typeNode.brackets ∧
          (type.dims = typeNode.brackets + node.brackets ↔ node.brackets = 0) := by
  refine ⟨node.parameter_dims.holds, ?_, ?_⟩
  · intro expected declared ended
    exact (Node.typedVariables_ends_iff.1 ended).dims
  · intro declaration ended
    obtain ⟨head, body, same, each⟩ :=
      (node.method_dims modifiers).holds policy gathered declaration ended
    refine ⟨head, body, same, ?_⟩
    intro type returned
    obtain ⟨result, typeNode, found, typeFound, dims⟩ := each type returned
    refine ⟨result, typeNode, found, typeFound, dims, ?_⟩
    omega

def intArray : Node :=
  (TypeRef.primitive .kwInt 1).tree

/-- The parameter `int[] a[][]`, an array of three dimensions. -/
def bracketedParameter : Node :=
  .branch .formalParameter
    [intArray, .branch .variableDeclaratorId (.named "a" :: bracketPairs 2)]

def bracketedDeclarator (name : String) (dims : Nat) : Node :=
  .branch .variableDeclarator [.branch .variableDeclaratorId (.named name :: bracketPairs dims)]

/-- The field `int[] x, y[]`, whose second variable has a dimension more. -/
def bracketedField : Node :=
  .branch .fieldDeclaration [intArray, .branch .variableDeclarators
    [bracketedDeclarator "x" 0, .leaf .comma ",", bracketedDeclarator "y" 1]]

/-- The method `int[] f()`, with brackets behind its parameters. -/
def bracketedMethod (dims : Nat) : Node :=
  .branch .methodDeclaration (.branch .typeTypeOrVoid [intArray] :: .named "f" ::
    .branch .formalParameters [.leaf .leftParen "(", .leaf .rightParen ")"] ::
      (bracketPairs dims ++ [.branch .methodBody [.leaf .semi ";"]]))

def projectedMethod : Declaration :=
  .method ⟨none, some (.primitive .kwInt 1), "f", [], []⟩ []

theorem bracketed_dims :
    (∃ parameter, bracketedParameter.parameter = .ok parameter ∧ parameter.type.dims = 3) ∧
    (∃ declared, Returns (bracketedField.typedVariables "field type" none) .reject declared ∧
      List.Forall₂ (Node.VariableDims intArray)
        [bracketedDeclarator "x" 0, bracketedDeclarator "y" 1] declared) ∧
    Returns ((bracketedMethod 0).method none) .reject projectedMethod ∧
      (TypeRef.primitive .kwInt 1).dims = intArray.brackets + (bracketedMethod 0).brackets := by
  have parameter : bracketedParameter.parameter = .ok ⟨.primitive .kwInt 3, "a", false⟩ := by cbv
  have field : Returns (bracketedField.typedVariables "field type" none) .reject
      [.variable ⟨"x", none, some (.primitive .kwInt 1), 0⟩ none,
        .variable ⟨"y", none, some (.primitive .kwInt 1), 1⟩ none] := by cbv
  have method : Returns ((bracketedMethod 0).method none) .reject projectedMethod := by cbv
  obtain ⟨typeNode, id, typeFound, idFound, dims⟩ :=
    (declared_dims bracketedParameter none .reject #[]).1 _ parameter
  obtain ⟨fieldType, list, fieldTypeFound, listFound, each⟩ :=
    (declared_dims bracketedField none .reject #[]).2.1 _ _ field
  obtain ⟨head, body, same, returned⟩ :=
    (declared_dims (bracketedMethod 0) none .reject #[]).2.2 _ method
  cases same
  obtain ⟨result, resultType, resultFound, resultTypeFound, _, conserved⟩ := returned _ rfl
  cases typeFound
  cases idFound
  cases fieldTypeFound
  cases listFound
  cases resultFound
  cases resultTypeFound
  exact ⟨⟨_, parameter, dims⟩, ⟨_, field, each⟩, method, conserved.2 rfl⟩

/-- The method `int[] f()[]` is projected to one that returns `int[]`, and nothing is reported. -/
theorem bracketedMethod_dims_lost :
    Returns ((bracketedMethod 1).method none) .sentinel projectedMethod ∧
    (TypeRef.primitive .kwInt 1).dims ≠ intArray.brackets + (bracketedMethod 1).brackets ∧
    Settings.default.project (.classFile "A" [bracketedMethod 1]) =
      .ok ⟨⟨none, [], [.classType ⟨"A", none, none, none, none⟩ [projectedMethod]]⟩, []⟩ :=
  ⟨by cbv, by decide, by cbv⟩

end JavaProjection
