import JavaProjection.Proofs.Canonical.Expressions

/-!
# Well-formed abstract syntax

The types of abstract syntax admit far more than a projection builds: any code as an operator or
as a modifier, a method inside a block, a placeholder for a loop as an operand. Here is what a
later stage may rely on, for every part of a source file.
-/

set_option autoImplicit false

namespace JavaProjection

/-! ## Parts without parts -/

/-- The placeholders that can stand for an operand. The others stand for whole statements. -/
def Placeholder.isOperand : Placeholder → Bool
  | .expression | .switchExpression | .unknownCreatorContext => true
  | _ => false

/-- The name of a call. The word `super` calls a constructor and marks the call. -/
def Token.Invokes (name : Token) (isSuper : Bool) : Prop :=
  name.IsName ∨ (name = .withText .kwSuper "super" ∧ isSuper = true) ∨
    name = .withText .kwThis "this"

def Modifiers.Proper (set : Modifiers) : Prop :=
  ∀ code ∈ set.codes, code.isModifier = true

def TypeRef.IsPlain (type : TypeRef) : Prop :=
  ∃ name, type = .plain name

structure ClassHead.WellFormed (head : ClassHead) : Prop where
  modifiers : ∀ set ∈ head.modifiers, set.Proper
  typeParameters : ∀ parameters ∈ head.typeParameters, ∀ parameter ∈ parameters,
    ∀ bound ∈ parameter.bounds, bound.Canonical
  superclass : ∀ type ∈ head.superclass, type.Canonical
  interfaces : ∀ types ∈ head.interfaces, ∀ type ∈ types, type.Canonical

structure VariableHead.WellFormed (head : VariableHead) : Prop where
  modifiers : ∀ set ∈ head.modifiers, set.Proper
  type : ∀ type ∈ head.type, type.Canonical

structure MethodHead.WellFormed (head : MethodHead) : Prop where
  modifiers : ∀ set ∈ head.modifiers, set.Proper
  returnType : ∀ type ∈ head.returnType, type.Canonical
  parameters : ∀ parameter ∈ head.parameters, parameter.type.Canonical
  throws : ∀ type ∈ head.throws, type.IsPlain

structure ConstructorHead.WellFormed (head : ConstructorHead) : Prop where
  modifiers : ∀ set ∈ head.modifiers, set.Proper
  parameters : ∀ parameter ∈ head.parameters, parameter.type.Canonical
  throws : ∀ type ∈ head.throws, type.IsPlain

/-! ## Places of declarations -/

namespace Declaration

/-- A source file declares classes only. -/
def IsClass : Declaration → Prop
  | .classType _ _ => True
  | _ => False

/-- A class may hold any declaration, but its variables have a written type. -/
def IsMember : Declaration → Prop
  | .variable head _ => head.type ≠ none
  | _ => True

/-- A block declares classes and variables. A variable without a written type takes it from the
expression that it starts with. -/
def IsLocal : Declaration → Prop
  | .classType _ _ => True
  | .variable head start =>
    head.type = none → head.dims = 0 ∧ ∃ value, start = some (.expression value)
  | _ => False

theorem IsClass.isMember {declaration : Declaration} (isClass : declaration.IsClass) :
    declaration.IsMember := by
  cases declaration with
  | classType head members => trivial
  | _ => exact isClass.elim

theorem IsClass.isLocal {declaration : Declaration} (isClass : declaration.IsClass) :
    declaration.IsLocal := by
  cases declaration with
  | classType head members => trivial
  | _ => exact isClass.elim

end Declaration

/-! ## Well-formed syntax -/

mutual

def Declaration.WellFormed : Declaration → Prop
  | .classType head members => head.WellFormed ∧ Declaration.MembersWellFormed members
  | .variable head (some initializer) => head.WellFormed ∧ initializer.WellFormed
  | .variable head none => head.WellFormed
  | .method head body => head.WellFormed ∧ BlockStatement.WellFormedAll body
  | .constructor head body => head.WellFormed ∧ BlockStatement.WellFormedAll body
  | .initializer body _ => BlockStatement.WellFormedAll body

def Declaration.MembersWellFormed : List Declaration → Prop
  | [] => True
  | member :: rest =>
    (member.IsMember ∧ member.WellFormed) ∧ Declaration.MembersWellFormed rest

def Initializer.WellFormed : Initializer → Prop
  | .expression value => value.WellFormed
  | .array elements => Initializer.WellFormedAll elements

def Initializer.WellFormedAll : List Initializer → Prop
  | [] => True
  | initializer :: rest => initializer.WellFormed ∧ Initializer.WellFormedAll rest

def BlockStatement.WellFormed : BlockStatement → Prop
  | .declaration value => value.IsLocal ∧ value.WellFormed
  | .statement value => value.WellFormed

def BlockStatement.WellFormedAll : List BlockStatement → Prop
  | [] => True
  | entry :: rest => entry.WellFormed ∧ BlockStatement.WellFormedAll rest

/-- A placeholder that is a whole statement can have any tag. -/
def Statement.WellFormed : Statement → Prop
  | .branch condition thenBranch (some elseBranch) =>
    condition.WellFormed ∧ thenBranch.WellFormed ∧ elseBranch.WellFormed
  | .branch condition thenBranch none => condition.WellFormed ∧ thenBranch.WellFormed
  | .whileLoop condition body => condition.WellFormed ∧ body.WellFormed
  | .doLoop body condition => body.WellFormed ∧ condition.WellFormed
  | .returns (some value) => value.WellFormed
  | .returns none => True
  | .breaks _ => True
  | .continues _ => True
  | .asserts condition (some message) => condition.WellFormed ∧ message.WellFormed
  | .asserts condition none => condition.WellFormed
  | .block body => BlockStatement.WellFormedAll body
  | .expression (.placeholder _) => True
  | .expression value => value.WellFormed

def Expression.WellFormed : Expression → Prop
  | .binary op left right =>
    op.rank ≤ Code.question.rank ∧ left.WellFormed ∧ right.WellFormed
  | .prefixed _ operand => operand.WellFormed
  | .postfixed _ operand => operand.WellFormed
  | .cast type operand => type.Canonical ∧ operand.WellFormed
  | .arrayAccess object index => object.WellFormed ∧ index.WellFormed
  | .fieldAccess object _ field => object.WellFormed ∧ field.IsName
  | .invocation (some target) isSuper name arguments =>
    name.Invokes isSuper ∧ target.WellFormed ∧ Expression.WellFormedAll arguments
  | .invocation none isSuper name arguments =>
    name.Invokes isSuper ∧ Expression.WellFormedAll arguments
  | .instanceCreation type arguments (some body) =>
    type.IsPlain ∧ Expression.WellFormedAll arguments ∧ Declaration.MembersWellFormed body
  | .instanceCreation type arguments none =>
    type.IsPlain ∧ Expression.WellFormedAll arguments
  | .arrayCreation element initializer =>
    element.IsElement ∧ Initializer.WellFormedAll initializer
  | .literal token => token.IsLiteral
  | .reference name => name.toList.length = 1
  | .thisObject => True
  | .parenthesized inner => inner.WellFormed
  | .placeholder tag => tag.isOperand = true

def Expression.WellFormedAll : List Expression → Prop
  | [] => True
  | expression :: rest => expression.WellFormed ∧ Expression.WellFormedAll rest

end

def CompilationUnit.WellFormed (unit : CompilationUnit) : Prop :=
  ∀ declaration ∈ unit.declarations, declaration.IsClass ∧ declaration.WellFormed

/-! ## Lists and optional parts -/

theorem Declaration.membersWellFormed_iff {members : List Declaration} :
    MembersWellFormed members ↔ ∀ member ∈ members, member.IsMember ∧ member.WellFormed := by
  induction members with
  | nil => simp [MembersWellFormed]
  | cons member rest ih => simp only [MembersWellFormed, List.forall_mem_cons, ih]

theorem Initializer.wellFormedAll_iff {initializers : List Initializer} :
    WellFormedAll initializers ↔ ∀ initializer ∈ initializers, initializer.WellFormed := by
  induction initializers with
  | nil => simp [WellFormedAll]
  | cons initializer rest ih => simp only [WellFormedAll, List.forall_mem_cons, ih]

theorem BlockStatement.wellFormedAll_iff {entries : List BlockStatement} :
    WellFormedAll entries ↔ ∀ entry ∈ entries, entry.WellFormed := by
  induction entries with
  | nil => simp [WellFormedAll]
  | cons entry rest ih => simp only [WellFormedAll, List.forall_mem_cons, ih]

theorem Expression.wellFormedAll_iff {expressions : List Expression} :
    WellFormedAll expressions ↔ ∀ expression ∈ expressions, expression.WellFormed := by
  induction expressions with
  | nil => simp [WellFormedAll]
  | cons expression rest ih => simp only [WellFormedAll, List.forall_mem_cons, ih]

theorem Declaration.wellFormed_variable {head : VariableHead} {initializer : Option Initializer}
    (headFormed : head.WellFormed) (formed : ∀ value ∈ initializer, value.WellFormed) :
    (Declaration.variable head initializer).WellFormed := by
  cases initializer with
  | none => exact headFormed
  | some value => exact ⟨headFormed, formed value rfl⟩

theorem Statement.wellFormed_expression {value : Expression} (formed : value.WellFormed) :
    (Statement.expression value).WellFormed := by
  cases value with
  | placeholder tag => trivial
  | _ => exact formed

end JavaProjection
