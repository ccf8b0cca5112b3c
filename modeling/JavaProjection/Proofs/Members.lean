import JavaProjection.Proofs.Independence.Outcomes
import JavaProjection.Proofs.Results

/-!
# Members of classes and entries of blocks

What each entry of a class body or of a block gives, said by what stands in it and without the
functions that look through it. A body gives the groups of its entries one after the other.
-/

set_option autoImplicit false

namespace JavaProjection

open Projection

namespace Node

/-! ## Groups -/

section Groups

variable (policy : LiteralPolicy)

/-- The declaration is the variable of the declarator. It has the name, the brackets after the name
and the value of the initializer, if there is one. -/
inductive Declares (modifiers : Option Modifiers) (type : TypeRef) (declarator : Node)
    (declaration : Declaration) : Prop
  | variable {id name : Node} {initial : Option Initializer}
    (idFound : declarator.rule? .variableDeclaratorId = some id)
    (nameFound : id.rule? .identifier = some name)
    (initialized : Option.Rel (fun value result => Returns value.initializer policy result)
      (declarator.rule? .variableInitializer) initial)
    (same : declaration = .variable
      ⟨name.identifierText, modifiers, some type, id.countTerminal .leftBracket⟩ initial)

/-- The declarations are the variables of the node's declarators, one for each and in order, all
with its written type and the given modifiers. -/
inductive DeclaresAll (modifiers : Option Modifiers) (node : Node)
    (declared : List Declaration) : Prop
  | typed {typeNode list : Node} {type : TypeRef}
    (typeFound : node.typeNodeAt? 0 = some typeNode) (typed : typeNode.typeRef = .ok type)
    (listFound : node.rule? .variableDeclarators = some list)
    (each : List.Forall₂ (Declares policy modifiers type) (list.rules .variableDeclarator)
      declared)

/-- What a member gives: the first of a method, a class, fields and a constructor that is there, or
nothing. -/
inductive MemberGroup (modifiers : Option Modifiers) (member : Node)
    (group : List Declaration) : Prop
  | method {declared : Node} {head : MethodHead} {body : Block}
    (found : member.rule? .methodDeclaration = some declared)
    (projected : Returns (declared.method modifiers) policy (.method head body))
    (modified : head.modifiers = modifiers) (single : group = [.method head body])
  | nested {declared : Node} {head : ClassHead} {members : List Declaration}
    (noMethod : member.rule? .methodDeclaration = none)
    (found : member.rule? .classDeclaration = some declared)
    (projected : Returns (declared.classDeclaration modifiers) policy (.classType head members))
    (modified : head.modifiers = modifiers) (single : group = [.classType head members])
  | fields {declared : Node} (noMethod : member.rule? .methodDeclaration = none)
    (noClass : member.rule? .classDeclaration = none)
    (found : member.rule? .fieldDeclaration = some declared)
    (declares : declared.DeclaresAll policy modifiers group)
  | constructor {declared : Node} {head : ConstructorHead} {body : Block}
    (noMethod : member.rule? .methodDeclaration = none)
    (noClass : member.rule? .classDeclaration = none)
    (noField : member.rule? .fieldDeclaration = none)
    (found : member.rule? .constructorDeclaration = some declared)
    (projected : Returns (declared.constructor modifiers) policy (.constructor head body))
    (modified : head.modifiers = modifiers) (single : group = [.constructor head body])
  | nothing (noMethod : member.rule? .methodDeclaration = none)
    (noClass : member.rule? .classDeclaration = none)
    (noField : member.rule? .fieldDeclaration = none)
    (noConstructor : member.rule? .constructorDeclaration = none) (empty : group = [])

/-- What an entry of a class body gives: an initializer if it has a block, otherwise what its
member gives with the modifiers of the entry. -/
inductive EntryGroup (entry : Node) (group : List Declaration) : Prop
  | initializer {body : Node} {statements : Block} (found : entry.rule? .block = some body)
    (projected : Returns body.block policy statements)
    (single : group = [.initializer statements (entry.hasTerminal .kwStatic)])
  | member {member : Node} (noBlock : entry.rule? .block = none)
    (found : entry.rule? .memberDeclaration = some member)
    (gives : member.MemberGroup policy (modifiers? (entry.rules .modifier)) group)
  | nothing (noBlock : entry.rule? .block = none)
    (noMember : entry.rule? .memberDeclaration = none) (empty : group = [])

/-- What a local declaration gives: the variables of its written type, or with `var` the one
variable that has none. -/
inductive LocalGroup (node : Node) (declared : List Declaration) : Prop
  | typed (written : node.hasTerminal .kwVar = false)
    (declares : node.DeclaresAll policy (modifiers? (node.rules .variableModifier)) declared)
  | inferred {name value : Node} {initial : Expression} (inferred : node.hasTerminal .kwVar = true)
    (nameFound : node.rule? .identifier = some name)
    (valueFound : node.rule? .expression = some value)
    (projected : Returns value.expression policy initial)
    (single : declared = [.variable
      ⟨name.identifierText, modifiers? (node.rules .variableModifier), none, 0⟩
      (some (.expression initial))])

/-- What an entry of a block gives: the variables of a local declaration, or one statement, or one
class. -/
inductive BlockGroup (entry : Node) (group : Block) : Prop
  | locals {node : Node} {declared : List Declaration}
    (found : entry.rule? .localVariableDeclaration = some node)
    (gives : node.LocalGroup policy declared) (listed : group = declared.map .declaration)
  | statement {inner : Node} {statement : Statement}
    (noLocals : entry.rule? .localVariableDeclaration = none)
    (found : entry.statementAt? 0 = some inner)
    (projected : Returns inner.statement policy statement) (single : group = [.statement statement])
  | nested {node : Node} {head : ClassHead} {members : List Declaration}
    (noLocals : entry.rule? .localVariableDeclaration = none)
    (noStatement : entry.statementAt? 0 = none)
    (found : entry.rule? .localTypeDeclaration = some node)
    (projected : Returns node.localType policy (.classType head members))
    (single : group = [.declaration (.classType head members)])

end Groups

/-! ## The shapes of single declarations -/

section Shapes

variable (node : Node) (modifiers : Option Modifiers)

theorem method_yields : Yields (node.method modifiers) fun declaration =>
    ∃ head body, declaration = .method head body ∧ head.modifiers = modifiers ∧
      ∃ result, node.rule? .typeTypeOrVoid = some result ∧
        result.firstType? = .ok head.returnType := by
  rw [method]
  split
  · exact Yields.of_throw _
  · next result found =>
    have typed : Yields (liftM result.firstType?) fun returnType =>
        result.firstType? = .ok returnType := Yields.of_lift ⟨fun _ ended => ended⟩
    apply Yields.rules.bind typed
    intro returnType typed
    apply Yields.rules.bind (Yields.trivial _)
    intro name _
    apply Yields.rules.bind (Yields.trivial _)
    intro parameters _
    apply Yields.rules.bind (Yields.trivial _)
    intro throws _
    apply Yields.rules.bind (Yields.trivial _)
    intro body _
    exact Yields.rules.pure ⟨_, body, rfl, rfl, result, found, typed⟩

theorem classDeclaration_yields : Yields (node.classDeclaration modifiers) fun declaration =>
    ∃ head members, declaration = .classType head members ∧ head.modifiers = modifiers := by
  rw [classDeclaration]
  apply Yields.rules.bind (Yields.trivial _)
  intro name _
  apply Yields.rules.bind (Yields.trivial _)
  intro typeParameters _
  apply Yields.rules.bind (Yields.trivial _)
  intro superclass _
  apply Yields.rules.bind (Yields.trivial _)
  intro interfaces _
  apply Yields.rules.bind (Yields.trivial _)
  intro members _
  exact Yields.rules.pure ⟨_, members, rfl, rfl⟩

theorem constructor_yields : Yields (node.constructor modifiers) fun declaration =>
    ∃ head body, declaration = .constructor head body ∧ head.modifiers = modifiers := by
  rw [constructor]
  apply Yields.rules.bind (Yields.trivial _)
  intro parameters _
  apply Yields.rules.bind (Yields.trivial _)
  intro throws _
  apply Yields.rules.bind (Yields.trivial _)
  intro body _
  exact Yields.rules.pure ⟨_, body, rfl, rfl⟩

theorem localType_yields : Yields node.localType fun declaration =>
    ∃ head members, declaration = .classType head members := by
  rw [localType, visitRule_eq]
  apply judged_getD _ (Yields.of_throw _)
  apply judged_map
  intro declared _
  apply (declared.classDeclaration_yields _).mono
  rintro _ ⟨head, members, rfl, _⟩
  exact ⟨head, members, rfl⟩

end Shapes

/-! ## Variables -/

theorem kind_of_mem_rules {node child : Node} {rule : Rule} (member : child ∈ node.rules rule) :
    child.kind = .rule rule :=
  eq_of_beq (List.mem_filter.1 member).2

theorem kind_of_rule? {node child : Node} {rule : Rule} (found : node.rule? rule = some child) :
    child.kind = .rule rule :=
  kind_of_mem_rules (List.mem_of_getElem? found)

section Variables

variable {policy : LiteralPolicy} {node : Node} {modifiers : Option Modifiers}

theorem declarator_returns_iff {type : TypeRef} {declaration : Declaration} :
    Returns (node.declarator modifiers type) policy declaration ↔
      node.Declares policy modifiers type declaration := by
  rw [declarator]
  simp only [visitRule_eq]
  constructor
  · intro returned
    cases idFound : node.rule? .variableDeclaratorId with
    | none =>
      simp only [idFound] at returned
      exact absurd returned Returns.not_throw
    | some id =>
      cases nameFound : id.rule? .identifier with
      | none =>
        simp only [idFound, nameFound] at returned
        exact absurd returned Returns.not_throw
      | some name =>
        simp only [idFound, nameFound] at returned
        obtain ⟨initial, initialized, rfl⟩ := Returns.bind_pure_iff.1 returned
        exact .variable idFound nameFound (Returns.ifPresent_iff.1 initialized) rfl
  · rintro ⟨idFound, nameFound, initialized, rfl⟩
    simp only [idFound, nameFound]
    exact Returns.bind_pure_iff.2 ⟨_, Returns.ifPresent_iff.2 initialized, rfl⟩

theorem declarators_independent (kind : node.kind = .rule .variableDeclarators)
    (modifiers : Option Modifiers) (type : TypeRef) :
    Independent (node.declarators modifiers type) :=
  Independent.simulation.declarators rfl (Independent.simulation.below _) kind modifiers type

theorem declarators_returns_iff {type : TypeRef} {declared : List Declaration} :
    Returns (node.declarators modifiers type) policy declared ↔
      List.Forall₂ (Declares policy modifiers type) (node.rules .variableDeclarator) declared := by
  rw [declarators, visitRules_eq, Returns.inOrder_iff]
  · simp only [declarator_returns_iff]
  · intro declarator member
    exact Independent.simulation.declarator rfl (Independent.simulation.below _)
      (kind_of_mem_rules member) modifiers type

/-- From any reports, the variables of a written type are one for each declarator. -/
theorem typedVariables_ends_iff {gathered : Array Diagnostic} {expected : String}
    {declared : List Declaration} :
    ((node.typedVariables expected modifiers).runFrom policy gathered).1 = .ok declared ↔
      node.DeclaresAll policy modifiers declared := by
  rw [typedVariables]
  simp only [visitRule_eq]
  constructor
  · intro ended
    cases typeFound : node.typeNodeAt? 0 with
    | none =>
      simp only [typeFound, runFrom_throw] at ended
      cases ended
    | some typeNode =>
      -- Reading the type reports nothing, so the declarators start from the same reports.
      simp only [typeFound, runFrom_bind, runFrom_lift] at ended
      cases typed : typeNode.typeRef with
      | error failure =>
        simp only [typed] at ended
        cases ended
      | ok type =>
        cases listFound : node.rule? .variableDeclarators with
        | none =>
          simp only [typed, listFound, Option.map_none, Option.getD_none, runFrom_throw] at ended
          cases ended
        | some list =>
          simp only [typed, listFound, Option.map_some, Option.getD_some] at ended
          have independent := list.declarators_independent (kind_of_rule? listFound) modifiers type
          exact .typed typeFound typed listFound
            (declarators_returns_iff.1 (independent.ends_iff.1 ended))
  · rintro ⟨typeFound, typed, listFound, each⟩
    have independent := declarators_independent (kind_of_rule? listFound) modifiers
    simp only [typeFound, listFound, typed, runFrom_bind, runFrom_lift, Option.map_some,
      Option.getD_some]
    exact (independent _).ends_iff.2 (declarators_returns_iff.2 each)

end Variables

/-! ## Classes -/

section Classes

variable {policy : LiteralPolicy} {node : Node}

/-- The kinds of member are tried in order, and each case records that the earlier ones are
absent. -/
theorem memberGroup_of_returns {modifiers : Option Modifiers} {group : List Declaration}
    (returned : Returns (node.member modifiers) policy group) :
    node.MemberGroup policy modifiers group := by
  -- The forms are tried in the order of the cases; where one is not there, the next is looked for.
  rw [member] at returned
  simp only [visitRule_eq] at returned
  cases method : node.rule? .methodDeclaration with
  | some declared =>
    simp only [method] at returned
    obtain ⟨declaration, projected, rfl⟩ := Returns.bind_pure_iff.1 returned
    obtain ⟨head, body, rfl, modified, _⟩ :=
      (declared.method_yields modifiers).holds policy #[] declaration projected
    exact .method method projected modified rfl
  | none =>
  cases nested : node.rule? .classDeclaration with
  | some declared =>
    simp only [method, nested] at returned
    obtain ⟨declaration, projected, rfl⟩ := Returns.bind_pure_iff.1 returned
    obtain ⟨head, members, rfl, modified⟩ :=
      (declared.classDeclaration_yields modifiers).holds policy #[] declaration projected
    exact .nested method nested projected modified rfl
  | none =>
  cases field : node.rule? .fieldDeclaration with
  | some declared =>
    simp only [method, nested, field] at returned
    exact .fields method nested field (typedVariables_ends_iff.1 returned)
  | none =>
  cases constructor : node.rule? .constructorDeclaration with
  | some declared =>
    simp only [method, nested, field, constructor] at returned
    obtain ⟨declaration, projected, rfl⟩ := Returns.bind_pure_iff.1 returned
    obtain ⟨head, body, rfl, modified⟩ :=
      (declared.constructor_yields modifiers).holds policy #[] declaration projected
    exact .constructor method nested field constructor projected modified rfl
  | none =>
    simp only [method, nested, field, constructor] at returned
    exact .nothing method nested field constructor (Returns.pure_iff.1 returned).symm

theorem MemberGroup.returns {modifiers : Option Modifiers} {group : List Declaration}
    (gives : node.MemberGroup policy modifiers group) :
    Returns (node.member modifiers) policy group := by
  rw [member]
  simp only [visitRule_eq]
  cases gives with
  | method found projected _ single =>
    simp only [found]
    exact Returns.bind_pure_iff.2 ⟨_, projected, single.symm⟩
  | nested noMethod found projected _ single =>
    simp only [noMethod, found]
    exact Returns.bind_pure_iff.2 ⟨_, projected, single.symm⟩
  | fields noMethod noClass found declares =>
    simp only [noMethod, noClass, found]
    exact typedVariables_ends_iff.2 declares
  | constructor noMethod noClass noField found projected _ single =>
    simp only [noMethod, noClass, noField, found]
    exact Returns.bind_pure_iff.2 ⟨_, projected, single.symm⟩
  | nothing noMethod noClass noField noConstructor empty =>
    simp only [noMethod, noClass, noField, noConstructor]
    exact Returns.pure_iff.2 empty.symm

theorem classEntry_returns_iff {group : List Declaration} :
    Returns node.classEntry policy group ↔ node.EntryGroup policy group := by
  rw [classEntry]
  simp only [visitRule_eq]
  constructor
  · intro returned
    cases block : node.rule? .block with
    | some body =>
      simp only [block] at returned
      obtain ⟨statements, projected, rfl⟩ := Returns.bind_pure_iff.1 returned
      exact .initializer block projected rfl
    | none =>
    cases member : node.rule? .memberDeclaration with
    | some declared =>
      simp only [block, member] at returned
      exact .member block member (memberGroup_of_returns returned)
    | none =>
      simp only [block, member] at returned
      exact .nothing block member (Returns.pure_iff.1 returned).symm
  · intro gives
    cases gives with
    | initializer found projected single =>
      simp only [found]
      exact Returns.bind_pure_iff.2 ⟨_, projected, single.symm⟩
    | member noBlock found gives =>
      simp only [noBlock, found]
      exact gives.returns
    | nothing noBlock noMember empty =>
      simp only [noBlock, noMember]
      exact Returns.pure_iff.2 empty.symm

/-- A class body has the groups of its entries one after the other. -/
theorem classBody_returns_iff {members : List Declaration} :
    Returns node.classBody policy members ↔
      ∃ groups, List.Forall₂ (EntryGroup policy) (node.rules .classBodyDeclaration) groups ∧
        members = groups.flatten := by
  have each : ∀ entry ∈ node.rules .classBodyDeclaration, Independent entry.classEntry := by
    intro entry member
    exact Independent.simulation.classEntry rfl (Independent.simulation.below _)
      (kind_of_mem_rules member)
  rw [classBody, visitRules_eq, Returns.map_iff]
  simp only [Returns.inOrder_iff each, classEntry_returns_iff, eq_comm]

end Classes

/-! ## Blocks -/

section Blocks

variable {policy : LiteralPolicy} {node : Node}

theorem localVariables_returns_iff {declared : List Declaration} :
    Returns node.localVariables policy declared ↔ node.LocalGroup policy declared := by
  rw [localVariables]
  simp only [visitRule_eq]
  by_cases inferred : node.hasTerminal .kwVar = true
  · rw [if_pos inferred]
    constructor
    · intro returned
      cases nameFound : node.rule? .identifier with
      | none =>
        simp only [nameFound] at returned
        exact absurd returned Returns.not_throw
      | some name =>
      cases valueFound : node.rule? .expression with
      | none =>
        simp only [nameFound, valueFound, Option.map_none] at returned
        exact absurd returned Returns.not_throw
      | some value =>
        simp only [nameFound, valueFound, Option.map_some] at returned
        obtain ⟨initial, projected, rfl⟩ := Returns.bind_pure_iff.1 returned
        exact .inferred inferred nameFound valueFound projected rfl
    · intro gives
      cases gives with
      | typed written _ =>
        rw [inferred] at written
        cases written
      | inferred _ nameFound valueFound projected single =>
        simp only [nameFound, valueFound, Option.map_some]
        exact Returns.bind_pure_iff.2 ⟨_, projected, single.symm⟩
  · have written : node.hasTerminal .kwVar = false := Bool.eq_false_iff.2 inferred
    rw [if_neg inferred]
    constructor
    · intro returned
      exact .typed written (typedVariables_ends_iff.1 returned)
    · intro gives
      cases gives with
      | typed _ declares => exact typedVariables_ends_iff.2 declares
      | inferred other _ _ _ _ => exact absurd other inferred

theorem blockEntry_returns_iff {group : Block} :
    Returns node.blockEntry policy group ↔ node.BlockGroup policy group := by
  rw [blockEntry]
  simp only [visitRule_eq, visitStatementAt_eq]
  constructor
  · intro returned
    cases locals : node.rule? .localVariableDeclaration with
    | some declaration =>
      simp only [locals] at returned
      obtain ⟨declared, projected, rfl⟩ := Returns.map_iff.1 returned
      exact .locals locals (localVariables_returns_iff.1 projected) rfl
    | none =>
    cases inner : node.statementAt? 0 with
    | some statement =>
      simp only [locals, inner] at returned
      obtain ⟨value, projected, rfl⟩ := Returns.bind_pure_iff.1 returned
      exact .statement locals inner projected rfl
    | none =>
    cases nested : node.rule? .localTypeDeclaration with
    | some type =>
      simp only [locals, inner, nested] at returned
      obtain ⟨declaration, projected, rfl⟩ := Returns.bind_pure_iff.1 returned
      obtain ⟨head, members, rfl⟩ := type.localType_yields.holds policy #[] declaration projected
      exact .nested locals inner nested projected rfl
    | none =>
      simp only [locals, inner, nested] at returned
      exact absurd returned Returns.not_throw
  · intro gives
    cases gives with
    | locals found gives listed =>
      simp only [found]
      exact Returns.map_iff.2 ⟨_, localVariables_returns_iff.2 gives, listed.symm⟩
    | statement noLocals found projected single =>
      simp only [noLocals, found]
      exact Returns.bind_pure_iff.2 ⟨_, projected, single.symm⟩
    | nested noLocals noStatement found projected single =>
      simp only [noLocals, noStatement, found]
      exact Returns.bind_pure_iff.2 ⟨_, projected, single.symm⟩

/-- A block has the groups of its entries one after the other. -/
theorem block_returns_iff {entries : Block} :
    Returns node.block policy entries ↔
      ∃ groups, List.Forall₂ (BlockGroup policy) (node.rules .blockStatement) groups ∧
        entries = groups.flatten := by
  have each : ∀ entry ∈ node.rules .blockStatement, Independent entry.blockEntry := by
    intro entry member
    exact Independent.simulation.blockEntry rfl (Independent.simulation.below _)
      (kind_of_mem_rules member)
  rw [block, visitRules_eq, Returns.map_iff]
  simp only [Returns.inOrder_iff each, blockEntry_returns_iff, eq_comm]

end Blocks

end Node

/-- From any reports, a class body comes to a list of members exactly if these are the groups of
its entries, one after the other; and a block to a list of entries exactly if these are the groups
of its own. -/
theorem bodies_expand (node : Node) (policy : LiteralPolicy) (gathered : Array Diagnostic) :
    (∀ members : List Declaration,
      (node.classBody.runFrom policy gathered).1 = .ok members ↔
        ∃ groups, List.Forall₂ (Node.EntryGroup policy) (node.rules .classBodyDeclaration) groups ∧
          members = groups.flatten) ∧
    ∀ entries : Block,
      (node.block.runFrom policy gathered).1 = .ok entries ↔
        ∃ groups, List.Forall₂ (Node.BlockGroup policy) (node.rules .blockStatement) groups ∧
          entries = groups.flatten := by
  constructor
  · intro members
    rw [(Independent.of_classBody node).ends_iff, Node.classBody_returns_iff]
  · intro entries
    rw [(Independent.of_block node).ends_iff, Node.block_returns_iff]

end JavaProjection
