import JavaProjection.Node.Query

/-!
# Trees as the parser builds them

Nodes made from a rule and their parts, or from a token and its text. They stand nowhere in
particular and have no label until they are given one. What a query finds in such a node can be
read off its parts.
-/

set_option autoImplicit false

namespace JavaProjection

namespace Node

/-! ## Builders -/

def branch (rule : Rule) (children : List Node) : Node :=
  ⟨.rule rule, .zero, children, none, none⟩

def leaf (terminal : Terminal) (text : String) : Node :=
  ⟨.terminal terminal, .zero, [], some text, none⟩

def standingAt (node : Node) (span : Span) : Node :=
  { node with span }

def boundTo (node : Node) (label : String) : Node :=
  { node with label := some label }

def named (name : String) : Node :=
  branch .identifier [leaf .identifier name]

def listed (parts : List Node) : List Node :=
  parts.intersperse (leaf .comma ",")

def dotted (parts : List Node) : List Node :=
  parts.intersperse (leaf .dot ".")

def primaryOf (part : Node) : Node :=
  branch .expression [branch .primary [part]]

/-- The names `a` and `b` with an operator between them. -/
def joined (operator : Terminal) (text : String) : Node :=
  branch .expression [primaryOf (named "a"), (leaf operator text).boundTo "bop",
    primaryOf (named "b")]

def classFile (name : String) (members : List Node) : Node :=
  branch .compilationUnit [branch .typeDeclaration [branch .classDeclaration
    [leaf .kwClass "class", named name, branch .classBody (members.map fun member =>
      branch .classBodyDeclaration [branch .memberDeclaration [member]])]]]

/-- The field `int name = value` for an expression. -/
def intField (name : String) (value : Node) : Node :=
  branch .fieldDeclaration
    [branch .typePrimitiveType [branch .primitiveType [leaf .kwInt "int"]],
      branch .variableDeclarators [branch .variableDeclarator
        [branch .variableDeclaratorId [named name], leaf .assign "=",
          branch .variableInitializer [value]]]]

/-! ## Queries -/

section Query

variable (rule wanted : Rule) (children : List Node) (terminal sought : Terminal)
  (text label : String) (node : Node)

@[simp] theorem kind_branch : (branch rule children).kind = .rule rule :=
  rfl

@[simp] theorem children_branch : (branch rule children).children = children :=
  rfl

@[simp] theorem label_branch : (branch rule children).label = none :=
  rfl

@[simp] theorem kind_leaf : (leaf terminal text).kind = .terminal terminal :=
  rfl

@[simp] theorem label_leaf : (leaf terminal text).label = none :=
  rfl

@[simp] theorem ownText_leaf : (leaf terminal text).ownText = text :=
  rfl

@[simp] theorem kind_boundTo : (node.boundTo label).kind = node.kind :=
  rfl

@[simp] theorem label_boundTo : (node.boundTo label).label = some label :=
  rfl

@[simp] theorem isRule_branch : (branch rule children).isRule wanted = decide (rule = wanted) := by
  rw [Bool.eq_iff_iff]
  simp [isRule]

@[simp] theorem isRule_leaf : (leaf terminal text).isRule wanted = false := by
  simp [isRule]

@[simp] theorem isRule_boundTo : (node.boundTo label).isRule wanted = node.isRule wanted :=
  rfl

@[simp] theorem isTerminal_branch : (branch rule children).isTerminal sought = false := by
  simp [isTerminal]

@[simp] theorem isTerminal_leaf :
    (leaf terminal text).isTerminal sought = decide (terminal = sought) := by
  rw [Bool.eq_iff_iff]
  simp [isTerminal]

@[simp] theorem isTerminal_boundTo :
    (node.boundTo label).isTerminal sought = node.isTerminal sought :=
  rfl

@[simp] theorem label_named : (named text).label = none :=
  rfl

@[simp] theorem isRule_named : (named text).isRule wanted = decide (Rule.identifier = wanted) :=
  isRule_branch ..

@[simp] theorem isTerminal_named : (named text).isTerminal sought = false :=
  isTerminal_branch ..

@[simp] theorem rules_branch :
    (branch rule children).rules wanted = children.filter fun child => child.isRule wanted :=
  rfl

@[simp] theorem ruleAt?_branch (index : Nat) :
    (branch rule children).ruleAt? wanted index =
      (children.filter fun child => child.isRule wanted)[index]? :=
  rfl

@[simp] theorem rule?_branch :
    (branch rule children).rule? wanted = children.find? fun child => child.isRule wanted := by
  rw [rule?, ruleAt?_branch, ← List.head?_eq_getElem?, List.head?_filter]

@[simp] theorem terminal?_branch :
    (branch rule children).terminal? sought =
      children.find? fun child => child.isTerminal sought := by
  rw [terminal?, terminals, List.head?_filter, children_branch]

@[simp] theorem hasTerminal_branch :
    (branch rule children).hasTerminal sought =
      children.any fun child => child.isTerminal sought := by
  rw [Bool.eq_iff_iff, hasTerminal, terminal?_branch, List.find?_isSome, List.any_eq_true]

@[simp] theorem typeNodeAt?_branch (index : Nat) :
    (branch rule children).typeNodeAt? index =
      (children.filter fun child => child.kind.rule?.any Rule.isType)[index]? :=
  rfl

@[simp] theorem labelled?_branch :
    (branch rule children).labelled? label =
      children.find? fun child => child.label == some label :=
  rfl

@[simp] theorem firstTerminal?_branch :
    (branch rule children).firstTerminal? =
      children.find? fun child => child.kind.terminal?.isSome :=
  rfl

theorem filter_intersperse {test : Node → Bool} {separator : Node}
    (skipped : test separator = false) (parts : List Node) :
    (parts.intersperse separator).filter test = parts.filter test := by
  induction parts with
  | nil => rfl
  | cons first rest ih =>
    cases rest with
    | nil => rfl
    | cons second others =>
      rw [List.intersperse_cons_cons]
      simp only [List.filter_cons, skipped, Bool.false_eq_true, if_false, ih]

end Query

end Node

end JavaProjection
