import JavaProjection.Node.Basic

/-!
# Queries on direct children

All queries look at the direct children of a node only, in the order of the source. The `visit`
forms hand a child found by a query to a function together with the fact that the child is
smaller than the node; a recursive walk that goes down by them ends.
-/

set_option autoImplicit false

namespace JavaProjection

namespace Node

/-! ## Rule children -/

def rules (node : Node) (rule : Rule) : List Node :=
  node.children.filter fun child => child.isRule rule

/-- The child read as `rule` at a position among the children read so. -/
def ruleAt? (node : Node) (rule : Rule) (index : Nat) : Option Node :=
  (node.rules rule)[index]?

def rule? (node : Node) (rule : Rule) : Option Node :=
  node.ruleAt? rule 0

def rulesWhere (node : Node) (test : Rule → Bool) : List Node :=
  node.children.filter fun child => child.kind.rule?.any test

def statements (node : Node) : List Node :=
  node.rulesWhere Rule.isStatement

def statementAt? (node : Node) (index : Nat) : Option Node :=
  node.statements[index]?

def typeNodes (node : Node) : List Node :=
  node.rulesWhere Rule.isType

def typeNodeAt? (node : Node) (index : Nat) : Option Node :=
  node.typeNodes[index]?

/-- The first child read as `rule` that comes after a token of kind `terminal`. -/
def ruleAfter? (node : Node) (terminal : Terminal) (rule : Rule) : Option Node :=
  (node.children.dropWhile fun child => !child.isTerminal terminal).find?
    fun child => child.isRule rule

/-! ## Token children -/

def terminals (node : Node) (terminal : Terminal) : List Node :=
  node.children.filter fun child => child.isTerminal terminal

def terminal? (node : Node) (terminal : Terminal) : Option Node :=
  (node.terminals terminal).head?

def hasTerminal (node : Node) (terminal : Terminal) : Bool :=
  (node.terminal? terminal).isSome

def firstTerminal? (node : Node) : Option Node :=
  node.children.find? fun child => child.kind.terminal?.isSome

def countTerminal (node : Node) (terminal : Terminal) : Nat :=
  (node.terminals terminal).length

/-! ## Labels -/

def labelled? (node : Node) (label : String) : Option Node :=
  node.children.find? fun child => child.label == some label

/-! ## Children are smaller -/

theorem sizeOf_lt_of_mem {child node : Node} (member : child ∈ node.children) :
    sizeOf child < sizeOf node := by
  have inList := List.sizeOf_lt_of_mem member
  cases node
  simp only [mk.sizeOf_spec]
  simp only at inList
  omega

theorem mem_of_mem_rules {node child : Node} {rule : Rule} (found : child ∈ node.rules rule) :
    child ∈ node.children :=
  (List.mem_filter.1 found).1

theorem mem_of_ruleAt? {node child : Node} {rule : Rule} {index : Nat}
    (found : node.ruleAt? rule index = some child) : child ∈ node.children :=
  mem_of_mem_rules (List.mem_of_getElem? found)

theorem mem_of_mem_rulesWhere {node child : Node} {test : Rule → Bool}
    (found : child ∈ node.rulesWhere test) : child ∈ node.children :=
  (List.mem_filter.1 found).1

theorem mem_of_statementAt? {node child : Node} {index : Nat}
    (found : node.statementAt? index = some child) : child ∈ node.children :=
  mem_of_mem_rulesWhere (List.mem_of_getElem? found)

theorem mem_of_typeNodeAt? {node child : Node} {index : Nat}
    (found : node.typeNodeAt? index = some child) : child ∈ node.children :=
  mem_of_mem_rulesWhere (List.mem_of_getElem? found)

theorem mem_of_labelled? {node child : Node} {label : String}
    (found : node.labelled? label = some child) : child ∈ node.children :=
  List.mem_of_find?_eq_some found

/-! ## Visits -/

section Visit

variable {β : Type} (node : Node)

def visitRuleAt (rule : Rule) (index : Nat)
    (visit : (child : Node) → sizeOf child < sizeOf node → β) : Option β :=
  (node.ruleAt? rule index).pmap visit fun _ found => sizeOf_lt_of_mem (mem_of_ruleAt? found)

def visitRule (rule : Rule) (visit : (child : Node) → sizeOf child < sizeOf node → β) :
    Option β :=
  node.visitRuleAt rule 0 visit

def visitRules (rule : Rule) (visit : (child : Node) → sizeOf child < sizeOf node → β) :
    List β :=
  (node.rules rule).pmap visit fun _ found => sizeOf_lt_of_mem (mem_of_mem_rules found)

def visitStatementAt (index : Nat)
    (visit : (child : Node) → sizeOf child < sizeOf node → β) : Option β :=
  (node.statementAt? index).pmap visit fun _ found =>
    sizeOf_lt_of_mem (mem_of_statementAt? found)

def visitTypeAt (index : Nat)
    (visit : (child : Node) → sizeOf child < sizeOf node → β) : Option β :=
  (node.typeNodeAt? index).pmap visit fun _ found =>
    sizeOf_lt_of_mem (mem_of_typeNodeAt? found)

def visitLabelled (label : String)
    (visit : (child : Node) → sizeOf child < sizeOf node → β) : Option β :=
  (node.labelled? label).pmap visit fun _ found => sizeOf_lt_of_mem (mem_of_labelled? found)

@[simp] theorem visitRuleAt_eq (rule : Rule) (index : Nat) (f : Node → β) :
    (node.visitRuleAt rule index fun child _ => f child) = (node.ruleAt? rule index).map f :=
  Option.pmap_eq_map _ _ _ _

@[simp] theorem visitRule_eq (rule : Rule) (f : Node → β) :
    (node.visitRule rule fun child _ => f child) = (node.rule? rule).map f :=
  Option.pmap_eq_map _ _ _ _

@[simp] theorem visitRules_eq (rule : Rule) (f : Node → β) :
    (node.visitRules rule fun child _ => f child) = (node.rules rule).map f :=
  List.pmap_eq_map ..

@[simp] theorem visitStatementAt_eq (index : Nat) (f : Node → β) :
    (node.visitStatementAt index fun child _ => f child) = (node.statementAt? index).map f :=
  Option.pmap_eq_map _ _ _ _

@[simp] theorem visitTypeAt_eq (index : Nat) (f : Node → β) :
    (node.visitTypeAt index fun child _ => f child) = (node.typeNodeAt? index).map f :=
  Option.pmap_eq_map _ _ _ _

@[simp] theorem visitLabelled_eq (label : String) (f : Node → β) :
    (node.visitLabelled label fun child _ => f child) = (node.labelled? label).map f :=
  Option.pmap_eq_map _ _ _ _

end Visit

end Node

end JavaProjection
