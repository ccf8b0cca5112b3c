import JavaProjection.Ast
import JavaProjection.Node.Query

/-!
# Sizes of syntax and of trees

Syntax is measured by its expressions, a tree by its nodes. A call behind a dot with nothing in
front of the dot is taken for its own object and so projected twice. The cost of a tree is its
size with such calls counted twice, and it is the size itself if there are none.
-/

set_option autoImplicit false

namespace JavaProjection

/-! ## Expressions of syntax -/

mutual

def Declaration.expressionCount : Declaration → Nat
  | .classType _ members => Declaration.expressionCountAll members
  | .variable _ (some initializer) => initializer.expressionCount
  | .variable _ none => 0
  | .method _ body => BlockStatement.expressionCountAll body
  | .constructor _ body => BlockStatement.expressionCountAll body
  | .initializer body _ => BlockStatement.expressionCountAll body

def Declaration.expressionCountAll : List Declaration → Nat
  | [] => 0
  | declaration :: rest => declaration.expressionCount + Declaration.expressionCountAll rest

def Initializer.expressionCount : Initializer → Nat
  | .expression value => value.expressionCount
  | .array elements => Initializer.expressionCountAll elements

def Initializer.expressionCountAll : List Initializer → Nat
  | [] => 0
  | initializer :: rest => initializer.expressionCount + Initializer.expressionCountAll rest

def BlockStatement.expressionCount : BlockStatement → Nat
  | .declaration value => value.expressionCount
  | .statement value => value.expressionCount

def BlockStatement.expressionCountAll : List BlockStatement → Nat
  | [] => 0
  | entry :: rest => entry.expressionCount + BlockStatement.expressionCountAll rest

def Statement.expressionCount : Statement → Nat
  | .branch condition thenBranch (some elseBranch) =>
    condition.expressionCount + thenBranch.expressionCount + elseBranch.expressionCount
  | .branch condition thenBranch none => condition.expressionCount + thenBranch.expressionCount
  | .whileLoop condition body => condition.expressionCount + body.expressionCount
  | .doLoop body condition => body.expressionCount + condition.expressionCount
  | .returns (some value) => value.expressionCount
  | .returns none => 0
  | .breaks _ => 0
  | .continues _ => 0
  | .asserts condition (some message) => condition.expressionCount + message.expressionCount
  | .asserts condition none => condition.expressionCount
  | .block body => BlockStatement.expressionCountAll body
  | .expression value => value.expressionCount

def Expression.expressionCount : Expression → Nat
  | .binary _ left right => 1 + left.expressionCount + right.expressionCount
  | .prefixed _ operand => 1 + operand.expressionCount
  | .postfixed _ operand => 1 + operand.expressionCount
  | .cast _ operand => 1 + operand.expressionCount
  | .arrayAccess object index => 1 + object.expressionCount + index.expressionCount
  | .fieldAccess object _ _ => 1 + object.expressionCount
  | .invocation (some target) _ _ arguments =>
    1 + target.expressionCount + Expression.expressionCountAll arguments
  | .invocation none _ _ arguments => 1 + Expression.expressionCountAll arguments
  | .instanceCreation _ arguments (some body) =>
    1 + Expression.expressionCountAll arguments + Declaration.expressionCountAll body
  | .instanceCreation _ arguments none => 1 + Expression.expressionCountAll arguments
  | .arrayCreation _ initializer => 1 + Initializer.expressionCountAll initializer
  | .literal _ => 1
  | .reference _ => 1
  | .thisObject => 1
  | .parenthesized inner => 1 + inner.expressionCount
  | .placeholder _ => 1

def Expression.expressionCountAll : List Expression → Nat
  | [] => 0
  | expression :: rest => expression.expressionCount + Expression.expressionCountAll rest

end

def CompilationUnit.expressionCount (unit : CompilationUnit) : Nat :=
  Declaration.expressionCountAll unit.declarations

theorem Declaration.expressionCountAll_append (first second : List Declaration) :
    expressionCountAll (first ++ second) =
      expressionCountAll first + expressionCountAll second := by
  induction first with
  | nil => simp [expressionCountAll]
  | cons declaration rest ih => simp only [List.cons_append, expressionCountAll, ih, Nat.add_assoc]

theorem BlockStatement.expressionCountAll_append (first second : List BlockStatement) :
    expressionCountAll (first ++ second) =
      expressionCountAll first + expressionCountAll second := by
  induction first with
  | nil => simp [expressionCountAll]
  | cons entry rest ih => simp only [List.cons_append, expressionCountAll, ih, Nat.add_assoc]

theorem BlockStatement.expressionCountAll_declarations (declarations : List Declaration) :
    expressionCountAll (declarations.map .declaration) =
      Declaration.expressionCountAll declarations := by
  induction declarations with
  | nil => rfl
  | cons declaration rest ih =>
    simp only [List.map_cons, expressionCountAll, expressionCount, Declaration.expressionCountAll,
      ih]

/-! ## Costs of trees -/

namespace Node

/-- Nothing in the node but a call can be taken for an object. -/
def lacksObject (node : Node) : Bool :=
  !node.hasTerminal .colonColon && (node.rule? .expression).isNone &&
    (node.rule? .primary).isNone && (node.rule? .identifier).isNone &&
    (node.rule? .creator).isNone

/-- The node is a call behind a dot that is taken for its own object. -/
def callsItself (node : Node) : Bool :=
  (node.labelled? "bop").any (fun operator => operator.isTerminal .dot) &&
    (node.rule? .methodCall).isSome && node.lacksObject

mutual

/-- The number of nodes at and below the node, with the calls that are taken for their own
objects counted twice. -/
def cost : Node → Nat
  | ⟨kind, span, children, text, label⟩ =>
    1 + costAll children +
      if callsItself ⟨kind, span, children, text, label⟩ then firstCallCost children else 0

def costAll : List Node → Nat
  | [] => 0
  | child :: rest => child.cost + costAll rest

def firstCallCost : List Node → Nat
  | [] => 0
  | child :: rest => if child.isRule .methodCall then child.cost else firstCallCost rest

end

def foundCost (found : Option Node) : Nat :=
  found.elim 0 cost

theorem firstCallCost_eq (nodes : List Node) :
    firstCallCost nodes = foundCost (nodes.find? fun child => child.isRule .methodCall) := by
  induction nodes with
  | nil => rfl
  | cons child rest ih =>
    rw [firstCallCost, List.find?_cons]
    cases child.isRule .methodCall with
    | true => rfl
    | false => exact ih

theorem cost_eq (node : Node) :
    node.cost = 1 + costAll node.children +
      if node.callsItself then foundCost (node.rule? .methodCall) else 0 := by
  have first : node.rule? .methodCall =
      node.children.find? fun child => child.isRule .methodCall := by
    rw [rule?, ruleAt?, rules, ← List.head?_eq_getElem?, List.head?_filter]
  rw [first, ← firstCallCost_eq]
  cases node
  rw [cost]

theorem children_lt_cost (node : Node) : costAll node.children < node.cost := by
  rw [cost_eq]
  omega

theorem children_le_cost (node : Node) : costAll node.children ≤ node.cost :=
  Nat.le_of_lt node.children_lt_cost

theorem cost_pos (node : Node) : 0 < node.cost :=
  Nat.lt_of_le_of_lt (Nat.zero_le _) node.children_lt_cost

/-! ## Costs of parts -/

theorem costAll_filter_le_filter {test wider : Node → Bool} (nodes : List Node)
    (implies : ∀ node, test node = true → wider node = true) :
    costAll (nodes.filter test) ≤ costAll (nodes.filter wider) := by
  induction nodes with
  | nil => exact Nat.le_refl _
  | cons node rest ih =>
    have here := implies node
    by_cases kept : test node = true
    · simp only [List.filter_cons, kept, here kept, if_true, costAll]
      omega
    · by_cases keptWider : wider node = true <;>
        simp only [List.filter_cons, kept, keptWider, if_true, if_false, costAll,
          Bool.false_eq_true] <;> omega

/-- Queries that can never find the same child share the cost of the children between them. -/
theorem costAll_filter_add_le {test other : Node → Bool} (nodes : List Node)
    (disjoint : ∀ node, test node = true → other node = false) :
    costAll (nodes.filter test) + costAll (nodes.filter other) ≤ costAll nodes := by
  induction nodes with
  | nil => exact Nat.le_refl _
  | cons node rest ih =>
    have here := disjoint node
    by_cases kept : test node = true
    · simp only [List.filter_cons, kept, here kept, if_true, if_false, costAll,
        Bool.false_eq_true]
      omega
    · by_cases keptOther : other node = true <;>
        simp only [List.filter_cons, kept, keptOther, if_true, if_false, costAll,
          Bool.false_eq_true] <;> omega

theorem costAll_filter_le (test : Node → Bool) (nodes : List Node) :
    costAll (nodes.filter test) ≤ costAll nodes := by
  calc costAll (nodes.filter test)
    _ ≤ costAll (nodes.filter fun _ => true) := costAll_filter_le_filter nodes fun _ _ => rfl
    _ = costAll nodes := by rw [List.filter_eq_self.2 fun _ _ => rfl]

theorem cost_le_of_mem {child : Node} {nodes : List Node} (member : child ∈ nodes) :
    child.cost ≤ costAll nodes := by
  induction nodes with
  | nil => cases member
  | cons first rest ih =>
    rw [costAll]
    rcases List.mem_cons.1 member with rfl | inRest
    · omega
    · have := ih inRest
      omega

theorem foundCost_le {nodes : List Node} {found : Option Node}
    (each : ∀ child ∈ found, child ∈ nodes) : foundCost found ≤ costAll nodes := by
  cases found with
  | none => exact Nat.zero_le _
  | some child => exact cost_le_of_mem (each child rfl)

theorem foundCost_first_two_le (nodes : List Node) :
    foundCost nodes[0]? + foundCost nodes[1]? ≤ costAll nodes := by
  match nodes with
  | [] => exact Nat.le_refl _
  | [only] => exact Nat.le_refl _
  | first :: second :: rest =>
    simp only [List.getElem?_cons_zero, List.getElem?_cons_succ, foundCost, Option.elim_some,
      costAll]
    omega

/-! ## Costs of what queries find -/

section Query

variable (node : Node) (rule : Rule)

theorem rules_le : costAll (node.rules rule) ≤ costAll node.children :=
  costAll_filter_le _ _

theorem ruleAt?_le (index : Nat) :
    foundCost (node.ruleAt? rule index) ≤ costAll (node.rules rule) :=
  foundCost_le fun _ found => List.mem_of_getElem? found

theorem rule?_le : foundCost (node.rule? rule) ≤ costAll node.children :=
  Nat.le_trans (node.ruleAt?_le rule 0) (node.rules_le rule)

theorem labelled?_le (label : String) :
    foundCost (node.labelled? label) ≤ costAll node.children :=
  foundCost_le fun _ found => mem_of_labelled? found

theorem first_two_le :
    foundCost (node.ruleAt? rule 0) + foundCost (node.ruleAt? rule 1) ≤ costAll node.children :=
  Nat.le_trans (foundCost_first_two_le _) (node.rules_le rule)

theorem rule?_add_rule?_le {rule other : Rule} (different : rule ≠ other) :
    foundCost (node.rule? rule) + foundCost (node.rule? other) ≤ costAll node.children := by
  have disjoint : costAll (node.rules rule) + costAll (node.rules other) ≤
      costAll node.children := by
    apply costAll_filter_add_le
    intro child isRule
    have kind : child.kind = .rule rule := eq_of_beq isRule
    simp [Node.isRule, kind, different]
  have first := node.ruleAt?_le rule 0
  have second := node.ruleAt?_le other 0
  unfold rule?
  omega

theorem condition_and_statements_le :
    foundCost (node.rule? .parExpression) + foundCost (node.statementAt? 0) +
      foundCost (node.statementAt? 1) ≤ costAll node.children := by
  have disjoint : costAll (node.rules .parExpression) + costAll node.statements ≤
      costAll node.children := by
    apply costAll_filter_add_le
    intro child isRule
    have kind : child.kind = .rule .parExpression := eq_of_beq isRule
    rw [kind]
    rfl
  have condition := node.ruleAt?_le .parExpression 0
  have statements := foundCost_first_two_le node.statements
  unfold rule? statementAt?
  omega

/-- The cost of the children that are neither a call nor a name. -/
def costOfOthers : Nat :=
  costAll (node.children.filter fun child =>
    !child.isRule .methodCall && !child.isRule .identifier)

theorem rules_le_costOfOthers (noCall : rule ≠ .methodCall) (noName : rule ≠ .identifier) :
    costAll (node.rules rule) ≤ node.costOfOthers := by
  apply costAll_filter_le_filter
  intro child isRule
  have kind : child.kind = .rule rule := eq_of_beq isRule
  simp [Node.isRule, kind, noCall, noName]

theorem rule?_le_costOfOthers (noCall : rule ≠ .methodCall) (noName : rule ≠ .identifier) :
    foundCost (node.rule? rule) ≤ node.costOfOthers :=
  Nat.le_trans (node.ruleAt?_le rule 0) (node.rules_le_costOfOthers rule noCall noName)

theorem operands_le_costOfOthers :
    foundCost (node.ruleAt? .expression 0) + foundCost (node.ruleAt? .expression 1) ≤
      node.costOfOthers :=
  Nat.le_trans (foundCost_first_two_le _)
    (node.rules_le_costOfOthers .expression (by decide) (by decide))

theorem costOfOthers_add_rule?_le (apart : rule = .methodCall ∨ rule = .identifier) :
    node.costOfOthers + foundCost (node.rule? rule) ≤ costAll node.children := by
  have disjoint : node.costOfOthers + costAll (node.rules rule) ≤ costAll node.children := by
    apply costAll_filter_add_le
    intro child other
    rw [Bool.and_eq_true, Bool.not_eq_true', Bool.not_eq_true'] at other
    rcases apart with rfl | rfl
    · exact other.1
    · exact other.2
  have found := node.ruleAt?_le rule 0
  unfold rule?
  omega

/-- What the object of the call or field that the node spells can cost. -/
def objectCost : Nat :=
  1 + node.costOfOthers + if node.lacksObject then foundCost (node.rule? .methodCall) else 0

theorem costOfOthers_lt_objectCost : node.costOfOthers < node.objectCost := by
  unfold objectCost
  omega

theorem objectCost_le_cost : node.objectCost ≤ node.cost := by
  have apart := node.costOfOthers_add_rule?_le .methodCall (Or.inl rfl)
  have below := node.children_lt_cost
  unfold objectCost
  split <;> omega

/-- The only node that is paid for twice is a call taken for its own object, and its cost counts
twice for that. -/
theorem objectCost_add_call_le_cost
    (dotted : (node.labelled? "bop").any (fun operator => operator.isTerminal .dot) = true) :
    node.objectCost + foundCost (node.rule? .methodCall) ≤ node.cost := by
  have apart := node.costOfOthers_add_rule?_le .methodCall (Or.inl rfl)
  cases called : node.rule? .methodCall with
  | none => exact node.objectCost_le_cost
  | some call =>
    rw [called] at apart
    unfold objectCost
    by_cases lacks : node.lacksObject = true
    · have repeated : node.callsItself = true := by simp [callsItself, dotted, called, lacks]
      rw [cost_eq, if_pos lacks, if_pos repeated, called]
      omega
    · rw [if_neg lacks]
      have below := node.children_lt_cost
      omega

theorem objectCost_lt_cost_of_name {name : Node} (named : node.rule? .identifier = some name) :
    node.objectCost < node.cost := by
  have apart := node.costOfOthers_add_rule?_le .identifier (Or.inr rfl)
  have below := node.children_lt_cost
  have positive := name.cost_pos
  have object : node.lacksObject = false := by simp [lacksObject, named]
  simp only [named, foundCost, Option.elim_some] at apart
  simp only [objectCost, object, Bool.false_eq_true, if_false]
  omega

end Query

/-! ## Trees without repeated calls -/

mutual

/-- Somewhere in the tree a call is taken for its own object. -/
def repeatsCall : Node → Bool
  | ⟨kind, span, children, text, label⟩ =>
    callsItself ⟨kind, span, children, text, label⟩ || repeatsCallAny children

def repeatsCallAny : List Node → Bool
  | [] => false
  | child :: rest => child.repeatsCall || repeatsCallAny rest

end

mutual

theorem cost_eq_size : (node : Node) → node.repeatsCall = false → node.cost = node.size
  | ⟨kind, span, children, text, label⟩, once => by
    rw [repeatsCall, Bool.or_eq_false_iff] at once
    rw [cost, size, once.1, costAll_eq_sizeAll children once.2]
    rfl

theorem costAll_eq_sizeAll : (nodes : List Node) → repeatsCallAny nodes = false →
    costAll nodes = sizeAll nodes
  | [], _ => rfl
  | node :: rest, once => by
    rw [repeatsCallAny, Bool.or_eq_false_iff] at once
    rw [costAll, sizeAll, cost_eq_size node once.1, costAll_eq_sizeAll rest once.2]

end

end Node

end JavaProjection
