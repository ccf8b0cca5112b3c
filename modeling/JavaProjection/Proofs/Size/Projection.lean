import Mathlib
import JavaProjection.Proofs.Literals
import JavaProjection.Proofs.Results
import JavaProjection.Proofs.Size.Syntax
import JavaProjection.Proofs.Trees

/-!
# Projections are no larger than their trees

One theorem for each function of the projection: its result has at most as many expressions as the
node costs. Different parts of a result come from different children, and the one expression that
a function may add stands for the node itself. Only a call behind a dot with nothing in front of
the dot is read twice, as the call and as the object it is on.
-/

set_option autoImplicit false

namespace JavaProjection

open Projection

/-! ## Bounded results -/

/-- What the projection ends with counts no more than the bound. -/
def Within {α : Type} (projection : Projection α) (count : α → Nat) (bound : Nat) : Prop :=
  Yields projection fun value => count value ≤ bound

def WithinIf {α : Type} (candidate : Option (Projection α)) (count : α → Nat) (bound : Nat) :
    Prop :=
  ∀ inner, candidate = some inner → Within inner count bound

namespace Within

variable {α β : Type} {count : α → Nat} {further : β → Nat} {bound limit : Nat}

theorem of_pure {value : α} (within : count value ≤ bound) :
    Within (pure value : Projection α) count bound :=
  Yields.rules.pure within

theorem of_throw (failure : Failure) : Within (throw failure : Projection α) count bound :=
  Yields.of_throw failure

theorem mono {projection : Projection α} (within : Within projection count bound)
    (lower : bound ≤ limit) : Within projection count limit :=
  Yields.mono within fun _ holds => Nat.le_trans holds lower

theorem bind {first : Projection α} {next : α → Projection β} (head : Within first count bound)
    (tail : ∀ value, count value ≤ bound → Within (next value) further limit) :
    Within (first >>= next) further limit :=
  Yields.rules.bind head tail

/-- What is made of a result counts as much as the result. -/
theorem bind_pure {f : α → β} {projection : Projection α}
    (within : Within projection count bound) (same : ∀ value, further (f value) = count value) :
    Within (projection >>= fun value => pure (f value)) further bound :=
  bind within fun value holds => of_pure ((same value).symm ▸ holds)

theorem bind_lift {outcome : Except Failure α} {next : α → Projection β}
    (tail : ∀ value, Within (next value) further limit) :
    Within (liftM outcome >>= next) further limit :=
  Yields.rules.bind (Yields.of_lift (Gives.trivial outcome)) fun value _ => tail value

theorem map {f : α → β} {projection : Projection α}
    (within : Within projection (fun value => further (f value)) limit) :
    Within (f <$> projection) further limit :=
  Yields.rules.map within

theorem congr {other : α → Nat} {projection : Projection α}
    (within : Within projection count bound) (same : ∀ value, count value = other value) :
    Within projection other bound :=
  funext same ▸ within

theorem ifPresent {candidate : Option (Projection α)} (within : WithinIf candidate count bound) :
    Within (Projection.ifPresent candidate) (fun result => result.elim 0 count) bound := by
  cases candidate with
  | none => exact of_pure (Nat.zero_le _)
  | some inner => exact bind (within inner rfl) fun value holds => of_pure holds

theorem inOrder (all : List α → Nat) {f : Node → Projection α} {nodes : List Node}
    (nil : all [] = 0) (cons : ∀ value rest, all (value :: rest) = count value + all rest)
    (each : ∀ c ∈ nodes, Within (f c) count c.cost) :
    Within (Projection.inOrder (nodes.map f)) all (Node.costAll nodes) := by
  induction nodes with
  | nil => exact of_pure (Nat.le_of_eq nil)
  | cons c rest ih =>
    obtain ⟨head, tail⟩ := List.forall_mem_cons.1 each
    refine bind head fun value here => bind (ih tail) fun values there => of_pure ?_
    rw [cons, Node.costAll]
    omega

end Within

namespace WithinIf

variable {α : Type} {count : α → Nat} {bound limit : Nat}

theorem getD {candidate : Option (Projection α)} {otherwise : Projection α}
    (present : WithinIf candidate count bound) (absent : Within otherwise count bound) :
    Within (candidate.getD otherwise) count bound := by
  cases candidate with
  | none => exact absent
  | some inner => exact present inner rfl

/-- The second candidate counts only if there is no first. -/
theorem orElse {first second : Option (Projection α)} (head : WithinIf first count bound)
    (tail : first = none → WithinIf second count bound) :
    WithinIf (first <|> second) count bound := by
  cases first with
  | none => exact tail rfl
  | some inner => exact head

theorem mono {candidate : Option (Projection α)} (within : WithinIf candidate count bound)
    (lower : bound ≤ limit) : WithinIf candidate count limit := by
  intro inner found
  exact (within inner found).mono lower

theorem found {f : Node → Projection α} {child : Option Node}
    (each : ∀ c, child = some c → Within (f c) count c.cost) :
    WithinIf (child.map f) count (Node.foundCost child) := by
  intro inner found
  obtain ⟨c, rfl, rfl⟩ := Option.map_eq_some_iff.1 found
  exact each c rfl

end WithinIf

/-! ## Results from children -/

section Children

variable {α : Type} {count : α → Nat} {x : Node} {f : Node → Projection α}

theorem withinIf_ruleAt {rule : Rule} {index : Nat}
    (each : ∀ c ∈ x.children, Within (f c) count c.cost) :
    WithinIf ((x.ruleAt? rule index).map f) count (Node.foundCost (x.ruleAt? rule index)) :=
  .found fun c found => each c (Node.mem_of_ruleAt? found)

theorem withinIf_rule {rule : Rule} (each : ∀ c ∈ x.children, Within (f c) count c.cost) :
    WithinIf ((x.rule? rule).map f) count (Node.foundCost (x.rule? rule)) :=
  withinIf_ruleAt each

theorem withinIf_child {rule : Rule} (each : ∀ c ∈ x.children, Within (f c) count c.cost) :
    WithinIf ((x.rule? rule).map f) count (Node.costAll x.children) :=
  (withinIf_rule each).mono (x.rule?_le rule)

theorem withinIf_cost {rule : Rule} (each : ∀ c ∈ x.children, Within (f c) count c.cost) :
    WithinIf ((x.rule? rule).map f) count x.cost :=
  (withinIf_child each).mono x.children_le_cost

theorem withinIf_statementAt {index : Nat}
    (each : ∀ c ∈ x.children, Within (f c) count c.cost) :
    WithinIf ((x.statementAt? index).map f) count (Node.foundCost (x.statementAt? index)) :=
  .found fun c found => each c (Node.mem_of_statementAt? found)

theorem within_rules (all : List α → Nat) {rule : Rule} (nil : all [] = 0)
    (cons : ∀ value rest, all (value :: rest) = count value + all rest)
    (each : ∀ c ∈ x.children, Within (f c) count c.cost) :
    Within (inOrder ((x.rules rule).map f)) all (Node.costAll x.children) :=
  (Within.inOrder all nil cons fun c member => each c (Node.mem_of_mem_rules member)).mono
    (x.rules_le rule)

end Children

/-! ## Leaves -/

namespace Node

theorem placeholder_within (node : Node) (tag : Placeholder) (construct : String) {bound : Nat}
    (room : 0 < bound) :
    Within (node.placeholder tag construct) Expression.expressionCount bound :=
  Yields.rules.bind (Yields.of_report _) fun _ _ => Within.of_pure room

theorem unsupportedLiteral_within (node : Node) {bound : Nat} (room : 0 < bound) :
    Within node.unsupportedLiteral Expression.expressionCount bound := by
  constructor
  intro policy gathered value ended
  cases policy with
  | reject => cases ended
  | sentinel =>
    cases ended
    exact room

theorem literal_within {node : Node} (kind : node.kind = .rule .literal) {bound : Nat}
    (room : 0 < bound) : Within node.literal Expression.expressionCount bound := by
  cases readsLiteral kind with
  | kept token read =>
    rw [read]
    exact .of_pure room
  | unreadable part _ _ read =>
    rw [read]
    exact .of_throw _
  | unsupported part _ _ read =>
    rw [read]
    exact part.unsupportedLiteral_within room

theorem reference?_count {node : Node} {reference : Expression}
    (found : node.reference? = some reference) : reference.expressionCount = 1 := by
  obtain ⟨identifier, _, rfl⟩ := Option.map_eq_some_iff.1 found
  rfl

/-- What no form before the call fits has no object but the call. -/
theorem lacksObject_of_none {node : Node} (noForm : node.uncodedForm? = none)
    (noNested : node.rule? .expression = none) (noPrimary : node.rule? .primary = none)
    (noName : node.reference? = none) (noCreator : node.rule? .creator = none) :
    node.lacksObject = true := by
  have plain : node.hasTerminal .colonColon = false := by
    unfold uncodedForm? at noForm
    split at noForm
    · cases noForm
    · next other => exact Bool.eq_false_iff.2 other
  unfold reference? at noName
  rw [Option.map_eq_none_iff] at noName
  simp [lacksObject, plain, noNested, noPrimary, noName, noCreator]

end Node

/-! ## Expressions -/

/-- The functions through which all recursion passes stay within the cost of the node. -/
structure StaysWithin (x : Node) : Prop where
  expression : Within x.expression Expression.expressionCount x.cost
  initializers : Within x.initializers Initializer.expressionCountAll x.cost
  statement : Within x.statement Statement.expressionCount x.cost
  classBody : Within x.classBody Declaration.expressionCountAll x.cost

def BelowWithin (x : Node) : Prop :=
  ∀ ⦃c : Node⦄, sizeOf c < sizeOf x → StaysWithin c

namespace BelowWithin

variable {x : Node}

theorem child {c : Node} (below : BelowWithin x) (member : c ∈ x.children) :
    StaysWithin c ∧ BelowWithin c := by
  have smaller := Node.sizeOf_lt_of_mem member
  refine ⟨below smaller, ?_⟩
  intro d inner
  exact below (Nat.lt_trans inner smaller)

theorem operandAt (below : BelowWithin x) (index : Nat) (expected : String) :
    Within (x.operandAt index expected) Expression.expressionCount
      (Node.foundCost (x.ruleAt? .expression index)) := by
  rw [Node.operandAt, Node.visitRuleAt_eq]
  exact (withinIf_ruleAt fun c member => (below.child member).1.expression).getD (.of_throw _)

theorem expressions (below : BelowWithin x) :
    Within x.expressions Expression.expressionCountAll x.cost := by
  rw [Node.expressions, Node.visitRules_eq]
  refine Within.mono ?_ x.children_le_cost
  exact within_rules _ rfl (fun _ _ => rfl) fun c member => (below.child member).1.expression

theorem arguments (below : BelowWithin x) :
    Within x.arguments Expression.expressionCountAll x.cost := by
  rw [Node.arguments, Node.visitRule_eq]
  refine Within.mono ?_ x.children_le_cost
  exact (withinIf_child fun c member => (below.child member).2.expressions).getD
    (.of_pure (Nat.zero_le _))

/-- A call adds itself and its arguments to the object it is on. -/
theorem invocation (below : BelowWithin x) (target : Option Expression) (onSuper : Bool) :
    Within (x.invocation target onSuper) Expression.expressionCount
      (target.elim 0 Expression.expressionCount + x.cost) := by
  rw [Node.invocation]
  simp only [Node.visitRule_eq]
  have given : Within (((x.rule? .expressionList).map Node.expressions
      <|> (x.rule? .arguments).map Node.arguments).getD (pure []))
      Expression.expressionCountAll (Node.costAll x.children) := by
    refine WithinIf.getD (.orElse ?_ fun _ => ?_) (.of_pure (Nat.zero_le _))
    · exact withinIf_child fun c member => (below.child member).2.expressions
    · exact withinIf_child fun c member => (below.child member).2.arguments
  refine .bind_lift fun name => .bind given fun arguments within => .of_pure ?_
  have here := x.children_lt_cost
  cases target <;> simp only [Expression.expressionCount, Option.elim_none, Option.elim_some] <;>
    omega

theorem initializer (below : BelowWithin x) :
    Within x.initializer Initializer.expressionCount x.cost := by
  rw [Node.initializer, Node.visitRule_eq]
  refine Within.mono ?_ x.children_le_cost
  split
  · next elements found =>
    exact .map (withinIf_child (fun c member => (below.child member).1.initializers) _ found)
  · exact .map ((below.operandAt 0 _).mono (x.rule?_le _))

theorem initializers (below : BelowWithin x) :
    Within x.initializers Initializer.expressionCountAll x.cost := by
  rw [Node.initializers, Node.visitRules_eq]
  refine Within.mono ?_ x.children_le_cost
  exact within_rules _ rfl (fun _ _ => rfl) fun c member => (below.child member).2.initializer

theorem arrayCreation (below : BelowWithin x) (name : Node) :
    Within (x.arrayCreation name) Expression.expressionCount x.cost := by
  rw [Node.arrayCreation]
  simp only [Node.visitRule_eq]
  have elements : Within ((((x.rule? .arrayInitializer).map Node.initializers).getD do
      let size ← x.operandAt 0 "operand expression"
      return [.expression size]) : Projection (List Initializer))
      Initializer.expressionCountAll (Node.costAll x.children) := by
    refine (withinIf_child fun c member => (below.child member).1.initializers).getD ?_
    exact .bind_pure ((below.operandAt 0 _).mono (x.rule?_le _)) fun _ => rfl
  have whole : ∀ element, Within ((((x.rule? .arrayInitializer).map Node.initializers).getD do
      let size ← x.operandAt 0 "operand expression"
      return [.expression size]) >>= fun initializer =>
        pure (.arrayCreation element initializer)) Expression.expressionCount x.cost := by
    intro element
    refine .bind elements fun initializer within => .of_pure ?_
    have here := x.children_lt_cost
    simp only [Expression.expressionCount]
    omega
  split
  · exact .bind_lift whole
  · rw [bind_map_left]
    exact .bind_lift fun element => whole _

theorem instanceCreation (below : BelowWithin x) (name : Node) :
    Within (x.instanceCreation name) Expression.expressionCount x.cost := by
  rw [Node.instanceCreation]
  simp only [Node.visitRule_eq]
  have given : Within (((x.rule? .arguments).map Node.arguments).getD (pure []))
      Expression.expressionCountAll (Node.foundCost (x.rule? .arguments)) :=
    (withinIf_rule fun c member => (below.child member).2.arguments).getD
      (.of_pure (Nat.zero_le _))
  refine .bind given fun arguments within => ?_
  refine .bind (.ifPresent (withinIf_rule fun c member => (below.child member).1.classBody))
    fun body bodyWithin => .bind_lift fun name => .of_pure ?_
  have apart := x.rule?_add_rule?_le (show Rule.arguments ≠ .classBody by decide)
  have here := x.children_lt_cost
  cases body <;> simp only [Expression.expressionCount, Option.elim_none, Option.elim_some]
    at bodyWithin ⊢ <;> omega

theorem creation (below : BelowWithin x) :
    Within x.creation Expression.expressionCount x.cost := by
  rw [Node.creation]
  simp only [Node.visitRule_eq]
  split
  · exact .of_throw _
  · refine WithinIf.getD (.orElse ?_ fun _ => ?_) (x.placeholder_within _ _ x.cost_pos)
    · exact (withinIf_child fun c member => (below.child member).2.instanceCreation _).mono
        x.children_le_cost
    · exact (withinIf_child fun c member => (below.child member).2.arrayCreation _).mono
        x.children_le_cost

theorem primary (below : BelowWithin x) : Within x.primary Expression.expressionCount x.cost := by
  rw [Node.primary, Node.visitRule_eq]
  have here := x.children_lt_cost
  split
  · next inner found =>
    refine .bind (withinIf_child (fun c member => (below.child member).1.expression) _ found)
      fun value within => .of_pure ?_
    split
    · simp only [Expression.expressionCount]
      omega
    · omega
  · split
    · next reference found =>
      apply Within.of_pure
      rw [Node.reference?_count found]
      omega
    · split
      · apply Within.of_pure
        simp only [Expression.expressionCount]
        omega
      · split
        · next literal found =>
          exact Node.literal_within (Node.Contains.root.of_rule? found).2 x.cost_pos
        · exact x.placeholder_within _ _ x.cost_pos

theorem arrayAccess? (below : BelowWithin x) :
    WithinIf x.arrayAccess? Expression.expressionCount x.objectCost := by
  intro inner found
  rw [Node.arrayAccess?] at found
  split at found
  · cases found
    refine .bind (below.operandAt 0 _) fun object first => ?_
    refine .bind (below.operandAt 1 _) fun index second => .of_pure ?_
    have both := x.operands_le_costOfOthers
    have here := x.costOfOthers_lt_objectCost
    simp only [Expression.expressionCount]
    omega
  · cases found

theorem operand (below : BelowWithin x) (expected : String) :
    Within (x.operandAt 0 expected) Expression.expressionCount x.costOfOthers :=
  (below.operandAt 0 expected).mono (x.rule?_le_costOfOthers .expression (by decide) (by decide))

theorem unary? (below : BelowWithin x) :
    WithinIf x.unary? Expression.expressionCount x.objectCost := by
  intro inner found
  rw [Node.unary?] at found
  obtain ⟨⟨operator, behind⟩, _, rfl⟩ := Option.map_eq_some_iff.1 found
  refine .bind_lift fun code => .bind (below.operand _) fun operand within => .of_pure ?_
  have here := x.costOfOthers_lt_objectCost
  cases behind <;> simp only [Expression.expressionCount, if_true, if_false, Bool.false_eq_true] <;>
    omega

theorem cast? (below : BelowWithin x) :
    WithinIf x.cast? Expression.expressionCount x.objectCost := by
  intro inner found
  rw [Node.cast?] at found
  split at found
  · obtain ⟨type, _, rfl⟩ := Option.map_eq_some_iff.1 found
    refine .bind_lift fun type => .bind (below.operand _) fun operand within => .of_pure ?_
    have here := x.costOfOthers_lt_objectCost
    simp only [Expression.expressionCount]
    omega
  · cases found

/-- Bounded by the cost of an object rather than of the node: behind a dot the same node is
recognized once more beside its call. -/
theorem recognized (below : BelowWithin x) :
    Within x.recognized Expression.expressionCount x.objectCost := by
  have here := x.costOfOthers_lt_objectCost
  have room : 0 < x.objectCost := by omega
  rw [Node.recognized]
  simp only [Node.visitRule_eq]
  refine WithinIf.getD (.orElse below.arrayAccess? fun _ => .orElse below.unary? fun _ =>
    .orElse below.cast? fun _ => .orElse ?uncoded fun noForm => .orElse ?nested fun noNested =>
    .orElse ?primary fun noPrimary => .orElse ?reference fun noName =>
    .orElse ?creation fun noCreator => .orElse ?call fun _ => ?switch)
    (x.placeholder_within _ _ room)
  case uncoded =>
    intro inner found
    obtain ⟨construct, _, rfl⟩ := Option.map_eq_some_iff.1 found
    exact x.placeholder_within _ _ room
  case nested =>
    refine (withinIf_rule fun c member => (below.child member).1.expression).mono ?_
    have part := x.rule?_le_costOfOthers .expression (by decide) (by decide)
    omega
  case primary =>
    refine (withinIf_rule fun c member => (below.child member).2.primary).mono ?_
    have part := x.rule?_le_costOfOthers .primary (by decide) (by decide)
    omega
  case reference =>
    intro inner found
    obtain ⟨reference, named, rfl⟩ := Option.map_eq_some_iff.1 found
    apply Within.of_pure
    rw [Node.reference?_count named]
    omega
  case creation =>
    refine (withinIf_rule fun c member => (below.child member).2.creation).mono ?_
    have part := x.rule?_le_costOfOthers .creator (by decide) (by decide)
    omega
  case call =>
    rw [Option.map_eq_none_iff] at noForm noNested noPrimary noName noCreator
    have lacks := Node.lacksObject_of_none noForm noNested noPrimary noName noCreator
    have called : WithinIf ((x.rule? .methodCall).map fun call => call.invocation none false)
        Expression.expressionCount (Node.foundCost (x.rule? .methodCall)) := by
      refine withinIf_rule fun c member => ((below.child member).2.invocation none false).mono ?_
      simp
    refine called.mono ?_
    rw [Node.objectCost, if_pos lacks]
    omega
  case switch =>
    intro inner found
    obtain ⟨switch, _, rfl⟩ := Option.map_eq_some_iff.1 found
    exact x.placeholder_within _ _ room

theorem binary (below : BelowWithin x) (operator : Node) :
    Within (x.binary operator) Expression.expressionCount x.cost := by
  rw [Node.binary]
  simp only [Node.visitRuleAt_eq]
  split
  · next left right leftFound rightFound =>
    have first := withinIf_ruleAt (fun c member => (below.child member).1.expression) _ leftFound
    have second := withinIf_ruleAt (fun c member => (below.child member).1.expression) _ rightFound
    refine .bind_lift fun code => .bind first fun leftValue leftWithin => ?_
    refine .bind second fun rightValue rightWithin => ?_
    have both := x.first_two_le .expression
    have here := x.children_lt_cost
    have whole : Within (pure (.binary code leftValue rightValue)) Expression.expressionCount
        x.cost := by
      apply Within.of_pure
      simp only [Expression.expressionCount]
      omega
    split
    · exact Yields.rules.bind (Yields.of_report _) fun _ _ => whole
    · exact whole
  · exact x.placeholder_within _ _ x.cost_pos

/-- A call costs the object in front of the dot and itself. Without an object there, the call is
taken for it and costs twice. -/
theorem memberAccess (below : BelowWithin x)
    (dotted : (x.labelled? "bop").any (fun operator => operator.isTerminal .dot) = true) :
    Within x.memberAccess Expression.expressionCount x.cost := by
  rw [Node.memberAccess]
  simp only [Node.visitRule_eq]
  split
  · next invoke found =>
    obtain ⟨call, isCall, rfl⟩ := Option.map_eq_some_iff.1 found
    have callBelow := (below.child (Node.mem_of_ruleAt? isCall)).2
    have both := x.objectCost_add_call_le_cost dotted
    simp only [isCall, Node.foundCost, Option.elim_some] at both
    split
    · refine (callBelow.invocation none _).mono ?_
      simp only [Option.elim_none]
      omega
    · have onObject : Within (some <$> x.recognized)
          (fun target => target.elim 0 Expression.expressionCount) x.objectCost :=
        .map below.recognized
      refine .bind onObject fun target within => (callBelow.invocation target _).mono ?_
      omega
  · split
    · next name named =>
      have object := x.objectCost_lt_cost_of_name named
      have here := x.costOfOthers_lt_objectCost
      split
      · apply Within.of_pure
        simp only [Expression.expressionCount]
        omega
      · refine .bind below.recognized fun value within => .of_pure ?_
        simp only [Expression.expressionCount]
        omega
    · exact x.placeholder_within _ _ x.cost_pos

theorem expression (below : BelowWithin x) :
    Within x.expression Expression.expressionCount x.cost := by
  rw [Node.expression]
  split
  · exact below.recognized.mono x.objectCost_le_cost
  · next operator labelled =>
    split
    · exact .of_throw _
    · next dot =>
      apply below.memberAccess
      simp [labelled, Node.isTerminal, dot]
    · split
      · exact below.binary _
      · exact x.placeholder_within _ _ x.cost_pos

/-! ## Statements -/

theorem declarator (below : BelowWithin x) (modifiers : Option Modifiers) (type : TypeRef) :
    Within (x.declarator modifiers type) Declaration.expressionCount x.cost := by
  rw [Node.declarator, Node.visitRule_eq]
  split
  · exact .of_throw _
  · split
    · exact .of_throw _
    · refine .bind (.ifPresent (withinIf_child fun c member => (below.child member).2.initializer))
        fun initializer within => .of_pure ?_
      refine Nat.le_trans ?_ x.children_le_cost
      cases initializer <;> exact within

theorem declarators (below : BelowWithin x) (modifiers : Option Modifiers) (type : TypeRef) :
    Within (x.declarators modifiers type) Declaration.expressionCountAll x.cost := by
  rw [Node.declarators, Node.visitRules_eq]
  refine Within.mono ?_ x.children_le_cost
  exact within_rules _ rfl (fun _ _ => rfl)
    fun c member => (below.child member).2.declarator modifiers type

theorem typedVariables (below : BelowWithin x) (expected : String)
    (modifiers : Option Modifiers) :
    Within (x.typedVariables expected modifiers) Declaration.expressionCountAll x.cost := by
  rw [Node.typedVariables]
  simp only [Node.visitRule_eq]
  split
  · exact .of_throw _
  · refine .bind_lift fun type => WithinIf.getD ?_ (.of_throw _)
    exact withinIf_cost fun c member => (below.child member).2.declarators modifiers type

theorem localVariables (below : BelowWithin x) :
    Within x.localVariables Declaration.expressionCountAll x.cost := by
  rw [Node.localVariables, Node.visitRule_eq]
  split
  · split
    · exact .of_throw _
    · split
      · exact .of_throw _
      · next value found =>
        have given := withinIf_cost (fun c member => (below.child member).1.expression) _ found
        exact .bind_pure given fun _ => rfl
  · exact below.typedVariables _ _

theorem classDeclaration (below : BelowWithin x) (modifiers : Option Modifiers) :
    Within (x.classDeclaration modifiers) Declaration.expressionCount x.cost := by
  rw [Node.classDeclaration, Node.visitRule_eq]
  refine .bind_lift fun name => .bind_lift fun typeParameters => .bind_lift fun superclass => ?_
  refine .bind_lift fun interfaces => ?_
  refine .bind (WithinIf.getD ?_ (.of_throw _)) fun members within => .of_pure within
  exact withinIf_cost fun c member => (below.child member).1.classBody

theorem localType (below : BelowWithin x) :
    Within x.localType Declaration.expressionCount x.cost := by
  rw [Node.localType, Node.visitRule_eq]
  refine WithinIf.getD ?_ (.of_throw _)
  exact withinIf_cost fun c member => (below.child member).2.classDeclaration _

theorem blockEntry (below : BelowWithin x) :
    Within x.blockEntry BlockStatement.expressionCountAll x.cost := by
  rw [Node.blockEntry]
  simp only [Node.visitRule_eq, Node.visitStatementAt_eq]
  refine WithinIf.getD (.orElse ?declared fun _ => .orElse ?statement fun _ => ?type) (.of_throw _)
  case declared =>
    refine withinIf_cost fun c member => .map ?_
    simp only [BlockStatement.expressionCountAll_declarations]
    exact (below.child member).2.localVariables
  case statement =>
    refine (withinIf_statementAt fun c member => ?_).mono ?_
    · exact .bind_pure (below.child member).1.statement fun _ => rfl
    · have part := x.condition_and_statements_le
      have here := x.children_lt_cost
      omega
  case type =>
    exact withinIf_cost fun c member => .bind_pure (below.child member).2.localType fun _ => rfl

theorem block (below : BelowWithin x) :
    Within x.block BlockStatement.expressionCountAll x.cost := by
  rw [Node.block, Node.visitRules_eq]
  refine .map (Within.mono ?_ x.children_le_cost)
  refine within_rules _ rfl ?_ fun c member => (below.child member).2.blockEntry
  intro entries rest
  rw [List.flatten_cons, BlockStatement.expressionCountAll_append]

theorem condition (below : BelowWithin x) :
    Within x.condition Expression.expressionCount (Node.foundCost (x.rule? .parExpression)) := by
  rw [Node.condition, Node.visitRule_eq]
  refine WithinIf.getD ?_ (.of_throw _)
  refine withinIf_rule fun c member => ((below.child member).2.operandAt 0 _).mono ?_
  exact Nat.le_trans (c.rule?_le _) c.children_le_cost

theorem substatement (below : BelowWithin x) :
    Within x.substatement Statement.expressionCount (Node.foundCost (x.statementAt? 0)) := by
  rw [Node.substatement, Node.visitStatementAt_eq]
  refine WithinIf.getD ?_ (.of_throw _)
  exact withinIf_statementAt fun c member => (below.child member).1.statement

theorem statement (below : BelowWithin x) :
    Within x.statement Statement.expressionCount x.cost := by
  have parts := x.condition_and_statements_le
  have operands := x.first_two_le .expression
  have here := x.children_lt_cost
  rw [Node.statement]
  simp only [Node.visitRule_eq, Node.visitRuleAt_eq, Node.visitStatementAt_eq]
  split
  · refine .map (WithinIf.getD ?_ (.of_throw _))
    exact withinIf_cost fun c member => (below.child member).2.block
  · refine .bind below.condition fun condition first => ?_
    refine .bind below.substatement fun thenBranch second => ?_
    refine .bind (.ifPresent (withinIf_statementAt fun c member =>
      (below.child member).1.statement)) fun elseBranch third => .of_pure ?_
    cases elseBranch <;> simp only [Statement.expressionCount, Option.elim_some] at third ⊢ <;>
      omega
  · refine .bind below.condition fun condition first => ?_
    refine .bind below.substatement fun body second => .of_pure ?_
    simp only [Statement.expressionCount]
    omega
  · refine .bind below.substatement fun body first => ?_
    refine .bind below.condition fun condition second => .of_pure ?_
    simp only [Statement.expressionCount]
    omega
  · have value : Within (ifPresent ((x.rule? .expression).map Node.expression))
        (fun result => result.elim 0 Expression.expressionCount) x.cost :=
      .ifPresent (withinIf_cost fun c member => (below.child member).1.expression)
    refine .map (value.congr ?_)
    rintro (_ | value) <;> rfl
  · exact .of_pure (Nat.zero_le _)
  · exact .of_pure (Nat.zero_le _)
  · refine .bind (below.operandAt 0 _) fun condition first => ?_
    refine .bind (.ifPresent (withinIf_ruleAt fun c member =>
      (below.child member).1.expression)) fun message second => .of_pure ?_
    cases message <;> simp only [Statement.expressionCount, Option.elim_some] at second ⊢ <;>
      omega
  · exact .map ((below.operandAt 0 _).mono (by omega))
  · split
    · exact .map (x.placeholder_within _ _ x.cost_pos)
    · exact .of_throw _
  · exact .of_throw _

/-! ## Classes -/

theorem method (below : BelowWithin x) (modifiers : Option Modifiers) :
    Within (x.method modifiers) Declaration.expressionCount x.cost := by
  rw [Node.method]
  simp only [Node.visitRule_eq]
  split
  · exact .of_throw _
  · refine .bind_lift fun returnType => .bind_lift fun name => ?_
    refine .bind_lift fun parameters => .bind_lift fun throws => ?_
    refine .bind (WithinIf.getD ?_ (.of_pure (Nat.zero_le _))) fun body within => .of_pure within
    intro inner found
    obtain ⟨outer, isBody, block⟩ := Option.map_eq_some_iff.1 (Option.join_eq_some_iff.1 found)
    have bodyBelow := (below.child (Node.mem_of_ruleAt? isBody)).2
    have bodyCost := x.rule?_le .methodBody
    have here := x.children_lt_cost
    simp only [isBody, Node.foundCost, Option.elim_some] at bodyCost
    refine Within.mono (withinIf_cost (fun c member => (bodyBelow.child member).2.block) _ block) ?_
    omega

theorem constructor (below : BelowWithin x) (modifiers : Option Modifiers) :
    Within (x.constructor modifiers) Declaration.expressionCount x.cost := by
  rw [Node.constructor]
  simp only [Node.visitRule_eq, Node.visitLabelled_eq]
  refine .bind_lift fun parameters => .bind_lift fun throws => ?_
  refine .bind (WithinIf.getD (.orElse ?_ fun _ => ?_) (.of_throw _))
    fun body within => .of_pure within
  · refine (WithinIf.found fun c found => ?_).mono
      (Nat.le_trans (x.labelled?_le _) x.children_le_cost)
    exact (below.child (Node.mem_of_labelled? found)).2.block
  · exact withinIf_cost fun c member => (below.child member).2.block

theorem member (below : BelowWithin x) (modifiers : Option Modifiers) :
    Within (x.member modifiers) Declaration.expressionCountAll x.cost := by
  rw [Node.member]
  simp only [Node.visitRule_eq]
  refine WithinIf.getD (.orElse ?method fun _ => .orElse ?nested fun _ =>
    .orElse ?field fun _ => ?constructor) (.of_pure (Nat.zero_le _))
  case method =>
    exact withinIf_cost fun c member =>
      .bind_pure ((below.child member).2.method modifiers) fun _ => rfl
  case nested =>
    exact withinIf_cost fun c member =>
      .bind_pure ((below.child member).2.classDeclaration modifiers) fun _ => rfl
  case field =>
    exact withinIf_cost fun c member => (below.child member).2.typedVariables _ modifiers
  case constructor =>
    exact withinIf_cost fun c member =>
      .bind_pure ((below.child member).2.constructor modifiers) fun _ => rfl

theorem classEntry (below : BelowWithin x) :
    Within x.classEntry Declaration.expressionCountAll x.cost := by
  rw [Node.classEntry]
  simp only [Node.visitRule_eq]
  refine WithinIf.getD (.orElse ?_ fun _ => ?_) (.of_pure (Nat.zero_le _))
  · exact withinIf_cost fun c member => .bind_pure (below.child member).2.block fun _ => rfl
  · exact withinIf_cost fun c member => (below.child member).2.member _

theorem classBody (below : BelowWithin x) :
    Within x.classBody Declaration.expressionCountAll x.cost := by
  rw [Node.classBody, Node.visitRules_eq]
  refine .map (Within.mono ?_ x.children_le_cost)
  refine within_rules _ rfl ?_ fun c member => (below.child member).2.classEntry
  intro entries rest
  rw [List.flatten_cons, Declaration.expressionCountAll_append]

end BelowWithin

/-! ## Whole source files -/

theorem staysWithin (x : Node) : StaysWithin x := by
  have below : BelowWithin x := by
    intro c smaller
    exact staysWithin c
  exact {
    expression := below.expression
    initializers := below.initializers
    statement := below.statement
    classBody := below.classBody }
termination_by sizeOf x

theorem Node.typeDeclaration_within (node : Node) :
    Within node.typeDeclaration Declaration.expressionCountAll node.cost := by
  unfold typeDeclaration
  split
  · exact .of_pure (Nat.zero_le _)
  · next declared found =>
    have below : BelowWithin declared := fun c _ => staysWithin c
    have part := Nat.le_trans (node.rule?_le .classDeclaration) node.children_le_cost
    rw [found] at part
    exact .bind_pure ((below.classDeclaration _).mono part) fun _ => rfl

theorem Node.compilationUnit_within (root : Node) :
    Within root.compilationUnit CompilationUnit.expressionCount root.cost := by
  unfold compilationUnit
  split
  · refine .bind_lift fun package => .bind_lift fun imports => ?_
    have declared : Within (inOrder ((root.rules .typeDeclaration).map typeDeclaration))
        (fun lists => Declaration.expressionCountAll lists.flatten) (costAll root.children) := by
      refine within_rules _ rfl ?_ fun c _ => c.typeDeclaration_within
      intro declarations rest
      rw [List.flatten_cons, Declaration.expressionCountAll_append]
    refine .bind declared fun declarations within => .of_pure ?_
    exact Nat.le_trans within root.children_le_cost
  · exact .of_throw _

/-- A projected file has at most as many expressions as its tree costs. If no call is taken for
its own object, that is the number of nodes. -/
theorem expressionCount_le {settings : Settings} {root : Node} {projected : Projected}
    (ok : settings.project root = .ok projected) :
    projected.unit.expressionCount ≤ root.cost ∧
    (root.repeatsCall = false → projected.unit.expressionCount ≤ root.size) := by
  obtain ⟨gathered, run, _⟩ := Settings.project_ok_iff.1 ok
  have ended : (root.compilationUnit.runFrom settings.literals #[]).1 = .ok projected.unit := by
    rw [run]
  have within := root.compilationUnit_within.holds settings.literals #[] projected.unit ended
  refine ⟨within, ?_⟩
  intro once
  rwa [root.cost_eq_size once] at within

def Node.callBehindDot (object arguments : List Node) : Node :=
  .branch .expression (object ++ [(Node.leaf .dot ".").boundTo "bop", .branch .methodCall
    [.named "f", .leaf .leftParen "(", .branch .expressionList arguments, .leaf .rightParen ")"]])

def calledFile : Node :=
  .classFile "A" [.intField "x"
    (.callBehindDot [.primaryOf (.named "a")] [.primaryOf (.named "b")])]

theorem calledFile_within :
    ∃ projected, Settings.default.project calledFile = .ok projected ∧
      calledFile.repeatsCall = false ∧ projected.unit.expressionCount = 3 ∧
      projected.unit.expressionCount ≤ calledFile.size := by
  have count : (Settings.default.project calledFile).map
      (fun projected => projected.unit.expressionCount) = .ok 3 := by cbv
  have once : calledFile.repeatsCall = false := by cbv
  obtain ⟨projected, run, three⟩ := Settings.exists_project_of_map count
  exact ⟨projected, run, once, three, (expressionCount_le run).2 once⟩

/-- Calls inside each other's arguments, each behind a dot with nothing in front of it. -/
def Node.nestedCalls : Nat → Node
  | 0 => .callBehindDot [] []
  | depth + 1 => .callBehindDot [] [nestedCalls depth]

def nestedCallsFile : Node :=
  .classFile "A" [.intField "x" (.nestedCalls 4)]

theorem nestedCallsFile_exceeded :
    ∃ projected, Settings.default.project nestedCallsFile = .ok projected ∧
      nestedCallsFile.size < projected.unit.expressionCount := by
  have size : nestedCallsFile.size = 60 := by cbv
  have count : (Settings.default.project nestedCallsFile).map
      (fun projected => projected.unit.expressionCount) = .ok 62 := by cbv
  obtain ⟨projected, run, larger⟩ := Settings.exists_project_of_map count
  refine ⟨projected, run, ?_⟩
  rw [size, larger]
  decide

end JavaProjection
