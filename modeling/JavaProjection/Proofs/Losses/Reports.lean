import Mathlib
import JavaProjection.Proofs.Literals
import JavaProjection.Proofs.Losses.Syntax

/-!
# Reports are the losses of the result

One theorem for each function of the projection: what it reports, replaced literals left out, is
what its result shows to be lost, in the same order. Parts of a node that are projected out of the
order of the source, or twice, stand in the result as they were projected.
-/

set_option autoImplicit false

namespace JavaProjection

open Projection

/-! ## Candidates -/

def CompletesIf {α : Type} (candidate : Option (Projection α))
    (losses : α → List DiagnosticKind) : Prop :=
  ∀ inner, candidate = some inner → Completes [] inner losses

section Candidates

variable {α : Type} {losses : α → List DiagnosticKind} {x : Node} {f : Node → Projection α}

theorem CompletesIf.getD {candidate : Option (Projection α)} {otherwise : Projection α}
    (present : CompletesIf candidate losses) (absent : Completes [] otherwise losses) :
    Completes [] (candidate.getD otherwise) losses := by
  cases candidate with
  | none => exact absent
  | some inner => exact present inner rfl

theorem CompletesIf.orElse {first second : Option (Projection α)}
    (head : CompletesIf first losses) (tail : CompletesIf second losses) :
    CompletesIf (first <|> second) losses := by
  cases first with
  | none => exact tail
  | some inner => exact head

theorem completesIf_ruleAt {rule : Rule} {index : Nat}
    (each : ∀ c, sizeOf c < sizeOf x → Completes [] (f c) losses) :
    CompletesIf ((x.ruleAt? rule index).map f) losses := by
  intro inner found
  obtain ⟨c, child, rfl⟩ := Option.map_eq_some_iff.1 found
  exact each c (Node.sizeOf_lt_of_mem (Node.mem_of_ruleAt? child))

theorem completesIf_rule {rule : Rule}
    (each : ∀ c, sizeOf c < sizeOf x → Completes [] (f c) losses) :
    CompletesIf ((x.rule? rule).map f) losses :=
  completesIf_ruleAt each

theorem completesIf_statementAt {index : Nat}
    (each : ∀ c, sizeOf c < sizeOf x → Completes [] (f c) losses) :
    CompletesIf ((x.statementAt? index).map f) losses := by
  intro inner found
  obtain ⟨c, child, rfl⟩ := Option.map_eq_some_iff.1 found
  exact each c (Node.sizeOf_lt_of_mem (Node.mem_of_statementAt? child))

theorem completesIf_labelled {label : String}
    (each : ∀ c, sizeOf c < sizeOf x → Completes [] (f c) losses) :
    CompletesIf ((x.labelled? label).map f) losses := by
  intro inner found
  obtain ⟨c, child, rfl⟩ := Option.map_eq_some_iff.1 found
  exact each c (Node.sizeOf_lt_of_mem (Node.mem_of_labelled? child))

theorem completes_each {rule : Rule}
    (each : ∀ c, sizeOf c < sizeOf x → Completes [] (f c) losses) :
    ∀ projection ∈ (x.rules rule).map f, Completes [] projection losses := by
  intro projection member
  obtain ⟨c, child, rfl⟩ := List.mem_map.1 member
  exact each c (Node.sizeOf_lt_of_mem (Node.mem_of_mem_rules child))

end Candidates

/-! ## Leaves -/

theorem Node.completes_placeholder (node : Node) (tag : Placeholder) (construct : String) :
    Completes [] (node.placeholder tag construct) Expression.losses :=
  .bind (.of_report rfl) fun _ => .of_pure rfl

theorem Node.completes_droppedBranch (node : Node) :
    Completes [] node.reportDroppedBranch fun _ => [.lossy] :=
  .of_report rfl

theorem Node.completes_unsupportedLiteral (node : Node) :
    Completes [] node.unsupportedLiteral Expression.losses := by
  intro policy gathered value further outer run reported
  cases policy with
  | reject => cases run
  | sentinel =>
    cases run
    rw [Diagnostic.losses_push, reported, List.append_assoc]
    rfl

theorem Node.completes_literal {node : Node} (kind : node.kind = .rule .literal) :
    Completes [] node.literal Expression.losses := by
  cases readsLiteral kind with
  | kept token read =>
    rw [read]
    exact .of_pure rfl
  | unreadable part _ _ read =>
    rw [read]
    exact .of_throw _
  | unsupported part _ _ read =>
    rw [read]
    exact part.completes_unsupportedLiteral

/-! ## Expressions -/

/-- The functions through which all recursion passes report their losses at the node. -/
structure Reports (x : Node) : Prop where
  expression : Completes [] x.expression Expression.losses
  initializers : Completes [] x.initializers Initializer.lossesAll
  statement : Completes [] x.statement Statement.losses
  classBody : Completes [] x.classBody Declaration.lossesAll

def ReportsBelow (x : Node) : Prop :=
  ∀ ⦃c : Node⦄, sizeOf c < sizeOf x → Reports c

namespace ReportsBelow

variable {x : Node}

theorem child {c : Node} (below : ReportsBelow x) (smaller : sizeOf c < sizeOf x) :
    ReportsBelow c := by
  intro d inner
  exact below (Nat.lt_trans inner smaller)

theorem operandAt (below : ReportsBelow x) (index : Nat) (expected : String) :
    Completes [] (x.operandAt index expected) Expression.losses := by
  rw [Node.operandAt]
  simp only [Node.visitRuleAt_eq]
  exact (completesIf_ruleAt fun c smaller => (below smaller).expression).getD (.of_throw _)

theorem expressions (below : ReportsBelow x) :
    Completes [] x.expressions Expression.lossesAll := by
  rw [Node.expressions]
  simp only [Node.visitRules_eq]
  exact .inOrder rfl (fun _ _ => rfl) (completes_each fun c smaller => (below smaller).expression)

theorem arguments (below : ReportsBelow x) : Completes [] x.arguments Expression.lossesAll := by
  rw [Node.arguments]
  simp only [Node.visitRule_eq]
  exact (completesIf_rule fun c smaller => (below.child smaller).expressions).getD (.of_pure rfl)

theorem invocation (below : ReportsBelow x) (target : Option Expression) (onSuper : Bool) :
    Completes (target.elim [] Expression.losses) (x.invocation target onSuper)
      Expression.losses := by
  rw [Node.invocation]
  simp only [Node.visitRule_eq]
  refine .bind_lift fun name => ?_
  refine .bind (?given : Completes [] _ Expression.lossesAll) fun arguments => .of_pure ?_
  case given =>
    refine CompletesIf.getD (.orElse ?_ ?_) (.of_pure rfl)
    · exact completesIf_rule fun c smaller => (below.child smaller).expressions
    · exact completesIf_rule fun c smaller => (below.child smaller).arguments
  cases target <;> rfl

theorem initializer (below : ReportsBelow x) : Completes [] x.initializer Initializer.losses := by
  rw [Node.initializer]
  simp only [Node.visitRule_eq]
  split
  · next elements found =>
    exact .map (completesIf_rule (fun c smaller => (below smaller).initializers) elements found)
  · exact .map (below.operandAt _ _)

theorem initializers (below : ReportsBelow x) :
    Completes [] x.initializers Initializer.lossesAll := by
  rw [Node.initializers]
  simp only [Node.visitRules_eq]
  exact .inOrder rfl (fun _ _ => rfl)
    (completes_each fun c smaller => (below.child smaller).initializer)

theorem arrayCreation (below : ReportsBelow x) (name : Node) :
    Completes [] (x.arrayCreation name) Expression.losses := by
  rw [Node.arrayCreation]
  simp only [Node.visitRule_eq]
  have elements : Completes [] ((((x.rule? .arrayInitializer).map Node.initializers).getD do
      let size ← x.operandAt 0 "operand expression"
      return [.expression size]) : Projection (List Initializer)) Initializer.lossesAll := by
    refine (completesIf_rule fun c smaller => (below smaller).initializers).getD ?_
    refine .bind (below.operandAt _ _) fun size => .of_pure ?_
    simp [Initializer.lossesAll, Initializer.losses]
  split
  · exact .bind_lift fun element => .bind elements fun initializer => .of_pure rfl
  · rw [bind_map_left]
    exact .bind_lift fun element => .bind elements fun initializer => .of_pure rfl

theorem instanceCreation (below : ReportsBelow x) (name : Node) :
    Completes [] (x.instanceCreation name) Expression.losses := by
  rw [Node.instanceCreation]
  simp only [Node.visitRule_eq]
  refine .bind (?given : Completes [] _ Expression.lossesAll) fun arguments => ?_
  case given =>
    refine CompletesIf.getD ?_ (.of_pure rfl)
    exact completesIf_rule fun c smaller => (below.child smaller).arguments
  refine .bind (.ifPresent (completesIf_rule fun c smaller => (below smaller).classBody))
    fun body => ?_
  refine .bind_lift fun name => .of_pure ?_
  cases body <;> simp [Expression.losses]

theorem creation (below : ReportsBelow x) : Completes [] x.creation Expression.losses := by
  rw [Node.creation]
  simp only [Node.visitRule_eq]
  split
  · exact .of_throw _
  · refine CompletesIf.getD (.orElse ?_ ?_) (x.completes_placeholder _ _)
    · exact completesIf_rule fun c smaller => (below.child smaller).instanceCreation _
    · exact completesIf_rule fun c smaller => (below.child smaller).arrayCreation _

theorem primary (below : ReportsBelow x) : Completes [] x.primary Expression.losses := by
  rw [Node.primary]
  simp only [Node.visitRule_eq]
  split
  · next inner found =>
    refine .bind (completesIf_rule (fun c smaller => (below smaller).expression) inner found)
      fun value => .of_pure ?_
    split <;> rfl
  · cases reference : x.reference? with
    | some found =>
      obtain ⟨name, _, rfl⟩ := Option.map_eq_some_iff.1 reference
      exact .of_pure rfl
    | none =>
      simp only
      split
      · exact .of_pure rfl
      · split
        · next literal found =>
          exact Node.completes_literal (Node.Contains.root.of_rule? found).2
        · exact x.completes_placeholder _ _

theorem arrayAccess? (below : ReportsBelow x) :
    CompletesIf x.arrayAccess? Expression.losses := by
  intro inner found
  rw [Node.arrayAccess?] at found
  split at found
  · cases found
    refine .bind (below.operandAt _ _) fun object => ?_
    exact .bind (below.operandAt _ _) fun index => .of_pure rfl
  · cases found

theorem unary? (below : ReportsBelow x) : CompletesIf x.unary? Expression.losses := by
  intro inner found
  rw [Node.unary?] at found
  obtain ⟨⟨operator, behind⟩, _, rfl⟩ := Option.map_eq_some_iff.1 found
  refine .bind_lift fun code => .bind (below.operandAt _ _) fun operand => .of_pure ?_
  cases behind <;> rfl

theorem cast? (below : ReportsBelow x) : CompletesIf x.cast? Expression.losses := by
  intro inner found
  rw [Node.cast?] at found
  split at found
  · obtain ⟨type, _, rfl⟩ := Option.map_eq_some_iff.1 found
    exact .bind_lift fun type => .bind (below.operandAt _ _) fun operand => .of_pure rfl
  · cases found

theorem recognized (below : ReportsBelow x) : Completes [] x.recognized Expression.losses := by
  rw [Node.recognized]
  simp only [Node.visitRule_eq]
  refine CompletesIf.getD (.orElse below.arrayAccess? <| .orElse below.unary? <|
    .orElse below.cast? <| .orElse ?uncoded <| .orElse ?nested <| .orElse ?primary <|
    .orElse ?reference <| .orElse ?creation <| .orElse ?call ?switch)
    (x.completes_placeholder _ _)
  case uncoded =>
    intro inner found
    obtain ⟨construct, _, rfl⟩ := Option.map_eq_some_iff.1 found
    exact x.completes_placeholder _ _
  case nested => exact completesIf_rule fun c smaller => (below smaller).expression
  case primary => exact completesIf_rule fun c smaller => (below.child smaller).primary
  case reference =>
    intro inner found
    obtain ⟨reference, named, rfl⟩ := Option.map_eq_some_iff.1 found
    obtain ⟨name, _, rfl⟩ := Option.map_eq_some_iff.1 named
    exact .of_pure rfl
  case creation => exact completesIf_rule fun c smaller => (below.child smaller).creation
  case call =>
    exact completesIf_rule fun c smaller => (below.child smaller).invocation none false
  case switch => exact completesIf_rule fun c smaller => x.completes_placeholder _ _

theorem binary (below : ReportsBelow x) (operator : Node) :
    Completes [] (x.binary operator) Expression.losses := by
  rw [Node.binary]
  simp only [Node.visitRuleAt_eq]
  split
  · next left right leftFound rightFound =>
    have leftLosses := completesIf_ruleAt (fun c smaller => (below smaller).expression) _ leftFound
    have rightLosses :=
      completesIf_ruleAt (fun c smaller => (below smaller).expression) _ rightFound
    refine .bind_lift fun code => .bind leftLosses fun leftValue => ?_
    refine .bind rightLosses fun rightValue => ?_
    split
    · next question =>
      refine .bind x.completes_droppedBranch fun _ => .of_pure ?_
      simp [Expression.losses, question]
    · next other =>
      refine .of_pure ?_
      simp [Expression.losses, other]
  · exact x.completes_placeholder _ _

/-- A call behind a dot reports its object before its arguments, which is the order of the losses in
the projected call. -/
theorem memberAccess (below : ReportsBelow x) :
    Completes [] x.memberAccess Expression.losses := by
  rw [Node.memberAccess]
  simp only [Node.visitRule_eq]
  split
  · next invoke found =>
    obtain ⟨call, child, rfl⟩ := Option.map_eq_some_iff.1 found
    have smaller := Node.sizeOf_lt_of_mem (Node.mem_of_ruleAt? child)
    split
    · exact (below.child smaller).invocation none _
    · have onTarget : Completes [] (some <$> x.recognized) fun target =>
          target.elim [] Expression.losses := .map below.recognized
      exact .bind onTarget fun target => (below.child smaller).invocation target _
  · split
    · split
      · exact .of_pure rfl
      · exact .bind below.recognized fun object => .of_pure rfl
    · exact x.completes_placeholder _ _

theorem expression (below : ReportsBelow x) : Completes [] x.expression Expression.losses := by
  rw [Node.expression]
  split
  · exact below.recognized
  · split
    · exact .of_throw _
    · exact below.memberAccess
    · split
      · exact below.binary _
      · exact x.completes_placeholder _ _

/-! ## Statements -/

theorem declarator (below : ReportsBelow x) (modifiers : Option Modifiers) (type : TypeRef) :
    Completes [] (x.declarator modifiers type) Declaration.losses := by
  rw [Node.declarator]
  simp only [Node.visitRule_eq]
  split
  · exact .of_throw _
  · split
    · exact .of_throw _
    · refine .bind (.ifPresent (completesIf_rule fun c smaller =>
        (below.child smaller).initializer)) fun initializer => .of_pure ?_
      cases initializer <;> rfl

theorem declarators (below : ReportsBelow x) (modifiers : Option Modifiers) (type : TypeRef) :
    Completes [] (x.declarators modifiers type) Declaration.lossesAll := by
  rw [Node.declarators]
  simp only [Node.visitRules_eq]
  exact .inOrder rfl (fun _ _ => rfl)
    (completes_each fun c smaller => (below.child smaller).declarator modifiers type)

theorem typedVariables (below : ReportsBelow x) (expected : String)
    (modifiers : Option Modifiers) :
    Completes [] (x.typedVariables expected modifiers) Declaration.lossesAll := by
  rw [Node.typedVariables]
  simp only [Node.visitRule_eq]
  split
  · exact .of_throw _
  · refine .bind_lift fun type => CompletesIf.getD ?_ (.of_throw _)
    exact completesIf_rule fun c smaller => (below.child smaller).declarators modifiers type

theorem localVariables (below : ReportsBelow x) :
    Completes [] x.localVariables Declaration.lossesAll := by
  rw [Node.localVariables]
  simp only [Node.visitRule_eq]
  split
  · split
    · exact .of_throw _
    · split
      · exact .of_throw _
      · next value found =>
        refine .bind (completesIf_rule (fun c smaller => (below smaller).expression) value found)
          fun value => .of_pure ?_
        simp [Declaration.lossesAll, Declaration.losses, Initializer.losses]
  · exact below.typedVariables _ _

theorem classDeclaration (below : ReportsBelow x) (modifiers : Option Modifiers) :
    Completes [] (x.classDeclaration modifiers) Declaration.losses := by
  rw [Node.classDeclaration]
  simp only [Node.visitRule_eq]
  refine .bind_lift fun name => .bind_lift fun typeParameters => .bind_lift fun superclass => ?_
  refine .bind_lift fun interfaces => ?_
  refine .bind (?body : Completes [] _ Declaration.lossesAll) fun members => .of_pure rfl
  case body =>
    refine CompletesIf.getD ?_ (.of_throw _)
    exact completesIf_rule fun c smaller => (below smaller).classBody

theorem localType (below : ReportsBelow x) : Completes [] x.localType Declaration.losses := by
  rw [Node.localType]
  simp only [Node.visitRule_eq]
  refine CompletesIf.getD ?_ (.of_throw _)
  exact completesIf_rule fun c smaller => (below.child smaller).classDeclaration _

theorem blockEntry (below : ReportsBelow x) :
    Completes [] x.blockEntry BlockStatement.lossesAll := by
  rw [Node.blockEntry]
  simp only [Node.visitRule_eq, Node.visitStatementAt_eq]
  refine CompletesIf.getD (.orElse ?declared <| .orElse ?statement ?type) (.of_throw _)
  case declared =>
    refine completesIf_rule fun c smaller => .map ((below.child smaller).localVariables.congr ?_)
    intro declarations
    exact (BlockStatement.lossesAll_declarations declarations).symm
  case statement =>
    refine completesIf_statementAt fun c smaller => ?_
    refine .bind (below smaller).statement fun statement => .of_pure ?_
    simp [BlockStatement.lossesAll, BlockStatement.losses]
  case type =>
    refine completesIf_rule fun c smaller => ?_
    refine .bind (below.child smaller).localType fun declaration => .of_pure ?_
    simp [BlockStatement.lossesAll, BlockStatement.losses]

theorem block (below : ReportsBelow x) : Completes [] x.block BlockStatement.lossesAll := by
  rw [Node.block]
  simp only [Node.visitRules_eq]
  refine .map (.inOrder ?_ ?_ (completes_each fun c smaller => (below.child smaller).blockEntry))
  · rfl
  · intro entries rest
    rw [List.flatten_cons, BlockStatement.lossesAll_append]

theorem condition (below : ReportsBelow x) : Completes [] x.condition Expression.losses := by
  rw [Node.condition]
  simp only [Node.visitRule_eq]
  refine CompletesIf.getD ?_ (.of_throw _)
  exact completesIf_rule fun c smaller => (below.child smaller).operandAt _ _

theorem substatement (below : ReportsBelow x) : Completes [] x.substatement Statement.losses := by
  rw [Node.substatement]
  simp only [Node.visitStatementAt_eq]
  refine CompletesIf.getD ?_ (.of_throw _)
  exact completesIf_statementAt fun c smaller => (below smaller).statement

theorem statement (below : ReportsBelow x) : Completes [] x.statement Statement.losses := by
  rw [Node.statement]
  simp only [Node.visitRule_eq, Node.visitRuleAt_eq, Node.visitStatementAt_eq]
  split
  · refine .map (CompletesIf.getD ?_ (.of_throw _))
    exact completesIf_rule fun c smaller => (below.child smaller).block
  · refine .bind below.condition fun condition => .bind below.substatement fun thenBranch => ?_
    refine .bind (.ifPresent (completesIf_statementAt fun c smaller =>
      (below smaller).statement)) fun elseBranch => .of_pure ?_
    cases elseBranch <;> simp [Statement.losses]
  · exact .bind below.condition fun condition => .bind below.substatement fun body => .of_pure rfl
  · exact .bind below.substatement fun body => .bind below.condition fun condition => .of_pure rfl
  · refine .map ((Completes.ifPresent (completesIf_rule fun c smaller =>
      (below smaller).expression)).congr ?_)
    rintro (_ | value) <;> rfl
  · exact .of_pure rfl
  · exact .of_pure rfl
  · refine .bind (below.operandAt _ _) fun condition => ?_
    refine .bind (.ifPresent (completesIf_ruleAt fun c smaller =>
      (below smaller).expression)) fun message => .of_pure ?_
    cases message <;> simp [Statement.losses]
  · exact .map (below.operandAt _ _)
  · split
    · exact .map (x.completes_placeholder _ _)
    · exact .of_throw _
  · exact .of_throw _

/-! ## Classes -/

theorem method (below : ReportsBelow x) (modifiers : Option Modifiers) :
    Completes [] (x.method modifiers) Declaration.losses := by
  rw [Node.method]
  simp only [Node.visitRule_eq]
  split
  · exact .of_throw _
  · refine .bind_lift fun returnType => .bind_lift fun name => ?_
    refine .bind_lift fun parameters => .bind_lift fun throws => ?_
    refine .bind (?body : Completes [] _ BlockStatement.lossesAll) fun body => .of_pure rfl
    case body =>
      refine CompletesIf.getD ?_ (.of_pure rfl)
      intro inner found
      obtain ⟨outer, child, block⟩ := Option.map_eq_some_iff.1 (Option.join_eq_some_iff.1 found)
      have smaller := Node.sizeOf_lt_of_mem (Node.mem_of_ruleAt? child)
      exact completesIf_rule (fun c inside => ((below.child smaller).child inside).block) inner
        block

theorem constructor (below : ReportsBelow x) (modifiers : Option Modifiers) :
    Completes [] (x.constructor modifiers) Declaration.losses := by
  rw [Node.constructor]
  simp only [Node.visitRule_eq, Node.visitLabelled_eq]
  refine .bind_lift fun parameters => .bind_lift fun throws => ?_
  refine .bind (?body : Completes [] _ BlockStatement.lossesAll) fun body => .of_pure rfl
  case body =>
    refine CompletesIf.getD (.orElse ?_ ?_) (.of_throw _)
    · exact completesIf_labelled fun c smaller => (below.child smaller).block
    · exact completesIf_rule fun c smaller => (below.child smaller).block

theorem member (below : ReportsBelow x) (modifiers : Option Modifiers) :
    Completes [] (x.member modifiers) Declaration.lossesAll := by
  rw [Node.member]
  simp only [Node.visitRule_eq]
  refine CompletesIf.getD (.orElse ?method <| .orElse ?nested <| .orElse ?field ?constructor)
    (.of_pure rfl)
  case method =>
    refine completesIf_rule fun c smaller => ?_
    refine .bind ((below.child smaller).method modifiers) fun method => .of_pure ?_
    simp [Declaration.lossesAll]
  case nested =>
    refine completesIf_rule fun c smaller => ?_
    refine .bind ((below.child smaller).classDeclaration modifiers) fun nested => .of_pure ?_
    simp [Declaration.lossesAll]
  case field =>
    exact completesIf_rule fun c smaller => (below.child smaller).typedVariables _ modifiers
  case constructor =>
    refine completesIf_rule fun c smaller => ?_
    refine .bind ((below.child smaller).constructor modifiers) fun constructor => .of_pure ?_
    simp [Declaration.lossesAll]

theorem classEntry (below : ReportsBelow x) :
    Completes [] x.classEntry Declaration.lossesAll := by
  rw [Node.classEntry]
  simp only [Node.visitRule_eq]
  refine CompletesIf.getD (.orElse ?_ ?_) (.of_pure rfl)
  · refine completesIf_rule fun c smaller => ?_
    refine .bind (below.child smaller).block fun body => .of_pure ?_
    simp [Declaration.lossesAll, Declaration.losses]
  · exact completesIf_rule fun c smaller => (below.child smaller).member _

theorem classBody (below : ReportsBelow x) : Completes [] x.classBody Declaration.lossesAll := by
  rw [Node.classBody]
  simp only [Node.visitRules_eq]
  refine .map (.inOrder ?_ ?_ (completes_each fun c smaller => (below.child smaller).classEntry))
  · rfl
  · intro entries rest
    rw [List.flatten_cons, Declaration.lossesAll_append]

end ReportsBelow

/-! ## Whole source files -/

theorem reports (x : Node) : Reports x := by
  have below : ReportsBelow x := by
    intro c smaller
    exact reports c
  exact {
    expression := below.expression
    initializers := below.initializers
    statement := below.statement
    classBody := below.classBody }
termination_by sizeOf x

theorem Node.completes_typeDeclaration (node : Node) :
    Completes [] node.typeDeclaration Declaration.lossesAll := by
  unfold typeDeclaration
  split
  · exact .of_pure rfl
  · next declared found =>
    have below : ReportsBelow declared := fun c _ => reports c
    refine .bind (below.classDeclaration _) fun declaration => .of_pure ?_
    simp [Declaration.lossesAll]

/-- Apart from the values of literals, a run reports what the syntax shows as lost, in its order. -/
theorem Node.completes_compilationUnit (root : Node) :
    Completes [] root.compilationUnit CompilationUnit.losses := by
  unfold compilationUnit
  split
  · refine .bind_lift fun package => .bind_lift fun imports => ?_
    refine .bind (?declared : Completes [] _ fun lists => Declaration.lossesAll lists.flatten)
      fun declarations => .of_pure rfl
    case declared =>
      refine .inOrder rfl ?_ (completes_each fun c _ => c.completes_typeDeclaration)
      intro declarations rest
      rw [List.flatten_cons, Declaration.lossesAll_append]
  · exact .of_throw _

/-- The reports of a projection, those on replaced literals left out, are the losses that its
result shows: no placeholder and no dropped operand goes unreported, and none is reported that is
not there. -/
theorem reported_losses {settings : Settings} {root : Node} {projected : Projected}
    (ok : settings.project root = .ok projected) :
    (projected.diagnostics.map Diagnostic.kind).filter (fun kind => kind ≠ .literalFallback) =
      projected.unit.losses := by
  obtain ⟨gathered, run, listed⟩ := Settings.project_ok_iff.1 ok
  have complete := root.completes_compilationUnit settings.literals #[] _ gathered [] run rfl
  rw [List.nil_append, listed] at complete
  exact complete

/-- A file with the fields `x = a ? 0x10 : b` and `y = () -> a`. -/
def lossyFile : Node :=
  .classFile "A" [
    .intField "x" (.branch .expression [.primaryOf (.named "a"),
      (Node.leaf .question "?").boundTo "bop",
      .primaryOf (.branch .literal [.branch .integerLiteral [.leaf .hexLiteral "0x10"]]),
      .leaf .colon ":", .primaryOf (.named "b")]),
    .intField "y" (.branch .expression [.branch .lambdaExpression []])]

theorem lossyFile_reported :
    ∃ projected, Settings.default.project lossyFile = .ok projected ∧
      projected.diagnostics.map Diagnostic.kind =
        [.literalFallback, .lossy, .placeholder .expression] ∧
      projected.unit.losses = [.lossy, .placeholder .expression] := by
  have kinds : (Settings.default.project lossyFile).map
      (fun projected => projected.diagnostics.map Diagnostic.kind) =
      .ok [.literalFallback, .lossy, .placeholder .expression] := by cbv
  cases run : Settings.default.project lossyFile with
  | error failure =>
    rw [run] at kinds
    cases kinds
  | ok projected =>
    rw [run] at kinds
    have reported : projected.diagnostics.map Diagnostic.kind = _ := Except.ok.inj kinds
    refine ⟨projected, rfl, reported, ?_⟩
    rw [← reported_losses run, reported]
    decide

end JavaProjection
