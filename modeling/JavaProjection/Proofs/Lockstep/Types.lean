import JavaProjection.Proofs.Simulation

/-!
# Lockstep of names and types

One theorem for each function that reads names, types and parameters, by the recursion of the
functions themselves. None of them reports anything, so they are related as outcomes.
-/

set_option autoImplicit false

namespace JavaProjection

open Projection

/-- The relation between plain outcomes that `P` gives as computations. -/
def Lifted (P : ⦃α : Type⦄ → Projection α → Projection α → Prop) ⦃α : Type⦄
    (first second : Except Failure α) : Prop :=
  P (liftM first : Projection α) (liftM second)

namespace Simulation

variable {R : Node → Node → Prop} {P : ⦃α : Type⦄ → Projection α → Projection α → Prop}
  {x y : Node}

theorem lifted (sim : Simulation R P) : Compositional (Lifted P) where
  pure value := sim.pure value
  bind first next := by
    unfold Lifted
    rw [lift_bind, lift_bind]
    exact sim.bind first next

theorem malformed_lifted {α : Type} (sim : Simulation R P) {expected : String}
    (related : R x y) (defect : x.Defect expected) :
    Lifted P (throw (x.malformed expected) : Except Failure α) (throw (y.malformed expected)) :=
  sim.malformed related defect

/-! ## Names and types -/

theorem declaredName (sim : Simulation R P) (related : R x y) (visible : x.Visible)
    (defect : x.rule? .identifier = none → x.Defect "identifier") :
    Lifted P x.declaredName y.declaredName := by
  unfold Node.declaredName
  obtain ⟨none, none'⟩ | ⟨c, d, found, found', part⟩ :=
    rel_cases (sim.rule? related visible .identifier)
  · rw [none, none']
    exact sim.malformed_lifted related (defect none)
  · rw [found, found']
    simp only
    rw [sim.identifierText part.related part.fits]
    exact sim.lifted.pure _

theorem dottedName (sim : Simulation R P) (related : R x y) (visible : x.Visible)
    (defect : x.rule? .identifier = none → x.Defect "at least one identifier") :
    Lifted P x.dottedName y.dottedName := by
  unfold Node.dottedName
  rw [← sim.identifiers related visible]
  cases names : (x.rules .identifier).map Node.identifierText with
  | nil =>
    have none : x.rule? .identifier = none := by
      rw [Node.rule?, Node.ruleAt?, List.map_eq_nil_iff.1 names]
      rfl
    exact sim.malformed_lifted related (defect none)
  | cons first rest => exact sim.lifted.pure _

theorem primitiveType (sim : Simulation R P) (related : R x y)
    (kind : x.kind = .rule .primitiveType) (dims : Nat) :
    Lifted P (x.primitiveType dims) (y.primitiveType dims) := by
  have visible := Node.visible_of_kind kind rfl
  have keyword : (x.firstTerminal?.bind fun token => token.kind.terminal?.bind Code.primitiveOf?) =
      y.firstTerminal?.bind fun token => token.kind.terminal?.bind Code.primitiveOf? := by
    obtain ⟨none, none'⟩ | ⟨c, d, found, found', token⟩ :=
      rel_cases (sim.firstTerminal? related visible)
    · rw [none, none']
    · rw [found, found', Option.bind_some, Option.bind_some, sim.kind token]
  unfold Node.primitiveType
  rw [← keyword]
  split
  · exact sim.lifted.pure _
  · next noKeyword => exact sim.malformed_lifted related (.primitiveType kind noKeyword)

mutual

theorem typeRef (sim : Simulation R P) {x y : Node} (related : R x y)
    (isType : ∃ rule, x.kind = .rule rule ∧ rule.isType = true) :
    Lifted P x.typeRef y.typeRef := by
  obtain ⟨rule, kind, isType⟩ := isType
  obtain rfl | rfl := Rule.isType_iff.1 isType
  · have visible := Node.visible_of_kind kind rfl
    rw [Node.typeRef, Node.typeRef]
    simp only [kind, ← sim.kind related, Node.visitRule_eq]
    refine rel_getD (rel_map (sim.rule? related visible .classOrInterfaceType) ?_) ?_
    · intro named named' part
      obtain ⟨inner, smaller, innerKind⟩ := part
      rw [sim.countTerminal related visible]
      exact sim.namedType inner innerKind _
    · intro none
      refine sim.malformed_lifted related (.part kind (.head _) ?_)
      exact Option.map_eq_none_iff.1 none
  · have visible := Node.visible_of_kind kind rfl
    rw [Node.typeRef, Node.typeRef]
    simp only [kind, ← sim.kind related]
    obtain ⟨none, none'⟩ | ⟨c, d, found, found', part⟩ :=
      rel_cases (sim.rule? related visible .primitiveType)
    · rw [none, none']
      exact sim.malformed_lifted related (.part kind (.head _) none)
    · rw [found, found', sim.countTerminal related visible]
      exact sim.primitiveType part.related part.fits _
termination_by sizeOf x

theorem namedType (sim : Simulation R P) {x y : Node} (related : R x y)
    (kind : x.kind = .rule .classOrInterfaceType) (dims : Nat) :
    Lifted P (x.namedType dims) (y.namedType dims) := by
  have visible := Node.visible_of_kind kind rfl
  rw [Node.namedType, Node.namedType]
  simp only [Node.visitRules_eq]
  refine sim.lifted.bind (sim.dottedName related visible fun none => .part kind (.head _) none) ?_
  intro name
  refine sim.lifted.bind (sim.lifted.ifPresent ?_) fun _ => sim.lifted.pure _
  refine forall₂_getLast? (List.rel_map ?_ (sim.rules related visible .typeArguments))
  intro c d part
  obtain ⟨inner, smaller, innerKind⟩ := part
  exact sim.typeArguments inner innerKind
termination_by sizeOf x

theorem typeArguments (sim : Simulation R P) {x y : Node} (related : R x y)
    (kind : x.kind = .rule .typeArguments) :
    Lifted P x.typeArguments y.typeArguments := by
  have visible := Node.visible_of_kind kind rfl
  rw [Node.typeArguments, Node.typeArguments]
  simp only [Node.visitRules_eq]
  refine sim.lifted.inOrder (List.rel_map ?_ (sim.rules related visible .typeArgument))
  intro c d part
  obtain ⟨inner, smaller, innerKind⟩ := part
  exact sim.typeArgument inner innerKind
termination_by sizeOf x

theorem typeArgument (sim : Simulation R P) {x y : Node} (related : R x y)
    (kind : x.kind = .rule .typeArgument) :
    Lifted P x.typeArgument y.typeArgument := by
  have visible := Node.visible_of_kind kind rfl
  rw [Node.typeArgument, Node.typeArgument]
  simp only [Node.visitTypeAt_eq, ← sim.hasTerminal related visible]
  -- Whether there is a type is settled first: without one the failure is about this node.
  obtain ⟨none, none'⟩ | ⟨c, d, found, found', part⟩ :=
    rel_cases (sim.typeNodeAt? related visible 0)
  · simp only [none, none', Option.map_none, ifPresent, pure_bind]
    split
    · exact sim.lifted.pure _
    · next noWildcard =>
      refine sim.malformed_lifted related (.typeArgument kind ?_ none)
      exact Bool.eq_false_iff.2 noWildcard
  · simp only [found, found', Option.map_some, ifPresent, bind_assoc, pure_bind]
    obtain ⟨inner, smaller, isType⟩ := part
    refine sim.lifted.bind (sim.typeRef inner isType) fun type => ?_
    split <;> exact sim.lifted.pure _
termination_by sizeOf x

end

theorem firstType? (sim : Simulation R P) (related : R x y) (visible : x.Visible) :
    Lifted P x.firstType? y.firstType? := by
  refine sim.lifted.ifPresent (rel_map (sim.typeNodeAt? related visible 0) ?_)
  intro c d part
  exact sim.typeRef part.related part.fits

theorem typeRefs (sim : Simulation R P) (related : R x y) (visible : x.Visible) :
    Lifted P x.typeRefs y.typeRefs := by
  refine sim.lifted.inOrder (List.rel_map ?_ (sim.typeNodes related visible))
  intro c d part
  exact sim.typeRef part.related part.fits

theorem typeParameter (sim : Simulation R P) (related : R x y)
    (kind : x.kind = .rule .typeParameter) : Lifted P x.typeParameter y.typeParameter := by
  have visible := Node.visible_of_kind kind rfl
  unfold Node.typeParameter
  refine sim.lifted.bind (sim.declaredName related visible fun none => .part kind (.head _) none) ?_
  intro name
  obtain ⟨none, none'⟩ | ⟨c, d, found, found', part⟩ :=
    rel_cases (sim.rule? related visible .typeBound)
  · rw [none, none']
    exact sim.lifted.pure _
  · rw [found, found']
    refine sim.lifted.bind ?_ fun bounds => sim.lifted.pure _
    exact sim.typeRefs part.related (Node.visible_of_kind part.fits rfl)

theorem typeParameters? (sim : Simulation R P) (related : R x y) (visible : x.Visible) :
    Lifted P x.typeParameters? y.typeParameters? := by
  refine sim.lifted.ifPresent (rel_map (sim.rule? related visible .typeParameters) ?_)
  intro list list' part
  refine sim.lifted.inOrder (List.rel_map ?_
    (sim.rules part.related (Node.visible_of_kind part.fits rfl) .typeParameter))
  intro c d inner
  exact sim.typeParameter inner.related inner.fits

theorem interfaces? (sim : Simulation R P) (related : R x y) (visible : x.Visible) :
    Lifted P x.interfaces? y.interfaces? := by
  refine sim.lifted.ifPresent (rel_map (sim.ruleAfter? related visible .kwImplements .typeList) ?_)
  intro list list' part
  exact sim.typeRefs part.related (Node.visible_of_kind part.fits rfl)

theorem thrownTypes (sim : Simulation R P) (related : R x y) (visible : x.Visible) :
    Lifted P x.thrownTypes y.thrownTypes := by
  unfold Node.thrownTypes
  obtain ⟨none, none'⟩ | ⟨list, list', found, found', part⟩ :=
    rel_cases (sim.ruleAfter? related visible .kwThrows .qualifiedNameList)
  · rw [none, none']
    exact sim.lifted.pure _
  · rw [found, found']
    refine sim.lifted.inOrder (List.rel_map ?_
      (sim.rules part.related (Node.visible_of_kind part.fits rfl) .qualifiedName))
    intro c d inner
    refine sim.lifted.bind ?_ fun name => sim.lifted.pure _
    exact sim.dottedName inner.related (Node.visible_of_kind inner.fits rfl)
      fun none => .part inner.fits (.head _) none

theorem parameter (sim : Simulation R P) (related : R x y)
    (kind : x.kind = .rule .formalParameter ∨ x.kind = .rule .lastFormalParameter) :
    Lifted P x.parameter y.parameter := by
  have visible : x.Visible := by
    rcases kind with kind | kind <;> exact Node.visible_of_kind kind rfl
  unfold Node.parameter
  obtain ⟨none, none'⟩ | ⟨type, type', found, found', typePart⟩ :=
    rel_cases (sim.typeNodeAt? related visible 0)
  · rw [none, none']
    exact sim.malformed_lifted related (.parameterType kind none)
  · rw [found, found']
    obtain ⟨none, none'⟩ | ⟨id, id', found, found', part⟩ :=
      rel_cases (sim.rule? related visible .variableDeclaratorId)
    · rw [none, none']
      refine sim.malformed_lifted related ?_
      rcases kind with kind | kind <;> exact .part kind (.head _) none
    · rw [found, found']
      have idVisible := Node.visible_of_kind part.fits rfl
      simp only [← sim.hasTerminal related visible, ← sim.countTerminal part.related idVisible]
      refine sim.lifted.bind ?_ fun name => ?_
      · exact sim.declaredName part.related idVisible fun none => .part part.fits (.head _) none
      · refine sim.lifted.bind ?_ fun type => sim.lifted.pure _
        exact sim.typeRef typePart.related typePart.fits

theorem parameters (sim : Simulation R P) (related : R x y) (visible : x.Visible) :
    Lifted P x.parameters y.parameters := by
  unfold Node.parameters
  obtain ⟨none, none'⟩ | ⟨outer, outer', found, found', outerPart⟩ :=
    rel_cases (sim.rule? related visible .formalParameters)
  · rw [none, none']
    exact sim.lifted.pure _
  · rw [found, found', Option.bind_some, Option.bind_some]
    obtain ⟨none, none'⟩ | ⟨list, list', found, found', part⟩ := rel_cases
      (sim.rule? outerPart.related (Node.visible_of_kind outerPart.fits rfl) .formalParameterList)
    · rw [none, none']
      exact sim.lifted.pure _
    · rw [found, found']
      refine sim.lifted.inOrder (List.rel_map ?_
        (sim.rulesWhere part.related (Node.visible_of_kind part.fits rfl) _))
      intro c d inner
      obtain ⟨rule, kind, either⟩ := inner.fits
      refine sim.parameter inner.related ?_
      rw [Bool.or_eq_true, beq_iff_eq, beq_iff_eq] at either
      rcases either with rfl | rfl
      · exact Or.inl kind
      · exact Or.inr kind

/-! ## Operators and invoked names -/

theorem operatorCode (sim : Simulation R P) (related : R x y) (labelled : x.IsOperator)
    (inRange : x.label = some "bop" → ∀ terminal, x.kind = .terminal terminal →
      terminal.isBinaryOperator = true) :
    Lifted P x.operatorCode y.operatorCode := by
  unfold Node.operatorCode
  rw [← sim.kind related]
  cases kind : x.kind with
  | rule rule => exact sim.malformed_lifted related (.operator kind labelled)
  | terminal terminal =>
    simp only
    cases code : Code.ofTerminal? terminal with
    | some found => exact sim.lifted.pure found
    | none =>
      refine sim.unsupportedToken related ⟨kind, labelled, code, ?_⟩
      intro bop
      exact Terminal.mem_unmappedOperators (inRange bop terminal kind) code

theorem invokedName (sim : Simulation R P) (related : R x y)
    (kind : x.kind = .rule .methodCall) : Lifted P x.invokedName y.invokedName := by
  have visible := Node.visible_of_kind kind rfl
  unfold Node.invokedName
  obtain ⟨none, none'⟩ | ⟨c, d, found, found', part⟩ :=
    rel_cases (sim.rule? related visible .identifier)
  · rw [none, none', ← sim.hasTerminal related visible, ← sim.hasTerminal related visible]
    simp only
    split
    · exact sim.lifted.pure _
    · next noSuper =>
      split
      · exact sim.lifted.pure _
      · next noThis =>
        refine sim.malformed_lifted related (.invokedName kind none ?_ ?_)
        · exact Bool.eq_false_iff.2 noSuper
        · exact Bool.eq_false_iff.2 noThis
  · rw [found, found']
    simp only
    rw [sim.identifierText part.related part.fits]
    exact sim.lifted.pure _

end Simulation

end JavaProjection
