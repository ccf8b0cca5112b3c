import Mathlib.Data.List.Forall2
import JavaProjection.Proofs.Defect
import JavaProjection.Proofs.Runs

/-!
# Two projections side by side

Two trees are projected in lockstep. If they agree in what a projection decides by, the two
computations are built alike, from the same few leaves: failures, reports and literals. A relation
between computations that the leaves satisfy and that sequencing keeps then holds of the two
projections as wholes. A property of one projection is the case of a tree paired with itself.
-/

set_option autoImplicit false

namespace JavaProjection

open Projection

/-! ## Relations between computations -/

/-- A relation between computations that returning and sequencing keep. -/
structure Compositional {m : Type → Type} [Monad m] (P : ⦃α : Type⦄ → m α → m α → Prop) :
    Prop where
  pure {α : Type} (value : α) : P (pure value) (pure value)
  bind {α β : Type} {first second : m α} {next other : α → m β} :
    P first second → (∀ value, P (next value) (other value)) → P (first >>= next) (second >>= other)

namespace Compositional

variable {m : Type → Type} [Monad m] {P : ⦃α : Type⦄ → m α → m α → Prop} {α β : Type}

theorem map [LawfulMonad m] (closed : Compositional P) (f : α → β) {first second : m α}
    (related : P first second) : P (f <$> first) (f <$> second) := by
  rw [map_eq_pure_bind, map_eq_pure_bind]
  exact closed.bind related fun value => closed.pure (f value)

theorem inOrder (closed : Compositional P) {first second : List (m α)}
    (related : List.Forall₂ (@P α) first second) :
    P (Projection.inOrder first) (Projection.inOrder second) := by
  induction related with
  | nil => exact closed.pure []
  | cons head _ tail =>
    exact closed.bind head fun value =>
      closed.bind tail fun values => closed.pure (value :: values)

theorem ifPresent (closed : Compositional P) {first second : Option (m α)}
    (related : Option.Rel (@P α) first second) :
    P (Projection.ifPresent first) (Projection.ifPresent second) := by
  cases related with
  | none => exact closed.pure none
  | some inner => exact closed.bind inner fun value => closed.pure (some value)

end Compositional

/-! ## Searches in related lists -/

section Search

variable {α β : Type} {R S : α → α → Prop} {P : β → β → Prop}

theorem forall₂_mem {left right : List α} (related : List.Forall₂ R left right) :
    List.Forall₂ (fun a b => R a b ∧ a ∈ left) left right := by
  induction related with
  | nil => exact .nil
  | cons head _ ih =>
    refine .cons ⟨head, List.mem_cons_self⟩ (ih.imp ?_)
    intro a b both
    exact ⟨both.1, List.mem_cons_of_mem _ both.2⟩

theorem forall₂_filter {left right : List α} {test : α → Bool}
    (related : List.Forall₂ R left right) (alike : ∀ {a b}, R a b → test a = test b) :
    List.Forall₂ (fun a b => R a b ∧ test a = true) (left.filter test) (right.filter test) := by
  have kept : List.Forall₂ R (left.filter test) (right.filter test) :=
    List.rel_filter (fun _ _ pair => by simp only [alike pair]) related
  refine (forall₂_mem kept).imp ?_
  intro a b both
  exact ⟨both.1, (List.mem_filter.1 both.2).2⟩

theorem forall₂_dropWhile {left right : List α} {test : α → Bool}
    (related : List.Forall₂ R left right) (alike : ∀ {a b}, R a b → test a = test b) :
    List.Forall₂ R (left.dropWhile test) (right.dropWhile test) := by
  induction related with
  | nil => exact .nil
  | @cons a b _ _ head tail ih =>
    rw [List.dropWhile_cons, List.dropWhile_cons, ← alike head]
    split
    · exact ih
    · exact .cons head tail

theorem forall₂_getElem? {left right : List α} (related : List.Forall₂ R left right)
    (index : Nat) : Option.Rel R left[index]? right[index]? := by
  induction related generalizing index with
  | nil => exact .none
  | cons head _ ih =>
    cases index with
    | zero => exact .some head
    | succ index => exact ih index

theorem forall₂_find? {left right : List α} {test : α → Bool}
    (related : List.Forall₂ R left right) (alike : ∀ {a b}, R a b → test a = test b) :
    Option.Rel (fun a b => R a b ∧ test a = true) (left.find? test) (right.find? test) := by
  rw [← List.head?_filter, ← List.head?_filter, List.head?_eq_getElem?, List.head?_eq_getElem?]
  exact forall₂_getElem? (forall₂_filter related alike) 0

theorem forall₂_getLast? {left right : List α} (related : List.Forall₂ R left right) :
    Option.Rel R left.getLast? right.getLast? := by
  rw [List.getLast?_eq_getElem?, List.getLast?_eq_getElem?, related.length_eq]
  exact forall₂_getElem? related _

theorem rel_map {left right : Option α} {f g : α → β} (related : Option.Rel S left right)
    (each : ∀ {a b}, S a b → P (f a) (g b)) : Option.Rel P (left.map f) (right.map g) := by
  cases related with
  | none => exact .none
  | some inner => exact .some (each inner)

theorem rel_orElse {left right left' right' : Option β} (first : Option.Rel P left right)
    (second : Option.Rel P left' right') :
    Option.Rel P (left <|> left') (right <|> right') := by
  cases first with
  | none => exact second
  | some inner => exact .some inner

theorem rel_imp {left right : Option α} (related : Option.Rel R left right)
    (each : ∀ a b, R a b → S a b) : Option.Rel S left right := by
  cases related with
  | none => exact .none
  | some inner => exact .some (each _ _ inner)

theorem rel_getD {left right : Option β} {otherwise instead : β}
    (related : Option.Rel P left right) (absent : left = none → P otherwise instead) :
    P (left.getD otherwise) (right.getD instead) := by
  cases related with
  | none => exact absent rfl
  | some inner => exact inner

theorem rel_isSome {left right : Option α} (related : Option.Rel S left right) :
    left.isSome = right.isSome := by
  cases related <;> rfl

theorem rel_cases {left right : Option α} (related : Option.Rel S left right) :
    (left = none ∧ right = none) ∨ ∃ a b, left = some a ∧ right = some b ∧ S a b := by
  cases related with
  | none => exact Or.inl ⟨rfl, rfl⟩
  | some inner => exact Or.inr ⟨_, _, rfl, rfl, inner⟩

end Search

/-! ## Related trees -/

/-- The rules whose nodes a projection never looks into: untranslated statements, declarations
and expressions, and annotations. -/
def Rule.isHidden (rule : Rule) : Bool :=
  rule.placeholderStatement?.isSome ||
    match rule with
    | .enumDeclaration | .interfaceDeclaration | .recordDeclaration | .annotationTypeDeclaration
    | .genericMethodDeclaration | .genericConstructorDeclaration | .lambdaExpression
    | .switchExpression | .annotationUse => true
    | _ => false

/-- The children of the node can matter. A label makes any node count. -/
def Node.Visible (node : Node) : Prop :=
  node.label ≠ none ∨ ∀ rule, node.kind = .rule rule → rule.isHidden = false

theorem Node.visible_of_kind {node : Node} {rule : Rule} (kind : node.kind = .rule rule)
    (shown : rule.isHidden = false) : node.Visible := by
  refine Or.inr ?_
  intro rule' kind'
  rw [kind] at kind'
  cases kind'
  exact shown

/-- Trees related by `R` are projected in lockstep, and `P` relates what happens at the leaves of
the two computations. -/
structure Simulation (R : Node → Node → Prop)
    (P : ⦃α : Type⦄ → Projection α → Projection α → Prop) : Prop extends Compositional P where
  kind {x y : Node} : R x y → x.kind = y.kind
  label {x y : Node} : R x y → x.label = y.label
  children {x y : Node} : R x y → x.Visible → List.Forall₂ R x.children y.children
  identifierText {x y : Node} : R x y → x.kind = .rule .identifier →
    x.identifierText = y.identifierText
  literal {x y : Node} : R x y → x.kind = .rule .literal → P x.literal y.literal
  malformed {α : Type} {x y : Node} {expected : String} : R x y → x.Defect expected →
    P (throw (x.malformed expected) : Projection α) (throw (y.malformed expected))
  unsupportedToken {α : Type} {x y : Node} {terminal : Terminal} : R x y →
    x.UncodedOperator terminal →
    P (throw (.unsupportedToken terminal x.ownText x.span) : Projection α)
      (throw (.unsupportedToken terminal y.ownText y.span))
  unsupportedLocalType {α : Type} {x y : Node} : R x y →
    x.kind = .rule .localTypeDeclaration → x.rule? .classDeclaration = none →
    P (throw (.unsupportedLocalType x.localTypeTitle x.span) : Projection α)
      (throw (.unsupportedLocalType x.localTypeTitle y.span))
  placeholder {x y : Node} (tag : Placeholder) (construct : String) : R x y →
    P (x.placeholder tag construct) (y.placeholder tag construct)
  operatorPlaceholder {x y operator partner : Node} : R x y → R operator partner →
    P (x.placeholder .expression s!"`{operator.ownText}` expression")
      (y.placeholder .expression s!"`{partner.ownText}` expression")
  droppedBranch {x y : Node} : R x y → P x.reportDroppedBranch y.reportDroppedBranch

/-- Nodes found at the same place below `x` and its partner. -/
structure Part (R : Node → Node → Prop) (x : Node) (fits : Node → Prop) (c d : Node) : Prop where
  related : R c d
  smaller : sizeOf c < sizeOf x
  fits : fits c

namespace Simulation

variable {R : Node → Node → Prop} {P : ⦃α : Type⦄ → Projection α → Projection α → Prop}
  {x y : Node}

/-! ## Queries on related trees -/

/-- The children of related nodes are related and smaller, which is what the recursion needs of
them. -/
theorem parts (sim : Simulation R P) (related : R x y) (visible : x.Visible) :
    List.Forall₂ (fun c d => R c d ∧ sizeOf c < sizeOf x) x.children y.children := by
  refine (forall₂_mem (sim.children related visible)).imp ?_
  intro c d both
  exact ⟨both.1, Node.sizeOf_lt_of_mem both.2⟩

theorem isRule (sim : Simulation R P) (related : R x y) (rule : Rule) :
    x.isRule rule = y.isRule rule := by
  rw [Node.isRule, Node.isRule, sim.kind related]

theorem isTerminal (sim : Simulation R P) (related : R x y) (terminal : Terminal) :
    x.isTerminal terminal = y.isTerminal terminal := by
  rw [Node.isTerminal, Node.isTerminal, sim.kind related]

theorem rules (sim : Simulation R P) (related : R x y) (visible : x.Visible) (rule : Rule) :
    List.Forall₂ (Part R x fun c => c.kind = .rule rule) (x.rules rule) (y.rules rule) := by
  refine (forall₂_filter (sim.parts related visible) ?_).imp ?_
  · intro c d pair
    exact sim.isRule pair.1 rule
  · intro c d part
    exact ⟨part.1.1, part.1.2, eq_of_beq part.2⟩

theorem ruleAt? (sim : Simulation R P) (related : R x y) (visible : x.Visible) (rule : Rule)
    (index : Nat) :
    Option.Rel (Part R x fun c => c.kind = .rule rule) (x.ruleAt? rule index)
      (y.ruleAt? rule index) :=
  forall₂_getElem? (sim.rules related visible rule) index

theorem rule? (sim : Simulation R P) (related : R x y) (visible : x.Visible) (rule : Rule) :
    Option.Rel (Part R x fun c => c.kind = .rule rule) (x.rule? rule) (y.rule? rule) :=
  sim.ruleAt? related visible rule 0

theorem rulesWhere (sim : Simulation R P) (related : R x y) (visible : x.Visible)
    (test : Rule → Bool) :
    List.Forall₂ (Part R x fun c => ∃ rule, c.kind = .rule rule ∧ test rule = true)
      (x.rulesWhere test) (y.rulesWhere test) := by
  refine (forall₂_filter (sim.parts related visible) ?_).imp ?_
  · intro c d pair
    rw [sim.kind pair.1]
  · intro c d part
    obtain ⟨rule, found, holds⟩ := (Option.any_eq_true _ _).1 part.2
    exact ⟨part.1.1, part.1.2, rule, Kind.rule?_eq_some_iff.1 found, holds⟩

theorem statementAt? (sim : Simulation R P) (related : R x y) (visible : x.Visible)
    (index : Nat) :
    Option.Rel (Part R x fun c => ∃ rule, c.kind = .rule rule ∧ rule.isStatement = true)
      (x.statementAt? index) (y.statementAt? index) :=
  forall₂_getElem? (sim.rulesWhere related visible Rule.isStatement) index

theorem typeNodes (sim : Simulation R P) (related : R x y) (visible : x.Visible) :
    List.Forall₂ (Part R x fun c => ∃ rule, c.kind = .rule rule ∧ rule.isType = true)
      x.typeNodes y.typeNodes :=
  sim.rulesWhere related visible Rule.isType

theorem typeNodeAt? (sim : Simulation R P) (related : R x y) (visible : x.Visible)
    (index : Nat) :
    Option.Rel (Part R x fun c => ∃ rule, c.kind = .rule rule ∧ rule.isType = true)
      (x.typeNodeAt? index) (y.typeNodeAt? index) :=
  forall₂_getElem? (sim.typeNodes related visible) index

theorem labelled? (sim : Simulation R P) (related : R x y) (visible : x.Visible)
    (label : String) :
    Option.Rel (Part R x fun c => c.label = some label) (x.labelled? label)
      (y.labelled? label) := by
  refine rel_imp (forall₂_find? (sim.parts related visible) ?_) ?_
  · intro c d pair
    rw [sim.label pair.1]
  · intro c d part
    exact ⟨part.1.1, part.1.2, eq_of_beq part.2⟩

theorem ruleAfter? (sim : Simulation R P) (related : R x y) (visible : x.Visible)
    (terminal : Terminal) (rule : Rule) :
    Option.Rel (Part R x fun c => c.kind = .rule rule) (x.ruleAfter? terminal rule)
      (y.ruleAfter? terminal rule) := by
  have after := forall₂_dropWhile (sim.parts related visible)
    fun {c d} pair => congrArg not (sim.isTerminal pair.1 terminal)
  refine rel_imp (forall₂_find? after ?_) ?_
  · intro c d pair
    exact sim.isRule pair.1 rule
  · intro c d part
    exact ⟨part.1.1, part.1.2, eq_of_beq part.2⟩

theorem terminals (sim : Simulation R P) (related : R x y) (visible : x.Visible)
    (terminal : Terminal) :
    List.Forall₂ (Part R x fun c => c.kind = .terminal terminal) (x.terminals terminal)
      (y.terminals terminal) := by
  refine (forall₂_filter (sim.parts related visible) ?_).imp ?_
  · intro c d pair
    exact sim.isTerminal pair.1 terminal
  · intro c d part
    exact ⟨part.1.1, part.1.2, eq_of_beq part.2⟩

theorem firstTerminal? (sim : Simulation R P) (related : R x y) (visible : x.Visible) :
    Option.Rel R x.firstTerminal? y.firstTerminal? := by
  refine rel_imp (forall₂_find? (sim.parts related visible) ?_) ?_
  · intro c d pair
    rw [sim.kind pair.1]
  · intro c d part
    exact part.1.1

theorem countTerminal (sim : Simulation R P) (related : R x y) (visible : x.Visible)
    (terminal : Terminal) : x.countTerminal terminal = y.countTerminal terminal :=
  (sim.terminals related visible terminal).length_eq

theorem hasTerminal (sim : Simulation R P) (related : R x y) (visible : x.Visible)
    (terminal : Terminal) : x.hasTerminal terminal = y.hasTerminal terminal := by
  unfold Node.hasTerminal Node.terminal?
  rw [List.head?_eq_getElem?, List.head?_eq_getElem?]
  exact rel_isSome (forall₂_getElem? (sim.terminals related visible terminal) 0)

theorem childCount (sim : Simulation R P) (related : R x y) (visible : x.Visible) :
    x.children.length = y.children.length :=
  (sim.children related visible).length_eq

/-! ## What related trees spell -/

theorem hasParens (sim : Simulation R P) (related : R x y) (visible : x.Visible) :
    x.hasParens = y.hasParens := by
  rw [Node.hasParens, Node.hasParens, sim.hasTerminal related visible,
    sim.hasTerminal related visible]

theorem hasBrackets (sim : Simulation R P) (related : R x y) (visible : x.Visible) :
    x.hasBrackets = y.hasBrackets := by
  rw [Node.hasBrackets, Node.hasBrackets, sim.hasTerminal related visible,
    sim.hasTerminal related visible]

theorem identifier? (sim : Simulation R P) (related : R x y) (visible : x.Visible) :
    (x.rule? .identifier).map Node.identifierText =
      (y.rule? .identifier).map Node.identifierText := by
  obtain ⟨none, none'⟩ | ⟨c, d, found, found', part⟩ :=
    rel_cases (sim.rule? related visible .identifier)
  · rw [none, none']
  · rw [found, found', Option.map_some, Option.map_some,
      sim.identifierText part.related part.fits]

theorem identifiers (sim : Simulation R P) (related : R x y) (visible : x.Visible) :
    (x.rules .identifier).map Node.identifierText =
      (y.rules .identifier).map Node.identifierText := by
  rw [← List.forall₂_eq_eq_eq]
  exact List.rel_map (fun _ _ part => sim.identifierText part.related part.fits)
    (sim.rules related visible .identifier)

theorem jumpLabel? (sim : Simulation R P) (related : R x y) (visible : x.Visible) :
    x.jumpLabel? = y.jumpLabel? :=
  sim.identifier? related visible

theorem reference? (sim : Simulation R P) (related : R x y) (visible : x.Visible) :
    x.reference? = y.reference? := by
  have same := congrArg (Option.map Expression.name) (sim.identifier? related visible)
  rw [Option.map_map, Option.map_map] at same
  exact same

theorem isOnSuper (sim : Simulation R P) (related : R x y) (visible : x.Visible) :
    x.isOnSuper = y.isOnSuper := by
  unfold Node.isOnSuper
  obtain ⟨none, none'⟩ | ⟨left, left', found, found', part⟩ :=
    rel_cases (sim.rule? related visible .expression)
  · rw [none, none']
  · rw [found, found', Option.bind_some, Option.bind_some]
    obtain ⟨none, none'⟩ | ⟨primary, primary', found, found', inner⟩ :=
      rel_cases (sim.rule? part.related (Node.visible_of_kind part.fits rfl) .primary)
    · rw [none, none']
    · have shown := Node.visible_of_kind inner.fits rfl
      rw [found, found', Option.any_some, Option.any_some, sim.childCount inner.related shown,
        sim.hasTerminal inner.related shown]

theorem uncodedForm? (sim : Simulation R P) (related : R x y) (visible : x.Visible) :
    x.uncodedForm? = y.uncodedForm? := by
  have unlabelled : (x.labelled? "bop").isNone = (y.labelled? "bop").isNone := by
    rw [← Option.not_isSome, ← Option.not_isSome,
      rel_isSome (sim.labelled? related visible "bop")]
  unfold Node.uncodedForm?
  rw [unlabelled, (sim.rules related visible .expression).length_eq,
    sim.hasTerminal related visible, sim.hasTerminal related visible,
    sim.hasTerminal related visible]

theorem unknownForm (sim : Simulation R P) (related : R x y) (visible : x.Visible) :
    x.unknownForm = y.unknownForm := by
  rw [Node.unknownForm, Node.unknownForm, rel_isSome (sim.rule? related visible .lambdaExpression)]

theorem unknownPrimary (sim : Simulation R P) (related : R x y) (visible : x.Visible) :
    x.unknownPrimary = y.unknownPrimary := by
  rw [Node.unknownPrimary, Node.unknownPrimary, sim.hasTerminal related visible,
    sim.hasTerminal related visible]

theorem unaryOperator? (sim : Simulation R P) (related : R x y) (visible : x.Visible) :
    Option.Rel (fun a b => R a.1 b.1 ∧ a.2 = b.2 ∧ (x.rule? .expression).isSome = true ∧
        (a.1.label = some "prefix" ∨ a.1.label = some "postfix"))
      x.unaryOperator? y.unaryOperator? := by
  unfold Node.unaryOperator?
  rw [← sim.childCount related visible, ← rel_isSome (sim.rule? related visible .expression)]
  split
  · next unary =>
    obtain ⟨none, none'⟩ | ⟨c, d, found, found', part⟩ :=
      rel_cases (sim.labelled? related visible "prefix")
    · rw [none, none']
      refine rel_map (sim.labelled? related visible "postfix") ?_
      intro c d part
      exact ⟨part.related, rfl, unary.2, Or.inr part.fits⟩
    · rw [found, found']
      exact .some ⟨part.related, rfl, unary.2, Or.inl part.fits⟩
  · exact .none

theorem modifier? (sim : Simulation R P) (related : R x y) (visible : x.Visible) :
    x.modifier? = y.modifier? := by
  have inner : R ((x.rule? .classOrInterfaceModifier).getD x)
      ((y.rule? .classOrInterfaceModifier).getD y) ∧
      ((x.rule? .classOrInterfaceModifier).getD x).Visible := by
    obtain ⟨none, none'⟩ | ⟨c, d, found, found', part⟩ :=
      rel_cases (sim.rule? related visible .classOrInterfaceModifier)
    · rw [none, none']
      exact ⟨related, visible⟩
    · rw [found, found']
      exact ⟨part.related, Node.visible_of_kind part.fits rfl⟩
  unfold Node.modifier?
  obtain ⟨none, none'⟩ | ⟨c, d, found, found', token⟩ :=
    rel_cases (sim.firstTerminal? inner.1 inner.2)
  · simp only [none, none']
  · simp only [found, found', Option.bind_eq_bind, Option.bind_some, sim.kind token]

theorem modifiers? (sim : Simulation R P) (related : R x y) (visible : x.Visible) {rule : Rule}
    (shown : rule.isHidden = false) :
    Node.modifiers? (x.rules rule) = Node.modifiers? (y.rules rule) := by
  have spelled : (x.rules rule).map Node.modifier? = (y.rules rule).map Node.modifier? := by
    rw [← List.forall₂_eq_eq_eq]
    exact List.rel_map (fun _ _ part =>
      sim.modifier? part.related (Node.visible_of_kind part.fits shown))
      (sim.rules related visible rule)
  have codes := congrArg (List.filterMap id) spelled
  rw [List.filterMap_map, List.filterMap_map, Function.id_comp] at codes
  cases left : x.rules rule with
  | nil =>
    rw [left] at spelled
    rw [List.map_eq_nil_iff.1 spelled.symm]
  | cons c rest =>
    cases right : y.rules rule with
    | nil =>
      rw [left, right] at spelled
      cases spelled
    | cons d rest' =>
      rw [left, right] at codes
      exact congrArg (fun codes => some (Modifiers.ofCodes codes)) codes

theorem localTypeTitle (sim : Simulation R P) (related : R x y) (visible : x.Visible) :
    x.localTypeTitle = y.localTypeTitle := by
  unfold Node.localTypeTitle
  rw [List.head?_eq_getElem?, List.head?_eq_getElem?]
  obtain ⟨none, none'⟩ | ⟨c, d, found, found', part⟩ := rel_cases (forall₂_getElem?
    (sim.rulesWhere related visible fun rule => rule != .classOrInterfaceModifier) 0)
  · rw [none, none']
  · rw [found, found', Option.bind_some, Option.bind_some, sim.kind part.related]

end Simulation

end JavaProjection
