import Mathlib
import JavaProjection.Proofs.Literals
import JavaProjection.Proofs.Lockstep.Unit
import JavaProjection.Proofs.Trees

/-!
# Positions only flow through

A projection passes the spans of nodes on to its diagnostics and to its failure and does nothing
else with them. If a function is applied to all spans of a tree, it is applied to the reported
spans, and nothing else changes. So every reported span is that of a node.
-/

set_option autoImplicit false

namespace JavaProjection

open Projection

/-! ## Moved trees and outcomes -/

namespace Node

mutual

def mapSpans (f : Span → Span) : Node → Node
  | ⟨kind, span, children, text, label⟩ =>
    ⟨kind, f span, mapSpansAll f children, text, label⟩

def mapSpansAll (f : Span → Span) : List Node → List Node
  | [] => []
  | child :: rest => child.mapSpans f :: mapSpansAll f rest

end

end Node

def Diagnostic.mapSpan (f : Span → Span) (diagnostic : Diagnostic) : Diagnostic :=
  { diagnostic with span := f diagnostic.span }

def Failure.mapSpan (f : Span → Span) : Failure → Failure
  | .unsupportedLocalType construct span => .unsupportedLocalType construct (f span)
  | .unsupportedToken kind text span => .unsupportedToken kind text (f span)
  | .invalidLiteral text span => .invalidLiteral text (f span)
  | .malformedTree expected span => .malformedTree expected (f span)

def Projected.mapSpans (f : Span → Span) (projected : Projected) : Projected :=
  { projected with diagnostics := projected.diagnostics.map (Diagnostic.mapSpan f) }

theorem Failure.span_mapSpan (f : Span → Span) (failure : Failure) :
    (failure.mapSpan f).span = f failure.span := by
  cases failure <;> rfl

/-! ## Queries on moved trees -/

namespace Node

variable (f : Span → Span) (node : Node)

theorem mapSpansAll_eq_map (nodes : List Node) : mapSpansAll f nodes = nodes.map (mapSpans f) := by
  induction nodes with
  | nil => rfl
  | cons node rest ih => rw [mapSpansAll, ih, List.map_cons]

@[simp] theorem kind_mapSpans : (node.mapSpans f).kind = node.kind := by
  cases node
  rfl

@[simp] theorem span_mapSpans : (node.mapSpans f).span = f node.span := by
  cases node
  rfl

@[simp] theorem label_mapSpans : (node.mapSpans f).label = node.label := by
  cases node
  rfl

@[simp] theorem ownText_mapSpans : (node.mapSpans f).ownText = node.ownText := by
  cases node
  rfl

@[simp] theorem children_mapSpans :
    (node.mapSpans f).children = node.children.map (mapSpans f) := by
  cases node
  exact mapSpansAll_eq_map f _

@[simp] theorem rule?_mapSpans (rule : Rule) :
    (node.mapSpans f).rule? rule = (node.rule? rule).map (mapSpans f) := by
  simp [rule?, ruleAt?, rules, List.filter_map, Function.comp_def, isRule]

@[simp] theorem terminal?_mapSpans (terminal : Terminal) :
    (node.mapSpans f).terminal? terminal = (node.terminal? terminal).map (mapSpans f) := by
  simp [terminal?, terminals, List.filter_map, Function.comp_def, isTerminal]

@[simp] theorem firstTerminal?_mapSpans :
    (node.mapSpans f).firstTerminal? = node.firstTerminal?.map (mapSpans f) := by
  simp [firstTerminal?, List.find?_map]

@[simp] theorem hasTerminal_mapSpans (terminal : Terminal) :
    (node.mapSpans f).hasTerminal terminal = node.hasTerminal terminal := by
  simp [hasTerminal]

mutual

@[simp] theorem fullText_mapSpans (f : Span → Span) : (node : Node) →
    (node.mapSpans f).fullText = node.fullText
  | ⟨kind, span, children, text, label⟩ => by
    rw [mapSpans, fullText, fullText, fullTextAll_mapSpansAll f children]

theorem fullTextAll_mapSpansAll (f : Span → Span) : (nodes : List Node) →
    fullTextAll (mapSpansAll f nodes) = fullTextAll nodes
  | [] => rfl
  | node :: rest => by
    rw [mapSpansAll, fullTextAll, fullTextAll, fullText_mapSpans f node,
      fullTextAll_mapSpansAll f rest]

end

@[simp] theorem identifierText_mapSpans :
    (node.mapSpans f).identifierText = node.identifierText := by
  unfold identifierText
  rw [firstTerminal?_mapSpans]
  cases node.firstTerminal? with
  | none => exact fullText_mapSpans f node
  | some token => exact ownText_mapSpans f token

@[simp] theorem malformed_mapSpans (expected : String) :
    (node.mapSpans f).malformed expected = (node.malformed expected).mapSpan f := by
  simp [malformed, Failure.mapSpan]

@[simp] theorem invalidLiteral_mapSpans :
    (node.mapSpans f).invalidLiteral = node.invalidLiteral.mapSpan f := by
  simp [invalidLiteral, Failure.mapSpan]

end Node

/-! ## Projections of moved trees -/

def movedRun {α : Type} (f : Span → Span) (run : Except Failure α × Array Diagnostic) :
    Except Failure α × Array Diagnostic :=
  (run.1.mapError (Failure.mapSpan f), run.2.map (Diagnostic.mapSpan f))

/-- The second projection does what the first does, with a function applied to all spans. -/
def Moves (f : Span → Span) ⦃α : Type⦄ (first second : Projection α) : Prop :=
  ∀ policy gathered, second.runFrom policy (gathered.map (Diagnostic.mapSpan f)) =
    movedRun f (first.runFrom policy gathered)

namespace Moves

variable {f : Span → Span} {α β : Type}

theorem of_pure (value : α) : Moves f (pure value : Projection α) (pure value) := by
  intro policy gathered
  rfl

theorem of_throw {failure moved : Failure} (same : moved = failure.mapSpan f) :
    Moves f (throw failure : Projection α) (throw moved) := by
  intro policy gathered
  subst same
  rfl

theorem of_lift {outcome moved : Except Failure α}
    (same : moved = outcome.mapError (Failure.mapSpan f)) :
    Moves f (liftM outcome : Projection α) (liftM moved) := by
  intro policy gathered
  subst same
  rfl

theorem of_report {diagnostic moved : Diagnostic} (same : moved = diagnostic.mapSpan f) :
    Moves f (report diagnostic) (report moved) := by
  intro policy gathered
  subst same
  simp [movedRun, Except.mapError]

theorem bind {first second : Projection α} {next other : α → Projection β}
    (head : Moves f first second) (tail : ∀ value, Moves f (next value) (other value)) :
    Moves f (first >>= next) (second >>= other) := by
  intro policy gathered
  rw [runFrom_bind, runFrom_bind, head policy gathered]
  rcases first.runFrom policy gathered with ⟨_ | value, further⟩
  · rfl
  · exact tail value policy further

theorem of_placeholder (node : Node) (tag : Placeholder) (construct : String) :
    Moves f (node.placeholder tag construct) ((node.mapSpans f).placeholder tag construct) := by
  refine bind (of_report ?_) fun _ => of_pure _
  simp [Diagnostic.mapSpan, Diagnostic.warning]

/-! ## Leaves -/

theorem of_unsupportedLiteral (node : Node) :
    Moves f node.unsupportedLiteral (node.mapSpans f).unsupportedLiteral := by
  intro policy gathered
  unfold Node.unsupportedLiteral
  rw [runFrom_bind, runFrom_bind, runFrom_read, runFrom_read]
  simp only [Node.fullText_mapSpans, Node.span_mapSpans, Node.invalidLiteral_mapSpans]
  cases policy with
  | reject => exact of_throw rfl .reject gathered
  | sentinel =>
    refine bind (of_report ?_) (fun _ => of_pure _) .sentinel gathered
    rfl

theorem of_writtenLiteral (node : Node) (code : Code) (text : String) :
    Moves f (liftM (node.writtenLiteral code text) : Projection Expression)
      (liftM ((node.mapSpans f).writtenLiteral code text)) := by
  apply of_lift
  unfold Node.writtenLiteral
  split
  · rw [Node.invalidLiteral_mapSpans]
    rfl
  · rfl

theorem of_booleanLiteral (token : Node) :
    Moves f (liftM token.booleanLiteral : Projection Expression)
      (liftM (token.mapSpans f).booleanLiteral) := by
  apply of_lift
  unfold Node.booleanLiteral
  rw [Node.ownText_mapSpans, Node.invalidLiteral_mapSpans]
  split <;> rfl

theorem of_stringLiteral (token : Node) :
    Moves f (liftM token.stringLiteral : Projection Expression)
      (liftM (token.mapSpans f).stringLiteral) := by
  apply of_lift
  unfold Node.stringLiteral
  rw [Node.ownText_mapSpans, Node.invalidLiteral_mapSpans]
  split <;> rfl

-- The cases follow the order in which the forms of literals are tried.
theorem of_literal (node : Node) : Moves f node.literal (node.mapSpans f).literal := by
  unfold Node.literal
  simp only [Node.terminal?_mapSpans, Node.rule?_mapSpans, Node.hasTerminal_mapSpans,
    Node.firstTerminal?_mapSpans]
  cases node.terminal? .boolLiteral with
  | some token => exact of_booleanLiteral token
  | none =>
  cases node.rule? .integerLiteral with
  | some integer =>
    simp only [Option.map_some, Option.map_none, Node.terminal?_mapSpans]
    cases integer.terminal? .decimalLiteral with
    | some decimal =>
      simp only [Option.map_some, Node.ownText_mapSpans]
      exact of_writtenLiteral decimal _ _
    | none => exact of_unsupportedLiteral integer
  | none =>
  simp only [Option.map_none]
  split
  · exact of_pure _
  · cases node.rule? .floatLiteral with
    | some float =>
      simp only [Option.map_some, Node.fullText_mapSpans]
      exact of_writtenLiteral float _ _
    | none =>
    cases node.terminal? .stringLiteral with
    | some token => exact of_stringLiteral token
    | none =>
      simp only [Option.map_none, Option.isSome_map]
      split
      · exact of_unsupportedLiteral node
      · exact of_throw (node.invalidLiteral_mapSpans f)

/-- A tree and its moved copy are projected in step. -/
theorem simulation (f : Span → Span) : Simulation (fun x y => y = x.mapSpans f) (Moves f) where
  pure := of_pure
  bind := bind
  kind := by
    rintro x _ rfl
    exact (x.kind_mapSpans f).symm
  label := by
    rintro x _ rfl
    exact (x.label_mapSpans f).symm
  children := by
    rintro x _ rfl _
    rw [Node.children_mapSpans, List.forall₂_map_right_iff]
    exact List.forall₂_same.2 fun _ _ => rfl
  identifierText := by
    rintro x _ rfl _
    exact (x.identifierText_mapSpans f).symm
  literal := by
    rintro x _ rfl _
    exact of_literal x
  malformed := by
    rintro α x _ expected rfl _
    exact of_throw (x.malformed_mapSpans f expected)
  unsupportedToken := by
    rintro α x _ terminal rfl _
    rw [Node.ownText_mapSpans, Node.span_mapSpans]
    exact of_throw rfl
  unsupportedLocalType := by
    rintro α x _ rfl _ _
    rw [Node.span_mapSpans]
    exact of_throw rfl
  placeholder := by
    rintro x _ tag construct rfl
    exact of_placeholder x tag construct
  operatorPlaceholder := by
    rintro x _ operator _ rfl rfl
    rw [Node.ownText_mapSpans]
    exact of_placeholder x _ _
  droppedBranch := by
    rintro x _ rfl
    refine of_report ?_
    rw [Node.span_mapSpans]
    rfl

end Moves

/-! ## Whole source files -/

/-- No decision of a projection depends on a span, so any function of spans commutes with it. -/
theorem project_mapSpans (settings : Settings) (root : Node) (f : Span → Span) :
    settings.project (root.mapSpans f) =
      ((settings.project root).map (Projected.mapSpans f)).mapError (Failure.mapSpan f) := by
  have moved := (Moves.simulation f).compilationUnit (rfl : root.mapSpans f = _)
    (fun _ => Moves.of_throw (root.malformed_mapSpans f _)) settings.literals #[]
  unfold Settings.project
  rw [Array.map_empty] at moved
  rw [moved, movedRun]
  rcases root.compilationUnit.runFrom settings.literals #[] with ⟨_ | unit, gathered⟩
  · rfl
  · simp [Except.mapError, Except.map, Projected.mapSpans]

namespace Node

mutual

theorem mapSpans_eq_self {f : Span → Span} : (node : Node) →
    (∀ inner, node.Contains inner → f inner.span = inner.span) → node.mapSpans f = node
  | ⟨kind, span, children, text, label⟩, fixed => by
    have here : f span = span := fixed _ .root
    rw [mapSpans, here, mapSpansAll_eq_self children]
    intro child member inner below
    exact fixed inner (Contains.trans (.child .root member) below)

theorem mapSpansAll_eq_self {f : Span → Span} : (nodes : List Node) →
    (∀ node ∈ nodes, ∀ inner, node.Contains inner → f inner.span = inner.span) →
    mapSpansAll f nodes = nodes
  | [], _ => rfl
  | node :: rest, fixed => by
    obtain ⟨head, tail⟩ := List.forall_mem_cons.1 fixed
    rw [mapSpansAll, mapSpans_eq_self node head, mapSpansAll_eq_self rest tail]

end

def HasSpan (root : Node) (span : Span) : Prop :=
  ∃ node, root.Contains node ∧ node.span = span

/-- A function that moves exactly the spans that no node of the tree has. -/
theorem exists_moving_others (root : Node) :
    ∃ f : Span → Span, root.mapSpans f = root ∧ ∀ span, f span = span → root.HasSpan span := by
  classical
  refine ⟨fun span => if root.HasSpan span then span else ⟨span.start, span.stop + 1,
    Nat.le_succ_of_le span.start_le_stop⟩, ?_, ?_⟩
  · apply mapSpans_eq_self
    intro node inside
    exact if_pos ⟨node, inside, rfl⟩
  · intro span fixed
    by_contra other
    have stops := congrArg Span.stop fixed
    simp [other] at stops

end Node

/-- If a function is applied to all spans of a tree, it is applied to the spans of the diagnostics
and of the failure, and the outcome is otherwise the same. Every reported span is that of a node
of the tree. -/
theorem spans_flow_through (settings : Settings) (root : Node) :
    (∀ f : Span → Span, settings.project (root.mapSpans f) =
      ((settings.project root).map (Projected.mapSpans f)).mapError (Failure.mapSpan f)) ∧
    (∀ projected, settings.project root = .ok projected →
      ∀ diagnostic ∈ projected.diagnostics, root.HasSpan diagnostic.span) ∧
    ∀ failure, settings.project root = .error failure → root.HasSpan failure.span := by
  -- A function that leaves the tree as it is leaves the reported spans as they are.
  obtain ⟨f, unmoved, fixed⟩ := root.exists_moving_others
  have same := project_mapSpans settings root f
  rw [unmoved] at same
  refine ⟨project_mapSpans settings root, ?_, ?_⟩
  · intro projected ok diagnostic reported
    rw [ok] at same
    have diagnostics : projected.diagnostics.map (Diagnostic.mapSpan f) = projected.diagnostics :=
      (congrArg Projected.diagnostics (Except.ok.inj same)).symm
    have kept := List.map_inj_left.1 (diagnostics.trans (List.map_id _).symm) diagnostic reported
    exact fixed _ (congrArg Diagnostic.span kept)
  · intro failure failed
    rw [failed] at same
    have kept : failure.mapSpan f = failure := (Except.error.inj same).symm
    apply fixed
    rw [← failure.span_mapSpan f, kept]

def Span.later (bytes : Nat) (span : Span) : Span :=
  ⟨span.start + bytes, span.stop + bytes, Nat.add_le_add_right span.start_le_stop bytes⟩

/-- A file whose one field has the value `() -> a`, at the bytes 17 to 24. -/
def lambdaFile : Node :=
  .classFile "A" [.intField "x"
    ((Node.branch .expression [.branch .lambdaExpression []]).standingAt ⟨17, 24, by decide⟩)]

theorem lambdaFile_moved :
    ∃ projected, Settings.default.project lambdaFile = .ok projected ∧
      projected.diagnostics.map Diagnostic.span = [⟨17, 24, by decide⟩] ∧
      Settings.default.project (lambdaFile.mapSpans (Span.later 3)) =
        .ok (projected.mapSpans (Span.later 3)) ∧
      lambdaFile.HasSpan ⟨17, 24, by decide⟩ := by
  have spans : (Settings.default.project lambdaFile).map
      (fun projected => projected.diagnostics.map Diagnostic.span) =
      .ok [⟨17, 24, by decide⟩] := by cbv
  obtain ⟨projected, run, place⟩ := Settings.exists_project_of_map spans
  obtain ⟨moved, reported, _⟩ := spans_flow_through Settings.default lambdaFile
  refine ⟨projected, run, place, ?_, ?_⟩
  · rw [moved, run]
    rfl
  · obtain ⟨diagnostic, member, here⟩ : ∃ diagnostic ∈ projected.diagnostics,
        diagnostic.span = ⟨17, 24, by decide⟩ := by
      apply List.mem_map.1
      rw [place]
      exact List.mem_singleton_self _
    rw [← here]
    exact reported projected run diagnostic member

end JavaProjection
