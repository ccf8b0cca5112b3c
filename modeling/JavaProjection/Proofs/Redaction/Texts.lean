import Mathlib
import JavaProjection.Proofs.Literals
import JavaProjection.Proofs.Lockstep.Unit
import JavaProjection.Proofs.Redaction
import JavaProjection.Proofs.Trees

/-!
# Only names and literals are read

The text of operators, keywords and marks is passed on to messages and decides nothing. Trees that
differ only in such texts are projected to the same syntax with the same reports, messages aside,
or fail in the same way at the same place.
-/

set_option autoImplicit false

namespace JavaProjection

open Projection

/-! ## Outcomes without the texts of tokens -/

def Diagnostic.withoutMessage (diagnostic : Diagnostic) : Diagnostic :=
  { diagnostic with message := "" }

/-- The failure without the text of the token that it blames. All other failures stay. -/
def Failure.withoutTokenText : Failure → Failure
  | .unsupportedToken kind _ span => .unsupportedToken kind "" span
  | failure => failure

def Projected.withoutMessages (projected : Projected) : Projected :=
  { projected with diagnostics := projected.diagnostics.map Diagnostic.withoutMessage }

def Node.hideText (node : Node) : Node :=
  { node with text := none }

theorem Redaction.ofTexts : Redaction Node.hideText where
  kind _ := rfl
  span _ := rfl
  label _ := rfl
  children _ _ := rfl

/-! ## Runs that agree up to messages -/

def mutedRun {α : Type} (run : Except Failure α × Array Diagnostic) :
    Except Failure α × Array Diagnostic :=
  (run.1.mapError Failure.withoutTokenText, run.2.map Diagnostic.withoutMessage)

/-- Runs that agree up to messages both end with the same value or both fail in the same way. -/
theorem mutedRun_cases {α : Type} {first second : Except Failure α × Array Diagnostic}
    (agree : mutedRun first = mutedRun second) :
    first.2.map Diagnostic.withoutMessage = second.2.map Diagnostic.withoutMessage ∧
      ((∃ value, first.1 = .ok value ∧ second.1 = .ok value) ∨
        ∃ failure other, first.1 = .error failure ∧ second.1 = .error other ∧
          failure.withoutTokenText = other.withoutTokenText) := by
  refine ⟨congrArg Prod.snd agree, ?_⟩
  have outcomes : first.1.mapError Failure.withoutTokenText =
      second.1.mapError Failure.withoutTokenText := congrArg Prod.fst agree
  cases ended : first.1 with
  | ok value =>
    cases ended' : second.1 with
    | ok value' =>
      rw [ended, ended'] at outcomes
      exact Or.inl ⟨value, rfl, congrArg Except.ok (Except.ok.inj outcomes).symm⟩
    | error other =>
      rw [ended, ended'] at outcomes
      cases outcomes
  | error failure =>
    cases ended' : second.1 with
    | ok value' =>
      rw [ended, ended'] at outcomes
      cases outcomes
    | error other =>
      rw [ended, ended'] at outcomes
      exact Or.inr ⟨failure, other, rfl, rfl, Except.error.inj outcomes⟩

/-- From reports that agree up to messages, the two projections come to the same up to messages. -/
def AgreeMuted ⦃α : Type⦄ (first second : Projection α) : Prop :=
  ∀ policy gathered collected,
    gathered.map Diagnostic.withoutMessage = collected.map Diagnostic.withoutMessage →
    mutedRun (first.runFrom policy gathered) = mutedRun (second.runFrom policy collected)

namespace AgreeMuted

variable {α β : Type}

theorem of_pure (value : α) : AgreeMuted (pure value : Projection α) (pure value) := by
  intro policy gathered collected agree
  simp only [runFrom_pure, mutedRun, agree]

theorem of_throw {failure other : Failure}
    (agree : failure.withoutTokenText = other.withoutTokenText) :
    AgreeMuted (throw failure : Projection α) (throw other) := by
  intro policy gathered collected before
  simp only [runFrom_throw, mutedRun, Except.mapError, before, agree]

theorem of_malformed {left right : Node} (same : left.SameBut Node.hideText right)
    (expected : String) :
    AgreeMuted (throw (left.malformed expected) : Projection α)
      (throw (right.malformed expected)) := by
  rw [Redaction.ofTexts.malformed_eq same]
  exact of_throw rfl

theorem of_report {diagnostic other : Diagnostic}
    (agree : diagnostic.withoutMessage = other.withoutMessage) :
    AgreeMuted (report diagnostic) (report other) := by
  intro policy gathered collected before
  simp only [runFrom_report, mutedRun, Array.map_push, before, agree]

theorem bind {first second : Projection α} {next other : α → Projection β}
    (head : AgreeMuted first second) (tail : ∀ value, AgreeMuted (next value) (other value)) :
    AgreeMuted (first >>= next) (second >>= other) := by
  intro policy gathered collected before
  have start := head policy gathered collected before
  rw [runFrom_bind, runFrom_bind]
  cases run : first.runFrom policy gathered with
  | mk outcome further =>
    cases run' : second.runFrom policy collected with
    | mk outcome' further' =>
      rw [run, run'] at start
      obtain ⟨reports, ⟨value, rfl, rfl⟩ | ⟨failure, failure', rfl, rfl, same⟩⟩ :=
        mutedRun_cases start
      · exact tail value policy further further' reports
      · exact Prod.ext (congrArg Except.error same) reports

/-! ## Leaves -/

theorem of_placeholder {node other : Node} (place : node.span = other.span) (tag : Placeholder)
    (construct construct' : String) :
    AgreeMuted (node.placeholder tag construct) (other.placeholder tag construct') := by
  refine bind (of_report ?_) fun _ => of_pure _
  rw [place]
  rfl

theorem of_unsupportedLiteral (node : Node) :
    AgreeMuted node.unsupportedLiteral node.unsupportedLiteral := by
  intro policy gathered collected before
  unfold Node.unsupportedLiteral
  rw [runFrom_bind, runFrom_bind, runFrom_read, runFrom_read]
  cases policy with
  | reject => exact of_throw rfl .reject gathered collected before
  | sentinel => exact bind (of_report rfl) (fun _ => of_pure _) .sentinel gathered collected before

theorem of_literal {node : Node} (kind : node.kind = .rule .literal) :
    AgreeMuted node.literal node.literal := by
  cases Node.readsLiteral kind with
  | kept token read =>
    rw [read]
    exact of_pure _
  | unreadable part _ _ read =>
    rw [read]
    exact of_throw rfl
  | unsupported part _ _ read =>
    rw [read]
    exact of_unsupportedLiteral part

/-- Trees that differ only in texts outside names and literals are projected in step. -/
theorem simulation : Simulation (Node.SameBut Node.hideText) AgreeMuted where
  pure := of_pure
  bind := bind
  kind same := Redaction.ofTexts.kind_eq same
  label same := Redaction.ofTexts.label_eq same
  children same visible := Redaction.ofTexts.children_eq same visible
  identifierText same kind := Redaction.ofTexts.identifierText_eq same kind
  literal same kind := by
    rw [← Redaction.ofTexts.literal_eq same kind]
    exact of_literal kind
  malformed same _ := of_malformed same _
  unsupportedToken same _ := by
    rw [Redaction.ofTexts.span_eq same]
    exact of_throw rfl
  unsupportedLocalType same _ _ := by
    rw [Redaction.ofTexts.span_eq same]
    exact of_throw rfl
  placeholder tag construct same :=
    of_placeholder (Redaction.ofTexts.span_eq same) tag construct construct
  operatorPlaceholder same _ := of_placeholder (Redaction.ofTexts.span_eq same) .expression _ _
  droppedBranch same := by
    rw [Node.reportDroppedBranch, Node.reportDroppedBranch, Redaction.ofTexts.span_eq same]
    exact of_report rfl

end AgreeMuted

/-! ## Whole source files -/

/-- Source files that differ only in texts outside names and literals come to the same, up to the
messages of reports and the text of a token that a failure blames. -/
theorem token_texts_ignored (settings : Settings) {left right : Node}
    (same : left.SameBut Node.hideText right) :
    ((settings.project left).map Projected.withoutMessages).mapError Failure.withoutTokenText =
      ((settings.project right).map Projected.withoutMessages).mapError
        Failure.withoutTokenText := by
  have runs := AgreeMuted.simulation.compilationUnit same
    (fun _ => AgreeMuted.of_malformed same _) settings.literals #[] #[] rfl
  unfold Settings.project
  cases run : left.compilationUnit.runFrom settings.literals #[] with
  | mk outcome gathered =>
    cases run' : right.compilationUnit.runFrom settings.literals #[] with
    | mk outcome' collected =>
      rw [run, run'] at runs
      obtain ⟨reports, ⟨unit, rfl, rfl⟩ | ⟨failure, failure', rfl, rfl, same⟩⟩ :=
        mutedRun_cases runs
      · have listed := congrArg Array.toList reports
        simp only [Array.toList_map] at listed
        simp only [Except.map, Except.mapError, Projected.withoutMessages, listed]
      · exact congrArg Except.error same

def joinedFile (operator : Terminal) (text : String) : Node :=
  .classFile "A" [.intField "x" (.joined operator text)]

/-- The text of a comma is passed on to the report of a placeholder, and that of an operator
without a code to the failure. -/
theorem joinedFile_respelled :
    (joinedFile .comma ",").SameBut Node.hideText (joinedFile .comma ";") ∧
      ((Settings.default.project (joinedFile .comma ",")).map Projected.withoutMessages).mapError
          Failure.withoutTokenText =
        ((Settings.default.project (joinedFile .comma ";")).map Projected.withoutMessages).mapError
          Failure.withoutTokenText ∧
      (Settings.default.project (joinedFile .comma ";")).map
          (fun projected => projected.diagnostics.map Diagnostic.message) =
        .ok ["`;` expression is not translated"] ∧
    (joinedFile .modAssign "%=").SameBut Node.hideText (joinedFile .modAssign "mod") ∧
      ((Settings.default.project (joinedFile .modAssign "%=")).map
          Projected.withoutMessages).mapError Failure.withoutTokenText =
        ((Settings.default.project (joinedFile .modAssign "mod")).map
          Projected.withoutMessages).mapError Failure.withoutTokenText ∧
      Settings.default.project (joinedFile .modAssign "mod") =
        .error (.unsupportedToken .modAssign "mod" .zero) := by
  have commas : (joinedFile .comma ",").SameBut Node.hideText (joinedFile .comma ";") := by decide
  have operators :
      (joinedFile .modAssign "%=").SameBut Node.hideText (joinedFile .modAssign "mod") := by
    decide
  exact ⟨commas, token_texts_ignored _ commas, by cbv, operators, token_texts_ignored _ operators,
    by cbv⟩

end JavaProjection
