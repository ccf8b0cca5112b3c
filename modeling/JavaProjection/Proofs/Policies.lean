import Mathlib
import JavaProjection.Proofs.Literals
import JavaProjection.Proofs.Lockstep.Unit
import JavaProjection.Proofs.Trees

/-!
# The two literal policies

A projection that refuses unsupported literals does what a projection with the sentinel does, up
to the first literal that the sentinel would stand for, and fails there. Nothing else in a
projection looks at the policy, and nothing catches a failure.
-/

set_option autoImplicit false

namespace JavaProjection

open Projection

/-! ## Reports of replaced literals -/

/-- The diagnostic reports a literal that the sentinel stands for. -/
def Diagnostic.isFallback (diagnostic : Diagnostic) : Bool :=
  diagnostic.kind == .literalFallback

/-- The failure that refuses the literal whose replacement the diagnostic reports. -/
def Diagnostic.RefusedBy (diagnostic : Diagnostic) (failure : Failure) : Prop :=
  ∃ text, diagnostic.message = s!"literal `{text}` replaced by 123456" ∧
    failure = .invalidLiteral text diagnostic.span

def Settings.reported (settings : Settings) (root : Node) : List Diagnostic :=
  (root.compilationUnit.runFrom settings.literals #[]).2.toList

/-! ## Agreement up to the first replaced literal -/

/-- The strict outcome when the tolerant run has added the reports `new`. -/
def FollowsUntilFallback {α : Type} (new : List Diagnostic)
    (tolerant strict : Except Failure α × Array Diagnostic) : Prop :=
  match new.find? Diagnostic.isFallback with
  | none => strict = tolerant
  | some first => ∃ failure, first.RefusedBy failure ∧ strict.1 = .error failure

/-- Run strictly, the second projection follows the first, which has the sentinel. -/
def PoliciesAgree ⦃α : Type⦄ (first second : Projection α) : Prop :=
  ∀ gathered, ∃ new,
    (first.runFrom .sentinel gathered).2.toList = gathered.toList ++ new ∧
      FollowsUntilFallback new (first.runFrom .sentinel gathered) (second.runFrom .reject gathered)

namespace PoliciesAgree

variable {α β : Type}

theorem of_lift (outcome : Except Failure α) :
    PoliciesAgree (liftM outcome : Projection α) (liftM outcome) := by
  intro gathered
  exact ⟨[], by simp, rfl⟩

theorem of_report {diagnostic : Diagnostic} (other : diagnostic.isFallback = false) :
    PoliciesAgree (report diagnostic) (report diagnostic) := by
  intro gathered
  refine ⟨[diagnostic], by simp, ?_⟩
  simp [FollowsUntilFallback, other]

/-- If the first part has fallen back, the strict run has already failed and never reaches the
second. -/
theorem bind {first second : Projection α} {next other : α → Projection β}
    (head : PoliciesAgree first second) (tail : ∀ value, PoliciesAgree (next value) (other value)) :
    PoliciesAgree (first >>= next) (second >>= other) := by
  intro gathered
  obtain ⟨new, added, follows⟩ := head gathered
  cases run : first.runFrom .sentinel gathered with
  | mk outcome further =>
    rw [run] at added follows
    simp only at added
    cases outcome with
    | error failure =>
      refine ⟨new, by simp [runFrom_bind, run, added], ?_⟩
      unfold FollowsUntilFallback at follows ⊢
      split at follows
      · rw [runFrom_bind, runFrom_bind, run, follows]
      · obtain ⟨refusal, refused, stopped⟩ := follows
        exact ⟨refusal, refused, runFrom_bind_of_error _ _ stopped other⟩
    | ok value =>
      obtain ⟨rest, restAdded, restFollows⟩ := tail value further
      refine ⟨new ++ rest, by simp [runFrom_bind, run, restAdded, added], ?_⟩
      unfold FollowsUntilFallback at follows ⊢
      rw [List.find?_append]
      split at follows
      · next none =>
        rw [none, runFrom_bind, runFrom_bind, run, follows]
        exact restFollows
      · next reported some =>
        rw [some]
        obtain ⟨refusal, refused, stopped⟩ := follows
        exact ⟨refusal, refused, runFrom_bind_of_error _ _ stopped other⟩

theorem of_unsupportedLiteral (node : Node) :
    PoliciesAgree node.unsupportedLiteral node.unsupportedLiteral := by
  intro gathered
  refine ⟨[_], Array.toList_push, ?_⟩
  refine ⟨node.invalidLiteral, ⟨node.fullText, ?_, rfl⟩, rfl⟩
  have sentinel : "` replaced by " ++ sentinelText = "` replaced by 123456" := by decide
  change "literal `" ++ node.fullText ++ "` replaced by " ++ sentinelText =
    "literal `" ++ node.fullText ++ "` replaced by 123456"
  rw [← sentinel, String.append_assoc]

theorem of_literal {node : Node} (kind : node.kind = .rule .literal) :
    PoliciesAgree node.literal node.literal := by
  cases Node.readsLiteral kind with
  | kept token read =>
    rw [read]
    exact of_lift (.ok _)
  | unreadable part _ _ read =>
    rw [read]
    exact of_lift (.error _)
  | unsupported part _ _ read =>
    rw [read]
    exact of_unsupportedLiteral part

theorem of_placeholder (node : Node) (tag : Placeholder) (construct : String) :
    PoliciesAgree (node.placeholder tag construct) (node.placeholder tag construct) :=
  bind (of_report rfl) fun _ => of_lift (.ok _)

/-- A tree run under the two policies is a pair of projections in step. -/
theorem simulation : Simulation Eq PoliciesAgree where
  pure value := of_lift (.ok value)
  bind := bind
  kind := congrArg Node.kind
  label := congrArg Node.label
  children := by
    rintro x _ rfl _
    exact List.forall₂_same.2 fun _ _ => rfl
  identifierText same _ := congrArg Node.identifierText same
  literal := by
    rintro x _ rfl kind
    exact of_literal kind
  malformed := by
    rintro α x _ expected rfl _
    exact of_lift (.error _)
  unsupportedToken := by
    rintro α x _ terminal rfl _
    exact of_lift (.error _)
  unsupportedLocalType := by
    rintro α x _ rfl _ _
    exact of_lift (.error _)
  placeholder := by
    rintro x _ tag construct rfl
    exact of_placeholder x tag construct
  operatorPlaceholder := by
    rintro x _ operator _ rfl rfl
    exact of_placeholder x _ _
  droppedBranch := by
    rintro x _ rfl
    exact of_report rfl

end PoliciesAgree

/-! ## Whole source files -/

/-- The strict run is the tolerant run cut off at its first fallback. -/
theorem policies_follow (root : Node) :
    FollowsUntilFallback (root.compilationUnit.runFrom .sentinel #[]).2.toList
      (root.compilationUnit.runFrom .sentinel #[]) (root.compilationUnit.runFrom .reject #[]) := by
  obtain ⟨new, added, follows⟩ :=
    PoliciesAgree.simulation.compilationUnit (rfl : root = root)
      (fun _ => PoliciesAgree.of_lift (.error _)) #[]
  rw [Array.toList_empty, List.nil_append] at added
  rw [added]
  exact follows

section

variable {settings : Settings} {root : Node}

theorem reported_of_ok {projected : Projected} (ok : settings.project root = .ok projected) :
    settings.reported root = projected.diagnostics := by
  obtain ⟨gathered, run, listed⟩ := Settings.project_ok_iff.1 ok
  rw [Settings.reported, run]
  exact listed

theorem reject_eq_of_no_fallback
    (absent : ((settings.withLiterals .sentinel).reported root).find? Diagnostic.isFallback =
      none) :
    (settings.withLiterals .reject).project root =
      (settings.withLiterals .sentinel).project root := by
  have follows := policies_follow root
  unfold FollowsUntilFallback at follows
  unfold Settings.reported Settings.withLiterals at absent
  rw [absent] at follows
  simp only [Settings.project, Settings.withLiterals, follows]

theorem reject_error_of_fallback {first : Diagnostic}
    (found : ((settings.withLiterals .sentinel).reported root).find? Diagnostic.isFallback =
      some first) :
    ∃ text, first.message = s!"literal `{text}` replaced by 123456" ∧
      (settings.withLiterals .reject).project root = .error (.invalidLiteral text first.span) := by
  have follows := policies_follow root
  unfold FollowsUntilFallback at follows
  unfold Settings.reported Settings.withLiterals at found
  rw [found] at follows
  obtain ⟨_, ⟨text, message, rfl⟩, stopped⟩ := follows
  exact ⟨text, message, Settings.project_error_iff.2 stopped⟩

theorem no_fallback_iff {diagnostics : List Diagnostic} :
    diagnostics.find? Diagnostic.isFallback = none ↔
      ∀ diagnostic ∈ diagnostics, diagnostic.kind ≠ .literalFallback := by
  simp [Diagnostic.isFallback]

end

/-- The policies agree up to the first replaced literal, where the strict one fails: on files
without one, on files that the sentinel lets pass, and on files that fail anyway. -/
theorem reject_follows_sentinel (settings : Settings) (root : Node) :
    (∀ projected, (settings.withLiterals .reject).project root = .ok projected ↔
      (settings.withLiterals .sentinel).project root = .ok projected ∧
        ∀ diagnostic ∈ projected.diagnostics, diagnostic.kind ≠ .literalFallback) ∧
    (∀ projected first, (settings.withLiterals .sentinel).project root = .ok projected →
      projected.diagnostics.find? Diagnostic.isFallback = some first →
      ∃ text, first.message = s!"literal `{text}` replaced by 123456" ∧
        (settings.withLiterals .reject).project root = .error (.invalidLiteral text first.span)) ∧
    (∀ failure, (settings.withLiterals .sentinel).project root = .error failure →
      ((∀ diagnostic ∈ (settings.withLiterals .sentinel).reported root,
          diagnostic.kind ≠ .literalFallback) ∧
        (settings.withLiterals .reject).project root = .error failure) ∨
      ∃ first text,
        ((settings.withLiterals .sentinel).reported root).find? Diagnostic.isFallback =
          some first ∧
        first.message = s!"literal `{text}` replaced by 123456" ∧
        (settings.withLiterals .reject).project root =
          .error (.invalidLiteral text first.span)) := by
  refine ⟨?_, ?_, ?_⟩
  · intro projected
    cases found : ((settings.withLiterals .sentinel).reported root).find? Diagnostic.isFallback with
    | none =>
      rw [reject_eq_of_no_fallback found]
      refine ⟨fun ok => ⟨ok, ?_⟩, And.left⟩
      rw [reported_of_ok ok] at found
      exact no_fallback_iff.1 found
    | some first =>
      obtain ⟨text, _, stopped⟩ := reject_error_of_fallback found
      rw [stopped]
      refine ⟨nofun, ?_⟩
      rintro ⟨ok, free⟩
      rw [reported_of_ok ok, no_fallback_iff.2 free] at found
      cases found
  · intro projected first ok found
    rw [← reported_of_ok ok] at found
    exact reject_error_of_fallback found
  · intro failure failed
    cases found : ((settings.withLiterals .sentinel).reported root).find? Diagnostic.isFallback with
    | none =>
      rw [reject_eq_of_no_fallback found]
      exact Or.inl ⟨no_fallback_iff.1 found, failed⟩
    | some first =>
      obtain ⟨text, message, stopped⟩ := reject_error_of_fallback found
      exact Or.inr ⟨first, text, rfl, message, stopped⟩

/-- The field `int x = 0x10`, the literal at the bytes 20 to 24. -/
def hexField : Node :=
  .intField "x" (.primaryOf (.branch .literal
    [(Node.branch .integerLiteral [.leaf .hexLiteral "0x10"]).standingAt ⟨20, 24, by decide⟩]))

def sentinelField : Declaration :=
  .variable ⟨"x", none, some (.primitive .kwInt 0), 0⟩
    (some (.expression (.literal (.withText .integerLiteral "123456"))))

def hexReport : Diagnostic :=
  ⟨.warning, .literalFallback, "literal `0x10` replaced by 123456", ⟨20, 24, by decide⟩,
    some "only decimal integer, floating point, string, boolean and null literals are translated"⟩

/-- Under the sentinel the field passes, and strictly its literal is refused. In front of a field
without a type the literal comes first. -/
theorem hexField_refused :
    ((Settings.default.withLiterals .sentinel).project (.classFile "A" [hexField]) =
        .ok ⟨⟨none, [], [.classType ⟨"A", none, none, none, none⟩ [sentinelField]]⟩, [hexReport]⟩ ∧
      ∃ text, hexReport.message = s!"literal `{text}` replaced by 123456" ∧
        (Settings.default.withLiterals .reject).project (.classFile "A" [hexField]) =
          .error (.invalidLiteral text hexReport.span)) ∧
    (Settings.default.withLiterals .sentinel).project
        (.classFile "A" [hexField, .branch .fieldDeclaration []]) =
        .error (.malformedTree "field type" .zero) ∧
      ∃ span text, (Settings.default.withLiterals .reject).project
        (.classFile "A" [hexField, .branch .fieldDeclaration []]) =
          .error (.invalidLiteral text span) := by
  have passes : (Settings.default.withLiterals .sentinel).project (.classFile "A" [hexField]) =
      .ok ⟨⟨none, [], [.classType ⟨"A", none, none, none, none⟩ [sentinelField]]⟩,
        [hexReport]⟩ := by cbv
  have fails : (Settings.default.withLiterals .sentinel).project
      (.classFile "A" [hexField, .branch .fieldDeclaration []]) =
      .error (.malformedTree "field type" .zero) := by cbv
  obtain ⟨_, refused, _⟩ := reject_follows_sentinel Settings.default (.classFile "A" [hexField])
  obtain ⟨_, _, earlier⟩ := reject_follows_sentinel Settings.default
    (.classFile "A" [hexField, .branch .fieldDeclaration []])
  refine ⟨⟨passes, refused _ _ passes (by decide)⟩, fails, ?_⟩
  rcases earlier _ fails with ⟨_, same⟩ | ⟨first, text, _, _, stopped⟩
  · have other : (Settings.default.withLiterals .reject).project
        (.classFile "A" [hexField, .branch .fieldDeclaration []]) =
        .error (.invalidLiteral "0x10" hexReport.span) := by cbv
    rw [other] at same
    cases same
  · exact ⟨first.span, text, stopped⟩

end JavaProjection
