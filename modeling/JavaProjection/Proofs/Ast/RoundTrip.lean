import JavaProjection.Proofs.Ast.Body

/-!
# Written syntax is read back

Source files, their parts and diagnostics are read back from their written text as long as it
nests no more containers than a reader opens. A text in any accepted spelling loads as a value
whose written text loads as the same value again.
-/

set_option autoImplicit false

namespace JavaProjection

open Json (Faithful faithful_text faithful_bool faithful_nat faithful_list fits_text fits_nat_iff
  fits_record_iff fits_tagged_iff natLimit nestingLimit readAs?)

/-! ## Source files -/

theorem Import.faithful (room : Nat) : Faithful Import.toJson (Import.ofJson? room) room where
  refuses := by cases room <;> rfl
  reads value fits := by
    obtain ⟨inner, rfl, staticFits, nameFits, wildcardFits, _⟩ := fits_record_iff.1 fits
    exact (faithful_bool inner).reads_required staticFits
      ((DottedName.faithful inner).reads_required nameFits
      ((faithful_bool inner).reads_required wildcardFits rfl))
  fits := by
    intro json value read
    cases room with
    | zero => cases read
    | succ inner =>
      rw [Import.ofJson?] at read
      split at read
      · obtain ⟨isStatic, staticFits, read⟩ := (faithful_bool inner).of_required read
        obtain ⟨name, nameFits, read⟩ := (DottedName.faithful inner).of_required read
        obtain ⟨isWildcard, wildcardFits, made⟩ := (faithful_bool inner).of_required read
        cases made
        exact fits_record_iff.2 ⟨inner, rfl, staticFits, nameFits, wildcardFits, trivial⟩
      · cases read

theorem Import.faithful_list (room : Nat) :
    Faithful (fun imports => .array (imports.map Import.toJson)) (Import.listOfJson? room) room :=
  Json.faithful_list (fun _ => rfl) (fun _ _ => rfl) fun inner _ => Import.faithful inner

theorem CompilationUnit.faithful (room : Nat) :
    Faithful CompilationUnit.toJson (CompilationUnit.ofJson? room) room where
  refuses := by cases room <;> rfl
  reads unit fits := by
    obtain ⟨inner, rfl, packageFits, importsFit, declarationsFit, _⟩ := fits_record_iff.1 fits
    exact (DottedName.faithful inner).reads_optional packageFits
      ((Import.faithful_list inner).reads_required importsFit
      ((syntaxFaithful inner).declarations.reads_required declarationsFit rfl))
  fits := by
    intro json unit read
    cases room with
    | zero => cases read
    | succ inner =>
      rw [CompilationUnit.ofJson?] at read
      split at read
      · obtain ⟨package, packageFits, read⟩ := (DottedName.faithful inner).of_optional read
        obtain ⟨imports, importsFit, read⟩ := (Import.faithful_list inner).of_required read
        obtain ⟨declarations, declarationsFit, made⟩ :=
          (syntaxFaithful inner).declarations.of_required read
        cases made
        exact fits_record_iff.2 ⟨inner, rfl, packageFits, importsFit, declarationsFit, trivial⟩
      · cases read

/-! ## Diagnostics -/

theorem Span.faithful (room : Nat) : Faithful Span.toJson (Span.ofJson? room) room where
  refuses := by cases room <;> rfl
  reads span fits := by
    obtain ⟨inner, rfl, startFits, stopFits, _⟩ := fits_record_iff.1 fits
    obtain ⟨start, stop, ordered⟩ := span
    have same : Span.clamped start stop = ⟨start, stop, ordered⟩ := by
      simp only [Span.clamped, Nat.max_eq_right ordered]
    exact (faithful_nat inner).reads_required startFits
      ((faithful_nat inner).reads_required stopFits (congrArg some same))
  fits := by
    intro json span read
    cases room with
    | zero => cases read
    | succ inner =>
      rw [Span.ofJson?] at read
      split at read
      · obtain ⟨start, startFits, read⟩ := (faithful_nat inner).of_required read
        obtain ⟨stop, stopFits, made⟩ := (faithful_nat inner).of_required read
        cases made
        have bound : max start stop < natLimit :=
          Nat.max_lt.2 ⟨fits_nat_iff.1 startFits, fits_nat_iff.1 stopFits⟩
        exact fits_record_iff.2 ⟨inner, rfl, startFits, fits_nat_iff.2 bound, trivial⟩
      · cases read

theorem Severity.faithful (room : Nat) :
    Faithful Severity.toJson (Severity.ofJson? room) room where
  refuses := by cases room <;> rfl
  reads severity _ := by cases severity <;> cases room <;> rfl
  fits := by
    intro json severity _
    cases severity <;> exact fits_text _ _

theorem DiagnosticKind.faithful (room : Nat) :
    Faithful DiagnosticKind.toJson (DiagnosticKind.ofJson? room) room where
  refuses := by cases room <;> rfl
  reads kind fits := by
    cases kind with
    | placeholder tag =>
      obtain ⟨inner, rfl, tagFits⟩ := fits_tagged_iff.1 fits
      exact congrArg (Option.map DiagnosticKind.placeholder)
        ((Placeholder.faithful inner).reads tag tagFits)
    | literalFallback => cases room <;> rfl
    | lossy => cases room <;> rfl
  fits := by
    intro json kind read
    unfold DiagnosticKind.ofJson? at read
    split at read
    · next inner content =>
      obtain ⟨tag, tagRead, rfl⟩ := Option.map_eq_some_iff.1 read
      exact fits_tagged_iff.2 ⟨inner, rfl, (Placeholder.faithful inner).fits tagRead⟩
    · split at read
      · cases read
        exact fits_text _ _
      · cases read
        exact fits_text _ _
      · cases read

theorem Diagnostic.faithful (room : Nat) :
    Faithful Diagnostic.toJson (Diagnostic.ofJson? room) room where
  refuses := by cases room <;> rfl
  reads diagnostic fits := by
    obtain ⟨inner, rfl, severityFits, kindFits, messageFits, spanFits, hintFits, _⟩ :=
      fits_record_iff.1 fits
    exact (Severity.faithful inner).reads_required severityFits
      ((DiagnosticKind.faithful inner).reads_required kindFits
      ((faithful_text inner).reads_required messageFits
      ((Span.faithful inner).reads_required spanFits
      ((faithful_text inner).reads_optional hintFits rfl))))
  fits := by
    intro json diagnostic read
    cases room with
    | zero => cases read
    | succ inner =>
      rw [Diagnostic.ofJson?] at read
      split at read
      · obtain ⟨severity, severityFits, read⟩ := (Severity.faithful inner).of_required read
        obtain ⟨kind, kindFits, read⟩ := (DiagnosticKind.faithful inner).of_required read
        obtain ⟨message, messageFits, read⟩ := (faithful_text inner).of_required read
        obtain ⟨span, spanFits, read⟩ := (Span.faithful inner).of_required read
        obtain ⟨hint, hintFits, made⟩ := (faithful_text inner).of_optional read
        cases made
        exact fits_record_iff.2
          ⟨inner, rfl, severityFits, kindFits, messageFits, spanFits, hintFits, trivial⟩
      · cases read

/-! ## Texts -/

/-- A value is read back from its written text, unless the text nests more containers than a
reader opens or holds a number too large to be read; and whatever text a value was read from, its
written text stays within these bounds and is read as the same value. -/
def RoundTrips {α : Type} (toJson : α → Json) (ofJson? : Nat → Json → Option α) : Prop :=
  (∀ value, (toJson value).nesting ≤ nestingLimit → (toJson value).Bounded →
    readAs? ofJson? (toJson value).render = some value) ∧
  ∀ text value, readAs? ofJson? text = some value →
    (toJson value).nesting ≤ nestingLimit ∧ readAs? ofJson? (toJson value).render = some value

/-- A whole text is read with all the room there is, so faithfulness at that room is the round trip
of texts. -/
theorem roundTrips_of_faithful {α : Type} {toJson : α → Json} {ofJson? : Nat → Json → Option α}
    (faithful : Faithful toJson (ofJson? nestingLimit) nestingLimit) :
    RoundTrips toJson ofJson? := by
  have back : ∀ value, (toJson value).Fits nestingLimit →
      readAs? ofJson? (toJson value).render = some value := by
    intro value fits
    rw [readAs?, Json.read?_render fits.2, Option.bind_some]
    exact faithful.reads value fits
  constructor
  · intro value nests bounded
    exact back value ⟨nests, bounded⟩
  · intro text value read
    obtain ⟨json, _, valueRead⟩ := Option.bind_eq_some_iff.1 read
    have fits := faithful.fits valueRead
    exact ⟨fits.1, back value fits⟩

theorem written_syntax_read_back :
    RoundTrips CompilationUnit.toJson CompilationUnit.ofJson? ∧
      RoundTrips Declaration.toJson Declaration.ofJson? ∧
      RoundTrips Statement.toJson Statement.ofJson? ∧
      RoundTrips Expression.toJson Expression.ofJson? ∧
      RoundTrips Initializer.toJson Initializer.ofJson? ∧
      RoundTrips TypeRef.toJson TypeRef.ofJson? ∧
      RoundTrips TypeArgument.toJson TypeArgument.ofJson? ∧
      RoundTrips Token.toJson Token.ofJson? ∧
      RoundTrips DottedName.toJson DottedName.ofJson? ∧
      RoundTrips Modifiers.toJson Modifiers.ofJson? ∧
      RoundTrips Diagnostic.toJson Diagnostic.ofJson? := by
  have nested := syntaxFaithful nestingLimit
  have types := typesFaithful nestingLimit
  exact ⟨roundTrips_of_faithful (CompilationUnit.faithful _),
    roundTrips_of_faithful nested.declaration, roundTrips_of_faithful nested.statement,
    roundTrips_of_faithful nested.expression, roundTrips_of_faithful nested.initializer,
    roundTrips_of_faithful types.type, roundTrips_of_faithful types.argument,
    roundTrips_of_faithful (Token.faithful _), roundTrips_of_faithful (DottedName.faithful _),
    roundTrips_of_faithful (Modifiers.faithful _), roundTrips_of_faithful (Diagnostic.faithful _)⟩

def parenthesizedThis : Nat → Expression
  | 0 => .thisObject
  | depth + 1 => .parenthesized (parenthesizedThis depth)

theorem parenthesizedThis_fits (depth : Nat) :
    (parenthesizedThis depth).toJson.Fits depth := by
  induction depth with
  | zero => exact fits_text _ _
  | succ depth ih => exact fits_tagged_iff.2 ⟨depth, rfl, ih⟩

/-- As many containers as a reader opens. -/
theorem parenthesizedThis_read_back :
    (parenthesizedThis 127).toJson.nesting ≤ nestingLimit ∧
      readAs? Expression.ofJson? (parenthesizedThis 127).toJson.render =
        some (parenthesizedThis 127) := by
  have fits := parenthesizedThis_fits 127
  obtain ⟨_, _, _, expression, _⟩ := written_syntax_read_back
  exact ⟨fits.1, expression.1 (parenthesizedThis 127) fits.1 fits.2⟩

end JavaProjection
