import Mathlib
import JavaProjection.Eo.Term

/-!
# Lines of rendered terms

A text has one line more than it has line breaks. A name behind a dot extends the first line of
the object in front of it. A binding extends the last line, so that a term of several lines is
bound where its last argument ends: the text does not tell a bound application from an application
to a bound argument.
-/

set_option autoImplicit false

namespace JavaProjection.Eo

def lines (text : String) : List String :=
  (text.toList.splitOn '\n').map String.ofList

def Unbroken (text : String) : Prop :=
  '\n' ∉ text.toList

instance (text : String) : Decidable (Unbroken text) :=
  inferInstanceAs (Decidable ('\n' ∉ text.toList))

theorem unbroken_append {first second : String} :
    Unbroken (first ++ second) ↔ Unbroken first ∧ Unbroken second := by
  simp [Unbroken]

/-! ## Lines of joined texts -/

theorem lines_of_unbroken {text : String} (unbroken : Unbroken text) : lines text = [text] := by
  unfold lines
  rw [List.splitOn_eq_singleton unbroken, List.map_singleton, String.ofList_toList]

theorem lines_append_break (first second : String) :
    lines (first ++ "\n" ++ second) = lines first ++ lines second := by
  have joined : (first ++ "\n" ++ second).toList = first.toList ++ '\n' :: second.toList := by
    simp
  unfold lines
  rw [joined, List.splitOn_append_cons_self, List.map_append]

theorem exists_last_line {ending : List Char} (unbroken : '\n' ∉ ending) (text : List Char) :
    ∃ above last, text.splitOn '\n' = above ++ [last] ∧
      (text ++ ending).splitOn '\n' = above ++ [last ++ ending] := by
  induction text with
  | nil => exact ⟨[], [], rfl, List.splitOn_eq_singleton unbroken⟩
  | cons c rest ih =>
    obtain ⟨above, last, split, extended⟩ := ih
    rw [List.cons_append, List.splitOn_cons_eq_if_modifyHead, List.splitOn_cons_eq_if_modifyHead,
      split, extended]
    by_cases isBreak : (c == '\n') = true
    · rw [if_pos isBreak, if_pos isBreak]
      exact ⟨[] :: above, last, rfl, rfl⟩
    · rw [if_neg isBreak, if_neg isBreak]
      -- The character belongs to the first line, which is the last one if there is no other.
      cases above with
      | nil => exact ⟨[], c :: last, rfl, rfl⟩
      | cons first others => exact ⟨(c :: first) :: others, last, rfl, rfl⟩

/-- Text appended at the end extends the last line, and no other. -/
theorem lines_append {ending : String} (unbroken : Unbroken ending) (text : String) :
    ∃ above last, lines text = above ++ [last] ∧
      lines (text ++ ending) = above ++ [last ++ ending] := by
  obtain ⟨above, last, split, extended⟩ := exists_last_line unbroken text.toList
  refine ⟨above.map String.ofList, String.ofList last, ?_, ?_⟩
  · simp [lines, split]
  · simp [lines, extended]

theorem exists_first_line {ending : List Char} (unbroken : '\n' ∉ ending) (text : List Char) :
    ∃ first below, text.splitOn '\n' = first :: below ∧
      (text.takeWhile (· != '\n') ++ ending ++ text.dropWhile (· != '\n')).splitOn '\n' =
        (first ++ ending) :: below := by
  induction text with
  | nil =>
    refine ⟨[], [], rfl, ?_⟩
    simpa using List.splitOn_eq_singleton unbroken
  | cons c rest ih =>
    by_cases isBreak : c = '\n'
    · subst isBreak
      refine ⟨[], rest.splitOn '\n', List.splitOn_append_cons_self [] rest, ?_⟩
      have extended := List.splitOn_append_cons_self (a := '\n') ending rest
      rw [List.splitOn_eq_singleton unbroken] at extended
      simpa using extended
    · obtain ⟨first, below, split, extended⟩ := ih
      refine ⟨c :: first, below, ?_, ?_⟩
      · simp [List.splitOn_cons_eq_if_modifyHead, isBreak, split]
      · simp only [List.append_assoc] at extended
        simp [List.splitOn_cons_eq_if_modifyHead, isBreak, extended]

theorem lines_appendToFirstLine {ending : String} (unbroken : Unbroken ending) (text : String) :
    ∃ first below, lines text = first :: below ∧
      lines (Term.appendToFirstLine ending text) = (first ++ ending) :: below := by
  obtain ⟨first, below, split, extended⟩ := exists_first_line unbroken text.toList
  refine ⟨String.ofList first, below.map String.ofList, ?_, ?_⟩
  · simp [lines, split]
  · rw [lines, Term.appendToFirstLine, String.toList_ofList, extended]
    simp

/-! ## Lines of wrapped terms -/

namespace Term

/-- A dot is written at the end of the first line of its object, whatever the object is. -/
theorem lines_dot (term : Term) {label : String} (unbroken : Unbroken label) (level : UInt64) :
    ∃ first below, lines (term.render level) = first :: below ∧
      lines ((term.dot label).render level) = (first ++ "." ++ label) :: below := by
  have ending : Unbroken ("." ++ label) := unbroken_append.2 ⟨by decide, unbroken⟩
  obtain ⟨first, below, plain, extended⟩ := lines_appendToFirstLine ending (term.render level)
  refine ⟨first, below, plain, ?_⟩
  rw [render, extended, String.append_assoc]

/-- A binding is written at the end of the last line of its body, which for an application is the
line of an argument. -/
theorem lines_binding (term : Term) {label : String} (unbroken : Unbroken label) (level : UInt64) :
    ∃ above last, lines (term.render level) = above ++ [last] ∧
      lines ((term.binding label).render level) = above ++ [last ++ " > " ++ label] := by
  have ending : Unbroken (" > " ++ label) := unbroken_append.2 ⟨by decide, unbroken⟩
  obtain ⟨above, last, plain, extended⟩ := lines_append ending (term.render level)
  refine ⟨above, last, plain, ?_⟩
  rw [render, String.append_assoc, extended, String.append_assoc]

theorem renderArguments_append (level : UInt64) (first second : List Term) :
    renderArguments level (first ++ second) =
      renderArguments level first ++ renderArguments level second := by
  induction first with
  | nil => simp [renderArguments]
  | cons argument rest ih => simp only [List.cons_append, renderArguments, ih, String.append_assoc]

theorem render_binding_application (target last : Term) (arguments : List Term) (label : String)
    (level : UInt64) :
    ((application target (arguments ++ [last])).binding label).render level =
      (application target (arguments ++ [last.binding label])).render level := by
  simp only [render, renderArguments_append, renderArguments, String.append_assoc,
    String.append_empty]

theorem binding_on_first_line_iff (term : Term) {label : String} (unbroken : Unbroken label)
    (level : UInt64) :
    (∃ first below, lines (term.render level) = first :: below ∧
      lines ((term.binding label).render level) = (first ++ " > " ++ label) :: below) ↔
    (lines (term.render level)).length = 1 := by
  obtain ⟨above, last, plain, extended⟩ := term.lines_binding unbroken level
  rw [plain, extended]
  cases above with
  | nil => simp
  | cons first others =>
    have longer : first ++ " > " ++ label ≠ first := by
      intro same
      have lengths := congrArg String.length same
      have between : " > ".length = 3 := by decide
      simp only [String.length_append] at lengths
      omega
    constructor
    · rintro ⟨_, _, ⟨⟩, bound⟩
      exact absurd (List.cons.inj bound).1.symm longer
    · intro single
      simp at single

end Term

/-- A name behind a dot extends the first line of the object and a binding the last line of its
body, all other lines staying as they are. So a binding stands on the first line of its body only
if the body has no other, and around an application it reads as one around the last argument. -/
theorem wrapped_lines (term : Term) {label : String} (unbroken : Unbroken label) (level : UInt64) :
    (∃ first below, lines (term.render level) = first :: below ∧
      lines ((term.dot label).render level) = (first ++ "." ++ label) :: below) ∧
    (∃ above last, lines (term.render level) = above ++ [last] ∧
      lines ((term.binding label).render level) = above ++ [last ++ " > " ++ label]) ∧
    ((∃ first below, lines (term.render level) = first :: below ∧
      lines ((term.binding label).render level) = (first ++ " > " ++ label) :: below) ↔
      (lines (term.render level)).length = 1) ∧
    ∀ target last arguments, term = .application target (arguments ++ [last]) →
      (term.binding label).render level =
        (Term.application target (arguments ++ [last.binding label])).render level := by
  refine ⟨term.lines_dot unbroken level, term.lines_binding unbroken level,
    term.binding_on_first_line_iff unbroken level, ?_⟩
  rintro target last arguments rfl
  exact Term.render_binding_application target last arguments label level

def appliedName : Term :=
  .application (.name "f") [.name "x"]

theorem appliedName_wrapped :
    Unbroken "b" ∧
    (∃ first below, lines (appliedName.render 0) = first :: below ∧
      lines ((appliedName.dot "b").render 0) = (first ++ "." ++ "b") :: below) ∧
    (appliedName.binding "b").render 0 =
      (Term.application (.name "f") [.binding (.name "x") "b"]).render 0 := by
  have unbroken : Unbroken "b" := by decide
  obtain ⟨onFirst, _, _, asArgument⟩ := wrapped_lines appliedName unbroken 0
  exact ⟨unbroken, onFirst, asArgument (.name "f") (.name "x") [] rfl⟩

/-- Bound to `b`, the application has the name on its second line and not on its first. -/
theorem appliedName_bound_below :
    lines (appliedName.render 0) = ["f", "  x"] ∧
    lines ((appliedName.binding "b").render 0) = ["f", "  x > b"] ∧
    ¬ ∃ first below, lines (appliedName.render 0) = first :: below ∧
      lines ((appliedName.binding "b").render 0) = (first ++ " > " ++ "b") :: below := by
  have plain : lines (appliedName.render 0) = ["f", "  x"] := by decide
  have bound : lines ((appliedName.binding "b").render 0) = ["f", "  x > b"] := by decide
  refine ⟨plain, bound, ?_⟩
  rw [plain, bound]
  rintro ⟨_, _, ⟨⟩, named⟩
  revert named
  decide

end JavaProjection.Eo
