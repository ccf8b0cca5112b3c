import Mathlib
import JavaProjection.Proofs.Eo.Lines

/-!
# Layout of rendered terms

If no text inside a term breaks a line, the lines of the rendered term are those of its names
without an object in front and of its data, read from left to right. The indentation of such a
name tells how deep it stands in the term, as long as the number of its blanks is a machine word;
data are not indented. What else is written on a line depends on the term alone.
-/

set_option autoImplicit false

namespace JavaProjection.Eo

/-- What a line opens with: a name that stands at some depth, or a datum. -/
inductive Head where
  | name (depth : Nat) (segment : String)
  | datum (text : String)

structure Row where
  head : Head
  ending : String

/-- The text of a head that stands at a level, computed as the rendering does. -/
def Head.opening (level : UInt64) : Head → String
  | .name depth segment => indentation (level + .ofNat depth) ++ segment
  | .datum text => text

namespace Row

def text (level : UInt64) (row : Row) : String :=
  row.head.opening level ++ row.ending

def extend (more : String) (row : Row) : Row :=
  { row with ending := row.ending ++ more }

@[simp] theorem head_extend (more : String) (row : Row) : (row.extend more).head = row.head :=
  rfl

@[simp] theorem text_extend (level : UInt64) (more : String) (row : Row) :
    (row.extend more).text level = row.text level ++ more := by
  simp only [text, extend, String.append_assoc]

end Row

namespace Term

mutual

def TextsUnbroken : Term → Prop
  | .name segment => Unbroken segment
  | .dot source segment => source.TextsUnbroken ∧ Unbroken segment
  | .char value => value ≠ '\n'
  | .regex pattern => Unbroken pattern
  | .binding body label => body.TextsUnbroken ∧ Unbroken label
  | .application target arguments => target.TextsUnbroken ∧ TextsUnbrokenAll arguments

def TextsUnbrokenAll : List Term → Prop
  | [] => True
  | argument :: rest => argument.TextsUnbroken ∧ TextsUnbrokenAll rest

end

mutual

/-- The names without an object and the data of a term at some depth, from left to right. The
arguments of an application stand one level deeper than its target. -/
def heads (depth : Nat) : Term → List Head
  | .name segment => [.name depth segment]
  | .dot source _ => source.heads depth
  | .char value => [.datum (String.ofList ['\'', value, '\''])]
  | .regex pattern => [.datum pattern]
  | .binding body _ => body.heads depth
  | .application target arguments => target.heads depth ++ headsAll (depth + 1) arguments

def headsAll (depth : Nat) : List Term → List Head
  | [] => []
  | argument :: rest => argument.heads depth ++ headsAll depth rest

end

mutual

def rows (depth : Nat) : Term → List Row
  | .name segment => [⟨.name depth segment, ""⟩]
  | .dot source segment => (source.rows depth).modifyHead (Row.extend ("." ++ segment))
  | .char value => [⟨.datum (String.ofList ['\'', value, '\'']), ""⟩]
  | .regex pattern => [⟨.datum pattern, ""⟩]
  | .binding body label => (body.rows depth).modifyLast (Row.extend (" > " ++ label))
  | .application target arguments => target.rows depth ++ rowsAll (depth + 1) arguments

def rowsAll (depth : Nat) : List Term → List Row
  | [] => []
  | argument :: rest => argument.rows depth ++ rowsAll depth rest

end

/-! ## One line for each head -/

theorem map_head_modifyHead (more : String) (rows : List Row) :
    (rows.modifyHead (Row.extend more)).map Row.head = rows.map Row.head := by
  cases rows <;> rfl

theorem map_head_modifyLast (more : String) (rows : List Row) :
    (rows.modifyLast (Row.extend more)).map Row.head = rows.map Row.head := by
  induction rows using List.reverseRecOn with
  | nil => rfl
  | append_singleton above last _ => simp [List.modifyLast_concat]

mutual

theorem map_head_rows (depth : Nat) : (term : Term) →
    (term.rows depth).map Row.head = term.heads depth
  | .name _ => rfl
  | .dot source segment => by
    rw [rows, heads, map_head_modifyHead, map_head_rows depth source]
  | .char _ => rfl
  | .regex _ => rfl
  | .binding body label => by
    rw [rows, heads, map_head_modifyLast, map_head_rows depth body]
  | .application target arguments => by
    rw [rows, heads, List.map_append, map_head_rows depth target,
      map_head_rowsAll (depth + 1) arguments]

theorem map_head_rowsAll (depth : Nat) : (arguments : List Term) →
    (rowsAll depth arguments).map Row.head = headsAll depth arguments
  | [] => rfl
  | argument :: rest => by
    rw [rowsAll, headsAll, List.map_append, map_head_rows depth argument,
      map_head_rowsAll depth rest]

end

/-! ## The rendered lines -/

theorem lines_dot_rows {source : Term} {rows : List Row} {segment : String}
    {outer level : UInt64}
    (plain : lines (source.render outer) = rows.map (Row.text level))
    (unbroken : Unbroken segment) :
    lines ((source.dot segment).render outer) =
      (rows.modifyHead (Row.extend ("." ++ segment))).map (Row.text level) := by
  obtain ⟨first, below, split, extended⟩ := source.lines_dot unbroken outer
  rw [plain] at split
  obtain ⟨row, others, rfl, rfl, rfl⟩ := List.map_eq_cons_iff.1 split
  simp [extended, String.append_assoc]

theorem lines_binding_rows {body : Term} {rows : List Row} {label : String}
    {outer level : UInt64}
    (plain : lines (body.render outer) = rows.map (Row.text level))
    (unbroken : Unbroken label) :
    lines ((body.binding label).render outer) =
      (rows.modifyLast (Row.extend (" > " ++ label))).map (Row.text level) := by
  obtain ⟨above, last, split, extended⟩ := body.lines_binding unbroken outer
  rw [plain] at split
  obtain ⟨others, rest, rfl, rfl, tail⟩ := List.map_eq_append_iff.1 split
  obtain ⟨row, rfl, rfl⟩ := List.map_eq_singleton_iff.1 tail
  simp [extended, List.modifyLast_concat, String.append_assoc]

theorem unbroken_indentation (level : UInt64) : Unbroken (indentation level) := by
  simp [Unbroken, indentation, List.mem_replicate]

theorem one_deeper (level : UInt64) (depth : Nat) :
    level + .ofNat depth + 1 = level + .ofNat (depth + 1) := by
  rw [UInt64.ofNat_add, UInt64.add_assoc]
  rfl

mutual

/-- A term at a depth is rendered with the indentation of that depth added to the level. -/
theorem lines_render (level : UInt64) (depth : Nat) : (term : Term) → term.TextsUnbroken →
    lines (term.render (level + .ofNat depth)) = (term.rows depth).map (Row.text level)
  | .name segment, unbroken => by
    have whole := unbroken_append.2 ⟨unbroken_indentation (level + .ofNat depth), unbroken⟩
    rw [render, rows, lines_of_unbroken whole]
    simp [Row.text, Head.opening]
  | .dot source segment, ⟨inner, unbroken⟩ => by
    rw [rows]
    exact lines_dot_rows (lines_render level depth source inner) unbroken
  | .char value, other => by
    have unbroken : Unbroken (String.ofList ['\'', value, '\'']) := by
      simp [Unbroken, Ne.symm other]
    rw [render, rows, lines_of_unbroken unbroken]
    simp [Row.text, Head.opening]
  | .regex pattern, unbroken => by
    rw [render, rows, lines_of_unbroken unbroken]
    simp [Row.text, Head.opening]
  | .binding body label, ⟨inner, unbroken⟩ => by
    rw [rows]
    exact lines_binding_rows (lines_render level depth body inner) unbroken
  | .application target arguments, ⟨inner, others⟩ => by
    rw [render, rows, List.map_append, ← lines_render level depth target inner, one_deeper,
      lines_renderArguments level (depth + 1) arguments others]

theorem lines_renderArguments (level : UInt64) (depth : Nat) : (arguments : List Term) →
    TextsUnbrokenAll arguments → ∀ text : String,
    lines (text ++ renderArguments (level + .ofNat depth) arguments) =
      lines text ++ (rowsAll depth arguments).map (Row.text level)
  | [], _, text => by simp [renderArguments, rowsAll]
  | argument :: rest, ⟨inner, others⟩, text => by
    rw [renderArguments, rowsAll, List.map_append, ← lines_render level depth argument inner,
      ← String.append_assoc, ← String.append_assoc,
      lines_renderArguments level depth rest others, lines_append_break, List.append_assoc]

end

end Term

end JavaProjection.Eo
