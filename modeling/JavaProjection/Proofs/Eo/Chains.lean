import Mathlib
import JavaProjection.Proofs.Eo.Layout

/-!
# Spelling of dot chains

Each further name of a chain goes to the end of the first line of the text before it. While the
text has one line only, this is the end of the text, and the names come out joined by dots. Once a
name has broken the line, the next dot stands where the break was, and no later name moves it.
-/

set_option autoImplicit false

namespace JavaProjection.Eo

/-! ## First lines -/

theorem exists_first_break {text : String} (broken : ¬ Unbroken text) :
    ∃ front below, Unbroken front ∧ text = front ++ ("\n" ++ below) := by
  obtain ⟨front, below, split, unbroken⟩ :=
    List.eq_append_cons_of_mem (Decidable.not_not.1 broken)
  refine ⟨String.ofList front, String.ofList below, by simpa [Unbroken] using unbroken, ?_⟩
  apply String.toList_inj.1
  simp [split]

namespace Term

/-- What stands on the first line stays at the beginning. -/
theorem appendToFirstLine_append {front : String} (unbroken : Unbroken front)
    (ending text : String) :
    appendToFirstLine ending (front ++ text) = front ++ appendToFirstLine ending text := by
  have onLine : ∀ c ∈ front.toList, (c != '\n') = true := by
    intro c present
    exact bne_iff_ne.2 fun isBreak => unbroken (isBreak ▸ present)
  apply String.toList_inj.1
  simp only [appendToFirstLine, String.toList_append, String.toList_ofList,
    List.takeWhile_append_of_pos onLine, List.dropWhile_append_of_pos onLine, List.append_assoc]

theorem appendToFirstLine_of_unbroken {text : String} (unbroken : Unbroken text)
    (ending : String) : appendToFirstLine ending text = text ++ ending := by
  have extended := appendToFirstLine_append unbroken ending ""
  rw [String.append_empty] at extended
  rw [extended]
  simp [appendToFirstLine]

theorem appendToFirstLine_break (ending below : String) :
    appendToFirstLine ending ("\n" ++ below) = ending ++ ("\n" ++ below) := by
  apply String.toList_inj.1
  simp [appendToFirstLine]

/-! ## Chains -/

theorem render_dots_append {front : String} (unbroken : Unbroken front) {level : UInt64}
    (segments : List String) {term : Term} {tail : String}
    (starts : term.render level = front ++ tail) :
    ∃ longer, (segments.foldl dot term).render level = front ++ longer := by
  induction segments generalizing term tail with
  | nil => exact ⟨tail, starts⟩
  | cons segment rest ih =>
    have next : (term.dot segment).render level =
        front ++ appendToFirstLine ("." ++ segment) tail := by
      rw [render, starts, appendToFirstLine_append unbroken]
    exact ih next

/-- Behind an object of several lines, the first dot takes the place of the first break. -/
theorem render_dots_of_broken {front below : String} (unbroken : Unbroken front) {level : UInt64}
    {term : Term} (breaks : term.render level = front ++ ("\n" ++ below)) (segment : String)
    (rest : List String) :
    ∃ tail, ((segment :: rest).foldl dot term).render level = front ++ "." ++ tail := by
  have dotted : (term.dot segment).render level =
      front ++ "." ++ (segment ++ ("\n" ++ below)) := by
    rw [render, breaks, appendToFirstLine_append unbroken, appendToFirstLine_break]
    simp only [String.append_assoc]
  exact render_dots_append (unbroken_append.2 ⟨unbroken, by decide⟩) rest dotted

theorem render_dots_ne_of_broken {term : Term} {level : UInt64}
    (broken : ¬ Unbroken (term.render level)) (segment : String) (rest : List String) :
    ((segment :: rest).foldl dot term).render level ≠
      ".".intercalate (term.render level :: segment :: rest) := by
  intro joined
  obtain ⟨front, below, unbroken, breaks⟩ := exists_first_break broken
  obtain ⟨tail, dotted⟩ := render_dots_of_broken unbroken breaks segment rest
  rw [dotted, breaks, String.intercalate_cons_append, String.append_assoc] at joined
  -- Behind the front there is a dot on one side and a break on the other.
  have characters := congrArg String.toList ((String.append_right_inj front).1 joined)
  simp at characters

theorem unbroken_dropLast_append {front : String} (unbroken : Unbroken front) (segment : String)
    (rest : List String) :
    (∀ text ∈ ((front ++ segment) :: rest).dropLast, Unbroken text) ↔
      ∀ text ∈ (segment :: rest).dropLast, Unbroken text := by
  cases rest with
  | nil => simp
  | cons next others =>
    simp only [List.dropLast_cons_cons, List.forall_mem_cons, unbroken_append, unbroken, true_and]

/-- An object with names behind it is spelled as its text joined to the names exactly if none of
these texts but the last breaks a line. -/
theorem render_dots_iff (segments : List String) (term : Term) (level : UInt64) :
    (segments.foldl dot term).render level = ".".intercalate (term.render level :: segments) ↔
      ∀ text ∈ (term.render level :: segments).dropLast, Unbroken text := by
  induction segments generalizing term with
  | nil => simp
  | cons segment rest ih =>
    -- The next name makes the object longer, so the others are joined to a longer text.
    by_cases unbroken : Unbroken (term.render level)
    · have front : Unbroken (term.render level ++ ".") := unbroken_append.2 ⟨unbroken, by decide⟩
      have longer : (term.dot segment).render level = term.render level ++ "." ++ segment := by
        rw [render, appendToFirstLine_of_unbroken unbroken, String.append_assoc]
      rw [List.foldl_cons, String.intercalate_cons_cons, ← String.intercalate_cons_append, ← longer,
        ih, longer, unbroken_dropLast_append front, List.dropLast_cons_cons, List.forall_mem_cons]
      exact (and_iff_right unbroken).symm
    · refine iff_of_false (render_dots_ne_of_broken unbroken segment rest) ?_
      intro each
      exact unbroken (each _ List.mem_cons_self)

theorem render_chain_iff (first : String) (rest : List String) (level : UInt64) :
    (chain first rest).render level = indentation level ++ ".".intercalate (first :: rest) ↔
      ∀ segment ∈ (first :: rest).dropLast, Unbroken segment := by
  have joined := render_dots_iff rest (.name first) level
  rw [render, String.intercalate_cons_append,
    unbroken_dropLast_append (unbroken_indentation level)] at joined
  exact joined

theorem spelling_ofDottedName_iff (name : DottedName) :
    (ofDottedName name).spelling = name.spelling ↔
      ∀ segment ∈ name.toList.dropLast, Unbroken segment := by
  have joined := render_chain_iff name.first name.rest 0
  rw [show indentation 0 = "" from rfl, String.empty_append] at joined
  exact joined

/-! ## Paths -/

theorem splitAtDots_eq_splitOn (text : List Char) :
    (splitAtDots text).1 :: (splitAtDots text).2 = text.splitOn '.' := by
  induction text with
  | nil => rfl
  | cons c text ih =>
    rw [splitAtDots, List.splitOn_cons_eq_if_modifyHead, ← ih]
    by_cases isDot : c = '.' <;> simp [isDot]

/-- A path is the spelling of a name, and its chain is that of the name. -/
theorem exists_name_of_path (path : String) :
    ∃ name : DottedName, name.spelling = path ∧ ofPath path = ofDottedName name := by
  refine ⟨⟨String.ofList (splitAtDots path.toList).1,
    (splitAtDots path.toList).2.map String.ofList⟩, ?_, rfl⟩
  apply String.toList_inj.1
  have segments := splitAtDots_eq_splitOn path.toList
  have joined : ['.'].intercalate (path.toList.splitOn '.') = path.toList :=
    List.intercalate_splitOn '.'
  rw [← segments] at joined
  simpa [DottedName.spelling, DottedName.toList, Function.comp_def] using joined

theorem unbroken_of_intercalate {segments : List String}
    (unbroken : Unbroken (".".intercalate segments)) : ∀ segment ∈ segments, Unbroken segment := by
  induction segments with
  | nil => simp
  | cons segment rest ih =>
    cases rest with
    | nil => simpa using unbroken
    | cons next others =>
      rw [String.intercalate_cons_cons, unbroken_append, unbroken_append] at unbroken
      exact List.forall_mem_cons.2 ⟨unbroken.1.1, ih unbroken.2⟩

theorem spelling_ofPath {path : String} (unbroken : Unbroken path) :
    (ofPath path).spelling = path := by
  obtain ⟨name, rfl, same⟩ := exists_name_of_path path
  have each := unbroken_of_intercalate unbroken
  rw [same, spelling_ofDottedName_iff]
  intro segment present
  exact each segment (List.mem_of_mem_dropLast present)

end Term

/-- The chain of some names is spelled as the names joined by dots, behind the indentation, exactly
if no name before the last breaks a line. So a dotted name with no such break and its chain are
spelled alike, and the chain of a path on one line is spelled as the path. -/
theorem chains_spelled :
    (∀ segments : List String, segments ≠ [] →
      ∃ term, Term.chain? segments = some term ∧
        ∀ level, term.render level = indentation level ++ ".".intercalate segments ↔
          ∀ segment ∈ segments.dropLast, Unbroken segment) ∧
    (∀ name : DottedName, (Term.ofDottedName name).spelling = name.spelling ↔
      ∀ segment ∈ name.toList.dropLast, Unbroken segment) ∧
    ∀ path : String, Unbroken path → (Term.ofPath path).spelling = path := by
  refine ⟨?_, Term.spelling_ofDottedName_iff, fun path => Term.spelling_ofPath⟩
  intro segments nonempty
  obtain ⟨first, rest, rfl⟩ := List.exists_cons_of_ne_nil nonempty
  exact ⟨Term.chain first rest, rfl, Term.render_chain_iff first rest⟩

/-- An empty name, a name with a dot and a break in the last name are spelled as they stand; a
break before the last name is not. -/
theorem brokenNames_spelled :
    (∃ term, Term.chain? ["", "a.b", "c\nd"] = some term ∧ term.render 1 = "  .a.b.c\nd") ∧
    (∃ term, Term.chain? ["a\nb", "c"] = some term ∧ term.render 0 ≠ "a\nb.c") ∧
    Unbroken "a..b" ∧ (Term.ofPath "a..b").spelling = "a..b" := by
  obtain ⟨chains, _, paths⟩ := chains_spelled
  obtain ⟨whole, wholeMade, wholeSpelled⟩ := chains ["", "a.b", "c\nd"] (by decide)
  obtain ⟨broken, brokenMade, brokenSpelled⟩ := chains ["a\nb", "c"] (by decide)
  have path : Unbroken "a..b" := by decide
  refine ⟨⟨whole, wholeMade, ?_⟩, ⟨broken, brokenMade, ?_⟩, path, paths _ path⟩
  · exact (wholeSpelled 1).2 (by decide)
  · intro same
    exact absurd ((brokenSpelled 0).1 same) (by decide)

end JavaProjection.Eo
