import JavaProjection.Proofs.Json.Scanning

/-!
# Written values are read back

The lexemes of a value, met where a value is expected, complete that value inside the containers
that are open. With the lexemes of its text this gives back every value whose numbers a reader
takes.
-/

set_option autoImplicit false

namespace JavaProjection

namespace Json

open Expectation

/-- The first lexeme of a value does not end an array. -/
theorem run_elementOrEnd (value : Json) (frames : List Frame) (rest : List Lexeme) :
    (elementOrEnd frames).run (value.lexemes ++ rest) =
      (someValue (.array [] :: frames)).run (value.lexemes ++ rest) := by
  rcases value with value | (_ | ⟨first, others⟩) | (_ | ⟨⟨key, value⟩, others⟩) <;> rfl

mutual

/-- The reader is generalized over the open containers and the lexemes to come, since an element
meets both. -/
theorem run_lexemes : ∀ (value : Json) (frames : List Frame) (rest : List Lexeme),
    (someValue frames).run (value.lexemes ++ rest) = (afterValue value frames).run rest
  | .scalar _, _, _ => rfl
  | .array [], _, _ => rfl
  | .array (first :: others), frames, rest =>
    calc (someValue frames).run ((Json.array (first :: others)).lexemes ++ rest)
      _ = (elementOrEnd frames).run (first.lexemes ++ (elementLexemes others ++ rest)) := by
        rw [← List.append_assoc]
        rfl
      _ = (afterValue first (.array [] :: frames)).run (elementLexemes others ++ rest) := by
        rw [run_elementOrEnd, run_lexemes first]
      _ = (afterValue (.array (first :: others)) frames).run rest :=
        run_elementLexemes others first [] frames rest
  | .object [], _, _ => rfl
  | .object ((key, value) :: others), frames, rest =>
    calc (someValue frames).run ((Json.object ((key, value) :: others)).lexemes ++ rest)
      _ = (someValue (.object [] key :: frames)).run
          (value.lexemes ++ (memberLexemes others ++ rest)) := by
        rw [← List.append_assoc]
        rfl
      _ = (afterValue value (.object [] key :: frames)).run (memberLexemes others ++ rest) :=
        run_lexemes value _ _
      _ = (afterValue (.object ((key, value) :: others)) frames).run rest :=
        run_memberLexemes others value [] key frames rest

/-- The elements after the one just read, and the end of the array. -/
theorem run_elementLexemes : ∀ (others : List Json) (complete : Json) (before : List Json)
    (frames : List Frame) (rest : List Lexeme),
    (afterValue complete (.array before :: frames)).run (elementLexemes others ++ rest) =
      (afterValue (.array ((complete :: before).reverse ++ others)) frames).run rest
  | [], complete, before, frames, rest => by
    rw [List.append_nil]
    rfl
  | value :: others, complete, before, frames, rest =>
    calc (afterValue complete (.array before :: frames)).run
          (elementLexemes (value :: others) ++ rest)
      _ = (someValue (.array (complete :: before) :: frames)).run
          (value.lexemes ++ (elementLexemes others ++ rest)) := by
        rw [← List.append_assoc]
        rfl
      _ = (afterValue value (.array (complete :: before) :: frames)).run
          (elementLexemes others ++ rest) := run_lexemes value _ _
      _ = (afterValue (.array ((complete :: before).reverse ++ value :: others)) frames).run
          rest := by
        rw [run_elementLexemes others, List.reverse_cons, List.append_assoc,
          List.singleton_append]

/-- The members after the one just read, and the end of the object. -/
theorem run_memberLexemes : ∀ (others : List (Text × Json)) (complete : Json)
    (before : List (Text × Json)) (key : Text) (frames : List Frame) (rest : List Lexeme),
    (afterValue complete (.object before key :: frames)).run (memberLexemes others ++ rest) =
      (afterValue (.object (((key, complete) :: before).reverse ++ others)) frames).run rest
  | [], complete, before, key, frames, rest => by
    rw [List.append_nil]
    rfl
  | (next, value) :: others, complete, before, key, frames, rest =>
    calc (afterValue complete (.object before key :: frames)).run
          (memberLexemes ((next, value) :: others) ++ rest)
      _ = (someValue (.object ((key, complete) :: before) next :: frames)).run
          (value.lexemes ++ (memberLexemes others ++ rest)) := by
        rw [← List.append_assoc]
        rfl
      _ = (afterValue value (.object ((key, complete) :: before) next :: frames)).run
          (memberLexemes others ++ rest) := run_lexemes value _ _
      _ = (afterValue (.object (((key, complete) :: before).reverse ++ (next, value) :: others))
          frames).run rest := by
        rw [run_memberLexemes others, List.reverse_cons, List.append_assoc,
          List.singleton_append]

end

theorem read?_render {value : Json} (bounded : value.Bounded) :
    read? value.render = some value := by
  have scanned := scans_lexemes value bounded [] endsWord_nil []
  have complete := run_lexemes value [] []
  rw [List.append_nil, List.append_nil] at scanned
  rw [List.append_nil, run] at complete
  rw [read?, render, String.toList_ofList, Lexeme.scan?, scanned, Position.scan]
  simpa [Position.finish, finish] using complete

end Json

end JavaProjection
