import JavaProjection.Ast
import JavaProjection.Kind

/-!
# Names denote what they name

A table of names lists every value once, and no two values share a name. So the value found under
a name is the one that has it, and every value is found.
-/

set_option autoImplicit false

namespace JavaProjection

/-- The bytes of a text as the digits of one number. Distinct numbers come from distinct texts, and
numbers are quick to compare. -/
def textNumber (text : String) : Nat :=
  text.toByteArray.data.toList.foldl (fun value byte => 256 * value + byte.toNat) 0

section Table

variable {α : Type} {all : List α} {name : α → String}

/-- Distinctness is checked on numbers, because comparing all pairs of texts is slow to decide. -/
theorem name_injective (complete : ∀ a, a ∈ all)
    (distinct : (all.map fun a => textNumber (name a)).Nodup) {a b : α}
    (same : name a = name b) : a = b := by
  obtain ⟨i, at_i⟩ := List.mem_iff_getElem?.1 (complete a)
  obtain ⟨j, at_j⟩ := List.mem_iff_getElem?.1 (complete b)
  have number_i : (all.map fun a => textNumber (name a))[i]? = some (textNumber (name a)) := by
    rw [List.getElem?_map, at_i, Option.map_some]
  have number_j : (all.map fun a => textNumber (name a))[j]? = some (textNumber (name a)) := by
    rw [List.getElem?_map, at_j, Option.map_some, same]
  have inside : i < (all.map fun a => textNumber (name a)).length :=
    (List.getElem?_eq_some_iff.1 number_i).1
  obtain rfl : i = j :=
    (List.getElem?_inj inside distinct).1 (number_i.trans number_j.symm)
  exact Option.some.inj (at_i.symm.trans at_j)

theorem find?_name_eq_some_iff (complete : ∀ a, a ∈ all)
    (distinct : (all.map fun a => textNumber (name a)).Nodup) {text : String} {a : α} :
    all.find? (fun b => name b == text) = some a ↔ name a = text := by
  constructor
  · intro found
    have same := List.find?_some found
    exact eq_of_beq same
  · rintro rfl
    cases found : all.find? (fun b => name b == name a) with
    | none => exact absurd (beq_self_eq_true _) (List.find?_eq_none.1 found a (complete a))
    | some b =>
      have same := List.find?_some found
      rw [name_injective complete distinct (eq_of_beq same)]

end Table

theorem Rule.mem_all (rule : Rule) : rule ∈ all := by
  have at_index : all[rule.ctorIdx]? = some rule := by cases rule <;> rfl
  exact List.mem_of_getElem? at_index

theorem Rule.ofName?_eq_some_iff {name : String} {rule : Rule} :
    ofName? name = some rule ↔ rule.name = name :=
  find?_name_eq_some_iff mem_all (by decide +kernel)

theorem Terminal.mem_all (terminal : Terminal) : terminal ∈ all := by
  have at_index : all[terminal.ctorIdx]? = some terminal := by cases terminal <;> rfl
  exact List.mem_of_getElem? at_index

theorem Terminal.ofName?_eq_some_iff {name : String} {terminal : Terminal} :
    ofName? name = some terminal ↔ terminal.name = name :=
  find?_name_eq_some_iff mem_all (by decide +kernel)

theorem Code.getElem?_rank (code : Code) : all[code.rank]? = some code := by
  cases code <;> rfl

theorem Code.mem_all (code : Code) : code ∈ all :=
  List.mem_of_getElem? code.getElem?_rank

theorem Code.ofName?_eq_some_iff {name : String} {code : Code} :
    ofName? name = some code ↔ code.name = name :=
  find?_name_eq_some_iff mem_all (by decide +kernel)

theorem Placeholder.mem_all (placeholder : Placeholder) : placeholder ∈ all := by
  cases placeholder <;> decide

theorem Placeholder.ofTag?_eq_some_iff {tag : String} {placeholder : Placeholder} :
    ofTag? tag = some placeholder ↔ placeholder.tag = tag :=
  find?_name_eq_some_iff mem_all (by decide +kernel)

end JavaProjection
