import Mathlib.Data.List.Sort
import JavaProjection.Proofs.NameTables

/-!
# Sets of codes and their members

A set is determined by its members, since an increasing list is. So a set made from a list of codes
depends on what occurs in the list, and neither on the order nor on repetitions.
-/

set_option autoImplicit false

namespace JavaProjection

namespace Code

theorem rank_injective : Function.Injective rank := by
  intro left right same
  have found := left.getElem?_rank
  rw [same, right.getElem?_rank] at found
  exact (Option.some.inj found).symm

theorem mem_insertInto {code member : Code} {codes : List Code} :
    member ∈ insertInto code codes ↔ member = code ∨ member ∈ codes := by
  refine ⟨eq_or_mem_of_mem_insertInto, ?_⟩
  intro given
  induction codes with
  | nil => exact List.mem_singleton.2 (given.resolve_right List.not_mem_nil)
  | cons head tail ih =>
    unfold insertInto
    split
    · exact List.mem_cons.2 given
    · split
      · rcases given with rfl | inside
        · exact List.mem_cons_of_mem _ (ih (.inl rfl))
        · rcases List.mem_cons.1 inside with rfl | inTail
          · exact List.mem_cons_self
          · exact List.mem_cons_of_mem _ (ih (.inr inTail))
      · next notBelow notAbove =>
        -- The code has the rank of the head, so it is there already.
        have same : code = head := rank_injective (by omega)
        rcases given with rfl | inside
        · exact same ▸ List.mem_cons_self
        · exact inside

theorem Increasing.eq_of_mem_iff {left right : List Code} (leftSorted : Increasing left)
    (rightSorted : Increasing right) (same : ∀ code, code ∈ left ↔ code ∈ right) :
    left = right := by
  have antisymmetric : Std.Antisymm fun left right : Code => left.rank < right.rank :=
    ⟨fun _ _ below above => absurd below (Nat.lt_asymm above)⟩
  have irreflexive : Std.Irrefl fun left right : Code => left.rank < right.rank :=
    ⟨fun code => Nat.lt_irrefl code.rank⟩
  exact List.Pairwise.eq_of_mem_iff leftSorted rightSorted same

end Code

namespace Modifiers

theorem eq_of_mem_iff {left right : Modifiers}
    (same : ∀ code, code ∈ left.codes ↔ code ∈ right.codes) : left = right := by
  obtain ⟨leftCodes, leftSorted⟩ := left
  obtain ⟨rightCodes, rightSorted⟩ := right
  obtain rfl : leftCodes = rightCodes := leftSorted.eq_of_mem_iff rightSorted same
  rfl

/-- To be the set of the codes with a property is to have these codes as members. -/
theorem eq_iff_members {made set : Modifiers} {P : Code → Prop}
    (members : ∀ code, code ∈ made.codes ↔ P code) :
    made = set ↔ ∀ code, code ∈ set.codes ↔ P code := by
  constructor
  · rintro rfl
    exact members
  · intro same
    exact eq_of_mem_iff fun code => (members code).trans (same code).symm

theorem mem_ofList {code : Code} {codes : List Code} :
    code ∈ (ofList codes).codes ↔ code ∈ codes := by
  induction codes with
  | nil => exact Iff.rfl
  | cons head tail ih =>
    have inserted : (ofList (head :: tail)).codes = head.insertInto (ofList tail).codes := rfl
    rw [inserted, Code.mem_insertInto, ih, List.mem_cons]

/-- A set is made again from its members. -/
theorem ofList_codes (modifiers : Modifiers) : ofList modifiers.codes = modifiers :=
  eq_of_mem_iff fun _ => mem_ofList

theorem mem_ofCodes {code : Code} {codes : List Code} :
    code ∈ (ofCodes codes).codes ↔ code ∈ codes ∧ code.isModifier = true := by
  rw [ofCodes, mem_ofList, List.mem_filter]

/-- A set of modifiers is its members: order, repetition and foreign codes are forgotten. -/
theorem ofCodes_eq_iff {left right : List Code} :
    ofCodes left = ofCodes right ↔
      ∀ code, code.isModifier = true → (code ∈ left ↔ code ∈ right) := by
  constructor
  · intro same code isModifier
    have members : code ∈ (ofCodes left).codes ↔ code ∈ (ofCodes right).codes := by rw [same]
    rw [mem_ofCodes, mem_ofCodes] at members
    simpa only [isModifier, and_true] using members
  · intro same
    apply eq_of_mem_iff
    intro code
    rw [mem_ofCodes, mem_ofCodes]
    exact and_congr_left (same code)

theorem ofCodes_codes (codes : List Code) : ofCodes (ofCodes codes).codes = ofCodes codes := by
  rw [ofCodes_eq_iff]
  intro code isModifier
  rw [mem_ofCodes]
  exact and_iff_left isModifier

end Modifiers

end JavaProjection
