import JavaProjection.Code

/-!
# Sets of codes

Modifiers are kept as a set of codes. A set is represented by its members in strictly increasing
order, so equal sets are equal values.
-/

set_option autoImplicit false

namespace JavaProjection

namespace Code

/-- The members of `codes` with `code` among them. An increasing list stays increasing. -/
def insertInto (code : Code) : List Code → List Code
  | [] => [code]
  | head :: tail =>
    if code.rank < head.rank then code :: head :: tail
    else if head.rank < code.rank then head :: insertInto code tail
    else head :: tail

def Increasing (codes : List Code) : Prop :=
  codes.Pairwise fun left right => left.rank < right.rank

theorem eq_or_mem_of_mem_insertInto {code member : Code} {codes : List Code}
    (present : member ∈ insertInto code codes) : member = code ∨ member ∈ codes := by
  induction codes with
  | nil => exact Or.inl (List.mem_singleton.1 present)
  | cons head tail ih =>
    unfold insertInto at present
    split at present
    · exact List.mem_cons.1 present
    · split at present
      · rcases List.mem_cons.1 present with rfl | inTail
        · exact Or.inr List.mem_cons_self
        · exact (ih inTail).imp id (List.mem_cons_of_mem _)
      · exact Or.inr present

theorem increasing_insertInto (code : Code) {codes : List Code} (sorted : Increasing codes) :
    Increasing (insertInto code codes) := by
  induction codes with
  | nil => exact List.pairwise_singleton _ _
  | cons head tail ih =>
    have headBelow := (List.pairwise_cons.1 sorted).1
    have tailSorted := (List.pairwise_cons.1 sorted).2
    unfold insertInto
    split
    · next codeBelow =>
      refine List.pairwise_cons.2 ⟨?_, sorted⟩
      intro member present
      rcases List.mem_cons.1 present with rfl | inTail
      · exact codeBelow
      · exact Nat.lt_trans codeBelow (headBelow member inTail)
    · split
      · next codeAbove =>
        refine List.pairwise_cons.2 ⟨?_, ih tailSorted⟩
        intro member present
        rcases eq_or_mem_of_mem_insertInto present with rfl | inTail
        · exact codeAbove
        · exact headBelow member inTail
      · exact sorted

end Code

/-- A set of codes, listed in strictly increasing order. -/
structure Modifiers where
  codes : List Code
  increasing : Code.Increasing codes
  deriving DecidableEq

namespace Modifiers

def empty : Modifiers :=
  ⟨[], List.Pairwise.nil⟩

def insert (code : Code) (set : Modifiers) : Modifiers :=
  ⟨code.insertInto set.codes, Code.increasing_insertInto code set.increasing⟩

/-- The set of the given codes, whatever their order and repetitions. -/
def ofList (codes : List Code) : Modifiers :=
  codes.foldr insert empty

/-- The set of those among the given codes that are modifiers. -/
def ofCodes (codes : List Code) : Modifiers :=
  ofList (codes.filter Code.isModifier)

def contains (set : Modifiers) (code : Code) : Bool :=
  set.codes.contains code

def size (set : Modifiers) : Nat :=
  set.codes.length

def isEmpty (set : Modifiers) : Bool :=
  set.codes.isEmpty

end Modifiers

end JavaProjection
