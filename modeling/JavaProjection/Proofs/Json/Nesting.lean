import JavaProjection.Json.Reading

/-!
# Nesting of values

How many containers of a value stand inside each other, and the values whose numbers a reader
takes. Together they bound what a reader of limited room can be asked to read.
-/

set_option autoImplicit false

namespace JavaProjection

namespace Json

mutual

/-- The number of containers around the innermost part of the value; a scalar has none. -/
def nesting : Json → Nat
  | .scalar _ => 0
  | .array elements => 1 + nestingAll elements
  | .object members => 1 + nestingMembers members

def nestingAll : List Json → Nat
  | [] => 0
  | value :: rest => max value.nesting (nestingAll rest)

def nestingMembers : List (Text × Json) → Nat
  | [] => 0
  | (_, value) :: rest => max value.nesting (nestingMembers rest)

end

def Scalar.Bounded : Scalar → Prop
  | .nat value => value < natLimit
  | .number _ => False
  | _ => True

mutual

/-- All numbers in the value are natural numbers below the limit. -/
def Bounded : Json → Prop
  | .scalar value => value.Bounded
  | .array elements => BoundedAll elements
  | .object members => BoundedMembers members

def BoundedAll : List Json → Prop
  | [] => True
  | value :: rest => value.Bounded ∧ BoundedAll rest

def BoundedMembers : List (Text × Json) → Prop
  | [] => True
  | (_, value) :: rest => value.Bounded ∧ BoundedMembers rest

end

theorem nestingAll_le_iff {elements : List Json} {room : Nat} :
    nestingAll elements ≤ room ↔ ∀ value ∈ elements, value.nesting ≤ room := by
  induction elements with
  | nil => simp [nestingAll]
  | cons value rest ih => simp only [nestingAll, List.forall_mem_cons, Nat.max_le, ih]

theorem nestingMembers_le_iff {members : List (Text × Json)} {room : Nat} :
    nestingMembers members ≤ room ↔ ∀ member ∈ members, member.2.nesting ≤ room := by
  induction members with
  | nil => simp [nestingMembers]
  | cons member rest ih => simp only [nestingMembers, List.forall_mem_cons, Nat.max_le, ih]

theorem nesting_singleton (key : Text) (value : Json) :
    (object [(key, value)]).nesting = value.nesting + 1 := by
  rw [nesting, nestingMembers, nestingMembers, Nat.max_zero, Nat.add_comm]

theorem boundedAll_iff {elements : List Json} :
    BoundedAll elements ↔ ∀ value ∈ elements, value.Bounded := by
  induction elements with
  | nil => simp [BoundedAll]
  | cons value rest ih => simp only [BoundedAll, List.forall_mem_cons, ih]

theorem boundedMembers_iff {members : List (Text × Json)} :
    BoundedMembers members ↔ ∀ member ∈ members, member.2.Bounded := by
  induction members with
  | nil => simp [BoundedMembers]
  | cons member rest ih => simp only [BoundedMembers, List.forall_mem_cons, ih]

theorem nat?_eq_some_iff {json : Json} {value : Nat} :
    json.nat? = some value ↔ json = .nat value ∧ value < natLimit := by
  unfold nat?
  split
  · next given =>
    by_cases small : given < natLimit
    · rw [if_pos small]
      constructor
      · rintro ⟨⟩
        exact ⟨rfl, small⟩
      · rintro ⟨⟨⟩, _⟩
        rfl
    · rw [if_neg small]
      constructor
      · rintro ⟨⟩
      · rintro ⟨⟨⟩, bound⟩
        exact absurd bound small
  · next other =>
    constructor
    · rintro ⟨⟩
    · rintro ⟨rfl, _⟩
      exact absurd rfl (other value)

end Json

end JavaProjection
