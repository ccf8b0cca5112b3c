import Mathlib.Data.List.Forall2
import JavaProjection.Proofs.Json.Nesting

/-!
# The forms of a record

A record is an object or an array. In an object each of its keys stands at most once, in any order
and among other keys; in an array its values stand in the order of the keys, and the last ones may
be left off. A reader of records finds the members of exactly these forms.
-/

set_option autoImplicit false

namespace JavaProjection

namespace Json

/-- What an object holds under a key: nothing, or the value of the only member with that key. -/
inductive Holds (members : List (Text × Json)) (key : String) : Option Json → Prop
  | nothing (absent : ∀ member ∈ members, member.1 ≠ some key) : Holds members key none
  | single {before after : List (Text × Json)} {value : Json}
    (split : members = before ++ (some key, value) :: after)
    (only : ∀ member ∈ before ++ after, member.1 ≠ some key) : Holds members key (some value)

inductive RecordForm (keys : List String) (least : Nat) : Json → List (Option Json) → Prop
  | object {members : List (Text × Json)} {values : List (Option Json)}
    (named : ∀ member ∈ members, member.1.isSome = true)
    (held : List.Forall₂ (Holds members) keys values) :
    RecordForm keys least (.object members) values
  | array {elements : List Json} {missing : Nat} (enough : least ≤ elements.length)
    (total : elements.length + missing = keys.length) :
    RecordForm keys least (.array elements) (elements.map some ++ List.replicate missing none)

/-! ## Objects -/

theorem filter_key_eq_nil_iff {members : List (Text × Json)} {key : String} :
    (members.filter fun member => member.1 == some key) = [] ↔
      ∀ member ∈ members, member.1 ≠ some key := by
  simp [List.filter_eq_nil_iff]

theorem lookup?_of_holds {members : List (Text × Json)} {key : String} {held : Option Json}
    (holds : Holds members key held) : lookup? members key = some held := by
  cases holds with
  | nothing absent => rw [lookup?, filter_key_eq_nil_iff.2 absent]
  | @single before after value split only =>
    have noneBefore := filter_key_eq_nil_iff.2 fun member inside =>
      only member (List.mem_append_left _ inside)
    have noneAfter := filter_key_eq_nil_iff.2 fun member inside =>
      only member (List.mem_append_right _ inside)
    have found : (members.filter fun member => member.1 == some key) = [(some key, value)] := by
      rw [split, List.filter_append, noneBefore, List.nil_append,
        List.filter_cons_of_pos (by simp), noneAfter]
    rw [lookup?, found]

theorem holds_of_lookup? {members : List (Text × Json)} {key : String} {held : Option Json}
    (found : lookup? members key = some held) : Holds members key held := by
  unfold lookup? at found
  split at found
  · next none =>
    cases found
    exact .nothing (filter_key_eq_nil_iff.1 none)
  · next name value one =>
    cases found
    obtain ⟨before, after, split, noneBefore, same, noneAfter⟩ :=
      List.filter_eq_cons_iff.1 one
    obtain rfl := eq_of_beq same
    have only : ∀ member ∈ before ++ after, member.1 ≠ some key := by
      intro member inside
      rcases List.mem_append.1 inside with inBefore | inAfter
      · exact fun same => noneBefore member inBefore (beq_iff_eq.2 same)
      · exact filter_key_eq_nil_iff.1 noneAfter member inAfter
    exact .single split only
  · cases found

theorem Holds.mem {members : List (Text × Json)} {key : String} {value : Json}
    (holds : Holds members key (some value)) : (some key, value) ∈ members := by
  cases holds with
  | single split only =>
    rw [split]
    exact List.mem_append_right _ List.mem_cons_self

theorem exists_of_mem_right {α β : Type} {R : α → β → Prop} {left : List α} {right : List β}
    (related : List.Forall₂ R left right) {b : β} (member : b ∈ right) : ∃ a, R a b := by
  induction related with
  | nil => cases member
  | cons head _ ih =>
    rcases List.mem_cons.1 member with rfl | later
    · exact ⟨_, head⟩
    · exact ih later

theorem mapM_eq_some_iff_forall₂ {α β : Type} {read : α → Option β} {elements : List α}
    {values : List β} :
    elements.mapM read = some values ↔
      List.Forall₂ (fun element value => read element = some value) elements values := by
  induction elements generalizing values with
  | nil =>
    rw [List.mapM_nil, List.forall₂_nil_left_iff]
    exact ⟨fun same => (Option.some.inj same).symm, fun empty => congrArg some empty.symm⟩
  | cons element elements ih =>
    rw [List.mapM_cons, List.forall₂_cons_left_iff]
    constructor
    · intro all
      obtain ⟨value, first, all⟩ := Option.bind_eq_some_iff.1 all
      obtain ⟨rest, others, all⟩ := Option.bind_eq_some_iff.1 all
      cases all
      exact ⟨value, rest, first, ih.1 others, rfl⟩
    · rintro ⟨value, rest, first, others, rfl⟩
      exact Option.bind_eq_some_iff.2
        ⟨value, first, Option.bind_eq_some_iff.2 ⟨rest, ih.2 others, rfl⟩⟩

theorem mapM_eq_some_iff_map {α β : Type} {read : α → Option β} {elements : List α}
    {values : List β} :
    elements.mapM read = some values ↔ elements.map read = values.map some := by
  rw [mapM_eq_some_iff_forall₂, ← List.forall₂_eq_eq_eq, List.forall₂_map_left_iff,
    List.forall₂_map_right_iff]

/-! ## Records -/

/-- Both forms of a record, object and array, are read and nothing else is. -/
theorem record?_eq_some_iff {keys : List String} {least : Nat} {json : Json}
    {values : List (Option Json)} :
    json.record? keys least = some values ↔ RecordForm keys least json values := by
  constructor
  · intro read
    cases json with
    | scalar _ => cases read
    | array elements =>
      rw [record?] at read
      split at read
      · next bounds =>
        cases read
        exact .array bounds.1 (by omega)
      · cases read
    | object members =>
      rw [record?] at read
      split at read
      · next named =>
        have held := mapM_eq_some_iff_forall₂.1 read
        exact .object (List.all_eq_true.1 named) (held.imp fun _ _ => holds_of_lookup?)
      · cases read
  · intro form
    cases form with
    | object named held =>
      rw [record?, if_pos (List.all_eq_true.2 named)]
      exact mapM_eq_some_iff_forall₂.2 (held.imp fun _ _ => lookup?_of_holds)
    | @array elements missing enough total =>
      have left : keys.length - elements.length = missing := by omega
      rw [record?, if_pos ⟨enough, by omega⟩, left]

/-- A member of a record stands inside it. -/
theorem RecordForm.nesting_lt {keys : List String} {least : Nat} {json : Json}
    {values : List (Option Json)} (form : RecordForm keys least json values) {value : Json}
    (member : some value ∈ values) : value.nesting < json.nesting := by
  cases form with
  | @object members _ named held =>
    obtain ⟨key, holds⟩ := exists_of_mem_right held member
    have bound := nestingMembers_le_iff.1 (Nat.le_refl (nestingMembers members)) _ holds.mem
    rw [nesting]
    exact Nat.lt_one_add_iff.2 bound
  | @array elements missing enough total =>
    have inside : value ∈ elements := by
      rcases List.mem_append.1 member with given | left
      · obtain ⟨_, inside, same⟩ := List.mem_map.1 given
        exact Option.some.inj same ▸ inside
      · cases List.eq_of_mem_replicate left
    have bound := nestingAll_le_iff.1 (Nat.le_refl (nestingAll elements)) _ inside
    rw [nesting]
    omega

end Json

end JavaProjection
