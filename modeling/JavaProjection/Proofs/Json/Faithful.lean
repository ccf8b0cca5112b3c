import JavaProjection.Ast.OfJson
import JavaProjection.Proofs.Json.Texts
import JavaProjection.Proofs.NameTables

/-!
# Faithful readers

A reader is faithful to a writer at some room when it reads back every written form that fits the
room, and when the written form of whatever it reads fits the room. The second part makes reading
and writing again possible: a spelling may be shorter than the written form, but never lets a
value in whose written form is refused.
-/

set_option autoImplicit false

namespace JavaProjection

namespace Json

/-- The value nests no more containers than there is room for, and its numbers can be read. -/
def Fits (json : Json) (room : Nat) : Prop :=
  json.nesting ≤ room ∧ json.Bounded

/-! ## What fits -/

@[simp] theorem fits_null (room : Nat) : null.Fits room :=
  ⟨Nat.zero_le room, trivial⟩

@[simp] theorem fits_text (content : String) (room : Nat) : (text content).Fits room :=
  ⟨Nat.zero_le room, trivial⟩

@[simp] theorem fits_bool (value : Bool) (room : Nat) : (bool value).Fits room :=
  ⟨Nat.zero_le room, trivial⟩

theorem fits_nat_iff {value room : Nat} : (nat value).Fits room ↔ value < natLimit :=
  ⟨fun fits => fits.2, fun bound => ⟨Nat.zero_le room, bound⟩⟩

theorem fits_array_iff {elements : List Json} {room : Nat} :
    (array elements).Fits room ↔
      ∃ inner, room = inner + 1 ∧ ∀ element ∈ elements, element.Fits inner := by
  constructor
  · rintro ⟨nests, bounded⟩
    rw [nesting] at nests
    have inside := nestingAll_le_iff.1 (show nestingAll elements ≤ room - 1 by omega)
    refine ⟨room - 1, by omega, fun element member => ?_⟩
    exact ⟨inside element member, boundedAll_iff.1 bounded element member⟩
  · rintro ⟨inner, rfl, inside⟩
    have nests := nestingAll_le_iff.2 fun element member => (inside element member).1
    refine ⟨?_, boundedAll_iff.2 fun element member => (inside element member).2⟩
    rw [nesting]
    omega

theorem fits_object_iff {members : List (Text × Json)} {room : Nat} :
    (object members).Fits room ↔
      ∃ inner, room = inner + 1 ∧ ∀ member ∈ members, member.2.Fits inner := by
  constructor
  · rintro ⟨nests, bounded⟩
    rw [nesting] at nests
    have inside := nestingMembers_le_iff.1 (show nestingMembers members ≤ room - 1 by omega)
    refine ⟨room - 1, by omega, fun member given => ?_⟩
    exact ⟨inside member given, boundedMembers_iff.1 bounded member given⟩
  · rintro ⟨inner, rfl, inside⟩
    have nests := nestingMembers_le_iff.2 fun member given => (inside member given).1
    refine ⟨?_, boundedMembers_iff.2 fun member given => (inside member given).2⟩
    rw [nesting]
    omega

def FitAll (room : Nat) : List (String × Json) → Prop
  | [] => True
  | (_, value) :: rest => value.Fits room ∧ FitAll room rest

theorem fitAll_iff {members : List (String × Json)} {room : Nat} :
    FitAll room members ↔ ∀ member ∈ members, member.2.Fits room := by
  induction members with
  | nil => simp [FitAll]
  | cons member members ih => simp only [FitAll, List.forall_mem_cons, ih]

theorem fits_record_iff {members : List (String × Json)} {room : Nat} :
    (record members).Fits room ↔ ∃ inner, room = inner + 1 ∧ FitAll inner members := by
  rw [record, fits_object_iff]
  simp only [List.forall_mem_map, fitAll_iff]

theorem fits_tagged_iff {tag : String} {content : Json} {room : Nat} :
    (tagged tag content).Fits room ↔ ∃ inner, room = inner + 1 ∧ content.Fits inner := by
  simp only [tagged, fits_record_iff, FitAll, and_true]

/-- An alternative with a record as its content nests two containers around its members. -/
theorem fits_alternative_iff {tag : String} {members : List (String × Json)} {room : Nat} :
    (tagged tag (record members)).Fits room ↔ ∃ inner, room = inner + 2 ∧ FitAll inner members := by
  rw [fits_tagged_iff]
  constructor
  · rintro ⟨_, rfl, fits⟩
    obtain ⟨inner, rfl, all⟩ := fits_record_iff.1 fits
    exact ⟨inner, rfl, all⟩
  · rintro ⟨inner, rfl, all⟩
    exact ⟨inner + 1, rfl, fits_record_iff.2 ⟨inner, rfl, all⟩⟩

/-! ## Faithful readers of values -/

/-- The reader reads back what is written and fits, and reads only what fits when written. It
refuses null, which stands for a missing value. -/
structure Faithful {α : Type} (write : α → Json) (read : Json → Option α) (room : Nat) : Prop where
  refuses : read null = none
  reads : ∀ value, (write value).Fits room → read (write value) = some value
  fits : ∀ {json value}, read json = some value → (write value).Fits room

section Values

variable {α β : Type} {write : α → Json} {read : Json → Option α} {room : Nat}

theorem faithful_text (room : Nat) : Faithful text text? room where
  refuses := rfl
  reads _ _ := rfl
  fits _ := fits_text _ _

theorem faithful_bool (room : Nat) : Faithful bool bool? room where
  refuses := rfl
  reads _ _ := rfl
  fits _ := fits_bool _ _

theorem faithful_nat (room : Nat) : Faithful nat nat? room where
  refuses := rfl
  reads value fits := if_pos (fits_nat_iff.1 fits)
  fits := by
    intro json value given
    exact fits_nat_iff.2 (nat?_eq_some_iff.1 given).2

/-- A word stands for the value that it names. -/
theorem faithful_word {name : α → String} {ofName? : String → Option α}
    (found : ∀ {text value}, ofName? text = some value ↔ name value = text) (room : Nat) :
    Faithful (fun value => text (name value)) (fun json => (json.word? room).bind ofName?)
      room where
  refuses := by cases room <;> rfl
  reads value _ := by
    have word : (text (name value)).word? room = some (name value) := by cases room <;> rfl
    exact (congrArg (Option.bind · ofName?) word).trans (found.2 rfl)
  fits _ := fits_text _ _

/-- An array costs one container, so its elements are read with one less of room. -/
theorem Faithful.list (faithful : Faithful write read room) :
    Faithful (fun values => array (values.map write)) (elements? read) (room + 1) where
  refuses := rfl
  reads values fits := by
    obtain ⟨inner, same, inside⟩ := fits_array_iff.1 fits
    cases same
    rw [elements?]
    induction values with
    | nil => rfl
    | cons value values ih =>
      rw [List.map_cons, List.forall_mem_cons] at inside
      have rest := ih (fits_array_iff.2 ⟨room, rfl, inside.2⟩) inside.2
      rw [List.map_cons, List.mapM_cons, faithful.reads value inside.1, rest]
      rfl
  fits := by
    intro json values given
    cases json with
    | array elements =>
      rw [elements?] at given
      refine fits_array_iff.2 ⟨room, rfl, ?_⟩
      induction elements generalizing values with
      | nil =>
        cases given
        simp
      | cons element elements ih =>
        rw [List.mapM_cons] at given
        obtain ⟨value, valueRead, given⟩ := Option.bind_eq_some_iff.1 given
        obtain ⟨rest, restRead, made⟩ := Option.bind_eq_some_iff.1 given
        cases made
        rw [List.map_cons, List.forall_mem_cons]
        exact ⟨faithful.fits valueRead, ih restRead⟩
    | _ => cases given

/-- A reader of lists opens one container around its elements, and none without room. -/
theorem faithful_list {readAt : Nat → Json → Option α} {listAt : Nat → Json → Option (List α)}
    (closed : ∀ json, listAt 0 json = none)
    (opened : ∀ inner json, listAt (inner + 1) json = elements? (readAt inner) json)
    (below : ∀ inner < room, Faithful write (readAt inner) inner) :
    Faithful (fun values => array (values.map write)) (listAt room) room := by
  cases room with
  | zero =>
    constructor
    · exact closed null
    · intro values fits
      simp [fits_array_iff] at fits
    · intro json values given
      rw [closed] at given
      cases given
  | succ room =>
    have same : listAt (room + 1) = elements? (readAt room) := funext (opened room)
    rw [same]
    exact (below room (Nat.lt_succ_self room)).list

/-! ## Reading members one after the other -/

theorem Faithful.reads_required (faithful : Faithful write read room) {value : α}
    (fits : (write value).Fits room) {next : α → Option β} {result : β}
    (rest : next value = some result) :
    (required read (some (write value)) >>= next) = some result := by
  have given : required read (some (write value)) = some value := faithful.reads value fits
  rw [given]
  exact rest

theorem Faithful.of_required (faithful : Faithful write read room) {member : Option Json}
    {next : α → Option β} {result : β} (given : (required read member >>= next) = some result) :
    ∃ value, (write value).Fits room ∧ next value = some result := by
  obtain ⟨value, memberRead, rest⟩ := Option.bind_eq_some_iff.1 given
  obtain ⟨json, _, valueRead⟩ := Option.bind_eq_some_iff.1 memberRead
  exact ⟨value, faithful.fits valueRead, rest⟩

theorem Faithful.reads_nullable (faithful : Faithful write read room) {value : Option α}
    (fits : (orNull (value.map write)).Fits room) :
    nullable read (orNull (value.map write)) = some value := by
  cases value with
  | none => rfl
  | some value =>
    have given := faithful.reads value fits
    rw [Option.map_some, orNull, nullable, given]
    · rfl
    · intro same
      have refused := (congrArg read same).trans faithful.refuses
      rw [refused] at given
      cases given

theorem Faithful.of_nullable (faithful : Faithful write read room) {json : Json}
    {value : Option α} (given : nullable read json = some value) :
    (orNull (value.map write)).Fits room := by
  unfold nullable at given
  split at given
  · cases given
    exact fits_null room
  · obtain ⟨inner, innerRead, rfl⟩ := Option.map_eq_some_iff.1 given
    exact faithful.fits innerRead

theorem optional_some (json : Json) : optional read (some json) = nullable read json := by
  unfold optional nullable
  split <;> simp_all

theorem Faithful.reads_optional (faithful : Faithful write read room) {value : Option α}
    (fits : (orNull (value.map write)).Fits room) {next : Option α → Option β} {result : β}
    (rest : next value = some result) :
    (optional read (some (orNull (value.map write))) >>= next) = some result := by
  rw [optional_some, faithful.reads_nullable fits]
  exact rest

/-- A member that may be missing was missing, null or read, and in each case what it is written as
fits. -/
theorem Faithful.of_optional (faithful : Faithful write read room) {member : Option Json}
    {next : Option α → Option β} {result : β}
    (given : (optional read member >>= next) = some result) :
    ∃ value : Option α, (orNull (value.map write)).Fits room ∧ next value = some result := by
  obtain ⟨value, memberRead, rest⟩ := Option.bind_eq_some_iff.1 given
  refine ⟨value, ?_, rest⟩
  cases member with
  | none =>
    cases memberRead
    exact fits_null room
  | some json =>
    rw [optional_some] at memberRead
    exact faithful.of_nullable memberRead

end Values

end Json

end JavaProjection
