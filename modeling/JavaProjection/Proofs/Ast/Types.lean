import JavaProjection.Proofs.Json.Faithful
import JavaProjection.Proofs.Modifiers

/-!
# Names, tokens and types are read back

The readers of everything that stands in types and in the heads of declarations are faithful at
every room. Types nest, so theirs are proved together by induction on the room.
-/

set_option autoImplicit false

namespace JavaProjection

open Json (Faithful faithful_text faithful_bool faithful_nat faithful_word faithful_list
  fits_array_iff fits_record_iff fits_tagged_iff fits_alternative_iff)

/-! ## Names, codes, tags -/

theorem Code.faithful (room : Nat) : Faithful Code.toJson (Code.ofJson? room) room :=
  faithful_word Code.ofName?_eq_some_iff room

theorem Placeholder.faithful (room : Nat) :
    Faithful Placeholder.toJson (Placeholder.ofJson? room) room :=
  faithful_word Placeholder.ofTag?_eq_some_iff room

theorem DottedName.faithful (room : Nat) :
    Faithful DottedName.toJson (DottedName.ofJson? room) room where
  refuses := by cases room <;> rfl
  reads name fits := by
    obtain ⟨inner, rfl, _⟩ := fits_array_iff.1 fits
    have segments := (faithful_text inner).list.reads name.toList fits
    exact congrArg (Option.bind · DottedName.ofList?) segments
  fits := by
    intro json name read
    cases room with
    | zero => cases read
    | succ room =>
      obtain ⟨segments, segmentsRead, made⟩ := Option.bind_eq_some_iff.1 read
      have written := (faithful_text room).list.fits segmentsRead
      cases segments with
      | nil => cases made
      | cons first rest =>
        cases made
        exact written

theorem Modifiers.faithful (room : Nat) :
    Faithful Modifiers.toJson (Modifiers.ofJson? room) room where
  refuses := by cases room <;> rfl
  reads modifiers fits := by
    obtain ⟨inner, rfl, _⟩ := fits_array_iff.1 fits
    have codes := (Code.faithful inner).list.reads modifiers.codes fits
    exact (congrArg (Option.map Modifiers.ofList) codes).trans
      (congrArg some modifiers.ofList_codes)
  fits := by
    intro json modifiers read
    cases room with
    | zero => cases read
    | succ room =>
      obtain ⟨codes, codesRead, rfl⟩ := Option.map_eq_some_iff.1 read
      refine fits_array_iff.2 ⟨room, rfl, ?_⟩
      rintro _ member
      obtain ⟨code, _, rfl⟩ := List.mem_map.1 member
      exact Json.fits_text _ _

theorem Token.faithful (room : Nat) : Faithful Token.toJson (Token.ofJson? room) room where
  refuses := by cases room <;> rfl
  reads token fits := by
    obtain ⟨inner, rfl, code, text, _⟩ := fits_record_iff.1 fits
    exact (Code.faithful inner).reads_required code
      ((faithful_text inner).reads_optional text rfl)
  fits := by
    intro json token read
    cases room with
    | zero => cases read
    | succ inner =>
      rw [Token.ofJson?] at read
      split at read
      · obtain ⟨code, codeFits, read⟩ := (Code.faithful inner).of_required read
        obtain ⟨text, textFits, made⟩ := (faithful_text inner).of_optional read
        cases made
        exact fits_record_iff.2 ⟨inner, rfl, codeFits, textFits, trivial⟩
      · cases read

/-! ## Types -/

theorem TypeArgument.listToJson_eq_map (arguments : List TypeArgument) :
    TypeArgument.listToJson arguments = arguments.map TypeArgument.toJson := by
  induction arguments with
  | nil => rfl
  | cons argument rest ih => rw [TypeArgument.listToJson, ih, List.map_cons]

theorem TypeRef.toJson_named (name : DottedName) (arguments : Option (List TypeArgument))
    (dims : Nat) :
    (TypeRef.named name arguments dims).toJson =
      .tagged "Named" (.record [("name", name.toJson),
        ("arguments", .orNull (arguments.map fun arguments =>
          .array (arguments.map TypeArgument.toJson))),
        ("dims", .nat dims)]) := by
  cases arguments with
  | none => rfl
  | some arguments =>
    rw [Option.map_some, ← TypeArgument.listToJson_eq_map]
    rfl

theorem TypeArgument.toJson_wildcard (bound : Option WildcardBound) :
    (TypeArgument.wildcard bound).toJson =
      .tagged "Wildcard" (.orNull (bound.map WildcardBound.toJson)) := by
  cases bound <;> rfl

structure TypesFaithful (room : Nat) : Prop where
  type : Faithful TypeRef.toJson (TypeRef.ofJson? room) room
  argument : Faithful TypeArgument.toJson (TypeArgument.ofJson? room) room
  bound : Faithful WildcardBound.toJson (WildcardBound.ofJson? room) room
  arguments : Faithful (fun arguments => .array (arguments.map TypeArgument.toJson))
    (TypeArgument.listOfJson? room) room

section Types

variable {room : Nat} (below : ∀ inner < room, TypesFaithful inner)

include below

theorem TypeRef.faithful_of_below : Faithful TypeRef.toJson (TypeRef.ofJson? room) room where
  refuses := by rcases room with _ | _ | room <;> rfl
  reads type fits := by
    cases type with
    | primitive code dims =>
      obtain ⟨inner, rfl, codeFits, dimsFits, _⟩ := fits_alternative_iff.1 fits
      exact (Code.faithful inner).reads_required codeFits
        ((faithful_nat inner).reads_required dimsFits rfl)
    | named name arguments dims =>
      rw [TypeRef.toJson_named] at fits ⊢
      obtain ⟨inner, rfl, nameFits, argumentsFit, dimsFits, _⟩ := fits_alternative_iff.1 fits
      have inside := below inner (by omega)
      exact (DottedName.faithful inner).reads_required nameFits
        (inside.arguments.reads_optional argumentsFit
          ((faithful_nat inner).reads_required dimsFits rfl))
  fits := by
    intro json type read
    unfold TypeRef.ofJson? at read
    split at read
    · next inner content =>
      split at read
      · obtain ⟨code, codeFits, read⟩ := (Code.faithful inner).of_required read
        obtain ⟨dims, dimsFits, made⟩ := (faithful_nat inner).of_required read
        cases made
        exact fits_alternative_iff.2 ⟨inner, rfl, codeFits, dimsFits, trivial⟩
      · cases read
    · next inner content =>
      have inside := below inner (by omega)
      split at read
      · obtain ⟨name, nameFits, read⟩ := (DottedName.faithful inner).of_required read
        obtain ⟨arguments, argumentsFit, read⟩ := inside.arguments.of_optional read
        obtain ⟨dims, dimsFits, made⟩ := (faithful_nat inner).of_required read
        cases made
        rw [TypeRef.toJson_named]
        exact fits_alternative_iff.2 ⟨inner, rfl, nameFits, argumentsFit, dimsFits, trivial⟩
      · cases read
    · cases read

theorem TypeArgument.faithful_of_below :
    Faithful TypeArgument.toJson (TypeArgument.ofJson? room) room where
  refuses := by cases room <;> rfl
  reads argument fits := by
    cases argument with
    | type value =>
      obtain ⟨inner, rfl, valueFits⟩ := fits_tagged_iff.1 fits
      exact congrArg (Option.map TypeArgument.type)
        ((below inner (by omega)).type.reads value valueFits)
    | wildcard bound =>
      rw [TypeArgument.toJson_wildcard] at fits ⊢
      obtain ⟨inner, rfl, boundFits⟩ := fits_tagged_iff.1 fits
      exact congrArg (Option.map TypeArgument.wildcard)
        ((below inner (by omega)).bound.reads_nullable boundFits)
  fits := by
    intro json argument read
    unfold TypeArgument.ofJson? at read
    split at read
    · next inner content =>
      obtain ⟨value, valueRead, rfl⟩ := Option.map_eq_some_iff.1 read
      exact fits_tagged_iff.2 ⟨inner, rfl, (below inner (by omega)).type.fits valueRead⟩
    · next inner content =>
      obtain ⟨bound, boundRead, rfl⟩ := Option.map_eq_some_iff.1 read
      rw [TypeArgument.toJson_wildcard]
      exact fits_tagged_iff.2 ⟨inner, rfl, (below inner (by omega)).bound.of_nullable boundRead⟩
    · cases read

theorem WildcardBound.faithful_of_below :
    Faithful WildcardBound.toJson (WildcardBound.ofJson? room) room where
  refuses := by cases room <;> rfl
  reads bound fits := by
    cases bound with
    | upper type =>
      obtain ⟨inner, rfl, typeFits⟩ := fits_tagged_iff.1 fits
      exact congrArg (Option.map WildcardBound.upper)
        ((below inner (by omega)).type.reads type typeFits)
    | lower type =>
      obtain ⟨inner, rfl, typeFits⟩ := fits_tagged_iff.1 fits
      exact congrArg (Option.map WildcardBound.lower)
        ((below inner (by omega)).type.reads type typeFits)
  fits := by
    intro json bound read
    unfold WildcardBound.ofJson? at read
    split at read
    · next inner content =>
      obtain ⟨type, typeRead, rfl⟩ := Option.map_eq_some_iff.1 read
      exact fits_tagged_iff.2 ⟨inner, rfl, (below inner (by omega)).type.fits typeRead⟩
    · next inner content =>
      obtain ⟨type, typeRead, rfl⟩ := Option.map_eq_some_iff.1 read
      exact fits_tagged_iff.2 ⟨inner, rfl, (below inner (by omega)).type.fits typeRead⟩
    · cases read

theorem typesFaithful_of_below : TypesFaithful room where
  type := TypeRef.faithful_of_below below
  argument := TypeArgument.faithful_of_below below
  bound := WildcardBound.faithful_of_below below
  arguments := faithful_list (fun _ => rfl) (fun _ _ => rfl)
    fun inner smaller => (below inner smaller).argument

end Types

theorem typesFaithful (room : Nat) : TypesFaithful room := by
  induction room using Nat.strongRecOn with
  | ind room ih => exact typesFaithful_of_below ih

theorem TypeRef.faithful (room : Nat) : Faithful TypeRef.toJson (TypeRef.ofJson? room) room :=
  (typesFaithful room).type

theorem TypeRef.faithful_list (room : Nat) :
    Faithful (fun types => .array (types.map TypeRef.toJson)) (TypeRef.listOfJson? room) room :=
  Json.faithful_list (fun _ => rfl) (fun _ _ => rfl) fun inner _ => TypeRef.faithful inner

/-! ## Parameters -/

theorem TypeParameter.faithful (room : Nat) :
    Faithful TypeParameter.toJson (TypeParameter.ofJson? room) room where
  refuses := by cases room <;> rfl
  reads parameter fits := by
    obtain ⟨inner, rfl, nameFits, boundsFit, _⟩ := fits_record_iff.1 fits
    exact (faithful_text inner).reads_required nameFits
      ((TypeRef.faithful_list inner).reads_required boundsFit rfl)
  fits := by
    intro json parameter read
    cases room with
    | zero => cases read
    | succ inner =>
      rw [TypeParameter.ofJson?] at read
      split at read
      · obtain ⟨name, nameFits, read⟩ := (faithful_text inner).of_required read
        obtain ⟨bounds, boundsFit, made⟩ := (TypeRef.faithful_list inner).of_required read
        cases made
        exact fits_record_iff.2 ⟨inner, rfl, nameFits, boundsFit, trivial⟩
      · cases read

theorem TypeParameter.faithful_list (room : Nat) :
    Faithful (fun parameters => .array (parameters.map TypeParameter.toJson))
      (TypeParameter.listOfJson? room) room :=
  Json.faithful_list (fun _ => rfl) (fun _ _ => rfl) fun inner _ => TypeParameter.faithful inner

theorem Parameter.faithful (room : Nat) :
    Faithful Parameter.toJson (Parameter.ofJson? room) room where
  refuses := by cases room <;> rfl
  reads parameter fits := by
    obtain ⟨inner, rfl, typeFits, nameFits, varargsFits, _⟩ := fits_record_iff.1 fits
    exact (TypeRef.faithful inner).reads_required typeFits
      ((faithful_text inner).reads_required nameFits
        ((faithful_bool inner).reads_required varargsFits rfl))
  fits := by
    intro json parameter read
    cases room with
    | zero => cases read
    | succ inner =>
      rw [Parameter.ofJson?] at read
      split at read
      · obtain ⟨type, typeFits, read⟩ := (TypeRef.faithful inner).of_required read
        obtain ⟨name, nameFits, read⟩ := (faithful_text inner).of_required read
        obtain ⟨isVarargs, varargsFits, made⟩ := (faithful_bool inner).of_required read
        cases made
        exact fits_record_iff.2 ⟨inner, rfl, typeFits, nameFits, varargsFits, trivial⟩
      · cases read

theorem Parameter.faithful_list (room : Nat) :
    Faithful (fun parameters => .array (parameters.map Parameter.toJson))
      (Parameter.listOfJson? room) room :=
  Json.faithful_list (fun _ => rfl) (fun _ _ => rfl) fun inner _ => Parameter.faithful inner

end JavaProjection
