import Mathlib
import JavaProjection.Ast.OfJson
import JavaProjection.Projection.Names
import JavaProjection.Proofs.Modifiers
import JavaProjection.Proofs.Node.Wire
import JavaProjection.Proofs.Trees

/-!
# Modifiers read from nodes and from JSON

What a list of modifier nodes is decoded to, and what a JSON array is read as, is the set of the
codes that the entries of the list stand for. Order and repetitions do not matter. A node that
stands for no modifier adds nothing, but it makes the difference between an empty set and none; an
element that names no code makes the array unreadable.
-/

set_option autoImplicit false

namespace JavaProjection

/-! ## Nodes -/

namespace Node

def OpensWith (node : Node) (code : Code) : Prop :=
  ∃ token terminal, node.firstTerminal? = some token ∧ token.kind = .terminal terminal ∧
    Code.ofTerminal? terminal = some code ∧ code.isModifier = true

/-- The node stands for a modifier: the keyword opens the class modifier inside the node or, when
there is none, the node itself. -/
inductive Spells (node : Node) (code : Code) : Prop
  | wrapped {inner : Node} (found : node.rule? .classOrInterfaceModifier = some inner)
    (keyword : inner.OpensWith code)
  | bare (unwrapped : node.rule? .classOrInterfaceModifier = none)
    (keyword : node.OpensWith code)

theorem OpensWith.isModifier {node : Node} {code : Code} (opens : node.OpensWith code) :
    code.isModifier = true := by
  obtain ⟨_, _, _, _, _, isModifier⟩ := opens
  exact isModifier

theorem Spells.isModifier {node : Node} {code : Code} (spells : node.Spells code) :
    code.isModifier = true := by
  cases spells with
  | wrapped _ keyword => exact keyword.isModifier
  | bare _ keyword => exact keyword.isModifier

theorem opensWith_iff {node : Node} {code : Code} :
    node.OpensWith code ↔
      (node.firstTerminal?.bind fun token => token.kind.terminal?.bind Code.modifierOf?) =
        some code := by
  simp only [OpensWith, Option.bind_eq_some_iff, Kind.terminal?_eq_some_iff, Code.modifierOf?,
    Option.filter_eq_some_iff]
  constructor
  · rintro ⟨token, terminal, first, kind, coded, isModifier⟩
    exact ⟨token, first, terminal, kind, coded, isModifier⟩
  · rintro ⟨token, first, terminal, kind, coded, isModifier⟩
    exact ⟨token, terminal, first, kind, coded, isModifier⟩

theorem modifier?_eq_some_iff {node : Node} {code : Code} :
    node.modifier? = some code ↔ node.Spells code := by
  have inner : node.modifier? = some code ↔
      ((node.rule? .classOrInterfaceModifier).getD node).OpensWith code := opensWith_iff.symm
  rw [inner]
  cases found : node.rule? .classOrInterfaceModifier with
  | none =>
    constructor
    · exact .bare found
    · intro spells
      cases spells with
      | wrapped other _ => cases found.symm.trans other
      | bare _ keyword => exact keyword
  | some wrapped =>
    constructor
    · exact .wrapped found
    · intro spells
      cases spells with
      | wrapped other keyword =>
        cases found.symm.trans other
        exact keyword
      | bare other _ => cases found.symm.trans other

theorem mem_ofCodes_filterMap (nodes : List Node) (code : Code) :
    code ∈ (Modifiers.ofCodes (nodes.filterMap modifier?)).codes ↔
      ∃ node ∈ nodes, node.Spells code := by
  rw [Modifiers.mem_ofCodes, List.mem_filterMap]
  simp only [modifier?_eq_some_iff]
  -- What a node spells is a modifier, so the second filter drops nothing.
  apply and_iff_left_of_imp
  rintro ⟨_, _, spells⟩
  exact spells.isModifier

theorem modifiers?_eq_none_iff {nodes : List Node} : modifiers? nodes = none ↔ nodes = [] := by
  cases nodes <;> simp [modifiers?]

theorem modifiers?_eq_some_iff {nodes : List Node} {set : Modifiers} :
    modifiers? nodes = some set ↔
      nodes ≠ [] ∧ ∀ code, code ∈ set.codes ↔ ∃ node ∈ nodes, node.Spells code := by
  cases nodes with
  | nil => simp [modifiers?]
  | cons node rest =>
    have decoded : modifiers? (node :: rest) =
        some (Modifiers.ofCodes ((node :: rest).filterMap modifier?)) := rfl
    rw [decoded, Option.some_inj, Modifiers.eq_iff_members (mem_ofCodes_filterMap _)]
    exact (and_iff_right (List.cons_ne_nil node rest)).symm

/-- Besides the members, only the difference between no nodes and no modifiers is kept. -/
theorem modifiers?_eq_iff {left right : List Node} :
    modifiers? left = modifiers? right ↔
      (left = [] ↔ right = []) ∧
        ∀ code, (∃ node ∈ left, node.Spells code) ↔ ∃ node ∈ right, node.Spells code := by
  constructor
  · intro same
    have empty : left = [] ↔ right = [] := by
      rw [← modifiers?_eq_none_iff, same, modifiers?_eq_none_iff]
    refine ⟨empty, ?_⟩
    intro code
    cases decoded : modifiers? left with
    | none =>
      have noneLeft := modifiers?_eq_none_iff.1 decoded
      rw [noneLeft, empty.1 noneLeft]
    | some set =>
      have members := (modifiers?_eq_some_iff.1 decoded).2 code
      have otherMembers := (modifiers?_eq_some_iff.1 (same.symm.trans decoded)).2 code
      exact members.symm.trans otherMembers
  · rintro ⟨empty, spelled⟩
    apply Option.ext
    intro set
    simp only [modifiers?_eq_some_iff, ne_eq, empty, spelled]

end Node

/-! ## JSON arrays -/

theorem Json.NameForm.nesting_le {json : Json} {name : String} (form : json.NameForm name) :
    json.nesting ≤ 1 := by
  cases form with
  | string => exact Nat.zero_le 1
  | object => exact Nat.le_of_eq (nesting_singleton _ _)

theorem Code.ofJson?_eq_some_iff {room : Nat} {json : Json} {code : Code} :
    Code.ofJson? (room + 1) json = some code ↔ json.NameForm code.name := by
  constructor
  · exact Json.nameForm_of_bind Code.ofName?_eq_some_iff
  · intro form
    exact form.bind_eq Code.ofName?_eq_some_iff (form.nesting_le.trans (Nat.le_add_left 1 room))

/-- The name of a code names no other code. -/
theorem Code.nameForm_text_iff {code other : Code} :
    (Json.text code.name).NameForm other.name ↔ other = code := by
  constructor
  · intro form
    have found : Code.ofJson? 1 (.text code.name) = some other := Code.ofJson?_eq_some_iff.2 form
    exact Option.some.inj (found.symm.trans (Code.ofJson?_eq_some_iff.2 (.string code.name)))
  · rintro rfl
    exact .string other.name

theorem Code.mem_iff_of_map_eq {room : Nat} {elements : List Json} {codes : List Code}
    (read : elements.map (Code.ofJson? (room + 1)) = codes.map some) (code : Code) :
    code ∈ codes ↔ ∃ element ∈ elements, element.NameForm code.name := by
  rw [← List.mem_map_of_injective (Option.some_injective Code), ← read, List.mem_map]
  simp only [Code.ofJson?_eq_some_iff]

namespace Modifiers

/-- An array is read if each of its elements names a code, and then as the set of these codes. -/
theorem ofJson?_array_iff {room : Nat} {elements : List Json} {set : Modifiers} :
    Modifiers.ofJson? (room + 2) (.array elements) = some set ↔
      (∀ element ∈ elements, ∃ code : Code, element.NameForm code.name) ∧
        ∀ code, code ∈ set.codes ↔ ∃ element ∈ elements, element.NameForm code.name := by
  constructor
  · intro read
    obtain ⟨codes, each, made⟩ := Option.map_eq_some_iff.1 read
    have mapped := Json.mapM_eq_some_iff_map.1 each
    constructor
    · intro element present
      have inCodes := List.mem_map_of_mem (f := Code.ofJson? (room + 1)) present
      rw [mapped] at inCodes
      obtain ⟨code, _, same⟩ := List.mem_map.1 inCodes
      exact ⟨code, Code.ofJson?_eq_some_iff.1 same.symm⟩
    · have members := Code.mem_iff_of_map_eq mapped
      exact (eq_iff_members fun code => mem_ofList.trans (members code)).1 made
  · rintro ⟨named, listed⟩
    -- Each element is read as a code, so the results are the codes of a list.
    obtain ⟨codes, mapped⟩ :
        elements.map (Code.ofJson? (room + 1)) ∈ Set.range (List.map some) := by
      rw [Set.range_list_map]
      intro value present
      obtain ⟨element, inside, rfl⟩ := List.mem_map.1 present
      obtain ⟨code, form⟩ := named element inside
      exact ⟨code, (Code.ofJson?_eq_some_iff.2 form).symm⟩
    have members := Code.mem_iff_of_map_eq mapped.symm
    refine Option.map_eq_some_iff.2 ⟨codes, Json.mapM_eq_some_iff_map.2 mapped.symm, ?_⟩
    exact (eq_iff_members fun code => mem_ofList.trans (members code)).2 listed

theorem ofJson?_array_congr {left right : List Json}
    (same : ∀ element, element ∈ left ↔ element ∈ right) (room : Nat) :
    Modifiers.ofJson? (room + 2) (.array left) = Modifiers.ofJson? (room + 2) (.array right) := by
  apply Option.ext
  intro set
  simp only [ofJson?_array_iff, same]

theorem readAs?_array {text : String} {elements : List Json}
    (read : Json.read? text = some (.array elements)) :
    Json.readAs? Modifiers.ofJson? text = Modifiers.ofJson? (125 + 2) (.array elements) := by
  rw [Json.readAs?, read, Option.bind_some, Json.nestingLimit]

end Modifiers

/-- Nodes are decoded to the set of the modifiers that they spell, listed in increasing order, and
to none only if there are no nodes; so equal sets mean equal results. The set of some codes is the
set of the modifiers among them, and stays the same when it is made again from its members. An
array is read as the set of the codes that its elements name, whatever their order and
repetitions. -/
theorem modifiers_are_sets :
    (∀ left right : List Node,
      Node.modifiers? left = Node.modifiers? right ↔
        (left = [] ↔ right = []) ∧
          ∀ code, (∃ node ∈ left, node.Spells code) ↔ ∃ node ∈ right, node.Spells code) ∧
    (∀ nodes : List Node,
      (Node.modifiers? nodes = none ↔ nodes = []) ∧
        ∀ set, Node.modifiers? nodes = some set →
          Code.Increasing set.codes ∧
            ∀ code, code ∈ set.codes ↔ ∃ node ∈ nodes, node.Spells code) ∧
    (∀ left right : List Code,
      Modifiers.ofCodes left = Modifiers.ofCodes right ↔
        ∀ code, code.isModifier = true → (code ∈ left ↔ code ∈ right)) ∧
    (∀ codes : List Code,
      Modifiers.ofCodes (Modifiers.ofCodes codes).codes = Modifiers.ofCodes codes) ∧
    (∀ (text : String) (elements : List Json), Json.read? text = some (.array elements) →
      ∀ set, Json.readAs? Modifiers.ofJson? text = some set ↔
        (∀ element ∈ elements, ∃ code : Code, element.NameForm code.name) ∧
          ∀ code, code ∈ set.codes ↔ ∃ element ∈ elements, element.NameForm code.name) ∧
    ∀ (text other : String) (elements others : List Json),
      Json.read? text = some (.array elements) → Json.read? other = some (.array others) →
        (∀ element, element ∈ elements ↔ element ∈ others) →
          Json.readAs? Modifiers.ofJson? text = Json.readAs? Modifiers.ofJson? other := by
  refine ⟨fun _ _ => Node.modifiers?_eq_iff, ?_, fun _ _ => Modifiers.ofCodes_eq_iff,
    Modifiers.ofCodes_codes, ?_, ?_⟩
  · intro nodes
    refine ⟨Node.modifiers?_eq_none_iff, ?_⟩
    intro set decoded
    exact ⟨set.increasing, (Node.modifiers?_eq_some_iff.1 decoded).2⟩
  · intro text elements read set
    rw [Modifiers.readAs?_array read]
    exact Modifiers.ofJson?_array_iff
  · intro text other elements others read otherRead same
    rw [Modifiers.readAs?_array read, Modifiers.readAs?_array otherRead]
    exact Modifiers.ofJson?_array_congr same 125

def wrappedModifier (terminal : Terminal) (text : String) : Node :=
  .branch .modifier [.branch .classOrInterfaceModifier [.leaf terminal text]]

def staticPublicNative : List Node :=
  [wrappedModifier .kwStatic "static", wrappedModifier .kwPublic "public",
    .branch .modifier [.leaf .kwNative "native"]]

def publicStaticPublic : List Node :=
  [wrappedModifier .kwPublic "public", wrappedModifier .kwStatic "static",
    wrappedModifier .kwPublic "public"]

theorem publicStatic_sets :
    Node.modifiers? staticPublicNative = some (.ofList [.kwPublic, .kwStatic]) ∧
    Node.modifiers? publicStaticPublic = Node.modifiers? staticPublicNative ∧
    (∃ node ∈ staticPublicNative, node.Spells .kwPublic) ∧
    Json.readAs? Modifiers.ofJson? "[\"Static\",\"Public\"]" =
      some (.ofList [.kwPublic, .kwStatic]) ∧
    Json.readAs? Modifiers.ofJson? " [ \"Public\", \"Static\", \"Public\" ]" =
      Json.readAs? Modifiers.ofJson? "[\"Static\",\"Public\"]" := by
  obtain ⟨sameDecoded, decodedAs, _, _, loadedAs, sameLoaded⟩ := modifiers_are_sets
  have decoded : Node.modifiers? staticPublicNative = some (.ofList [.kwPublic, .kwStatic]) := rfl
  have read : Json.read? "[\"Static\",\"Public\"]" =
      some (.array [.text Code.kwStatic.name, .text Code.kwPublic.name]) := by cbv
  have otherRead : Json.read? " [ \"Public\", \"Static\", \"Public\" ]" =
      some (.array [.text Code.kwPublic.name, .text Code.kwStatic.name,
        .text Code.kwPublic.name]) := by cbv
  refine ⟨decoded, ?_, (((decodedAs _).2 _ decoded).2 _).1 (by decide),
    (loadedAs _ _ read _).2 ⟨?_, ?_⟩, ?_⟩
  · have isStatic : (wrappedModifier .kwStatic "static").modifier? = some .kwStatic := rfl
    have isPublic : (wrappedModifier .kwPublic "public").modifier? = some .kwPublic := rfl
    have isOther : (Node.branch .modifier [.leaf .kwNative "native"]).modifier? = none := rfl
    refine (sameDecoded _ _).2 ⟨by decide, ?_⟩
    intro code
    simp only [← Node.modifier?_eq_some_iff, staticPublicNative, publicStaticPublic,
      List.exists_mem_cons_iff, isStatic, isPublic, isOther]
    tauto
  · simp [Code.nameForm_text_iff]
  · intro code
    simp [Modifiers.mem_ofList, Code.nameForm_text_iff, or_comm]
  · apply sameLoaded _ _ _ _ otherRead read
    intro element
    simp only [List.mem_cons, List.not_mem_nil]
    tauto

end JavaProjection
