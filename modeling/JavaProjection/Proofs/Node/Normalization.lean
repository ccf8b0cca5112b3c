import JavaProjection.Proofs.Node.RoundTrip

/-!
# Loading normalises once

A text may spell a node in many ways. Whatever it does, the node that is loaded from it is low
enough and its spans are small enough to be written and loaded again, so the written form is the
one normal form of all the texts that denote the node.
-/

set_option autoImplicit false

namespace JavaProjection

open Json (natLimit)

/-! ## Offsets of loaded spans -/

theorem Span.Form.stop_lt {json : Json} {span : Span} (form : Span.Form json span) :
    span.stop < natLimit := by
  cases form with
  | pair record startBound stopBound clamped =>
    rw [clamped]
    exact Nat.max_lt.2 ⟨startBound, stopBound⟩

namespace Node

theorem WireSpan.stop_lt {member : Option Json} {span : Span} (form : WireSpan member span) :
    span.stop < natLimit := by
  cases form with
  | missing start stop =>
    rw [stop]
    decide
  | given form => exact form.stop_lt

mutual

/-- A node that a value denotes has no offset that is too large to be read. -/
theorem Wire.spansBelow {json : Json} {node : Node} : Wire json node → node.SpansBelow natLimit
  | .record _ _ span children _ _ => spansBelow_of_children span.stop_lt children.spansBelow

theorem WireChildren.spansBelow {member : Option Json} {nodes : List Node} :
    WireChildren member nodes → ∀ node ∈ nodes, node.SpansBelow natLimit
  | .missing => nofun
  | .array all => all.spansBelow

theorem WireAll.spansBelow {elements : List Json} {nodes : List Node} :
    WireAll elements nodes → ∀ node ∈ nodes, node.SpansBelow natLimit
  | .nil => nofun
  | .cons head tail => List.forall_mem_cons.2 ⟨head.spansBelow, tail.spansBelow⟩

end

/-! ## Loaded nodes are written and loaded again -/

/-- The written form of a node with small offsets denotes the node and is read with any room for
two containers at each level. -/
theorem ofJson?_toJson {node : Node} {room : Nat} (below : node.SpansBelow natLimit)
    (fits : 2 * node.height ≤ room) : ofJson? room node.toJson = some node := by
  apply (wire_toJson node below).ofJson?_eq
  rw [nesting_toJson]
  exact fits

theorem ofJson?_of_read? {text : String} {node : Node} (loaded : read? text = some node) :
    ∃ json, Json.read? text = some json ∧ ofJson? Json.nestingLimit json = some node :=
  Option.bind_eq_some_iff.1 loaded

/-- Whatever text a node is loaded from, the node is no higher than 63, every span in it is in
order and its offsets can be written, and its written form is loaded as the same node again. -/
theorem loaded_node_read_back {text : String} {node : Node} (loaded : read? text = some node) :
    node.height ≤ 63 ∧
      (∀ inner, node.Contains inner →
        inner.span.start ≤ inner.span.stop ∧ inner.span.stop < UInt64.size) ∧
      read? node.render = some node := by
  obtain ⟨json, _, read⟩ := ofJson?_of_read? loaded
  have height : 2 * node.height ≤ Json.nestingLimit := height_le_of_ofJson? read
  have below : node.SpansBelow natLimit := (wire_of_ofJson? read).spansBelow
  refine ⟨?_, ?_, ?_⟩
  · rw [Json.nestingLimit] at height
    omega
  · intro inner inside
    exact ⟨inner.span.start_le_stop, below inner inside⟩
  · rw [read?, Json.readAs?, render, Json.read?_render (bounded_toJson node below),
      Option.bind_some]
    exact ofJson?_toJson below height

/-- Blocks inside each other, with the members that may be missing left out. -/
def bareBlocks : Nat → Json
  | 0 => .object [(some "kind", .object [(some "rule", .text "block")])]
  | depth + 1 => .object [(some "children", .array [bareBlocks depth]),
      (some "kind", .object [(some "rule", .text "block")])]

def emptyBlocks : Nat → Node
  | 0 => ⟨.rule .block, .zero, [], none, none⟩
  | depth + 1 => ⟨.rule .block, .zero, [emptyBlocks depth], none, none⟩

theorem bareBlocks_wire (depth : Nat) : Wire (bareBlocks depth) (emptyBlocks depth) := by
  have kind : Kind.Form (.object [(some "rule", .text "block")]) (.rule .block) :=
    .rule (.string "block")
  induction depth with
  | zero =>
    exact .record (Json.record?_eq_some_iff.1 rfl) kind (.missing rfl rfl) .missing .missing
      .missing
  | succ depth ih =>
    exact .record (Json.record?_eq_some_iff.1 rfl) kind (.missing rfl rfl) (.array (.cons ih .nil))
      .missing .missing

theorem bareBlocks_nesting (depth : Nat) : (bareBlocks depth).nesting = 2 * depth + 2 := by
  induction depth with
  | zero => rfl
  | succ depth ih =>
    simp only [bareBlocks, Json.nesting, Json.nestingMembers, Json.nestingAll, Json.text, ih]
    omega

theorem bareBlocks_bounded (depth : Nat) : (bareBlocks depth).Bounded := by
  induction depth with
  | zero => exact ⟨⟨trivial, trivial⟩, trivial⟩
  | succ depth ih => exact ⟨⟨ih, trivial⟩, ⟨trivial, trivial⟩, trivial⟩

theorem read?_bareBlocks {depth : Nat} (low : depth ≤ 62) :
    read? (bareBlocks depth).render = some (emptyBlocks depth) := by
  rw [read?, Json.readAs?, Json.read?_render (bareBlocks_bounded depth), Option.bind_some]
  apply (bareBlocks_wire depth).ofJson?_eq
  rw [bareBlocks_nesting, Json.nestingLimit]
  omega

/-- At the limit of what can be loaded, a text without spans is written with them and loaded
again. -/
theorem bareBlocks_read_back :
    read? (bareBlocks 62).render = some (emptyBlocks 62) ∧ (emptyBlocks 62).height = 63 ∧
      read? (emptyBlocks 62).render = some (emptyBlocks 62) := by
  have loaded := read?_bareBlocks (Nat.le_refl 62)
  obtain ⟨_, _, again⟩ := loaded_node_read_back loaded
  exact ⟨loaded, by decide +kernel, again⟩

end Node

end JavaProjection
