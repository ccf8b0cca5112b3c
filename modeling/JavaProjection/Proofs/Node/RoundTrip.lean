import JavaProjection.Proofs.Json.Texts
import JavaProjection.Proofs.Literals
import JavaProjection.Proofs.Node.Wire

/-!
# Written nodes are read back

The JSON form of a node nests two containers for each level of the tree, and a reader opens two
containers for each level that it reads. So a written node is read back as long as the tree is no
higher than half of the containers that a reader opens, and is refused above that.
-/

set_option autoImplicit false

namespace JavaProjection

open Json (RecordForm natLimit)

namespace Node

/-! ## Heights -/

theorem heightAll_le_iff {nodes : List Node} {bound : Nat} :
    heightAll nodes ≤ bound ↔ ∀ node ∈ nodes, node.height ≤ bound := by
  induction nodes with
  | nil => simp [heightAll]
  | cons node nodes ih => simp only [heightAll, List.forall_mem_cons, Nat.max_le, ih]

theorem room_pos_of_kind {room : Nat} {json : Json} {kind : Kind}
    (read : Kind.ofJson? room json = some kind) : 0 < room := by
  cases room with
  | zero => simp [Kind.ofJson?] at read
  | succ room => omega

/-- Two containers are opened for each level of a node that is read. -/
theorem height_le_of_ofJson? {room : Nat} {json : Json} {node : Node}
    (read : ofJson? room json = some node) : 2 * node.height ≤ room := by
  induction room using Nat.strongRecOn generalizing json node with
  | ind room ih =>
    obtain ⟨inner, kindForm, spanForm, childrenForm, textForm, labelForm, rfl, record, kindRead,
      spanRead, childrenRead, text, label⟩ := ofJson?_eq_some_iff.1 read
    have positive := room_pos_of_kind kindRead
    obtain ⟨kind, span, children, text, label⟩ := node
    have below : heightAll children ≤ (inner - 1) / 2 := by
      cases childrenForm with
      | none =>
        cases childrenRead
        exact Nat.zero_le _
      | some given =>
        obtain ⟨innermost, elements, rfl, rfl, all⟩ := listOfJson?_eq_some_iff.1 childrenRead
        apply heightAll_le_iff.2
        intro child member
        obtain ⟨element, childRead⟩ := Json.exists_of_mem_right all member
        have smaller := ih innermost (by omega) childRead
        omega
    rw [height]
    omega

/-! ## The written form -/

def SpansBelow (limit : Nat) (node : Node) : Prop :=
  ∀ inner, node.Contains inner → inner.span.stop < limit

theorem SpansBelow.child {limit : Nat} {node child : Node} (below : node.SpansBelow limit)
    (member : child ∈ node.children) : child.SpansBelow limit := by
  intro inner inside
  exact below inner ((Contains.child .root member).trans inside)

theorem spansBelow_of_children {limit : Nat} {node : Node} (root : node.span.stop < limit)
    (children : ∀ child ∈ node.children, child.SpansBelow limit) : node.SpansBelow limit := by
  intro inner inside
  have below : inner = node ∨ ∃ child ∈ node.children, child.Contains inner := by
    induction inside with
    | root => exact Or.inl rfl
    | child above member ih =>
      right
      rcases ih with rfl | ⟨child, first, below⟩
      · exact ⟨_, member, .root⟩
      · exact ⟨child, first, .child below member⟩
  rcases below with rfl | ⟨child, member, below⟩
  · exact root
  · exact children child member inner below

mutual

theorem nesting_toJson : ∀ node : Node, node.toJson.nesting = 2 * node.height
  | ⟨kind, span, children, text, label⟩ => by
    have ofKind : kind.toJson.nesting = 1 := by cases kind <;> rfl
    have ofSpan : span.toJson.nesting = 1 := rfl
    have ofChildren := nestingAll_toJsonAll children
    rw [toJson, height, Json.record, Json.nesting]
    cases text <;> cases label <;>
      simp only [Option.toList, List.map, List.append_nil, List.cons_append, List.nil_append,
        Json.nestingMembers, Json.nesting, Json.text, ofKind, ofSpan, ofChildren] <;>
      omega

theorem nestingAll_toJsonAll : ∀ nodes : List Node,
    Json.nestingAll (toJsonAll nodes) = 2 * heightAll nodes
  | [] => rfl
  | node :: nodes => by
    rw [toJsonAll, Json.nestingAll, nesting_toJson node, nestingAll_toJsonAll nodes, heightAll]
    omega

end

mutual

theorem bounded_toJson : ∀ node : Node, node.SpansBelow natLimit → node.toJson.Bounded
  | ⟨kind, span, children, text, label⟩, below => by
    have ofKind : kind.toJson.Bounded := by cases kind <;> exact ⟨trivial, trivial⟩
    have stop : span.stop < natLimit := below _ .root
    have start : span.start < natLimit := Nat.lt_of_le_of_lt span.start_le_stop stop
    have ofSpan : span.toJson.Bounded := ⟨start, stop, trivial⟩
    have ofChildren := boundedAll_toJsonAll children fun child member => below.child member
    rw [toJson]
    cases text <;> cases label
    · exact ⟨ofKind, ofSpan, ofChildren, trivial⟩
    · exact ⟨ofKind, ofSpan, ofChildren, trivial, trivial⟩
    · exact ⟨ofKind, ofSpan, ofChildren, trivial, trivial⟩
    · exact ⟨ofKind, ofSpan, ofChildren, trivial, trivial, trivial⟩

theorem boundedAll_toJsonAll : ∀ nodes : List Node, (∀ node ∈ nodes, node.SpansBelow natLimit) →
    Json.BoundedAll (toJsonAll nodes)
  | [], _ => trivial
  | node :: nodes, below =>
    ⟨bounded_toJson node (below node List.mem_cons_self),
      boundedAll_toJsonAll nodes fun other member => below other (List.mem_cons_of_mem _ member)⟩

end

mutual

/-- What is written is one of the forms that are accepted, so reading back is a case of reading. -/
theorem wire_toJson : ∀ node : Node, node.SpansBelow natLimit → Wire node.toJson node
  | ⟨kind, span, children, text, label⟩, below => by
    have record : (toJson ⟨kind, span, children, text, label⟩).record?
        ["kind", "span", "children", "text", "field"] 1 =
        some [some kind.toJson, some span.toJson, some (.array (toJsonAll children)),
          text.map Json.text, label.map Json.text] := by
      cases text <;> cases label <;> rfl
    have ofKind : Kind.Form kind.toJson kind := by
      cases kind with
      | rule value => exact .rule (.string value.name)
      | terminal value => exact .terminal (.string value.name)
    have stop : span.stop < natLimit := below _ .root
    have start : span.start < natLimit := Nat.lt_of_le_of_lt span.start_le_stop stop
    have ofSpan : Span.Form span.toJson span :=
      .pair (Json.record?_eq_some_iff.1 rfl) start stop (Nat.max_eq_right span.start_le_stop).symm
    have ofText : ∀ text : Option String, Json.TextForm (text.map Json.text) text := by
      intro text
      cases text with
      | none => exact .missing
      | some content => exact .string content
    have ofChildren := wireAll_toJsonAll children fun child member => below.child member
    exact .record (Json.record?_eq_some_iff.1 record) ofKind (.given ofSpan) (.array ofChildren)
      (ofText text) (ofText label)

theorem wireAll_toJsonAll : ∀ nodes : List Node, (∀ node ∈ nodes, node.SpansBelow natLimit) →
    WireAll (toJsonAll nodes) nodes
  | [], _ => .nil
  | node :: nodes, below =>
    .cons (wire_toJson node (below node List.mem_cons_self))
      (wireAll_toJsonAll nodes fun other member => below other (List.mem_cons_of_mem _ member))

end

/-- A written node is read back when the tree is no higher than 63, and is refused otherwise. -/
theorem rendered_node_read_back (node : Node) (below : node.SpansBelow UInt64.size) :
    (node.height ≤ 63 → read? node.render = some node) ∧
      (64 ≤ node.height → read? node.render = none) := by
  have read : read? node.render = ofJson? Json.nestingLimit node.toJson := by
    rw [read?, Json.readAs?, render, Json.read?_render (bounded_toJson node below),
      Option.bind_some]
  have wire := wire_toJson node below
  rw [read]
  constructor
  · intro low
    apply wire.ofJson?_eq
    rw [nesting_toJson, Json.nestingLimit]
    omega
  · intro high
    cases found : ofJson? Json.nestingLimit node.toJson with
    | none => rfl
    | some other =>
      -- What is read can only be the node itself, which is higher than what the room allows.
      have limit := height_le_of_ofJson? found
      rw [← wire.unique (wire_of_ofJson? found), Json.nestingLimit] at limit
      omega

/-- Blocks inside each other around a token whose text needs every kind of escape. -/
def blocksAround : Nat → Node
  | 0 =>
    ⟨.terminal .stringLiteral, .clamped 0 Span.maxOffset, [], some "\"\\\n\x01é", some "value"⟩
  | depth + 1 => ⟨.rule .block, .clamped 3 8, [blocksAround depth], none, none⟩

theorem height_blocksAround (depth : Nat) : (blocksAround depth).height = depth + 1 := by
  induction depth with
  | zero => rfl
  | succ depth ih =>
    rw [blocksAround, height, heightAll, heightAll, ih]
    omega

theorem blocksAround_spansBelow (depth : Nat) : (blocksAround depth).SpansBelow UInt64.size := by
  induction depth with
  | zero => exact spansBelow_of_children (by decide) (by simp [blocksAround])
  | succ depth ih =>
    have stop : (Span.clamped 3 8).stop < UInt64.size := by decide
    exact spansBelow_of_children stop (by simpa [blocksAround] using ih)

theorem blocksAround_read_back :
    (blocksAround 62).SpansBelow UInt64.size ∧
      read? (blocksAround 62).render = some (blocksAround 62) ∧
      read? (blocksAround 63).render = none := by
  have low : (blocksAround 62).height ≤ 63 := Nat.le_of_eq (height_blocksAround 62)
  have high : 64 ≤ (blocksAround 63).height := Nat.le_of_eq (height_blocksAround 63).symm
  have below := blocksAround_spansBelow
  exact ⟨below 62, (rendered_node_read_back _ (below 62)).1 low,
    (rendered_node_read_back _ (below 63)).2 high⟩

end Node

end JavaProjection
