import JavaProjection.Node.Json
import JavaProjection.Proofs.Json.Records
import JavaProjection.Proofs.NameTables

/-!
# What denotes a node

The JSON values that denote a node are described on their own, without a reader: which members a
node has, which of them may be missing, and which forms each of them takes. A reader with enough
room takes exactly these values and gives the node that they denote.
-/

set_option autoImplicit false

namespace JavaProjection

open Json (RecordForm natLimit required optional withDefault)

/-! ## Names and kinds -/

/-- A name: a string, or an object with the name as its only key over null. -/
inductive Json.NameForm : Json → String → Prop
  | string (name : String) : NameForm (.text name) name
  | object (name : String) : NameForm (.object [(some name, .null)]) name

theorem Json.nameForm_of_word? {room : Nat} {json : Json} {name : String}
    (read : json.word? room = some name) : NameForm json name := by
  unfold Json.word? at read
  split at read
  · cases read
    exact .string name
  · cases read
    exact .object name
  · cases read

theorem Json.NameForm.word?_eq {json : Json} {name : String} (form : NameForm json name)
    {room : Nat} (fits : json.nesting ≤ room) : json.word? room = some name := by
  cases form with
  | string => cases room <;> rfl
  | object =>
    rw [nesting_singleton] at fits
    cases room with
    | zero => omega
    | succ room => rfl

section Names

variable {α : Type} {name : α → String} {ofName? : String → Option α} {room : Nat} {json : Json}
  {value : α}

theorem Json.nameForm_of_bind
    (found : ∀ {text value}, ofName? text = some value ↔ name value = text)
    (read : (json.word? room).bind ofName? = some value) : json.NameForm (name value) := by
  obtain ⟨_, word, named⟩ := Option.bind_eq_some_iff.1 read
  obtain rfl := found.1 named
  exact nameForm_of_word? word

theorem Json.NameForm.bind_eq
    (found : ∀ {text value}, ofName? text = some value ↔ name value = text)
    (form : json.NameForm (name value)) (fits : json.nesting ≤ room) :
    (json.word? room).bind ofName? = some value := by
  rw [form.word?_eq fits, Option.bind_some, found]

end Names

inductive Kind.Form : Json → Kind → Prop
  | rule {json : Json} {rule : Rule} (name : json.NameForm rule.name) :
    Kind.Form (.object [(some "rule", json)]) (.rule rule)
  | terminal {json : Json} {terminal : Terminal} (name : json.NameForm terminal.name) :
    Kind.Form (.object [(some "terminal", json)]) (.terminal terminal)

theorem Kind.form_of_ofJson? {room : Nat} {json : Json} {kind : Kind}
    (read : Kind.ofJson? room json = some kind) : Kind.Form json kind := by
  unfold Kind.ofJson? at read
  split at read
  · obtain ⟨rule, named, rfl⟩ := Option.map_eq_some_iff.1 read
    exact .rule (Json.nameForm_of_bind Rule.ofName?_eq_some_iff named)
  · obtain ⟨terminal, named, rfl⟩ := Option.map_eq_some_iff.1 read
    exact .terminal (Json.nameForm_of_bind Terminal.ofName?_eq_some_iff named)
  · cases read

theorem Kind.Form.ofJson?_eq {json : Json} {kind : Kind} (form : Kind.Form json kind) {room : Nat}
    (fits : json.nesting ≤ room) : Kind.ofJson? room json = some kind := by
  cases room with
  | zero => cases form <;> rw [Json.nesting_singleton] at fits <;> omega
  | succ room =>
    cases form with
    | @rule json rule name =>
      rw [Json.nesting_singleton] at fits
      have found : Rule.ofJson? room json = some rule :=
        name.bind_eq Rule.ofName?_eq_some_iff (Nat.le_of_succ_le_succ fits)
      exact congrArg (Option.map Kind.rule) found
    | @terminal json terminal name =>
      rw [Json.nesting_singleton] at fits
      have found : Terminal.ofJson? room json = some terminal :=
        name.bind_eq Terminal.ofName?_eq_some_iff (Nat.le_of_succ_le_succ fits)
      exact congrArg (Option.map Kind.terminal) found

/-! ## Spans and texts -/

/-- A record of two offsets. A stop before the start counts as the start. -/
inductive Span.Form : Json → Span → Prop
  | pair {json : Json} {span : Span} {stop : Nat}
    (record : RecordForm ["start", "end"] 2 json [some (.nat span.start), some (.nat stop)])
    (startBound : span.start < natLimit) (stopBound : stop < natLimit)
    (clamped : span.stop = max span.start stop) : Span.Form json span

theorem Span.form_of_ofJson? {room : Nat} {json : Json} {span : Span}
    (read : Span.ofJson? room json = some span) : Span.Form json span := by
  unfold Span.ofJson? at read
  split at read
  · split at read
    · next start stop found =>
      obtain ⟨first, startRead, afterStart⟩ := Option.bind_eq_some_iff.1 read
      obtain ⟨second, stopRead, made⟩ := Option.bind_eq_some_iff.1 afterStart
      obtain ⟨_, rfl, startRead⟩ := Option.bind_eq_some_iff.1 startRead
      obtain ⟨_, rfl, stopRead⟩ := Option.bind_eq_some_iff.1 stopRead
      obtain ⟨rfl, startBound⟩ := Json.nat?_eq_some_iff.1 startRead
      obtain ⟨rfl, stopBound⟩ := Json.nat?_eq_some_iff.1 stopRead
      cases made
      exact .pair (Json.record?_eq_some_iff.1 found) startBound stopBound rfl
    · cases read
  · cases read

theorem Span.Form.ofJson?_eq {json : Json} {span : Span} (form : Span.Form json span) {room : Nat}
    (fits : json.nesting ≤ room) : Span.ofJson? room json = some span := by
  cases form with
  | @pair stop record startBound stopBound clamped =>
    cases room with
    | zero =>
      have inside := record.nesting_lt List.mem_cons_self
      omega
    | succ room =>
      have startRead := Json.nat?_eq_some_iff.2 ⟨rfl, startBound⟩
      have stopRead := Json.nat?_eq_some_iff.2 ⟨rfl, stopBound⟩
      have same : Span.clamped span.start stop = span := by
        obtain ⟨start, last, ordered⟩ := span
        obtain rfl : last = max start stop := clamped
        rfl
      rw [Span.ofJson?, Json.record?_eq_some_iff.2 record]
      simp [required, startRead, stopRead, same]

inductive Json.TextForm : Option Json → Option String → Prop
  | missing : TextForm none none
  | null : TextForm (some .null) none
  | string (content : String) : TextForm (some (.text content)) (some content)

theorem Json.optional_text?_eq_some_iff {member : Option Json} {text : Option String} :
    optional text? member = some text ↔ TextForm member text := by
  constructor
  · intro read
    unfold optional at read
    split at read
    · cases read
      exact .missing
    · cases read
      exact .null
    · obtain ⟨content, read, rfl⟩ := Option.map_eq_some_iff.1 read
      unfold text? at read
      split at read
      · cases read
        exact .string content
      · cases read
  · intro form
    cases form <;> rfl

/-! ## Nodes -/

namespace Node

/-- The span of a node is the empty one at the start of the text when it is missing. -/
inductive WireSpan : Option Json → Span → Prop
  | missing {span : Span} (start : span.start = 0) (stop : span.stop = 0) : WireSpan none span
  | given {json : Json} {span : Span} (form : Span.Form json span) : WireSpan (some json) span

mutual

/-- The JSON value denotes the node. Of the members of a node only the kind must be there. -/
inductive Wire : Json → Node → Prop
  | record {json kindForm : Json} {spanForm childrenForm textForm labelForm : Option Json}
    {node : Node}
    (record : RecordForm ["kind", "span", "children", "text", "field"] 1 json
      [some kindForm, spanForm, childrenForm, textForm, labelForm])
    (kind : Kind.Form kindForm node.kind) (span : WireSpan spanForm node.span)
    (children : WireChildren childrenForm node.children)
    (text : Json.TextForm textForm node.text) (label : Json.TextForm labelForm node.label) :
    Wire json node

inductive WireChildren : Option Json → List Node → Prop
  | missing : WireChildren none []
  | array {elements : List Json} {nodes : List Node} (all : WireAll elements nodes) :
    WireChildren (some (.array elements)) nodes

inductive WireAll : List Json → List Node → Prop
  | nil : WireAll [] []
  | cons {json : Json} {node : Node} {elements : List Json} {nodes : List Node}
    (head : Wire json node) (tail : WireAll elements nodes) :
    WireAll (json :: elements) (node :: nodes)

end

/-! ## Reading nodes -/

theorem listOfJson?_eq_some_iff {room : Nat} {json : Json} {nodes : List Node} :
    listOfJson? room json = some nodes ↔
      ∃ inner elements, room = inner + 1 ∧ json = .array elements ∧
        List.Forall₂ (fun element node => ofJson? inner element = some node) elements nodes := by
  constructor
  · intro read
    cases room with
    | zero =>
      rw [listOfJson?] at read
      cases read
    | succ inner =>
      rw [listOfJson?] at read
      cases json with
      | array elements => exact ⟨inner, elements, rfl, rfl, Json.mapM_eq_some_iff_forall₂.1 read⟩
      | _ => cases read
  · rintro ⟨inner, elements, rfl, rfl, all⟩
    rw [listOfJson?]
    exact Json.mapM_eq_some_iff_forall₂.2 all

/-- What a reader makes of the members of a node. -/
theorem ofJson?_eq_some_iff {room : Nat} {json : Json} {node : Node} :
    ofJson? room json = some node ↔
      ∃ inner kindForm spanForm childrenForm textForm labelForm, room = inner + 1 ∧
        RecordForm ["kind", "span", "children", "text", "field"] 1 json
          [some kindForm, spanForm, childrenForm, textForm, labelForm] ∧
        Kind.ofJson? inner kindForm = some node.kind ∧
        withDefault .zero (Span.ofJson? inner) spanForm = some node.span ∧
        withDefault [] (listOfJson? inner) childrenForm = some node.children ∧
        Json.TextForm textForm node.text ∧ Json.TextForm labelForm node.label := by
  constructor
  · intro read
    cases room with
    | zero =>
      rw [ofJson?] at read
      cases read
    | succ inner =>
      rw [ofJson?] at read
      split at read
      · next kindForm spanForm childrenForm textForm labelForm found =>
        obtain ⟨kind, kindRead, afterKind⟩ := Option.bind_eq_some_iff.1 read
        obtain ⟨span, spanRead, afterSpan⟩ := Option.bind_eq_some_iff.1 afterKind
        obtain ⟨children, childrenRead, afterChildren⟩ := Option.bind_eq_some_iff.1 afterSpan
        obtain ⟨text, textRead, afterText⟩ := Option.bind_eq_some_iff.1 afterChildren
        obtain ⟨label, labelRead, made⟩ := Option.bind_eq_some_iff.1 afterText
        obtain ⟨given, rfl, kindRead⟩ := Option.bind_eq_some_iff.1 kindRead
        cases made
        exact ⟨inner, given, spanForm, childrenForm, textForm, labelForm, rfl,
          Json.record?_eq_some_iff.1 found, kindRead, spanRead, childrenRead,
          Json.optional_text?_eq_some_iff.1 textRead, Json.optional_text?_eq_some_iff.1 labelRead⟩
      · cases read
  · rintro ⟨inner, kindForm, spanForm, childrenForm, textForm, labelForm, rfl, record, kindRead,
      spanRead, childrenRead, text, label⟩
    have textRead := Json.optional_text?_eq_some_iff.2 text
    have labelRead := Json.optional_text?_eq_some_iff.2 label
    obtain ⟨kind, span, children, text, label⟩ := node
    rw [ofJson?, Json.record?_eq_some_iff.2 record]
    simp [required, kindRead, spanRead, childrenRead, textRead, labelRead]

theorem wireSpan_of_withDefault {room : Nat} {member : Option Json} {span : Span}
    (read : withDefault .zero (Span.ofJson? room) member = some span) : WireSpan member span := by
  cases member with
  | none =>
    cases read
    exact .missing rfl rfl
  | some json => exact .given (Span.form_of_ofJson? read)

theorem WireSpan.withDefault_eq {member : Option Json} {span : Span} (form : WireSpan member span)
    {room : Nat} (fits : ∀ json, member = some json → json.nesting ≤ room) :
    withDefault .zero (Span.ofJson? room) member = some span := by
  cases form with
  | missing start stop =>
    cases span
    cases start
    cases stop
    rfl
  | given form => exact form.ofJson?_eq (fits _ rfl)

theorem wireAll_of_forall₂ {elements : List Json} {nodes : List Node}
    (all : List.Forall₂ Wire elements nodes) : WireAll elements nodes := by
  induction all with
  | nil => exact .nil
  | cons head _ ih => exact .cons head ih

/-- Whatever a reader takes for a node denotes it, with any room. -/
theorem wire_of_ofJson? {room : Nat} {json : Json} {node : Node}
    (read : ofJson? room json = some node) : Wire json node := by
  induction room using Nat.strongRecOn generalizing json node with
  | ind room ih =>
    obtain ⟨inner, kindForm, spanForm, childrenForm, textForm, labelForm, rfl, record, kindRead,
      spanRead, childrenRead, text, label⟩ := ofJson?_eq_some_iff.1 read
    have children : WireChildren childrenForm node.children := by
      cases childrenForm with
      | none =>
        obtain same : [] = node.children := Option.some.inj childrenRead
        rw [← same]
        exact .missing
      | some given =>
        obtain ⟨innermost, elements, rfl, rfl, all⟩ := listOfJson?_eq_some_iff.1 childrenRead
        exact .array (wireAll_of_forall₂ (all.imp fun _ _ => ih innermost (by omega)))
    exact .record record (Kind.form_of_ofJson? kindRead) (wireSpan_of_withDefault spanRead)
      children text label

mutual

/-- What denotes a node is read as that node when there is room for it. -/
theorem Wire.ofJson?_eq {json : Json} {node : Node} :
    Wire json node → ∀ {room : Nat}, json.nesting ≤ room → ofJson? room json = some node
  | .record record kind span children text label, room, fits => by
    have positive := record.nesting_lt List.mem_cons_self
    obtain ⟨inner, rfl⟩ : ∃ inner, room = inner + 1 := ⟨room - 1, by omega⟩
    have inside {value : Json} (below : value.nesting < json.nesting) : value.nesting ≤ inner := by
      omega
    apply ofJson?_eq_some_iff.2
    refine ⟨inner, _, _, _, _, _, rfl, record, kind.ofJson?_eq ?_, span.withDefault_eq ?_,
      children.withDefault_eq ?_, text, label⟩
    · exact inside positive
    · rintro given rfl
      exact inside (record.nesting_lt (by simp))
    · rintro given rfl
      exact inside (record.nesting_lt (by simp))

theorem WireChildren.withDefault_eq {member : Option Json} {nodes : List Node} :
    WireChildren member nodes → ∀ {room : Nat},
      (∀ json, member = some json → json.nesting ≤ room) →
      withDefault [] (listOfJson? room) member = some nodes
  | .missing, _, _ => rfl
  | @WireChildren.array elements _ all, room, fits => by
    have positive := fits _ rfl
    rw [Json.nesting] at positive
    obtain ⟨inner, rfl⟩ : ∃ inner, room = inner + 1 := ⟨room - 1, by omega⟩
    have inside := Json.nestingAll_le_iff.1 (show Json.nestingAll elements ≤ inner by omega)
    exact listOfJson?_eq_some_iff.2 ⟨inner, elements, rfl, rfl, all.forall₂ inside⟩

theorem WireAll.forall₂ {elements : List Json} {nodes : List Node} :
    WireAll elements nodes → ∀ {room : Nat}, (∀ json ∈ elements, json.nesting ≤ room) →
      List.Forall₂ (fun element node => ofJson? room element = some node) elements nodes
  | .nil, _, _ => .nil
  | .cons head tail, room, fits =>
    .cons (head.ofJson?_eq (fits _ List.mem_cons_self))
      (tail.forall₂ fun json inside => fits json (List.mem_cons_of_mem _ inside))

end

/-- A value denotes at most one node. -/
theorem Wire.unique {json : Json} {node other : Node} (left : Wire json node)
    (right : Wire json other) : node = other := by
  have leftRead := left.ofJson?_eq (Nat.le_refl json.nesting)
  have rightRead := right.ofJson?_eq (Nat.le_refl json.nesting)
  exact Option.some.inj (leftRead.symm.trans rightRead)

/-- A value is read as a node by a reader with enough room exactly when it denotes that node, and
room for all its containers is enough. A text is read as a node only if its value denotes it. -/
theorem read_iff_wire (json : Json) (node : Node) :
    ((∃ room, ofJson? room json = some node) ↔ Wire json node) ∧
      (∀ room, json.nesting ≤ room → (ofJson? room json = some node ↔ Wire json node)) ∧
      ∀ text, Json.read? text = some json →
        (read? text = some node → Wire json node) ∧
        (json.nesting ≤ Json.nestingLimit → Wire json node → read? text = some node) := by
  refine ⟨⟨?_, ?_⟩, ?_, ?_⟩
  · rintro ⟨room, read⟩
    exact wire_of_ofJson? read
  · intro wire
    exact ⟨json.nesting, wire.ofJson?_eq (Nat.le_refl _)⟩
  · intro room fits
    exact ⟨wire_of_ofJson?, fun wire => wire.ofJson?_eq fits⟩
  · intro text denotes
    have same : read? text = ofJson? Json.nestingLimit json := by
      rw [read?, Json.readAs?, denotes, Option.bind_some]
    rw [same]
    exact ⟨wire_of_ofJson?, fun fits wire => wire.ofJson?_eq fits⟩

/-- A value with an unknown member, its members in another order, a child in array form without
its last member, a kind named by a key over null, and a span whose stop lies before its start. -/
def spelledPrimary : Json :=
  .object [(some "origin", .array [.null]),
    (some "children", .array [.array [
      .object [(some "terminal", .object [(some "IDENTIFIER", .null)])],
      .array [.nat 7, .nat 3], .array [], .text "x"]]),
    (some "kind", .object [(some "rule", .text "primary")])]

def primaryNode : Node :=
  ⟨.rule .primary, .zero, [⟨.terminal .identifier, .clamped 7 3, [], some "x", none⟩], none, none⟩

theorem spelledPrimary_wire :
    spelledPrimary.nesting ≤ 5 ∧ ofJson? 5 spelledPrimary = some primaryNode ∧
      Wire spelledPrimary primaryNode := by
  have fits : spelledPrimary.nesting ≤ 5 := by decide
  have read : ofJson? 5 spelledPrimary = some primaryNode := by decide +kernel
  exact ⟨fits, read, ((read_iff_wire spelledPrimary primaryNode).2.1 5 fits).1 read⟩

end Node

end JavaProjection
