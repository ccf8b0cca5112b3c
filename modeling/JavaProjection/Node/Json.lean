import JavaProjection.Json.Reading
import JavaProjection.Node.Basic

/-!
# Parse trees as JSON

A node is written as an object with its kind, span, children, text and label in this order; text
and label are left out when there is none. A reader takes more: members in any order, records as
arrays, unknown members, and missing members other than the kind.
-/

set_option autoImplicit false

namespace JavaProjection

open Json (required optional withDefault)

/-! ## Spans -/

namespace Span

def toJson (span : Span) : Json :=
  .record [("start", .nat span.start), ("end", .nat span.stop)]

def ofJson? : Nat → Json → Option Span
  | _ + 1, json =>
    match json.record? ["start", "end"] 2 with
    | some [start, stop] => do
      let start ← required Json.nat? start
      let stop ← required Json.nat? stop
      return clamped start stop
    | _ => none
  | 0, _ => none

end Span

/-! ## Kinds -/

def Rule.ofJson? (room : Nat) (json : Json) : Option Rule :=
  (json.word? room).bind Rule.ofName?

def Terminal.ofJson? (room : Nat) (json : Json) : Option Terminal :=
  (json.word? room).bind Terminal.ofName?

namespace Kind

def toJson : Kind → Json
  | .rule value => .record [("rule", .text value.name)]
  | .terminal value => .record [("terminal", .text value.name)]

def ofJson? : Nat → Json → Option Kind
  | room + 1, .object [(some "rule", name)] => .rule <$> Rule.ofJson? room name
  | room + 1, .object [(some "terminal", name)] => .terminal <$> Terminal.ofJson? room name
  | _, _ => none

end Kind

/-! ## Nodes -/

namespace Node

mutual

def toJson : Node → Json
  | ⟨kind, span, children, text, label⟩ =>
    .record <|
      [("kind", kind.toJson), ("span", span.toJson), ("children", .array (toJsonAll children))]
        ++ text.toList.map (fun text => ("text", .text text))
        ++ label.toList.map (fun label => ("field", .text label))

def toJsonAll : List Node → List Json
  | [] => []
  | child :: rest => child.toJson :: toJsonAll rest

end

mutual

/-- A node from its five members, of which only the kind must be there. -/
def ofJson? : Nat → Json → Option Node
  | room + 1, json =>
    match json.record? ["kind", "span", "children", "text", "field"] 1 with
    | some [kind, span, children, text, label] => do
      let kind ← required (Kind.ofJson? room) kind
      let span ← withDefault .zero (Span.ofJson? room) span
      let children ← withDefault [] (listOfJson? room) children
      let text ← optional Json.text? text
      let label ← optional Json.text? label
      return ⟨kind, span, children, text, label⟩
    | _ => none
  | 0, _ => none

def listOfJson? : Nat → Json → Option (List Node)
  | room + 1, json => json.elements? (ofJson? room)
  | 0, _ => none

end

def render (node : Node) : String :=
  node.toJson.render

def read? (text : String) : Option Node :=
  Json.readAs? ofJson? text

end Node

end JavaProjection
