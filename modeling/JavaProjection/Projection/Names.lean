import JavaProjection.Projection.Basic

/-!
# Names and modifiers

What identifiers, dotted names and modifiers spell. None of this reports anything. `declaredName`
reads the identifier that a declaration requires, `dottedName` a `qualifiedName`, `modifiers?`
decodes the modifier nodes in front of a declaration.
-/

set_option autoImplicit false

namespace JavaProjection

namespace Node

/-- The text of an identifier: that of its first token, or all text below it if it has none. -/
def identifierText (node : Node) : String :=
  match node.firstTerminal? with
  | some token => token.ownText
  | none => node.fullText

def declaredName (node : Node) : Except Failure String :=
  match node.rule? .identifier with
  | some identifier => pure identifier.identifierText
  | none => throw (node.malformed "identifier")

def dottedName (node : Node) : Except Failure DottedName :=
  match DottedName.ofList? ((node.rules .identifier).map identifierText) with
  | some name => pure name
  | none => throw (node.malformed "at least one identifier")

/-- The modifier that a modifier node spells. A wrapped modifier is looked up inside its
wrapper. -/
def modifier? (node : Node) : Option Code := do
  let inner := (node.rule? .classOrInterfaceModifier).getD node
  let token ← inner.firstTerminal?
  let terminal ← token.kind.terminal?
  Code.modifierOf? terminal

/-- The set of modifiers that modifier nodes spell. Without nodes there is no set; nodes that
spell no kept modifier give the empty set. -/
def modifiers? : List Node → Option Modifiers
  | [] => none
  | nodes => some (Modifiers.ofCodes (nodes.filterMap modifier?))

end Node

end JavaProjection
