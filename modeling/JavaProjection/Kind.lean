import JavaProjection.Kind.Rule
import JavaProjection.Kind.Terminal

/-!
# Node kinds

A node of a parse tree stands for a grammar rule or for a token of the lexer.
-/

set_option autoImplicit false

namespace JavaProjection

inductive Kind where
  | rule (value : Rule)
  | terminal (value : Terminal)
  deriving DecidableEq

namespace Kind

def rule? : Kind → Option Rule
  | .rule value => some value
  | .terminal _ => none

def terminal? : Kind → Option Terminal
  | .rule _ => none
  | .terminal value => some value

@[simp] theorem rule?_rule (value : Rule) : (rule value).rule? = some value :=
  rfl

@[simp] theorem rule?_terminal (value : Terminal) : (terminal value).rule? = none :=
  rfl

@[simp] theorem terminal?_rule (value : Rule) : (rule value).terminal? = none :=
  rfl

@[simp] theorem terminal?_terminal (value : Terminal) : (terminal value).terminal? = some value :=
  rfl

theorem rule?_eq_some_iff {kind : Kind} {rule : Rule} :
    kind.rule? = some rule ↔ kind = .rule rule := by
  cases kind <;> simp [rule?]

theorem terminal?_eq_some_iff {kind : Kind} {terminal : Terminal} :
    kind.terminal? = some terminal ↔ kind = .terminal terminal := by
  cases kind <;> simp [terminal?]

end Kind

end JavaProjection
