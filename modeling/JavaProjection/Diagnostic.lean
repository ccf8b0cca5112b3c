import JavaProjection.Ast
import JavaProjection.Span

/-!
# Diagnostics

A diagnostic records where a projection lost something. It never stops a projection.
-/

set_option autoImplicit false

namespace JavaProjection

inductive Severity where
  | error | warning
  deriving DecidableEq

/-- What was lost: a whole construct, the value of a literal, or a part of a construct. -/
inductive DiagnosticKind where
  | placeholder (tag : Placeholder)
  | literalFallback
  | lossy
  deriving DecidableEq

structure Diagnostic where
  severity : Severity
  kind : DiagnosticKind
  message : String
  span : Span
  hint : Option String
  deriving DecidableEq

namespace Diagnostic

def warning (kind : DiagnosticKind) (message : String) (span : Span) : Diagnostic :=
  ⟨.warning, kind, message, span, none⟩

def withHint (diagnostic : Diagnostic) (hint : String) : Diagnostic :=
  { diagnostic with hint := some hint }

def placeholder? (diagnostic : Diagnostic) : Option Placeholder :=
  match diagnostic.kind with
  | .placeholder tag => some tag
  | _ => none

end Diagnostic

end JavaProjection
