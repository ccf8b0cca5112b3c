import JavaProjection.Kind
import JavaProjection.Span

/-!
# Failures

The causes that stop the projection of a source file. Nothing else comes with a failure: the
diagnostics gathered before it are dropped.
-/

set_option autoImplicit false

namespace JavaProjection

/-- Why a parse tree has no projection, and where. -/
inductive Failure where
  | unsupportedLocalType (construct : String) (span : Span)
  | unsupportedToken (kind : Terminal) (text : String) (span : Span)
  | invalidLiteral (text : String) (span : Span)
  | malformedTree (expected : String) (span : Span)
  deriving DecidableEq

namespace Failure

def span : Failure → Span
  | .unsupportedLocalType _ span => span
  | .unsupportedToken _ _ span => span
  | .invalidLiteral _ span => span
  | .malformedTree _ span => span

def message : Failure → String
  | .unsupportedLocalType construct _ => s!"unsupported local type declaration: {construct}"
  | .unsupportedToken kind text _ => s!"unsupported token: {text} ({kind.title})"
  | .invalidLiteral text _ => s!"invalid literal: {text}"
  | .malformedTree expected _ => s!"malformed CST: expected {expected}"

end Failure

end JavaProjection
