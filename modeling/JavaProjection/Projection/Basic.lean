import JavaProjection.Diagnostic
import JavaProjection.Failure
import JavaProjection.Node.Query
import JavaProjection.Settings

/-!
# Projections

A projection reads a parse tree under a literal policy. It adds to the diagnostics gathered so
far and ends with a value or with the first failure. What was gathered before a failure stays
gathered.

The context of a visit to the concrete tree, its settings and the list of its diagnostics, is the
reader and the state of the monad here. The stack limits among the settings decide nothing.
-/

set_option autoImplicit false

namespace JavaProjection

/-- A computation that projects a part of a parse tree. -/
abbrev Projection : Type → Type :=
  ReaderT LiteralPolicy (ExceptT Failure (StateM (Array Diagnostic)))

namespace Projection

/-- Runs a projection from the diagnostics gathered before it. -/
def runFrom {α : Type} (projection : Projection α) (policy : LiteralPolicy)
    (diagnostics : Array Diagnostic) : Except Failure α × Array Diagnostic :=
  projection policy diagnostics

def report (diagnostic : Diagnostic) : Projection Unit :=
  modify fun diagnostics => diagnostics.push diagnostic

section Sequences

variable {m : Type → Type} [Monad m] {α : Type}

def inOrder : List (m α) → m (List α)
  | [] => pure []
  | action :: rest => do
    let value ← action
    let values ← inOrder rest
    return value :: values

def ifPresent : Option (m α) → m (Option α)
  | none => pure none
  | some action => do
    let value ← action
    return some value

end Sequences

end Projection

namespace Node

/-- The failure at a node that lacks what the grammar promises. -/
def malformed (node : Node) (expected : String) : Failure :=
  .malformedTree expected node.span

/-- Reports a construct outside the abstract syntax and puts a placeholder in its place. -/
def placeholder (node : Node) (tag : Placeholder) (construct : String) :
    Projection Expression := do
  Projection.report
    (.warning (.placeholder tag) s!"{construct} is not translated" node.span)
  return .placeholder tag

def reportDroppedBranch (node : Node) : Projection Unit :=
  Projection.report <|
    (Diagnostic.warning .lossy
      "conditional expression translated without its `:` branch" node.span).withHint
      "the false branch is dropped"

end Node

end JavaProjection
