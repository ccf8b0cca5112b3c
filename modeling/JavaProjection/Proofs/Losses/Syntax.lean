import JavaProjection.Proofs.Runs
import JavaProjection.Proofs.Trees

/-!
# Losses that syntax shows

A placeholder and a conditional expression are the marks that a loss leaves in abstract syntax:
the one stands for a construct, the other lacks its last operand. The losses of a piece of syntax
are these marks in the order of its fields. A projection reports what it loses if its reports
complete the losses of its result.
-/

set_option autoImplicit false

namespace JavaProjection

open Projection

/-! ## Losses of syntax -/

mutual

def Declaration.losses : Declaration → List DiagnosticKind
  | .classType _ members => Declaration.lossesAll members
  | .variable _ (some initializer) => initializer.losses
  | .variable _ none => []
  | .method _ body => BlockStatement.lossesAll body
  | .constructor _ body => BlockStatement.lossesAll body
  | .initializer body _ => BlockStatement.lossesAll body

def Declaration.lossesAll : List Declaration → List DiagnosticKind
  | [] => []
  | declaration :: rest => declaration.losses ++ Declaration.lossesAll rest

def Initializer.losses : Initializer → List DiagnosticKind
  | .expression value => value.losses
  | .array elements => Initializer.lossesAll elements

def Initializer.lossesAll : List Initializer → List DiagnosticKind
  | [] => []
  | initializer :: rest => initializer.losses ++ Initializer.lossesAll rest

def BlockStatement.losses : BlockStatement → List DiagnosticKind
  | .declaration value => value.losses
  | .statement value => value.losses

def BlockStatement.lossesAll : List BlockStatement → List DiagnosticKind
  | [] => []
  | entry :: rest => entry.losses ++ BlockStatement.lossesAll rest

def Statement.losses : Statement → List DiagnosticKind
  | .branch condition thenBranch (some elseBranch) =>
    condition.losses ++ thenBranch.losses ++ elseBranch.losses
  | .branch condition thenBranch none => condition.losses ++ thenBranch.losses
  | .whileLoop condition body => condition.losses ++ body.losses
  | .doLoop body condition => body.losses ++ condition.losses
  | .returns (some value) => value.losses
  | .returns none => []
  | .breaks _ => []
  | .continues _ => []
  | .asserts condition (some message) => condition.losses ++ message.losses
  | .asserts condition none => condition.losses
  | .block body => BlockStatement.lossesAll body
  | .expression value => value.losses

/-- A conditional expression comes after its operands, since it is its third operand that is
lost. -/
def Expression.losses : Expression → List DiagnosticKind
  | .binary op left right =>
    left.losses ++ right.losses ++ if op = .question then [.lossy] else []
  | .prefixed _ operand => operand.losses
  | .postfixed _ operand => operand.losses
  | .cast _ operand => operand.losses
  | .arrayAccess object index => object.losses ++ index.losses
  | .fieldAccess object _ _ => object.losses
  | .invocation (some target) _ _ arguments => target.losses ++ Expression.lossesAll arguments
  | .invocation none _ _ arguments => Expression.lossesAll arguments
  | .instanceCreation _ arguments (some body) =>
    Expression.lossesAll arguments ++ Declaration.lossesAll body
  | .instanceCreation _ arguments none => Expression.lossesAll arguments
  | .arrayCreation _ initializer => Initializer.lossesAll initializer
  | .literal _ => []
  | .reference _ => []
  | .thisObject => []
  | .parenthesized inner => inner.losses
  | .placeholder tag => [.placeholder tag]

def Expression.lossesAll : List Expression → List DiagnosticKind
  | [] => []
  | expression :: rest => expression.losses ++ Expression.lossesAll rest

end

theorem Declaration.lossesAll_append (first second : List Declaration) :
    lossesAll (first ++ second) = lossesAll first ++ lossesAll second := by
  induction first with
  | nil => rfl
  | cons declaration rest ih => simp only [List.cons_append, lossesAll, ih, List.append_assoc]

theorem BlockStatement.lossesAll_append (first second : List BlockStatement) :
    lossesAll (first ++ second) = lossesAll first ++ lossesAll second := by
  induction first with
  | nil => rfl
  | cons entry rest ih => simp only [List.cons_append, lossesAll, ih, List.append_assoc]

theorem BlockStatement.lossesAll_declarations (declarations : List Declaration) :
    lossesAll (declarations.map .declaration) = Declaration.lossesAll declarations := by
  induction declarations with
  | nil => rfl
  | cons declaration rest ih =>
    simp only [List.map_cons, lossesAll, losses, Declaration.lossesAll, ih]

def CompilationUnit.losses (unit : CompilationUnit) : List DiagnosticKind :=
  Declaration.lossesAll unit.declarations

/-! ## Projections that report what they lose -/

/-- What diagnostics say was lost, apart from the values of literals. -/
def Diagnostic.losses (diagnostics : List Diagnostic) : List DiagnosticKind :=
  (diagnostics.map Diagnostic.kind).filter fun kind => kind ≠ .literalFallback

theorem Diagnostic.losses_push (gathered : Array Diagnostic) (diagnostic : Diagnostic) :
    losses (gathered.push diagnostic).toList = losses gathered.toList ++ losses [diagnostic] := by
  simp only [losses, Array.toList_push, List.map_append, List.filter_append]

/-- If the losses reported so far end in `before`, they end in the losses of the result after the
projection: what it adds completes `before` to these. -/
def Completes {α : Type} (before : List DiagnosticKind) (projection : Projection α)
    (losses : α → List DiagnosticKind) : Prop :=
  ∀ policy gathered value further outer,
    projection.runFrom policy gathered = (.ok value, further) →
    Diagnostic.losses gathered.toList = outer ++ before →
    Diagnostic.losses further.toList = outer ++ losses value

namespace Completes

variable {α β : Type} {before : List DiagnosticKind} {losses : α → List DiagnosticKind}

theorem of_pure {value : α} (complete : before = losses value) :
    Completes before (pure value : Projection α) losses := by
  intro policy gathered _ _ outer run reported
  cases run
  rw [reported, complete]

theorem of_throw (failure : Failure) : Completes before (throw failure : Projection α) losses := by
  intro policy gathered value further outer run
  cases run

theorem of_report {losses : Unit → List DiagnosticKind} {diagnostic : Diagnostic}
    (complete : before ++ Diagnostic.losses [diagnostic] = losses ()) :
    Completes before (report diagnostic) losses := by
  intro policy gathered _ _ outer run reported
  cases run
  rw [Diagnostic.losses_push, reported, List.append_assoc, complete]

/-- What the first part reports is already there when the second starts, so it joins what the second
has to complete. -/
theorem bind {further : β → List DiagnosticKind} {first : Projection α}
    {next : α → Projection β} (head : Completes [] first losses)
    (tail : ∀ value, Completes (before ++ losses value) (next value) further) :
    Completes before (first >>= next) further := by
  intro policy gathered value final outer run reported
  rw [runFrom_bind] at run
  split at run
  · next middle between firstRun =>
    have half := head policy gathered middle between (outer ++ before) firstRun
      (by rw [reported, List.append_nil])
    exact tail middle policy between value final outer run (by rw [half, List.append_assoc])
  · cases run

theorem bind_lift {further : β → List DiagnosticKind} {outcome : Except Failure α}
    {next : α → Projection β} (tail : ∀ value, Completes before (next value) further) :
    Completes before (liftM outcome >>= next) further := by
  intro policy gathered value final outer run reported
  rw [runFrom_bind, runFrom_lift] at run
  cases outcome with
  | error failure => cases run
  | ok middle => exact tail middle policy gathered value final outer run reported

theorem map {further : β → List DiagnosticKind} {f : α → β} {projection : Projection α}
    (complete : Completes before projection fun value => further (f value)) :
    Completes before (f <$> projection) further := by
  intro policy gathered value final outer run reported
  rw [map_eq_pure_bind, runFrom_bind] at run
  split at run
  · next middle between firstRun =>
    cases run
    exact complete policy gathered middle final outer firstRun reported
  · cases run

theorem congr {further : α → List DiagnosticKind} {projection : Projection α}
    (complete : Completes before projection losses) (same : ∀ value, losses value = further value) :
    Completes before projection further :=
  funext same ▸ complete

theorem inOrder {all : List α → List DiagnosticKind} {projections : List (Projection α)}
    (nil : all [] = []) (cons : ∀ value rest, all (value :: rest) = losses value ++ all rest)
    (each : ∀ projection ∈ projections, Completes [] projection losses) :
    Completes [] (Projection.inOrder projections) all := by
  induction projections with
  | nil => exact of_pure nil.symm
  | cons projection rest ih =>
    refine bind (each projection List.mem_cons_self) fun value => ?_
    refine bind (ih fun other member => each other (List.mem_cons_of_mem _ member)) fun values => ?_
    exact of_pure (cons value values).symm

theorem ifPresent {projection : Option (Projection α)}
    (present : ∀ inner, projection = some inner → Completes [] inner losses) :
    Completes [] (Projection.ifPresent projection) fun result => result.elim [] losses := by
  cases projection with
  | none => exact of_pure rfl
  | some inner => exact bind (present inner rfl) fun value => of_pure rfl

end Completes

end JavaProjection
