import JavaProjection.Node.Json
import JavaProjection.Projection.Body

/-!
# Source files

The projection of a whole parse tree. Of the types of a file only classes are kept; interfaces,
enumerations, records and annotation types are left out without a report. The projector is
`Settings.project`, a batch is `Settings.projectAll`.
-/

set_option autoImplicit false

namespace JavaProjection

namespace Node

open Projection

def packageName? (root : Node) : Except Failure (Option DottedName) :=
  ifPresent ((root.rule? .packageDeclaration).map fun declared =>
    match declared.rule? .qualifiedName with
    | some name => name.dottedName
    | none => throw (declared.malformed "package name"))

def importDeclaration (node : Node) : Except Failure Import :=
  match node.rule? .qualifiedName with
  | none => throw (node.malformed "imported name")
  | some name => do
    let name ← name.dottedName
    return ⟨node.hasTerminal .kwStatic, name, node.hasTerminal .mul⟩

def imports (root : Node) : Except Failure (List Import) :=
  inOrder ((root.rules .importDeclaration).map importDeclaration)

/-- A type of a file: its class, or nothing. -/
def typeDeclaration (node : Node) : Projection (List Declaration) :=
  match node.rule? .classDeclaration with
  | none => pure []
  | some declared => do
    let declaration ←
      declared.classDeclaration (modifiers? (node.rules .classOrInterfaceModifier))
    return [declaration]

def compilationUnit (root : Node) : Projection CompilationUnit :=
  if root.isRule .compilationUnit then do
    let package ← root.packageName?
    let imports ← root.imports
    let declarations ← inOrder ((root.rules .typeDeclaration).map typeDeclaration)
    return ⟨package, imports, declarations.flatten⟩
  else throw (root.malformed "compilationUnit root")

end Node

/-- A projected source file with what was lost on the way, in the order of its discovery. -/
structure Projected where
  unit : CompilationUnit
  diagnostics : List Diagnostic

namespace Settings

def project (settings : Settings) (root : Node) : Except Failure Projected :=
  match root.compilationUnit.runFrom settings.literals #[] with
  | (.ok unit, diagnostics) => .ok ⟨unit, diagnostics.toList⟩
  | (.error failure, _) => .error failure

/-- Projects several files. Each stands for itself: a failure of one does not touch the others. -/
def projectAll (settings : Settings) (roots : List Node) : List (Except Failure Projected) :=
  roots.map settings.project

def projectText? (settings : Settings) (text : String) : Option (Except Failure Projected) :=
  (Node.read? text).map settings.project

end Settings

def project (root : Node) : Except Failure CompilationUnit :=
  Projected.unit <$> Settings.default.project root

end JavaProjection
