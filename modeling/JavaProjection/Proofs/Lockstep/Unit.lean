import JavaProjection.Proofs.Lockstep.Body

/-!
# Lockstep of source files

Related parse trees are projected in step from the root down. This is the one fact about the
projection that the theorems on two runs, and on the failures of one, build on.
-/

set_option autoImplicit false

namespace JavaProjection

open Projection

namespace Simulation

variable {R : Node → Node → Prop} {P : ⦃α : Type⦄ → Projection α → Projection α → Prop}
  {x y : Node}

theorem packageName? (sim : Simulation R P) (related : R x y) (visible : x.Visible) :
    Lifted P x.packageName? y.packageName? := by
  refine sim.lifted.ifPresent (rel_map (sim.rule? related visible .packageDeclaration) ?_)
  intro declared declared' part
  have shown := Node.visible_of_kind part.fits rfl
  obtain ⟨none, none'⟩ | ⟨name, name', found, found', inner⟩ :=
    rel_cases (sim.rule? part.related shown .qualifiedName)
  · simp only [none, none']
    exact sim.malformed_lifted part.related (.part part.fits (.head _) none)
  · simp only [found, found']
    exact sim.dottedName inner.related (Node.visible_of_kind inner.fits rfl)
      fun none => .part inner.fits (.head _) none

theorem importDeclaration (sim : Simulation R P) (related : R x y)
    (kind : x.kind = .rule .importDeclaration) :
    Lifted P x.importDeclaration y.importDeclaration := by
  have visible := Node.visible_of_kind kind rfl
  unfold Node.importDeclaration
  simp only [← sim.hasTerminal related visible]
  obtain ⟨none, none'⟩ | ⟨name, name', found, found', inner⟩ :=
    rel_cases (sim.rule? related visible .qualifiedName)
  · simp only [none, none']
    exact sim.malformed_lifted related (.part kind (.head _) none)
  · simp only [found, found']
    refine sim.lifted.bind ?_ fun name => sim.lifted.pure _
    exact sim.dottedName inner.related (Node.visible_of_kind inner.fits rfl)
      fun none => .part inner.fits (.head _) none

theorem imports (sim : Simulation R P) (related : R x y) (visible : x.Visible) :
    Lifted P x.imports y.imports := by
  refine sim.lifted.inOrder (List.rel_map ?_ (sim.rules related visible .importDeclaration))
  intro c d part
  exact sim.importDeclaration part.related part.fits

theorem typeDeclaration (sim : Simulation R P) (related : R x y)
    (kind : x.kind = .rule .typeDeclaration) : P x.typeDeclaration y.typeDeclaration := by
  have visible := Node.visible_of_kind kind rfl
  unfold Node.typeDeclaration
  rw [← sim.modifiers? related visible
    (show Rule.isHidden .classOrInterfaceModifier = false from rfl)]
  obtain ⟨none, none'⟩ | ⟨declared, declared', found, found', part⟩ :=
    rel_cases (sim.rule? related visible .classDeclaration)
  · simp only [none, none']
    exact sim.pure _
  · simp only [found, found']
    refine sim.bind ?_ fun declaration => sim.pure _
    exact sim.classDeclaration part.related (sim.below _) part.fits _

/-- That the root is no source file is not a defect that a node below it could have, so the
relation has to be given for this failure. -/
theorem compilationUnit (sim : Simulation R P) (related : R x y)
    (noFile : x.kind ≠ .rule .compilationUnit →
      P (throw (x.malformed "compilationUnit root") : Projection CompilationUnit)
        (throw (y.malformed "compilationUnit root"))) :
    P x.compilationUnit y.compilationUnit := by
  unfold Node.compilationUnit
  rw [← sim.isRule related]
  split
  · next isUnit =>
    have kind : x.kind = .rule .compilationUnit := eq_of_beq isUnit
    have visible := Node.visible_of_kind kind rfl
    refine sim.bind (sim.packageName? related visible) fun package => ?_
    refine sim.bind (sim.imports related visible) fun imports => ?_
    refine sim.bind (sim.inOrder (List.rel_map ?_ (sim.rules related visible .typeDeclaration)))
      fun declarations => sim.pure _
    intro c d part
    exact sim.typeDeclaration part.related part.fits
  · next other =>
    exact noFile fun kind => other (beq_iff_eq.2 kind)

end Simulation

end JavaProjection
