import JavaProjection.Projection.Unit

/-!
# Runs of projections

What a run does at each way to build a projection. Later proofs take a computation apart by these
equations and never look at how policy, failure and diagnostics are threaded.
-/

set_option autoImplicit false

namespace JavaProjection

namespace Projection

section Run

variable {α β : Type} (policy : LiteralPolicy) (gathered : Array Diagnostic)

@[simp] theorem runFrom_pure (value : α) :
    (pure value : Projection α).runFrom policy gathered = (.ok value, gathered) :=
  rfl

@[simp] theorem runFrom_throw (failure : Failure) :
    (throw failure : Projection α).runFrom policy gathered = (.error failure, gathered) :=
  rfl

@[simp] theorem runFrom_lift (outcome : Except Failure α) :
    (liftM outcome : Projection α).runFrom policy gathered = (outcome, gathered) :=
  rfl

@[simp] theorem runFrom_report (diagnostic : Diagnostic) :
    (report diagnostic).runFrom policy gathered = (.ok (), gathered.push diagnostic) :=
  rfl

@[simp] theorem runFrom_read :
    (read : Projection LiteralPolicy).runFrom policy gathered = (.ok policy, gathered) :=
  rfl

theorem runFrom_bind (first : Projection α) (next : α → Projection β) :
    (first >>= next).runFrom policy gathered =
      match first.runFrom policy gathered with
      | (.ok value, further) => (next value).runFrom policy further
      | (.error failure, further) => (.error failure, further) := by
  simp only [runFrom, bind, ReaderT.bind, ExceptT.bind, ExceptT.mk, StateT.bind]
  rcases first policy gathered with ⟨_ | _, _⟩ <;> rfl

theorem runFrom_bind_of_error {first : Projection α} {failure : Failure}
    (stopped : (first.runFrom policy gathered).1 = .error failure) (next : α → Projection β) :
    ((first >>= next).runFrom policy gathered).1 = .error failure := by
  rw [runFrom_bind]
  split
  · next value further run =>
    rw [run] at stopped
    cases stopped
  · next failure' further run =>
    rw [run] at stopped
    cases stopped
    rfl

@[simp] theorem lift_pure (value : α) :
    (liftM (pure value : Except Failure α) : Projection α) = pure value :=
  rfl

theorem lift_bind (first : Except Failure α) (next : α → Except Failure β) :
    (liftM (first >>= next) : Projection β) = liftM first >>= fun value => liftM (next value) := by
  cases first <;> rfl

end Run

end Projection

namespace Settings

variable {settings : Settings} {root : Node}

/-- The diagnostics of a projected file are all that its run has gathered. -/
theorem project_ok_iff {projected : Projected} :
    settings.project root = .ok projected ↔
      ∃ gathered, root.compilationUnit.runFrom settings.literals #[] =
        (.ok projected.unit, gathered) ∧ gathered.toList = projected.diagnostics := by
  unfold project
  split
  · next unit gathered run =>
    rw [run]
    constructor
    · rintro ⟨⟩
      exact ⟨gathered, rfl, rfl⟩
    · rintro ⟨_, ⟨⟩, listed⟩
      rw [listed]
  · next failure gathered run =>
    simp [run]

theorem project_error_iff {failure : Failure} :
    settings.project root = .error failure ↔
      (root.compilationUnit.runFrom settings.literals #[]).1 = .error failure := by
  unfold project
  split
  · next unit gathered run => simp [run]
  · next failure' gathered run => simp [run]

theorem exists_project_of_map {α : Type} {view : Projected → α} {value : α}
    (viewed : (settings.project root).map view = .ok value) :
    ∃ projected, settings.project root = .ok projected ∧ view projected = value := by
  cases run : settings.project root with
  | error failure =>
    rw [run] at viewed
    cases viewed
  | ok projected =>
    rw [run] at viewed
    exact ⟨projected, rfl, Except.ok.inj viewed⟩

end Settings

end JavaProjection
