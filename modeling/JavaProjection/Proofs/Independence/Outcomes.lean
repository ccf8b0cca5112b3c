import Mathlib.Data.List.Forall2
import JavaProjection.Proofs.Independence

/-!
# What a projection returns on its own

The value of a run that starts from no reports, for each way to build a projection. Where a
projection goes on after a part of it has reported, that the rest is independent of reports is what
lets the rest be judged on its own.
-/

set_option autoImplicit false

namespace JavaProjection

open Projection

/-- From no reports the projection ends with the value. -/
def Returns {α : Type} (projection : Projection α) (policy : LiteralPolicy) (value : α) : Prop :=
  (projection.runFrom policy #[]).1 = .ok value

variable {α β : Type} {policy : LiteralPolicy}

theorem Independent.ends_iff {projection : Projection α} (independent : Independent projection)
    {gathered : Array Diagnostic} {value : α} :
    (projection.runFrom policy gathered).1 = .ok value ↔ Returns projection policy value := by
  rw [independent policy gathered, Returns]

namespace Returns

@[simp] theorem pure_iff {result value : α} :
    Returns (pure result) policy value ↔ result = value := by
  rw [Returns, runFrom_pure, Except.ok.injEq]

@[simp] theorem not_throw {failure : Failure} {value : α} :
    ¬ Returns (throw failure : Projection α) policy value := by
  rw [Returns, runFrom_throw]
  exact nofun

theorem bind_iff {first : Projection α} {next : α → Projection β} {value : β}
    (rest : ∀ middle, Independent (next middle)) :
    Returns (first >>= next) policy value ↔
      ∃ middle, Returns first policy middle ∧ Returns (next middle) policy value := by
  unfold Returns
  rw [runFrom_bind]
  rcases first.runFrom policy #[] with ⟨failure | middle, reports⟩
  · simp
  · simp only [rest middle policy reports, Except.ok.injEq, exists_eq_left']

theorem bind_pure_iff {first : Projection α} {f : α → β} {value : β} :
    Returns (first >>= fun middle => pure (f middle)) policy value ↔
      ∃ middle, Returns first policy middle ∧ f middle = value := by
  rw [bind_iff fun middle => Independent.of_pure (f middle)]
  simp only [pure_iff]

theorem map_iff {first : Projection α} {f : α → β} {value : β} :
    Returns (f <$> first) policy value ↔
      ∃ middle, Returns first policy middle ∧ f middle = value := by
  rw [map_eq_pure_bind, bind_pure_iff]

theorem ifPresent_iff {σ : Type} {action : σ → Projection α} {source : Option σ}
    {result : Option α} :
    Returns (ifPresent (source.map action)) policy result ↔
      Option.Rel (fun inner value => Returns (action inner) policy value) source result := by
  cases source with
  | none =>
    rw [Option.map_none, ifPresent, pure_iff]
    constructor
    · rintro rfl
      exact .none
    · rintro ⟨⟩
      rfl
  | some inner =>
    rw [Option.map_some, ifPresent, bind_pure_iff]
    constructor
    · rintro ⟨value, returned, rfl⟩
      exact .some returned
    · rintro ⟨returned⟩
      exact ⟨_, returned, rfl⟩

/-- Actions run in order return one value each, in the same order. -/
theorem inOrder_iff {σ : Type} {action : σ → Projection α} {sources : List σ} {values : List α}
    (each : ∀ source ∈ sources, Independent (action source)) :
    Returns (inOrder (sources.map action)) policy values ↔
      List.Forall₂ (fun source value => Returns (action source) policy value) sources values := by
  induction sources generalizing values with
  | nil =>
    rw [List.map_nil, inOrder, pure_iff, List.forall₂_nil_left_iff]
    exact eq_comm
  | cons source rest ih =>
    -- The rest starts after the reports of the first action, which it does not depend on.
    obtain ⟨_, eachRest⟩ := List.forall_mem_cons.1 each
    have independent : Independent (inOrder (rest.map action)) :=
      Independent.simulation.inOrder
        (List.forall₂_same.2 (List.forall_mem_map.2 eachRest))
    rw [List.map_cons, inOrder,
      bind_iff fun value => independent.bind fun values => Independent.of_pure (value :: values),
      List.forall₂_cons_left_iff]
    constructor
    · rintro ⟨value, returned, listed⟩
      obtain ⟨others, returnedRest, rfl⟩ := bind_pure_iff.1 listed
      exact ⟨value, others, returned, (ih eachRest).1 returnedRest, rfl⟩
    · rintro ⟨value, others, returned, returnedRest, rfl⟩
      exact ⟨value, returned, bind_pure_iff.2 ⟨others, (ih eachRest).2 returnedRest, rfl⟩⟩

end Returns

end JavaProjection
