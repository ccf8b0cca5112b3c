import JavaProjection.Proofs.Runs

/-!
# What a projection can end with

A property of every value that a computation can end with, and how it follows from properties of
the parts. Nothing is said of a computation that fails.
-/

set_option autoImplicit false

namespace JavaProjection

/-! ## Rules for any computation -/

/-- A judgement that a computation ends with values of a property only, closed under returning
and sequencing. -/
structure Judgement {m : Type → Type} [Monad m] (P : ⦃α : Type⦄ → m α → (α → Prop) → Prop) :
    Prop where
  pure {α : Type} {property : α → Prop} {value : α} : property value → P (pure value) property
  bind {α β : Type} {middle : α → Prop} {property : β → Prop} {first : m α} {next : α → m β} :
    P first middle → (∀ value, middle value → P (next value) property) →
      P (first >>= next) property

namespace Judgement

variable {m : Type → Type} [Monad m] {P : ⦃α : Type⦄ → m α → (α → Prop) → Prop} {α β : Type}

theorem map [LawfulMonad m] (rules : Judgement P) {property : β → Prop} {f : α → β} {action : m α}
    (holds : P action fun value => property (f value)) : P (f <$> action) property := by
  rw [map_eq_pure_bind]
  exact rules.bind holds fun value ok => rules.pure ok

theorem inOrder (rules : Judgement P) {property : α → Prop} {actions : List (m α)}
    (each : ∀ action ∈ actions, P action property) :
    P (Projection.inOrder actions) fun values => ∀ value ∈ values, property value := by
  induction actions with
  | nil =>
    apply rules.pure
    simp
  | cons action rest ih =>
    have head := each action List.mem_cons_self
    have tail := ih fun other member => each other (List.mem_cons_of_mem _ member)
    apply rules.bind head
    intro value ok
    apply rules.bind tail
    intro values okRest
    apply rules.pure
    exact List.forall_mem_cons.2 ⟨ok, okRest⟩

theorem ifPresent (rules : Judgement P) {property : α → Prop} {action : Option (m α)}
    (present : ∀ inner ∈ action, P inner property) :
    P (Projection.ifPresent action) fun result => ∀ value ∈ result, property value := by
  cases action with
  | none =>
    apply rules.pure
    simp
  | some inner =>
    apply rules.bind (present inner rfl)
    intro value ok
    apply rules.pure
    rintro _ ⟨⟩
    exact ok

end Judgement

/-! ## Candidates -/

section Candidates

variable {m : Type → Type} {P : ⦃α : Type⦄ → m α → (α → Prop) → Prop} {α β : Type}
  {property : α → Prop}

theorem judged_getD {candidate : Option (m α)} {otherwise : m α}
    (present : ∀ inner ∈ candidate, P inner property) (absent : P otherwise property) :
    P (candidate.getD otherwise) property := by
  cases candidate with
  | none => exact absent
  | some inner => exact present inner rfl

theorem judged_orElse {first second : Option (m α)} (head : ∀ inner ∈ first, P inner property)
    (tail : ∀ inner ∈ second, P inner property) :
    ∀ inner ∈ (first <|> second), P inner property := by
  cases first with
  | none => exact tail
  | some inner => exact head

theorem judged_map {found : Option β} {f : β → m α}
    (each : ∀ value ∈ found, P (f value) property) :
    ∀ inner ∈ found.map f, P inner property := by
  cases found with
  | none => simp
  | some value =>
    rintro _ ⟨⟩
    exact each value rfl

end Candidates

/-! ## Outcomes and projections -/

structure Gives ⦃α : Type⦄ (outcome : Except Failure α) (property : α → Prop) : Prop where
  holds : ∀ value, outcome = .ok value → property value

/-- Every run that ends with a value ends with one that has the property. -/
structure Yields ⦃α : Type⦄ (projection : Projection α) (property : α → Prop) : Prop where
  holds : ∀ policy gathered value,
    (projection.runFrom policy gathered).1 = .ok value → property value

section

variable {α : Type} {property : α → Prop}

theorem Gives.rules : Judgement Gives where
  pure ok := by
    constructor
    rintro _ ⟨⟩
    exact ok
  bind {_ _ _ _ first _} head tail := by
    constructor
    intro value ended
    cases run : first with
    | error failure =>
      rw [run] at ended
      cases ended
    | ok middle =>
      rw [run] at ended
      exact (tail middle (head.holds middle run)).holds value ended

theorem Gives.of_throw (failure : Failure) : Gives (throw failure : Except Failure α) property := by
  constructor
  rintro _ ⟨⟩

theorem Gives.trivial (outcome : Except Failure α) : Gives outcome fun _ => True :=
  ⟨fun _ _ => True.intro⟩

theorem Gives.mono {stronger : α → Prop} {outcome : Except Failure α}
    (gives : Gives outcome stronger) (implies : ∀ value, stronger value → property value) :
    Gives outcome property := by
  constructor
  intro value ended
  exact implies value (gives.holds value ended)

theorem Yields.rules : Judgement Yields where
  pure ok := by
    constructor
    rintro policy gathered _ ⟨⟩
    exact ok
  bind {_ _ _ _ first _} head tail := by
    constructor
    intro policy gathered value ended
    rw [Projection.runFrom_bind] at ended
    split at ended
    · next middle further run =>
      have ok := head.holds policy gathered middle (by rw [run])
      exact (tail middle ok).holds policy further value ended
    · cases ended

theorem Yields.of_throw (failure : Failure) : Yields (throw failure : Projection α) property := by
  constructor
  rintro policy gathered _ ⟨⟩

theorem Yields.of_lift {outcome : Except Failure α} (gives : Gives outcome property) :
    Yields (liftM outcome : Projection α) property := by
  constructor
  intro policy gathered value ended
  exact gives.holds value ended

theorem Yields.trivial (projection : Projection α) : Yields projection fun _ => True :=
  ⟨fun _ _ _ _ => True.intro⟩

theorem Yields.of_report (diagnostic : Diagnostic) :
    Yields (Projection.report diagnostic) fun _ => True :=
  ⟨fun _ _ _ _ => True.intro⟩

theorem Yields.mono {stronger : α → Prop} {projection : Projection α}
    (yields : Yields projection stronger) (implies : ∀ value, stronger value → property value) :
    Yields projection property := by
  constructor
  intro policy gathered value ended
  exact implies value (yields.holds policy gathered value ended)

end

end JavaProjection
