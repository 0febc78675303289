import Mathlib.Data.List.Basic

/-!
Owns runs of a deterministic step function: a run folds a list of inputs over a
state. `Guarded` says that every step of a run meets a condition on the state it
starts in and its input, and `foldl_invariant` is the invariant rule: what holds
at the start and is kept by every step that meets the condition holds at the end
of every guarded run.
-/

namespace Thingsee.Support

universe u v w

variable {σ : Type u} {ι : Type v}
  (invariant : σ → Prop) {step : σ → ι → σ} {guard : σ → ι → Prop} {state : σ}
  {inputs : List ι}

/-- Every step of the run of `inputs` from `state` meets `guard`. -/
def Guarded (step : σ → ι → σ) (guard : σ → ι → Prop) : σ → List ι → Prop
  | _, [] => True
  | state, input :: rest => guard state input ∧ Guarded step guard (step state input) rest

instance Guarded.decidable (step : σ → ι → σ) (guard : σ → ι → Prop)
    [∀ state input, Decidable (guard state input)] (state : σ) (inputs : List ι) :
    Decidable (Guarded step guard state inputs) :=
  match inputs with
  | [] => isTrue trivial
  | input :: rest =>
    have := Guarded.decidable step guard (step state input) rest
    inferInstanceAs (Decidable (_ ∧ _))

theorem Guarded.mono {weaker : σ → ι → Prop}
    (implies : ∀ state input, guard state input → weaker state input)
    (guarded : Guarded step guard state inputs) : Guarded step weaker state inputs := by
  induction inputs generalizing state with
  | nil => exact trivial
  | cons input rest ih =>
    exact ⟨implies state input guarded.1, ih guarded.2⟩

theorem Guarded.append {first second : List ι}
    (guarded : Guarded step guard state (first ++ second)) :
    Guarded step guard state first ∧ Guarded step guard (first.foldl step state) second := by
  induction first generalizing state with
  | nil => exact ⟨trivial, guarded⟩
  | cons input rest ih =>
    have others := ih guarded.2
    exact ⟨⟨guarded.1, others.1⟩, others.2⟩

variable {other : σ → ι → Prop}

theorem guarded_iff
    (same : ∀ state input, invariant state → (guard state input ↔ other state input))
    (keeps : ∀ state input, invariant state → guard state input → invariant (step state input))
    (start : invariant state) :
    Guarded step guard state inputs ↔ Guarded step other state inputs := by
  induction inputs generalizing state with
  | nil => exact Iff.rfl
  | cons input rest ih =>
    constructor
    · rintro ⟨first, others⟩
      exact ⟨(same state input start).1 first,
        (ih (keeps state input start first)).1 others⟩
    · rintro ⟨first, others⟩
      have holds := (same state input start).2 first
      exact ⟨holds, (ih (keeps state input start holds)).2 others⟩

theorem guarded_map {τ : Type w} (project : σ → τ) {mapped : τ → ι → τ} {condition : τ → ι → Prop}
    (commutes : ∀ state input, project (step state input) = mapped (project state) input) :
    Guarded step (fun state input => condition (project state) input) state inputs ↔
      Guarded mapped condition (project state) inputs := by
  induction inputs generalizing state with
  | nil => exact Iff.rfl
  | cons input rest ih =>
    rw [Guarded, Guarded, ih, commutes]

theorem Guarded.follows
    (keeps : ∀ state input, invariant state → guard state input →
      invariant (step state input) ∧ other state input)
    (start : invariant state) (guarded : Guarded step guard state inputs) :
    Guarded step other state inputs := by
  induction inputs generalizing state with
  | nil => exact trivial
  | cons input rest ih =>
    have first := keeps state input start guarded.1
    exact ⟨first.2, ih first.1 guarded.2⟩

theorem foldl_invariant
    (keeps : ∀ state input, invariant state → guard state input → invariant (step state input))
    (start : invariant state) (guarded : Guarded step guard state inputs) :
    invariant (inputs.foldl step state) := by
  induction inputs generalizing state with
  | nil => exact start
  | cons input rest ih =>
    exact ih (keeps state input start guarded.1) guarded.2

theorem foldl_measure (measure : σ → Nat)
    (keeps : ∀ state input, invariant state → guard state input → invariant (step state input))
    (decreases : ∀ state input, invariant state → guard state input →
      measure (step state input) ≤ measure state - 1)
    (start : invariant state) (guarded : Guarded step guard state inputs) :
    measure (inputs.foldl step state) ≤ measure state - inputs.length := by
  induction inputs generalizing state with
  | nil => exact Nat.le_refl _
  | cons input rest ih =>
    have first := decreases state input start guarded.1
    have others := ih (keeps state input start guarded.1) guarded.2
    rw [List.foldl_cons, List.length_cons]
    omega

theorem foldl_invariant_of_keeps
    (keeps : ∀ state input, invariant state → invariant (step state input)) (inputs : List ι)
    (start : invariant state) : invariant (inputs.foldl step state) := by
  induction inputs generalizing state with
  | nil => exact start
  | cons input rest ih =>
    exact ih (keeps state input start)

/-- Where a step from a good state leads to a good state if it meets the condition, and to a
state without the property if it does not, the property holds in every state of a run exactly
if every step of the run meets the condition. -/
theorem forall_prefix_iff_guarded_of_good (good property : σ → Prop)
    (holds : ∀ state, good state → property state)
    (keeps : ∀ state input, good state → guard state input → good (step state input))
    (needs : ∀ state input, good state → property (step state input) → guard state input)
    (start : good state) (inputs : List ι) :
    (∀ reached, reached <+: inputs → property (reached.foldl step state)) ↔
      Guarded step guard state inputs := by
  induction inputs generalizing state with
  | nil =>
    constructor
    · intro _
      trivial
    · intro _ reached isPrefix
      rw [List.prefix_nil.mp isPrefix]
      exact holds state start
  | cons input rest ih =>
    constructor
    · intro all
      have next : property (step state input) := all [input] (by simp)
      have first := needs state input start next
      refine ⟨first, ?_⟩
      rw [← ih (keeps state input start first)]
      intro reached isPrefix
      exact all (input :: reached) (List.cons_prefix_cons.mpr ⟨rfl, isPrefix⟩)
    · intro guarded reached isPrefix
      cases reached with
      | nil => exact holds state start
      | cons first others =>
        obtain ⟨same, shorter⟩ := List.cons_prefix_cons.mp isPrefix
        subst same
        have next := keeps state first start guarded.1
        exact (ih next).mpr guarded.2 others shorter

theorem forall_prefix_iff_guarded (property : σ → Prop)
    (keeps : ∀ state input, invariant state → invariant (step state input))
    (sharp : ∀ state input, invariant state → property state →
      (property (step state input) ↔ guard state input))
    (start : invariant state) (holds : property state) (inputs : List ι) :
    (∀ reached, reached <+: inputs → property (reached.foldl step state)) ↔
      Guarded step guard state inputs := by
  apply forall_prefix_iff_guarded_of_good (fun state => invariant state ∧ property state) property
  · exact fun state good => good.2
  · intro state input good meets
    exact ⟨keeps state input good.1, (sharp state input good.1 good.2).mpr meets⟩
  · intro state input good next
    exact (sharp state input good.1 good.2).mp next
  · exact ⟨start, holds⟩

end Thingsee.Support
