import Mathlib.Data.List.Basic

/-!
Runs of a labelled machine whose step function is partial: `none` means that
the label is not enabled in the state. The three predicates on a run speak of
its end (`run`), of the steps it takes (`Along`) and of the states it passes
(`Throughout`). Nothing here is specific to one machine.
-/

namespace CircleStdlib.Execution

universe u v
variable {State : Type u} {Label : Type v} (step : State → Label → Option State)

def run : State → List Label → Option State
  | state, [] => some state
  | state, label :: rest => (step state label).bind fun next => run next rest

/-- Every step of the run meets `allowed` in the state it is taken from. -/
def Along (allowed : State → Label → Prop) : State → List Label → Prop
  | _, [] => True
  | state, label :: rest =>
      allowed state label ∧ ∀ next, step state label = some next → Along allowed next rest

def Throughout (good : State → Prop) : State → List Label → Prop
  | state, [] => good state
  | state, label :: rest =>
      good state ∧ ∀ next, step state label = some next → Throughout good next rest

instance decidableAlong (allowed : State → Label → Prop)
    [∀ state label, Decidable (allowed state label)] :
    ∀ state labels, Decidable (Along step allowed state labels)
  | _, [] => .isTrue trivial
  | state, label :: rest =>
      have := fun next => decidableAlong allowed next rest
      inferInstanceAs (Decidable
        (allowed state label ∧ ∀ next ∈ step state label, Along step allowed next rest))

variable {step}

theorem run_cons (state final : State) (label : Label) (rest : List Label) :
    run step state (label :: rest) = some final ↔
      ∃ next, step state label = some next ∧ run step next rest = some final := by
  simp [run, Option.bind_eq_some_iff]

theorem run_append (state : State) (left right : List Label) :
    run step state (left ++ right) =
      (run step state left).bind fun middle => run step middle right := by
  induction left generalizing state with
  | nil => rfl
  | cons label rest ih =>
      simp only [List.cons_append, run]
      cases step state label with
      | none => rfl
      | some next => exact ih next

/-- What every enabled step preserves holds at the end of every run. -/
theorem run_invariant (invariant : State → Prop)
    (preserved : ∀ state label next, invariant state →
      step state label = some next → invariant next)
    (state final : State) (labels : List Label) (initial : invariant state)
    (reached : run step state labels = some final) : invariant final := by
  induction labels generalizing state with
  | nil =>
      simp only [run, Option.some.injEq] at reached
      exact reached ▸ initial
  | cons label rest ih =>
      obtain ⟨next, taken, tail⟩ := (run_cons state final label rest).mp reached
      exact ih next (preserved state label next initial taken) tail

theorem throughout_of_along (allowed : State → Label → Prop) (invariant good : State → Prop)
    (sound : ∀ state, invariant state → good state)
    (preserved : ∀ state label next, invariant state → allowed state label →
      step state label = some next → invariant next)
    (state : State) (labels : List Label) (initial : invariant state)
    (steps : Along step allowed state labels) : Throughout step good state labels := by
  induction labels generalizing state with
  | nil => exact sound state initial
  | cons label rest ih =>
      refine ⟨sound state initial, fun next taken => ?_⟩
      exact ih next (preserved state label next initial steps.1 taken) (steps.2 next taken)

/-- What every enabled step preserves holds in all states of every run. -/
theorem throughout_invariant (invariant good : State → Prop)
    (sound : ∀ state, invariant state → good state)
    (preserved : ∀ state label next, invariant state →
      step state label = some next → invariant next)
    (state : State) (labels : List Label) (initial : invariant state) :
    Throughout step good state labels := by
  induction labels generalizing state with
  | nil => exact sound state initial
  | cons label rest ih =>
      refine ⟨sound state initial, fun next taken => ?_⟩
      exact ih next (preserved state label next initial taken)

/-- What the allowed steps are, seen from states with the invariant. -/
theorem along_weaken (allowed other : State → Label → Prop) (invariant : State → Prop)
    (preserved : ∀ state label next, invariant state → allowed state label →
      step state label = some next → invariant next)
    (weaker : ∀ state label, invariant state → allowed state label → other state label)
    (state : State) (labels : List Label) (initial : invariant state)
    (steps : Along step allowed state labels) : Along step other state labels := by
  induction labels generalizing state with
  | nil => trivial
  | cons label rest ih =>
      refine ⟨weaker state label initial steps.1, fun next taken => ?_⟩
      exact ih next (preserved state label next initial steps.1 taken) (steps.2 next taken)

/-- What the allowed steps preserve still holds at the end of a run that takes no other. -/
theorem run_along (allowed : State → Label → Prop) (invariant : State → Prop)
    (preserved : ∀ state label next, invariant state → allowed state label →
      step state label = some next → invariant next)
    (state final : State) (labels : List Label) (initial : invariant state)
    (steps : Along step allowed state labels) (reached : run step state labels = some final) :
    invariant final := by
  induction labels generalizing state with
  | nil =>
      cases reached
      exact initial
  | cons label rest ih =>
      obtain ⟨next, taken, tail⟩ := (run_cons state final label rest).mp reached
      exact ih next (preserved state label next initial steps.1 taken) (steps.2 next taken) tail

theorem throughout_first (good : State → Prop) (state : State) (labels : List Label)
    (always : Throughout step good state labels) : good state := by
  cases labels with
  | nil => exact always
  | cons label rest => exact always.1

/-- When the first step that is not allowed already leaves a state that is not
good, a run stays good exactly as long as all its steps are allowed. -/
theorem throughout_iff_along (allowed : State → Label → Prop) (invariant good : State → Prop)
    (sound : ∀ state, invariant state → good state)
    (preserved : ∀ state label next, invariant state → allowed state label →
      step state label = some next → invariant next)
    (exposed : ∀ state label next, invariant state → ¬ allowed state label →
      step state label = some next → ¬ good next)
    (state final : State) (labels : List Label) (initial : invariant state)
    (reached : run step state labels = some final) :
    Throughout step good state labels ↔ Along step allowed state labels := by
  refine ⟨fun always => ?_, throughout_of_along allowed invariant good sound preserved
    state labels initial⟩
  induction labels generalizing state with
  | nil => trivial
  | cons label rest ih =>
      obtain ⟨next, taken, tail⟩ := (run_cons state final label rest).mp reached
      have admitted : allowed state label := by
        by_contra refused
        exact exposed state label next initial refused taken
          (throughout_first good next rest (always.2 next taken))
      refine ⟨admitted, fun other same => ?_⟩
      have equal : next = other := Option.some.inj (taken.symm.trans same)
      subst equal
      exact ih next (preserved state label next initial admitted taken) tail
        (always.2 next taken)

/-- The same where something is asked of the steps as well as of the states. -/
theorem throughout_and_along_iff (allowed asked : State → Label → Prop)
    (invariant good : State → Prop) (sound : ∀ state, invariant state → good state)
    (preserved : ∀ state label next, invariant state → allowed state label →
      step state label = some next → invariant next)
    (exact_ : ∀ state label next, invariant state → step state label = some next →
      (allowed state label ↔ good next ∧ asked state label))
    (state final : State) (labels : List Label) (initial : invariant state)
    (reached : run step state labels = some final) :
    Throughout step good state labels ∧ Along step asked state labels ↔
      Along step allowed state labels := by
  induction labels generalizing state with
  | nil => exact ⟨fun _ => trivial, fun _ => ⟨sound state initial, trivial⟩⟩
  | cons label rest ih =>
      obtain ⟨next, taken, tail⟩ := (run_cons state final label rest).mp reached
      have only : ∀ other, step state label = some other → next = other :=
        fun other same => Option.some.inj (taken.symm.trans same)
      have meaning := exact_ state label next initial taken
      constructor
      · rintro ⟨always, steps⟩
        have admitted := meaning.mpr ⟨throughout_first good next rest (always.2 next taken), steps.1⟩
        have later := ih next (preserved state label next initial admitted taken) tail
        refine ⟨admitted, fun other same => ?_⟩
        exact only other same ▸ later.mp ⟨always.2 next taken, steps.2 next taken⟩
      · intro steps
        have later := (ih next (preserved state label next initial steps.1 taken) tail).mpr
          (steps.2 next taken)
        refine ⟨⟨sound state initial, fun other same => ?_⟩,
          ⟨(meaning.mp steps.1).2, fun other same => ?_⟩⟩
        · exact only other same ▸ later.1
        · exact only other same ▸ later.2

end CircleStdlib.Execution
