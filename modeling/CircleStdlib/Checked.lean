import Mathlib.Logic.Basic

/-!
Computations that stop at a failed check. `require` is an assertion; the two
inversion lemmas take a computation that went through apart again, and the
other lemmas run one forward. `Spares` says of a computation that certain checks
in it never fail.
-/

namespace CircleStdlib.Checked

universe u v
variable {Fault : Type u} {Value Other : Type v}

def require (condition : Prop) [Decidable condition] (fault : Fault) : Except Fault Unit :=
  if condition then .ok () else .error fault

@[simp]
theorem require_ok (condition : Prop) [Decidable condition] (fault : Fault) (result : Unit) :
    require condition fault = .ok result ↔ condition := by
  unfold require
  split <;> simp_all

theorem require_holds (condition : Prop) [Decidable condition] (fault : Fault)
    (holds : condition) : require condition fault = .ok () := by
  simp [holds]

theorem require_fails (condition : Prop) [Decidable condition] (fault : Fault)
    (fails : ¬ condition) : require condition fault = .error fault := by
  simp [require, fails]

@[simp]
theorem bind_ok (value : Except Fault Value) (next : Value → Except Fault Other) (result : Other) :
    (value >>= next) = .ok result ↔ ∃ middle, value = .ok middle ∧ next middle = .ok result := by
  cases value with
  | error fault => simp [bind, Except.bind]
  | ok middle => simp [bind, Except.bind]

@[simp]
theorem ok_bind (value : Value) (next : Value → Except Fault Other) :
    ((.ok value : Except Fault Value) >>= next) = next value := rfl

@[simp]
theorem error_bind (fault : Fault) (next : Value → Except Fault Other) :
    ((.error fault : Except Fault Value) >>= next) = .error fault := rfl

@[simp]
theorem pure_ok (value : Value) : (pure value : Except Fault Value) = .ok value := rfl

def Spares (guarded : Fault → Bool) (value : Except Fault Value) : Prop :=
  ∀ fault, value = .error fault → guarded fault = false

theorem spares_ok (guarded : Fault → Bool) (value : Value) :
    Spares guarded (.ok value : Except Fault Value) := by
  intro fault failed
  cases failed

theorem spares_error (guarded : Fault → Bool) (fault : Fault) (other : guarded fault = false) :
    Spares guarded (.error fault : Except Fault Value) := by
  intro raised failed
  cases failed
  exact other

theorem spares_require (guarded : Fault → Bool) (condition : Prop) [Decidable condition]
    (fault : Fault) (fine : guarded fault = false ∨ condition) :
    Spares guarded (require condition fault) := by
  rcases fine with other | holds
  · unfold require
    split
    · exact spares_ok guarded ()
    · exact spares_error guarded fault other
  · rw [require_holds condition fault holds]
    exact spares_ok guarded ()

theorem spares_bind (guarded : Fault → Bool) (value : Except Fault Value)
    (next : Value → Except Fault Other) (first : Spares guarded value)
    (rest : ∀ middle, value = .ok middle → Spares guarded (next middle)) :
    Spares guarded (value >>= next) := by
  cases value with
  | error fault => exact spares_error guarded fault (first fault rfl)
  | ok middle => exact rest middle rfl

end CircleStdlib.Checked
