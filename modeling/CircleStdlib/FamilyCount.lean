import Mathlib.Algebra.BigOperators.Group.Finset.Basic
import Mathlib.Algebra.BigOperators.Ring.Finset
import Mathlib.Data.Fintype.Basic

/-!
Counting the members of a finite family that satisfy a test, and how the count
moves when one member changes. The test is a `Bool` so that counts evaluate.
-/

namespace CircleStdlib.FamilyCount

variable {Index Value : Type} [Fintype Index] [DecidableEq Index]

def countWhere (test : Value → Bool) (family : Index → Value) : Nat :=
  (Finset.univ.filter fun index => test (family index) = true).card

omit [DecidableEq Index] in
theorem count_as_sum (test : Value → Bool) (family : Index → Value) :
    countWhere test family = ∑ index, if test (family index) = true then 1 else 0 := by
  unfold countWhere
  exact Finset.card_filter _ _

-- Stated as a balance of sums: both sides are natural numbers, and neither
-- direction of the change has to be singled out.
theorem count_update (test : Value → Bool) (family : Index → Value) (index : Index)
    (value : Value) :
    countWhere test (Function.update family index value) + (test (family index)).toNat =
      countWhere test family + (test value).toNat := by
  rw [count_as_sum, count_as_sum, ← Finset.add_sum_erase _ _ (Finset.mem_univ index),
    ← Finset.add_sum_erase Finset.univ (fun i => if test (family i) = true then 1 else 0)
      (Finset.mem_univ index)]
  have others : ∑ i ∈ Finset.univ.erase index,
      (if test (Function.update family index value i) = true then 1 else 0) =
        ∑ i ∈ Finset.univ.erase index, if test (family i) = true then 1 else 0 := by
    apply Finset.sum_congr rfl
    intro i member
    rw [Function.update_of_ne (Finset.ne_of_mem_erase member)]
  rw [others, Function.update_self]
  cases test value <;> cases test (family index) <;> simp <;> omega

omit [DecidableEq Index] in
theorem count_pos (test : Value → Bool) (family : Index → Value) (index : Index)
    (hit : test (family index) = true) : 0 < countWhere test family := by
  apply Finset.card_pos.mpr
  exact ⟨index, by simp [hit]⟩

omit [DecidableEq Index] in
theorem count_zero_iff (test : Value → Bool) (family : Index → Value) :
    countWhere test family = 0 ↔ ∀ index, test (family index) = false := by
  simp [countWhere, Finset.filter_eq_empty_iff]

/-- A change that the test does not see leaves the count alone. -/
theorem count_update_same (test : Value → Bool) (family : Index → Value) (index : Index)
    (value : Value) (same : test value = test (family index)) :
    countWhere test (Function.update family index value) = countWhere test family := by
  have balance := count_update test family index value
  rw [same] at balance
  omega

end CircleStdlib.FamilyCount
