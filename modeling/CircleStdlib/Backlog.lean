import Mathlib.Algebra.Order.BigOperators.Group.List
import Mathlib.Algebra.Order.Group.Nat
import Mathlib.Algebra.Ring.Nat

/-!
A buffer that takes in pieces and gives out items. Each round takes in one piece
and then gives out at most one item, the first one, if all of it is there. How
many items have been given out after some rounds, and how much the buffer holds
then, has a closed form in the lengths of the items and of the pieces. Nothing
here is specific to what the items are.
-/

namespace CircleStdlib.Backlog

def taken (lengths : List Nat) (count : Nat) : Nat := (lengths.take count).sum

def wholes : List Nat → Nat → Nat
  | [], _ => 0
  | length :: rest, bytes => if length ≤ bytes then wholes rest (bytes - length) + 1 else 0

theorem taken_mono (lengths : List Nat) (few many : Nat) (fewer : few ≤ many) :
    taken lengths few ≤ taken lengths many := by
  exact (List.take_sublist_take_left fewer).sum_le_sum fun _ _ => Nat.zero_le _

theorem le_wholes_iff (lengths : List Nat) (bytes count : Nat) :
    count ≤ wholes lengths bytes ↔ count ≤ lengths.length ∧ taken lengths count ≤ bytes := by
  induction lengths generalizing bytes count with
  | nil =>
      simp only [wholes, taken, List.length_nil, List.take_nil, List.sum_nil]
      omega
  | cons length rest ih =>
      cases count with
      | zero => simp [taken]
      | succ count =>
          have sum : taken (length :: rest) (count + 1) = length + taken rest count := by
            simp [taken]
          rw [wholes, sum, List.length_cons]
          split
          · rw [Nat.add_le_add_iff_right, ih]
            omega
          · omega

theorem wholes_mono (lengths : List Nat) (few many : Nat) (fewer : few ≤ many) :
    wholes lengths few ≤ wholes lengths many := by
  have all := (le_wholes_iff lengths few _).mp (Nat.le_refl _)
  exact (le_wholes_iff lengths many _).mpr ⟨all.1, all.2.trans fewer⟩

def serve (lengths : List Nat) (gone arrived : Nat) : Nat :=
  if gone + 1 ≤ wholes lengths arrived then gone + 1 else gone

/-- The items given out after these pieces; `gone` were out before, when `arrived`
bytes had been taken in. -/
def drained (lengths : List Nat) : Nat → Nat → List Nat → Nat
  | gone, _, [] => gone
  | gone, arrived, piece :: pieces =>
      drained lengths (serve lengths gone (arrived + piece)) (arrived + piece) pieces

def Within (lengths : List Nat) (capacity : Nat) : Nat → Nat → List Nat → Prop
  | _, _, [] => True
  | gone, arrived, piece :: pieces =>
      arrived ≤ capacity + taken lengths gone ∧
        Within lengths capacity (serve lengths gone (arrived + piece)) (arrived + piece) pieces

variable (lengths : List Nat)

theorem serve_le (gone arrived : Nat) (ahead : gone ≤ wholes lengths arrived) :
    serve lengths gone arrived ≤ wholes lengths arrived := by
  unfold serve
  split <;> omega

theorem serve_eq_min (gone arrived : Nat) (ahead : gone ≤ wholes lengths arrived) :
    serve lengths gone arrived = min (gone + 1) (wholes lengths arrived) := by
  unfold serve
  split <;> omega

theorem le_serve (gone arrived : Nat) : gone ≤ serve lengths gone arrived := by
  unfold serve
  split <;> omega

theorem le_drained (gone arrived : Nat) (pieces : List Nat) :
    gone ≤ drained lengths gone arrived pieces := by
  induction pieces generalizing gone arrived with
  | nil => exact Nat.le_refl _
  | cons piece pieces ih => exact (le_serve lengths gone _).trans (ih _ _)

/-- One item a round, and none before it is whole. -/
theorem le_drained_iff (gone arrived count : Nat) (pieces : List Nat)
    (ahead : gone ≤ wholes lengths arrived) :
    count ≤ drained lengths gone arrived pieces ↔
      count ≤ gone + pieces.length ∧
        ∀ round, 0 < round → round ≤ pieces.length →
          count ≤ wholes lengths (arrived + (pieces.take round).sum) + (pieces.length - round) := by
  induction pieces generalizing gone arrived with
  | nil =>
      simp only [drained, List.length_nil, Nat.add_zero]
      refine ⟨fun few => ⟨few, fun round some none => by omega⟩, fun both => both.1⟩
  | cons piece pieces ih =>
      have later : gone ≤ wholes lengths (arrived + piece) :=
        ahead.trans (wholes_mono lengths _ _ (Nat.le_add_right ..))
      rw [drained, ih _ _ (serve_le lengths gone _ later), serve_eq_min lengths gone _ later]
      simp only [List.length_cons]
      constructor
      · rintro ⟨few, each⟩
        refine ⟨by omega, ?_⟩
        intro round positive bound
        cases round with
        | zero => omega
        | succ round =>
            rw [List.take_succ_cons, List.sum_cons, ← Nat.add_assoc]
            by_cases first : round = 0
            · subst first
              simp only [List.take_zero, List.sum_nil, Nat.add_zero]
              omega
            · have one := each round (by omega) (by omega)
              omega
      · rintro ⟨few, each⟩
        have first := each 1 (by omega) (by omega)
        simp only [List.take_succ_cons, List.take_zero, List.sum_cons, List.sum_nil,
          Nat.add_zero] at first
        refine ⟨by omega, ?_⟩
        intro round positive bound
        have one := each (round + 1) (by omega) (by omega)
        rw [List.take_succ_cons, List.sum_cons, ← Nat.add_assoc] at one
        omega

theorem within_iff (capacity gone arrived : Nat) (pieces : List Nat) :
    Within lengths capacity gone arrived pieces ↔
      ∀ round < pieces.length, arrived + (pieces.take round).sum ≤
        capacity + taken lengths (drained lengths gone arrived (pieces.take round)) := by
  induction pieces generalizing gone arrived with
  | nil => simp [Within]
  | cons piece pieces ih =>
      rw [Within, ih]
      constructor
      · rintro ⟨first, rest⟩ round bound
        cases round with
        | zero => simpa [drained] using first
        | succ round =>
            have one := rest round (by simpa using bound)
            simpa [drained, Nat.add_assoc] using one
      · intro each
        refine ⟨by simpa [drained] using each 0 (by simp), ?_⟩
        intro round bound
        have one := each (round + 1) (by simpa using bound)
        simpa [drained, Nat.add_assoc] using one

/-! From an empty buffer, and with items that are not empty. -/

variable (positive : ∀ length ∈ lengths, 0 < length)

include positive in
theorem wholes_zero : wholes lengths 0 = 0 := by
  cases lengths with
  | nil => rfl
  | cons length rest =>
      have some := positive length (by simp)
      rw [wholes, if_neg (by omega)]

include positive in
theorem le_drained_start (count : Nat) (pieces : List Nat) :
    count ≤ drained lengths 0 0 pieces ↔
      ∀ round ≤ pieces.length,
        count ≤ wholes lengths (pieces.take round).sum + (pieces.length - round) := by
  rw [le_drained_iff lengths 0 0 count pieces (Nat.zero_le _)]
  simp only [Nat.zero_add]
  constructor
  · rintro ⟨few, each⟩ round bound
    by_cases first : round = 0
    · subst first
      simp only [List.take_zero, List.sum_nil, wholes_zero lengths positive]
      omega
    · exact each round (by omega) bound
  · intro each
    refine ⟨?_, fun round _ bound => each round bound⟩
    have first := each 0 (Nat.zero_le _)
    simp only [List.take_zero, List.sum_nil, wholes_zero lengths positive] at first
    omega

include positive in
/-- The buffer holds at most `capacity` at the beginning of every round exactly when, from
any round on, one item a round makes up for what is taken in. -/
theorem within_start_iff (capacity : Nat) (pieces : List Nat) :
    Within lengths capacity 0 0 pieces ↔
      ∀ round < pieces.length, ∀ earlier ≤ round, (pieces.take round).sum ≤ capacity +
        taken lengths (wholes lengths (pieces.take earlier).sum + (round - earlier)) := by
  rw [within_iff]
  have bounds : ∀ round < pieces.length, ∀ count,
      count ≤ drained lengths 0 0 (pieces.take round) ↔
        ∀ earlier ≤ round,
          count ≤ wholes lengths (pieces.take earlier).sum + (round - earlier) := by
    intro round inside count
    rw [le_drained_start lengths positive, List.length_take, Nat.min_eq_left inside.le]
    refine forall_congr' fun earlier => forall_congr' fun before => ?_
    rw [List.take_take, Nat.min_eq_left before]
  constructor
  · intro each round inside earlier before
    have least := (bounds round inside _).mp (Nat.le_refl _) earlier before
    have enough := each round inside
    rw [Nat.zero_add] at enough
    exact enough.trans (Nat.add_le_add_left (taken_mono lengths _ _ least) _)
  · intro each round inside
    -- One of the bounds on the items given out is attained.
    have attained : ¬ drained lengths 0 0 (pieces.take round) + 1 ≤
        drained lengths 0 0 (pieces.take round) := by omega
    rw [bounds round inside] at attained
    simp only [not_forall] at attained
    rcases attained with ⟨earlier, before, tight⟩
    have enough := each round inside earlier before
    have less := taken_mono lengths _ (drained lengths 0 0 (pieces.take round))
      (Nat.le_of_lt_succ (Nat.lt_of_not_le tight))
    omega

include positive in
/-- All items that are whole have been given out exactly when, from any round on, not more
items became whole than there were rounds. -/
theorem drained_all_iff (pieces : List Nat) :
    wholes lengths pieces.sum ≤ drained lengths 0 0 pieces ↔
      ∀ round ≤ pieces.length, wholes lengths pieces.sum ≤
        wholes lengths (pieces.take round).sum + (pieces.length - round) :=
  le_drained_start lengths positive _ pieces

theorem drained_le (gone arrived : Nat) (pieces : List Nat)
    (ahead : gone ≤ wholes lengths arrived) :
    drained lengths gone arrived pieces ≤ wholes lengths (arrived + pieces.sum) := by
  induction pieces generalizing gone arrived with
  | nil => simpa [drained] using ahead
  | cons piece pieces ih =>
      have later : gone ≤ wholes lengths (arrived + piece) :=
        ahead.trans (wholes_mono lengths _ _ (Nat.le_add_right ..))
      rw [drained, List.sum_cons, ← Nat.add_assoc]
      exact ih _ _ (serve_le lengths gone _ later)

end CircleStdlib.Backlog
