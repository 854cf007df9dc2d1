import CircleStdlib.Execution

/-!
`__libcpp_execute_once` of thread.cpp, for any number of tasks that call it with one flag.
Tasks are switched only where they yield. The entry into the routine ends a step of its
own, as if the routine yielded there, so that a run shows every moment at which a task is
inside; a routine that does not yield goes on with the next step. A call from within the
routine finds the flag 1 and yields for ever, like a routine that does not end.
-/

namespace CircleStdlib.ExecuteOnce

open Execution

inductive Outcome where
  | returned
  | thrown
  deriving DecidableEq, Repr

/-- Where a task stands: outside, with what its last call ended with; in the inner loop,
at the `Yield`; or inside the routine. -/
inductive Point where
  | outside (last : Option Outcome)
  | spinning
  | inside
  deriving DecidableEq, Repr

inductive Routine where
  | yields
  | returns
  | throws
  deriving DecidableEq, Repr

structure Once (Task : Type) where
  flag : Int
  point : Task → Point
  completions : Nat

inductive Label (Task : Type) where
  | call (task : Task)
  | proceed (task : Task)
  | routine (task : Task) (does : Routine)

variable {Task : Type} [DecidableEq Task]

namespace Once

def move (once : Once Task) (task : Task) (point : Point) : Once Task :=
  { once with point := Function.update once.point task point }

-- The outer loop from its top on. A flag with another value would keep it going for
-- ever without a yield.
def attempt (once : Once Task) (task : Task) : Option (Once Task) :=
  if once.flag = 2 then some (once.move task (.outside (some .returned)))
  else if once.flag = 0 then some ({ once with flag := 1 }.move task .inside)
  else if once.flag = 1 then some (once.move task .spinning)
  else none

def afterRoutine (once : Once Task) (task : Task) : Routine → Once Task
  | .yields => once
  | .returns =>
      { once with flag := 2, completions := once.completions + 1 }.move task
        (.outside (some .returned))
  | .throws => { once with flag := 0 }.move task (.outside (some .thrown))

end Once

-- One task runs from a yield point to its next.
def step (once : Once Task) : Label Task → Option (Once Task)
  | .call task =>
      match once.point task with
      | .outside _ => once.attempt task
      | _ => none
  | .proceed task =>
      match once.point task with
      | .spinning => if once.flag = 1 then some once else once.attempt task
      | _ => none
  | .routine task does =>
      match once.point task with
      | .inside => some (once.afterRoutine task does)
      | _ => none

omit [DecidableEq Task] in
def initial : Once Task := { flag := 0, point := fun _ => .outside none, completions := 0 }

structure Guarded (once : Once Task) : Prop where
  alone : ∀ task other, once.point task = .inside → once.point other = .inside → task = other
  busy : once.flag = 1 ↔ ∃ task, once.point task = .inside
  atMostOnce : once.completions ≤ 1
  returned : ∀ task, once.point task = .outside (some .returned) → once.completions = 1
  thrown : ∀ task next, step once (.routine task .throws) = some next →
    next.flag = 0 ∧ next.point task = .outside (some .thrown)

inductive Progress (once : Once Task) : Label Task → Once Task → Prop where
  | finds (label : Label Task) (task : Task) (outside : once.point task ≠ .inside)
      (done : once.flag = 2) :
      Progress once label (once.move task (.outside (some .returned)))
  | enters (label : Label Task) (task : Task) (outside : once.point task ≠ .inside)
      (open_ : once.flag = 0) :
      Progress once label ({ once with flag := 1 }.move task .inside)
  | waits (label : Label Task) (task : Task) (outside : once.point task ≠ .inside)
      (busy : once.flag = 1) : Progress once label (once.move task .spinning)
  | stays (label : Label Task) : Progress once label once
  | returns (task : Task) (inside : once.point task = .inside) :
      Progress once (.routine task .returns) (once.afterRoutine task .returns)
  | throws (task : Task) (inside : once.point task = .inside) :
      Progress once (.routine task .throws) (once.afterRoutine task .throws)

theorem attempt_progress (once next : Once Task) (label : Label Task) (task : Task)
    (outside : once.point task ≠ .inside) (taken : once.attempt task = some next) :
    Progress once label next := by
  unfold Once.attempt at taken
  split at taken
  · rename_i done
    cases taken
    exact .finds label task outside done
  · split at taken
    · rename_i open_
      cases taken
      exact .enters label task outside open_
    · split at taken
      · rename_i busy
        cases taken
        exact .waits label task outside busy
      · cases taken

theorem step_progress (once next : Once Task) (label : Label Task)
    (taken : step once label = some next) : Progress once label next := by
  cases label with
  | call task =>
      simp only [step] at taken
      split at taken
      · rename_i place
        exact attempt_progress once next _ task (by simp [place]) taken
      · cases taken
  | proceed task =>
      simp only [step] at taken
      split at taken
      · rename_i place
        split at taken
        · cases taken
          exact .stays _
        · exact attempt_progress once next _ task (by simp [place]) taken
      · cases taken
  | routine task does =>
      simp only [step] at taken
      split at taken
      · rename_i inside
        cases taken
        cases does with
        | yields => exact .stays _
        | returns => exact .returns task inside
        | throws => exact .throws task inside
      · cases taken

structure Consistent (once : Once Task) : Prop where
  alone : ∀ task other, once.point task = .inside → once.point other = .inside → task = other
  busy : once.flag = 1 ↔ ∃ task, once.point task = .inside
  done : once.flag = 2 ↔ once.completions = 1
  atMostOnce : once.completions ≤ 1
  returned : ∀ task, once.point task = .outside (some .returned) → once.completions = 1

theorem inside_move (once : Once Task) (task other : Task) (point : Point) (away : point ≠ .inside) :
    (once.move task point).point other = .inside ↔ other ≠ task ∧ once.point other = .inside := by
  by_cases same : other = task
  · subst same
    simp [Once.move, away]
  · simp [Once.move, same]

theorem returned_move (once : Once Task) (task other : Task) (point : Point)
    (ended : (once.move task point).point other = .outside (some .returned)) :
    point = .outside (some .returned) ∨ once.point other = .outside (some .returned) := by
  by_cases same : other = task
  · subst same
    exact Or.inl (by simpa [Once.move] using ended)
  · exact Or.inr (by simpa [Once.move, same] using ended)

/-- A task that is outside and does not go inside leaves those inside as they are. -/
theorem consistent_move (once : Once Task) (task : Task) (point : Point)
    (consistent : Consistent once) (outside : once.point task ≠ .inside) (away : point ≠ .inside)
    (earned : point = .outside (some .returned) → once.completions = 1) :
    Consistent (once.move task point) := by
  have others : ∀ other, (once.move task point).point other = .inside ↔
      once.point other = .inside := by
    intro other
    rw [inside_move once task other point away, and_iff_right_iff_imp]
    rintro inside rfl
    exact outside inside
  refine ⟨?_, ?_, consistent.done, consistent.atMostOnce, ?_⟩
  · intro first second
    rw [others, others]
    exact consistent.alone first second
  · simp only [others]
    exact consistent.busy
  · intro other ended
    rcases returned_move once task other point ended with mine | theirs
    · exact earned mine
    · exact consistent.returned other theirs

theorem step_consistent (once next : Once Task) (label : Label Task) (consistent : Consistent once)
    (taken : step once label = some next) : Consistent next := by
  cases step_progress once next label taken with
  | finds _ task outside done =>
      exact consistent_move once task _ consistent outside (by simp)
        fun _ => consistent.done.mp done
  | enters _ task outside open_ =>
      -- The flag was 0: nobody is inside, and the routine has not returned.
      have empty : ∀ other, once.point other ≠ .inside := by
        intro other inside
        have busy := consistent.busy.mpr ⟨other, inside⟩
        omega
      have unfinished : once.completions ≠ 1 := by
        intro finished
        have done := consistent.done.mpr finished
        omega
      have own : ∀ other,
          (({ once with flag := 1 } : Once Task).move task .inside).point other = .inside →
            other = task := by
        intro other inside
        by_contra different
        rw [Once.move] at inside
        simp only [Function.update_of_ne different] at inside
        exact empty other inside
      refine ⟨?_, ?_, ?_, consistent.atMostOnce, ?_⟩
      · intro first second firstInside secondInside
        rw [own first firstInside, own second secondInside]
      · exact ⟨fun _ => ⟨task, by simp [Once.move]⟩, fun _ => rfl⟩
      · constructor
        · intro other
          exact absurd other (by simp [Once.move])
        · intro finished
          exact absurd finished unfinished
      · intro other ended
        rcases returned_move _ task other _ ended with mine | theirs
        · cases mine
        · exact consistent.returned other theirs
  | waits _ task outside busy =>
      exact consistent_move once task _ consistent outside (by simp) (by simp)
  | stays => exact consistent
  -- The task that returns is the only one inside, and the routine had not returned before.
  | returns task inside =>
      have unfinished : once.completions = 0 := by
        have flag := consistent.busy.mpr ⟨task, inside⟩
        have few := consistent.atMostOnce
        have done := consistent.done
        omega
      have empty : ∀ other, (once.afterRoutine task .returns).point other ≠ .inside := by
        intro other there
        rw [Once.afterRoutine, inside_move _ task other _ (by simp)] at there
        exact there.1 (consistent.alone other task there.2 inside)
      have once_ : (once.afterRoutine task .returns).completions = 1 := by
        simp [Once.afterRoutine, Once.move, unfinished]
      refine ⟨fun first _ there => absurd there (empty first), ?_, ?_, Nat.le_of_eq once_,
        fun _ _ => once_⟩
      · constructor
        · intro flag
          exact absurd flag (by simp [Once.afterRoutine, Once.move])
        · rintro ⟨other, there⟩
          exact absurd there (empty other)
      · exact ⟨fun _ => once_, fun _ => rfl⟩
  -- Nobody is inside any more, and the flag is 0 again.
  | throws task inside =>
      have flag := consistent.busy.mpr ⟨task, inside⟩
      have empty : ∀ other, (once.afterRoutine task .throws).point other ≠ .inside := by
        intro other there
        rw [Once.afterRoutine, inside_move _ task other _ (by simp)] at there
        exact there.1 (consistent.alone other task there.2 inside)
      refine ⟨fun first _ there => absurd there (empty first), ?_, ?_, consistent.atMostOnce, ?_⟩
      · constructor
        · intro other
          exact absurd other (by simp [Once.afterRoutine, Once.move])
        · rintro ⟨other, there⟩
          exact absurd there (empty other)
      · have done := consistent.done
        constructor
        · intro other
          exact absurd other (by simp [Once.afterRoutine, Once.move])
        · intro finished
          exact absurd (done.mpr finished) (by omega)
      · intro other ended
        rcases returned_move _ task other _ ended with mine | theirs
        · cases mine
        · exact consistent.returned other theirs

theorem consistent_guarded (once : Once Task) (consistent : Consistent once) : Guarded once := by
  refine ⟨consistent.alone, consistent.busy, consistent.atMostOnce, consistent.returned, ?_⟩
  intro task next taken
  simp only [step] at taken
  split at taken
  · cases taken
    exact ⟨rfl, by simp [Once.afterRoutine, Once.move]⟩
  · cases taken

/-- In every state of every run: at most one task is inside the routine, and one is exactly
while the flag is 1; the routine has returned at most once, and it has done so when a call
has returned; a call whose routine throws leaves the flag 0 and throws on. -/
theorem routine_guarded (labels : List (Label Task)) :
    Throughout step Guarded (initial : Once Task) labels := by
  apply throughout_invariant Consistent Guarded consistent_guarded
    (fun once label next consistent taken => step_consistent once next label consistent taken)
  refine ⟨?_, ?_, ?_, ?_, ?_⟩
  · intro task other inside
    cases inside
  · constructor
    · intro flag
      cases flag
    · rintro ⟨task, inside⟩
      cases inside
  · constructor
    · intro flag
      cases flag
    · intro finished
      cases finished
  · exact Nat.zero_le 1
  · intro task ended
    cases ended

end CircleStdlib.ExecuteOnce
