import CircleStdlib.ThreadHandles

/-!
The identifiers that `__libcpp_thread_get_id` and `__libcpp_thread_get_current_id` report.
Both are the address of a task. The one in a `JoinHandle` outlives its task, whose address
may be given to another task before the thread is joined or detached.
-/

namespace CircleStdlib.ThreadIdentity

open Execution ThreadHandles

variable {Address : Type}

/-- Neither has `detach` been called for the thread nor has `join` returned. -/
def Open (threads : Threads Address) (h : Nat) : Prop :=
  h < threads.created ∧ threads.claims h ≠ .joined ∧ threads.claims h ≠ .detached

def getId (threads : Threads Address) (h : Nat) : Option Address :=
  (threads.handles h).map JoinHandle.id

/-- The identifier of the task of a thread that is not yet joined or detached. A join that
waits does not end this, even when it has had the handle deleted. -/
def Reported (threads : Threads Address) (id : Address) (task : Nat) : Prop :=
  ∃ h, Open threads h ∧ threads.thread h = task ∧ (threads.tasks task).address = id

def Current (threads : Threads Address) (id : Address) (task : Nat) : Prop :=
  task < threads.spawned ∧ (threads.tasks task).alive = true ∧
    (threads.tasks task).phase ≠ .finished ∧ (threads.tasks task).address = id

def Distinct (threads : Threads Address) : Prop :=
  ∀ id task other, (Reported threads id task ∨ Current threads id task) →
    (Reported threads id other ∨ Current threads id other) → task = other

/-- No task is put where the task of a thread was that is not yet joined or detached. -/
def Unused (threads : Threads Address) : Label Address → Prop
  | .create _ address | .spawn _ address => ∀ task, ¬ Reported threads address task
  | _ => True

/-- The address of the task still stands for it: the task exists, or its thread may yet be
joined or detached. -/
def Stands (threads : Threads Address) (task : Nat) : Prop :=
  task < threads.spawned ∧ ((threads.tasks task).alive = true ∨
    ∃ h, Open threads h ∧ threads.thread h = task)

structure Separate (threads : Threads Address) : Prop where
  consistent : Consistent threads
  apart : ∀ task other, Stands threads task → Stands threads other →
    (threads.tasks task).address = (threads.tasks other).address → task = other

/-- What `__libcpp_thread_get_id` reads is the address of the thread's task. -/
theorem getId_reported (threads : Threads Address) (consistent : Consistent threads) (h : Nat)
    (opened : Open threads h) (id : Address) (read : getId threads h = some id) :
    Reported threads id (threads.thread h) := by
  refine ⟨h, opened, rfl, ?_⟩
  simp only [getId, consistent.handles h opened.1, expected, Option.map_eq_some_iff] at read
  obtain ⟨handle, there, rfl⟩ := read
  split at there
  · cases there
    rfl
  · split at there
    · cases there
      rfl
    · cases there

theorem reported_stands (threads : Threads Address) (consistent : Consistent threads)
    (id : Address) (task : Nat) (reported : Reported threads id task) :
    Stands threads task ∧ (threads.tasks task).address = id := by
  rcases reported with ⟨h, opened, rfl, same⟩
  exact ⟨⟨(consistent.threadOf h opened.1).1, Or.inr ⟨h, opened, rfl⟩⟩, same⟩

theorem current_stands (threads : Threads Address) (id : Address) (task : Nat)
    (current : Current threads id task) :
    Stands threads task ∧ (threads.tasks task).address = id :=
  ⟨⟨current.1, Or.inl current.2.1⟩, current.2.2.2⟩

theorem separate_distinct (threads : Threads Address) (separate : Separate threads) :
    Distinct threads := by
  have stands : ∀ id task, Reported threads id task ∨ Current threads id task →
      Stands threads task ∧ (threads.tasks task).address = id := by
    rintro id task (reported | current)
    · exact reported_stands threads separate.consistent id task reported
    · exact current_stands threads id task current
  intro id task other first second
  rcases stands id task first with ⟨firstStands, firstAt⟩
  rcases stands id other second with ⟨secondStands, secondAt⟩
  exact separate.apart task other firstStands secondStands (firstAt.trans secondAt.symm)

structure Fades (threads next : Threads Address) : Prop where
  spawned : next.spawned = threads.spawned
  created : next.created = threads.created
  thread : next.thread = threads.thread
  address : ∀ task, (next.tasks task).address = (threads.tasks task).address
  alive : ∀ task, (next.tasks task).alive = true → (threads.tasks task).alive = true
  claims : ∀ h, Open next h → Open threads h

theorem fades_apart (threads next : Threads Address) (fades : Fades threads next)
    (apart : ∀ task other, Stands threads task → Stands threads other →
      (threads.tasks task).address = (threads.tasks other).address → task = other) :
    ∀ task other, Stands next task → Stands next other →
      (next.tasks task).address = (next.tasks other).address → task = other := by
  have stood : ∀ task, Stands next task → Stands threads task := by
    rintro task ⟨spawned, life | ⟨h, opened, thread⟩⟩
    · exact ⟨fades.spawned ▸ spawned, Or.inl (fades.alive task life)⟩
    · exact ⟨fades.spawned ▸ spawned, Or.inr ⟨h, fades.claims h opened, fades.thread ▸ thread⟩⟩
  intro task other first second same
  rw [fades.address, fades.address] at same
  exact apart task other (stood task first) (stood other second) same

theorem fades_trans (threads middle next : Threads Address) (left : Fades threads middle)
    (right : Fades middle next) : Fades threads next :=
  ⟨right.spawned.trans left.spawned, right.created.trans left.created,
    right.thread.trans left.thread, fun task => (right.address task).trans (left.address task),
    fun task life => left.alive task (right.alive task life),
    fun h opened => left.claims h (right.claims h opened)⟩

theorem setTask_fades (threads : Threads Address) (index : Nat) (task : CTask Address)
    (address : task.address = (threads.tasks index).address)
    (alive : task.alive = true → (threads.tasks index).alive = true) :
    Fades threads (threads.setTask index task) := by
  refine ⟨rfl, rfl, rfl, ?_, ?_, fun _ => id⟩
  · intro other
    by_cases same : other = index
    · subst same
      simpa [Threads.setTask] using address
    · simp [Threads.setTask, same]
  · intro other life
    by_cases same : other = index
    · subst same
      exact alive (by simpa [Threads.setTask] using life)
    · simpa [Threads.setTask, same] using life

theorem setClaim_fades (threads : Threads Address) (h : Nat) (claim : Claim)
    (ends : claim ≠ .joined → claim ≠ .detached → Open threads h) :
    Fades threads (threads.setClaim h claim) := by
  refine ⟨rfl, rfl, rfl, fun _ => rfl, fun _ => id, ?_⟩
  rintro other ⟨known, unjoined, undetached⟩
  by_cases same : other = h
  · subst same
    simp only [Threads.setClaim, Function.update_self] at unjoined undetached
    exact ends unjoined undetached
  · simp only [Threads.setClaim, Function.update_of_ne same] at unjoined undetached
    exact ⟨known, unjoined, undetached⟩

theorem setHandle_fades (threads : Threads Address) (h : Nat)
    (handle : Option (JoinHandle Address)) : Fades threads (threads.setHandle h handle) :=
  ⟨rfl, rfl, rfl, fun _ => rfl, fun _ => id, fun _ => id⟩

theorem fault_fades (threads : Threads Address) : Fades threads threads.fault :=
  ⟨rfl, rfl, rfl, fun _ => rfl, fun _ => id, fun _ => id⟩

theorem deleteHandle_fades (threads : Threads Address) (h : Nat) :
    Fades threads (threads.deleteHandle h) := by
  unfold Threads.deleteHandle
  split
  · exact ⟨rfl, rfl, rfl, fun _ => rfl, fun _ => id, fun _ => id⟩
  · exact fault_fades threads

theorem join_fades (threads : Threads Address) (by_ h : Nat) (opened : Open threads h) :
    Fades threads (threads.join by_ h) := by
  unfold Threads.join
  split
  · exact fault_fades threads
  · split
    · exact fades_trans threads _ _ (deleteHandle_fades threads h)
        (setClaim_fades _ h .joined fun other => absurd rfl other)
    · split
      · have waiting : ∀ marked, Fades threads ((threads.setHandle h marked).setTask by_
            { threads.tasks by_ with waits := true }) :=
          fun marked => fades_trans threads _ _ (setHandle_fades threads h marked)
            (setTask_fades (threads.setHandle h marked) by_ _ rfl id)
        exact fades_trans threads _ _ (waiting _) (setClaim_fades _ h _ fun _ _ => opened)
      · exact fault_fades threads

theorem detach_fades (threads : Threads Address) (h : Nat) : Fades threads (threads.detach h) := by
  have marked : ∀ handle, Fades threads ((threads.setHandle h handle).setClaim h .detached) :=
    fun handle => fades_trans threads _ _ (setHandle_fades threads h handle)
      (setClaim_fades _ h .detached fun _ other => absurd rfl other)
  unfold Threads.detach
  split
  · exact fault_fades threads
  · dsimp only
    split
    · exact fades_trans threads _ _ (marked _) (deleteHandle_fades _ h)
    · exact marked _

theorem deleteTask_fades (threads : Threads Address) (index : Nat) :
    Fades threads (threads.deleteTask index) := by
  have gone : Fades threads
      (threads.setTask index { threads.tasks index with alive := false }) :=
    setTask_fades threads index _ rfl fun dead => by cases dead
  unfold Threads.deleteTask
  dsimp only
  split
  · exact gone
  · split
    · exact fades_trans threads _ _ gone (fault_fades _)
    · split
      · exact fades_trans threads _ _ gone (fades_trans _ _ _ (setHandle_fades _ _ _)
          (deleteHandle_fades _ _))
      · exact fades_trans threads _ _ gone (setHandle_fades _ _ _)

/-- The new task is put where no task stands. -/
theorem addTask_apart (threads : Threads Address) (address : Address) (handle : Option Nat)
    (separate : Separate threads) (next : Threads Address)
    (tasks : next.tasks = (threads.addTask address handle).tasks)
    (spawned : next.spawned = threads.spawned + 1)
    (opened : ∀ task < threads.spawned, (∃ h, Open next h ∧ next.thread h = task) →
      ∃ h, Open threads h ∧ threads.thread h = task)
    (empty : ∀ task, Stands threads task → (threads.tasks task).address ≠ address) :
    ∀ task other, Stands next task → Stands next other →
      (next.tasks task).address = (next.tasks other).address → task = other := by
  have older : ∀ task < threads.spawned, next.tasks task = threads.tasks task := by
    intro task old
    rw [tasks]
    simp [Threads.addTask, Nat.ne_of_lt old]
  have newest : (next.tasks threads.spawned).address = address := by
    rw [tasks]
    simp [Threads.addTask]
  have places : ∀ task, Stands next task → task = threads.spawned ∨
      task < threads.spawned ∧ Stands threads task := by
    rintro task ⟨there, standing⟩
    rw [spawned] at there
    rcases Nat.lt_succ_iff_lt_or_eq.mp there with old | new
    · refine Or.inr ⟨old, old, ?_⟩
      rcases standing with life | claims
      · exact Or.inl (older task old ▸ life)
      · exact Or.inr (opened task old claims)
    · exact Or.inl new
  intro task other first second same
  rcases places task first with rfl | ⟨firstOld, firstStands⟩ <;>
    rcases places other second with rfl | ⟨secondOld, secondStands⟩
  · rfl
  · rw [newest, older other secondOld] at same
    exact absurd same.symm (empty other secondStands)
  · rw [newest, older task firstOld] at same
    exact absurd same (empty task firstStands)
  · rw [older task firstOld, older other secondOld] at same
    exact separate.apart task other firstStands secondStands same

section Steps
variable [DecidableEq Address]

/-- Where nothing exists and nothing is reported, no task stands. -/
theorem empty_place (threads : Threads Address) (address : Address) (free : threads.Free address)
    (unused : ∀ task, ¬ Reported threads address task) :
    ∀ task, Stands threads task → (threads.tasks task).address ≠ address := by
  rintro task ⟨spawned, life | ⟨h, opened, rfl⟩⟩ same
  · exact free task spawned life same
  · exact unused _ ⟨h, opened, rfl, same⟩

theorem step_separate (threads : Threads Address) (label : Label Address) (next : Threads Address)
    (separate : Separate threads) (unused : Unused threads label)
    (taken : step threads label = some next) : Separate next := by
  have consistent := step_consistent threads label next separate.consistent taken
  refine ⟨consistent, ?_⟩
  cases label with
  | create by_ address =>
      simp only [step, Option.ite_none_right_eq_some, Option.some.injEq] at taken
      obtain ⟨⟨-, -, free⟩, rfl⟩ := taken
      apply addTask_apart threads address (some threads.created) separate (threads.create address) rfl
        rfl
      · -- A thread that stands for an older task is not the new one.
        rintro task old ⟨h, ⟨known, unended⟩, thread⟩
        rcases Nat.lt_succ_iff_lt_or_eq.mp known with before | rfl
        · refine ⟨h, ⟨before, unended⟩, ?_⟩
          simpa [Threads.create, Nat.ne_of_lt before] using thread
        · simp only [Threads.create, Function.update_self] at thread
          exact absurd thread (Nat.ne_of_gt old)
      · exact empty_place threads address free unused
  | spawn by_ address =>
      simp only [step, Option.ite_none_right_eq_some, Option.some.injEq] at taken
      obtain ⟨⟨-, -, free⟩, rfl⟩ := taken
      apply addTask_apart threads address none separate (threads.addTask address none) rfl rfl
      · exact fun _ _ => id
      · exact empty_place threads address free unused
  | advance task =>
      simp only [step, Option.ite_none_right_eq_some, Option.some.injEq] at taken
      obtain ⟨-, rfl⟩ := taken
      apply fades_apart threads _ _ separate.apart
      apply setTask_fades threads task
      · unfold CTask.advance
        split <;> rfl
      · unfold CTask.advance
        split <;> exact id
  | delete task =>
      simp only [step, Option.ite_none_right_eq_some, Option.some.injEq] at taken
      obtain ⟨-, rfl⟩ := taken
      exact fades_apart threads _ (deleteTask_fades threads task) separate.apart
  | join by_ h =>
      simp only [step, Option.ite_none_right_eq_some, Option.some.injEq] at taken
      obtain ⟨⟨-, -, known, unclaimed⟩, rfl⟩ := taken
      have opened : Open threads h := ⟨known, by simp [unclaimed], by simp [unclaimed]⟩
      exact fades_apart threads _ (join_fades threads by_ h opened) separate.apart
  | wake by_ h task =>
      simp only [step, Option.ite_none_right_eq_some, Option.some.injEq] at taken
      obtain ⟨-, rfl⟩ := taken
      have awake := setTask_fades threads by_ { threads.tasks by_ with waits := false } rfl id
      exact fades_apart threads _ (fades_trans threads _ _ awake
        (setClaim_fades _ h .joined fun other => absurd rfl other)) separate.apart
  | detach by_ h =>
      simp only [step, Option.ite_none_right_eq_some, Option.some.injEq] at taken
      obtain ⟨-, rfl⟩ := taken
      exact fades_apart threads _ (detach_fades threads h) separate.apart

omit [DecidableEq Address] in
theorem initial_separate (address : Address) : Separate (initial address) := by
  refine ⟨initial_consistent address, ?_⟩
  rintro task other ⟨first, -⟩ ⟨second, -⟩ -
  have zero : task = 0 := Nat.lt_one_iff.mp first
  have same : other = 0 := Nat.lt_one_iff.mp second
  rw [zero, same]

omit [DecidableEq Address] in
/-- A new task at a reported address is taken for the thread that was there. -/
theorem addTask_confused (threads next : Threads Address) (address : Address)
    (handle : Option Nat) (task : Nat) (consistent : Consistent threads)
    (tasks : next.tasks = (threads.addTask address handle).tasks)
    (spawned : next.spawned = threads.spawned + 1)
    (reported : Reported threads address task) (still : Reported next address task) :
    ¬ Distinct next := by
  intro distinct
  have old := (reported_stands threads consistent address task reported).1.1
  have current : Current next address threads.spawned := by
    rw [Current, tasks, spawned]
    simp [Threads.addTask]
  have same := distinct address task threads.spawned (Or.inl still) (Or.inr current)
  exact absurd same (Nat.ne_of_lt old)

theorem step_confused (threads : Threads Address) (label : Label Address) (next : Threads Address)
    (separate : Separate threads) (used : ¬ Unused threads label)
    (taken : step threads label = some next) : ¬ Distinct next := by
  have consistent := separate.consistent
  cases label with
  | create by_ address =>
      simp only [Unused, not_forall, not_not] at used
      rcases used with ⟨task, reported⟩
      simp only [step, Option.ite_none_right_eq_some, Option.some.injEq] at taken
      obtain ⟨-, rfl⟩ := taken
      apply addTask_confused threads (threads.create address) address (some threads.created) task
        consistent rfl rfl reported
      rcases reported with ⟨h, ⟨known, unended⟩, rfl, id⟩
      have older := Nat.ne_of_lt (consistent.threadOf h known).1
      refine ⟨h, ⟨Nat.lt_succ_of_lt known, unended⟩, ?_, ?_⟩
      · simp [Threads.create, Nat.ne_of_lt known]
      · simpa [Threads.create, Threads.addTask, older] using id
  | spawn by_ address =>
      simp only [Unused, not_forall, not_not] at used
      rcases used with ⟨task, reported⟩
      simp only [step, Option.ite_none_right_eq_some, Option.some.injEq] at taken
      obtain ⟨-, rfl⟩ := taken
      apply addTask_confused threads (threads.addTask address none) address none task consistent rfl
        rfl reported
      rcases reported with ⟨h, opened, rfl, id⟩
      have older := Nat.ne_of_lt (consistent.threadOf h opened.1).1
      exact ⟨h, opened, rfl, by simpa [Threads.addTask, older] using id⟩
  | advance | delete | join | wake | detach => exact absurd trivial used

/-- In every run: identifiers are equal only for the same thread, in every state reached,
exactly when no task of the run is put where the task of a thread was that is not yet joined
or detached. -/
theorem ids_distinct_iff_unused (address : Address) (labels : List (Label Address))
    (final : Threads Address) (reached : run step (initial address) labels = some final) :
    Throughout step Distinct (initial address) labels ↔
      Along step Unused (initial address) labels :=
  throughout_iff_along Unused Separate Distinct separate_distinct step_separate step_confused
    (initial address) final labels (initial_separate address) reached

end Steps

def oneEnded : List (Label Nat) := [.create 0 1, .advance 1, .advance 1, .delete 1]

/-- The thread is joined before another one gets its address. -/
theorem joinedFirst_distinct :
    Throughout step Distinct (initial 0) (oneEnded ++ [.join 0 0, .create 0 1]) := by
  refine (ids_distinct_iff_unused 0 _ _ rfl).mpr ?_
  have none : ∀ (threads : Threads Nat) (address : Nat), threads.created = 0 →
      ∀ task, ¬ Reported threads address task := by
    rintro threads address empty task ⟨h, ⟨known, -⟩, -⟩
    omega
  refine ⟨none _ 1 rfl, ?_⟩
  intro created taken
  refine ⟨trivial, ?_⟩
  intro ending ended
  refine ⟨trivial, ?_⟩
  intro gone finished
  refine ⟨trivial, ?_⟩
  intro left deleted
  refine ⟨trivial, ?_⟩
  intro joined joining
  cases taken
  cases ended
  cases finished
  cases deleted
  cases joining
  refine ⟨?_, fun _ _ => trivial⟩
  rintro task ⟨h, ⟨known, unjoined, -⟩, -⟩
  have first : h = 0 := Nat.lt_one_iff.mp known
  subst first
  exact unjoined rfl

/-- Another thread gets the address before the first one is joined. -/
theorem addressUsed_confused :
    ∃ final, run step (initial 0) (oneEnded ++ [.create 0 1]) = some final ∧
      Reported final 1 1 ∧ Reported final 1 2 ∧ ¬ Distinct final := by
  obtain ⟨final, reached, first, second⟩ : ∃ final,
      run step (initial 0) (oneEnded ++ [.create 0 1]) = some final ∧
      Reported final 1 1 ∧ Reported final 1 2 :=
    ⟨_, rfl, ⟨0, ⟨by decide, by decide, by decide⟩, rfl, rfl⟩,
      ⟨1, ⟨by decide, by decide, by decide⟩, rfl, rfl⟩⟩
  refine ⟨final, reached, first, second, ?_⟩
  intro distinct
  have same := distinct 1 1 2 (Or.inl first) (Or.inl second)
  cases same

end CircleStdlib.ThreadIdentity
