import CircleStdlib.Execution

/-!
The threads of thread.cpp: `JoinHandle`, `CLibCXXTask` and the calls that create, join and
detach a thread. Objects are numbered in the order of their allocation, so that a pointer
to a deleted object is told from one to a later object at the same place; a task also has
its address, and a deleted task's address may be used again. Circle's scheduler is not part
of the repository: it lets any task run that is not blocked, deletes a task that has
terminated at any later time, and `WaitForTermination` returns only when `Run` of the task
has returned, without touching a task that is deleted.
-/

namespace CircleStdlib.ThreadHandles

open Execution

structure JoinHandle (Address : Type) where
  task : Option Nat
  id : Address
  detached : Bool
  joined : Bool

/-- How far `Run` is: in the thread's function, in the destructors of its thread-local
variables, or returned. -/
inductive Phase where
  | function
  | destructors
  | finished
  deriving DecidableEq, Repr

/-- A `CTask`; `handle` is `m_handle` of a `CLibCXXTask` and `none` for other tasks. A task
waits for another one inside `WaitForTermination`. -/
structure CTask (Address : Type) where
  address : Address
  handle : Option Nat
  phase : Phase
  alive : Bool
  waits : Bool

/-- What has been called for a thread. `joining` names the task that is blocked in the join
and the one that it waits for. -/
inductive Claim where
  | unclaimed
  | joining (by_ task : Nat)
  | joined
  | detached
  deriving DecidableEq, Repr

/-- `handles` is the heap. What else is not stored by the code: `thread` is the task that
was created with a handle, `claims` the calls for it, `deletions` how often it has been
deleted, and `faulty` says that a deleted object has been used or deleted. -/
structure Threads (Address : Type) where
  handles : Nat → Option (JoinHandle Address)
  created : Nat
  tasks : Nat → CTask Address
  spawned : Nat
  thread : Nat → Nat
  claims : Nat → Claim
  deletions : Nat → Nat
  faulty : Bool

inductive Label (Address : Type) where
  | create (by_ : Nat) (address : Address)
  | spawn (by_ : Nat) (address : Address)
  | advance (task : Nat)
  | delete (task : Nat)
  | join (by_ handle : Nat)
  | wake (by_ handle task : Nat)
  | detach (by_ handle : Nat)

variable {Address : Type}

def CTask.runs (task : CTask Address) : Bool :=
  task.alive && decide (task.phase ≠ .finished) && !task.waits

def CTask.advance (task : CTask Address) : CTask Address :=
  match task.phase with
  | .function => { task with phase := .destructors }
  | _ => { task with phase := .finished }

namespace Threads

def setTask (threads : Threads Address) (index : Nat) (task : CTask Address) : Threads Address :=
  { threads with tasks := Function.update threads.tasks index task }

def setHandle (threads : Threads Address) (index : Nat) (handle : Option (JoinHandle Address)) :
    Threads Address :=
  { threads with handles := Function.update threads.handles index handle }

def setClaim (threads : Threads Address) (index : Nat) (claim : Claim) : Threads Address :=
  { threads with claims := Function.update threads.claims index claim }

def fault (threads : Threads Address) : Threads Address := { threads with faulty := true }

def deleteHandle (threads : Threads Address) (index : Nat) : Threads Address :=
  match threads.handles index with
  | some _ =>
      { threads with
        handles := Function.update threads.handles index none
        deletions := Function.update threads.deletions index (threads.deletions index + 1) }
  | none => threads.fault

def Free [DecidableEq Address] (threads : Threads Address) (address : Address) : Prop :=
  ∀ index < threads.spawned, (threads.tasks index).alive = true →
    (threads.tasks index).address ≠ address

instance [DecidableEq Address] (threads : Threads Address) (address : Address) :
    Decidable (threads.Free address) :=
  inferInstanceAs (Decidable (∀ index < threads.spawned, (threads.tasks index).alive = true →
    (threads.tasks index).address ≠ address))

def addTask (threads : Threads Address) (address : Address) (handle : Option Nat) :
    Threads Address :=
  { threads with
    tasks := Function.update threads.tasks threads.spawned
      { address, handle, phase := .function, alive := true, waits := false }
    spawned := threads.spawned + 1 }

-- `__libcpp_thread_create`; `address` is where `new CLibCXXTask` puts the task.
def create (threads : Threads Address) (address : Address) : Threads Address :=
  { threads.addTask address (some threads.created) with
    handles := Function.update threads.handles threads.created
      (some { task := some threads.spawned, id := address, detached := false, joined := false })
    thread := Function.update threads.thread threads.created threads.spawned
    created := threads.created + 1 }

-- `~CLibCXXTask`, and the end of the task.
def deleteTask (threads : Threads Address) (index : Nat) : Threads Address :=
  let task := threads.tasks index
  let threads := threads.setTask index { task with alive := false }
  match task.handle with
  | none => threads
  | some h =>
      match threads.handles h with
      | none => threads.fault
      | some handle =>
          let threads := threads.setHandle h (some { handle with task := none })
          if handle.detached || handle.joined then threads.deleteHandle h else threads

-- `__libcpp_thread_join` up to its return or to `WaitForTermination`.
def join (threads : Threads Address) (by_ h : Nat) : Threads Address :=
  match threads.handles h with
  | none => threads.fault
  | some handle =>
      match handle.task with
      | none => (threads.deleteHandle h).setClaim h .joined
      | some task =>
          if (threads.tasks task).alive then
            ((threads.setHandle h (some { handle with joined := true })).setTask by_
              { threads.tasks by_ with waits := true }).setClaim h (.joining by_ task)
          else threads.fault

def detach (threads : Threads Address) (h : Nat) : Threads Address :=
  match threads.handles h with
  | none => threads.fault
  | some handle =>
      let threads := (threads.setHandle h (some { handle with detached := true })).setClaim h
        .detached
      match handle.task with
      | none => threads.deleteHandle h
      | some _ => threads

end Threads

variable [DecidableEq Address]

-- One step of the program or the scheduler. There is one join or detach for a handle.
def step (threads : Threads Address) : Label Address → Option (Threads Address)
  | .create by_ address =>
      if by_ < threads.spawned ∧ (threads.tasks by_).runs ∧ threads.Free address then
        some (threads.create address)
      else none
  | .spawn by_ address =>
      if by_ < threads.spawned ∧ (threads.tasks by_).runs ∧ threads.Free address then
        some (threads.addTask address none)
      else none
  | .advance task =>
      if task < threads.spawned ∧ (threads.tasks task).runs then
        some (threads.setTask task (threads.tasks task).advance)
      else none
  | .delete task =>
      if task < threads.spawned ∧ (threads.tasks task).alive ∧
          (threads.tasks task).phase = .finished then
        some (threads.deleteTask task)
      else none
  | .join by_ h =>
      if by_ < threads.spawned ∧ (threads.tasks by_).runs ∧ h < threads.created ∧
          threads.claims h = .unclaimed then
        some (threads.join by_ h)
      else none
  | .wake by_ h task =>
      if by_ < threads.spawned ∧ h < threads.created ∧ threads.claims h = .joining by_ task ∧
          (threads.tasks task).phase = .finished then
        some ((threads.setTask by_ { threads.tasks by_ with waits := false }).setClaim h .joined)
      else none
  | .detach by_ h =>
      if by_ < threads.spawned ∧ (threads.tasks by_).runs ∧ h < threads.created ∧
          threads.claims h = .unclaimed then
        some (threads.detach h)
      else none

omit [DecidableEq Address] in
def initial (address : Address) : Threads Address :=
  { handles := fun _ => none
    created := 0
    tasks := fun _ => { address, handle := none, phase := .function, alive := true, waits := false }
    spawned := 1
    thread := fun _ => 0
    claims := fun _ => .unclaimed
    deletions := fun _ => 0
    faulty := false }

/-- Every handle is deleted at most once and not used afterwards, none is left when its
task has been deleted and it has been joined or detached, and a join has returned only
when `Run` of the thread has. -/
structure Owned (threads : Threads Address) : Prop where
  unharmed : threads.faulty = false
  once : ∀ h < threads.created,
    threads.deletions h ≤ 1 ∧ (threads.deletions h = 1 ↔ threads.handles h = none)
  noneLeft : ∀ h < threads.created, (threads.tasks (threads.thread h)).alive = false →
    threads.claims h ≠ .unclaimed → threads.handles h = none
  awaited : ∀ h < threads.created, threads.claims h = .joined →
    (threads.tasks (threads.thread h)).phase = .finished

def Claim.joins : Claim → Bool
  | .joining _ _ | .joined => true
  | _ => false

def expected (threads : Threads Address) (h : Nat) : Option (JoinHandle Address) :=
  let task := threads.tasks (threads.thread h)
  if task.alive then
    some
      { task := some (threads.thread h)
        id := task.address
        detached := decide (threads.claims h = .detached)
        joined := (threads.claims h).joins }
  else if threads.claims h = .unclaimed then
    some { task := none, id := task.address, detached := false, joined := false }
  else none

omit [DecidableEq Address] in
theorem expected_congr (threads next : Threads Address) (h : Nat)
    (thread : next.thread h = threads.thread h) (claim : next.claims h = threads.claims h)
    (alive : (next.tasks (threads.thread h)).alive = (threads.tasks (threads.thread h)).alive)
    (address : (next.tasks (threads.thread h)).address =
      (threads.tasks (threads.thread h)).address) : expected next h = expected threads h := by
  simp only [expected, thread, claim, alive, address]

structure Consistent (threads : Threads Address) : Prop where
  unharmed : threads.faulty = false
  handles : ∀ h < threads.created, threads.handles h = expected threads h
  deletions : ∀ h < threads.created,
    threads.deletions h = if (expected threads h).isNone then 1 else 0
  threadOf : ∀ h < threads.created, threads.thread h < threads.spawned ∧
    (threads.tasks (threads.thread h)).handle = some h
  owners : ∀ task < threads.spawned, ∀ h, (threads.tasks task).handle = some h →
    h < threads.created ∧ threads.thread h = task
  ended : ∀ task < threads.spawned, (threads.tasks task).alive = false →
    (threads.tasks task).phase = .finished
  awaited : ∀ h < threads.created, threads.claims h = .joined →
    (threads.tasks (threads.thread h)).phase = .finished
  awaits : ∀ h < threads.created, ∀ by_ task, threads.claims h = .joining by_ task →
    task = threads.thread h
  fresh : ∀ h, threads.created ≤ h → threads.claims h = .unclaimed ∧ threads.deletions h = 0

omit [DecidableEq Address] in
theorem consistent_owned (threads : Threads Address) (consistent : Consistent threads) :
    Owned threads := by
  refine ⟨consistent.unharmed, ?_, ?_, consistent.awaited⟩
  · intro h known
    rw [consistent.handles h known, consistent.deletions h known]
    cases expected threads h with
    | none => simp
    | some handle => simp
  · intro h known dead claimed
    rw [consistent.handles h known, expected]
    simp [dead, claimed]

omit [DecidableEq Address] in
/-- Tasks may change in what the handles do not depend on; other tasks than threads may also
be deleted. -/
theorem consistent_tasks (threads : Threads Address) (index : Nat) (task : CTask Address)
    (consistent : Consistent threads) (address : task.address = (threads.tasks index).address)
    (handle : task.handle = (threads.tasks index).handle)
    (alive : task.handle ≠ none → task.alive = (threads.tasks index).alive)
    (phase : (threads.tasks index).phase = .finished → task.phase = .finished)
    (ended : task.alive = false → task.phase = .finished) :
    Consistent (threads.setTask index task) := by
  have handles : ∀ other, ((threads.setTask index task).tasks other).handle =
      (threads.tasks other).handle := by
    intro other
    by_cases equal : other = index
    · subst equal
      simpa [Threads.setTask] using handle
    · simp [Threads.setTask, equal]
  have phases : ∀ other, (threads.tasks other).phase = .finished →
      ((threads.setTask index task).tasks other).phase = .finished := by
    intro other finished
    by_cases equal : other = index
    · subst equal
      simpa [Threads.setTask] using phase finished
    · simpa [Threads.setTask, equal] using finished
  have unchanged : ∀ h < threads.created,
      expected (threads.setTask index task) h = expected threads h := by
    intro h known
    have mine := (consistent.threadOf h known).2
    by_cases equal : threads.thread h = index
    · have kept := alive (by rw [handle, ← equal, mine]; simp)
      subst equal
      apply expected_congr threads (threads.setTask (threads.thread h) task) h rfl rfl
      · simpa [Threads.setTask] using kept
      · simpa [Threads.setTask] using address
    · apply expected_congr threads (threads.setTask index task) h rfl rfl <;>
        simp [Threads.setTask, equal]
  refine ⟨consistent.unharmed, ?_, ?_, ?_, ?_, ?_, ?_, consistent.awaits, consistent.fresh⟩
  · intro h known
    rw [unchanged h known]
    exact consistent.handles h known
  · intro h known
    rw [unchanged h known]
    exact consistent.deletions h known
  · intro h known
    rw [handles]
    exact consistent.threadOf h known
  · intro other spawned h
    rw [handles]
    exact consistent.owners other spawned h
  · intro other spawned dead
    by_cases equal : other = index
    · subst equal
      simp only [Threads.setTask, Function.update_self] at dead ⊢
      exact ended dead
    · simp only [Threads.setTask, Function.update_of_ne equal] at dead ⊢
      exact consistent.ended other spawned dead
  · intro h known joined
    exact phases _ (consistent.awaited h known joined)

omit [DecidableEq Address] in
theorem spawn_consistent (threads : Threads Address) (address : Address)
    (consistent : Consistent threads) : Consistent (threads.addTask address none) := by
  have older : ∀ task < threads.spawned, (threads.addTask address none).tasks task =
      threads.tasks task := by
    intro task old
    simp [Threads.addTask, Nat.ne_of_lt old]
  have newest : (threads.addTask address none).tasks threads.spawned =
      ⟨address, none, .function, true, false⟩ := by
    simp [Threads.addTask]
  have others : ∀ h < threads.created, expected (threads.addTask address none) h =
      expected threads h := by
    intro h known
    have same := older _ (consistent.threadOf h known).1
    exact expected_congr threads _ h rfl rfl (by rw [same]) (by rw [same])
  refine ⟨consistent.unharmed, ?_, ?_, ?_, ?_, ?_, ?_, consistent.awaits, consistent.fresh⟩
  · intro h known
    rw [others h known]
    exact consistent.handles h known
  · intro h known
    rw [others h known]
    exact consistent.deletions h known
  · intro h known
    rcases consistent.threadOf h known with ⟨old, handle⟩
    refine ⟨Nat.lt_succ_of_lt old, ?_⟩
    exact (older _ old).symm ▸ handle
  · intro task spawned h handle
    rcases Nat.lt_succ_iff_lt_or_eq.mp spawned with old | rfl
    · rw [older task old] at handle
      exact consistent.owners task old h handle
    · rw [newest] at handle
      cases handle
  · intro task spawned dead
    rcases Nat.lt_succ_iff_lt_or_eq.mp spawned with old | rfl
    · rw [older task old] at dead ⊢
      exact consistent.ended task old dead
    · rw [newest] at dead
      cases dead
  · intro h known joined
    exact (older _ (consistent.threadOf h known).1).symm ▸ consistent.awaited h known joined

omit [DecidableEq Address] in
theorem create_consistent (threads : Threads Address) (address : Address)
    (consistent : Consistent threads) : Consistent (threads.create address) := by
  have older : ∀ task < threads.spawned, (threads.create address).tasks task =
      threads.tasks task := by
    intro task old
    simp [Threads.create, Threads.addTask, Nat.ne_of_lt old]
  have newest : (threads.create address).tasks threads.spawned =
      ⟨address, some threads.created, .function, true, false⟩ := by
    simp [Threads.create, Threads.addTask]
  have thread : ∀ h < threads.created, (threads.create address).thread h = threads.thread h := by
    intro h known
    simp [Threads.create, Nat.ne_of_lt known]
  have own : (threads.create address).thread threads.created = threads.spawned := by
    simp [Threads.create]
  rcases consistent.fresh threads.created (Nat.le_refl _) with ⟨unclaimed, undeleted⟩
  have others : ∀ h < threads.created, expected (threads.create address) h =
      expected threads h := by
    intro h known
    have same := older _ (consistent.threadOf h known).1
    exact expected_congr threads _ h (thread h known) rfl (by rw [same]) (by rw [same])
  have new : expected (threads.create address) threads.created =
      some ⟨some threads.spawned, address, false, false⟩ := by
    have claim : (threads.create address).claims threads.created = .unclaimed := unclaimed
    simp [expected, own, newest, claim, Claim.joins]
  refine ⟨consistent.unharmed, ?_, ?_, ?_, ?_, ?_, ?_, ?_, ?_⟩
  · intro h known
    rcases Nat.lt_succ_iff_lt_or_eq.mp known with old | rfl
    · rw [others h old, ← consistent.handles h old]
      simp [Threads.create, Nat.ne_of_lt old]
    · rw [new]
      simp [Threads.create]
  · intro h known
    rcases Nat.lt_succ_iff_lt_or_eq.mp known with old | rfl
    · rw [others h old]
      exact consistent.deletions h old
    · rw [new]
      exact undeleted
  · intro h known
    rcases Nat.lt_succ_iff_lt_or_eq.mp known with old | rfl
    · rcases consistent.threadOf h old with ⟨before, handle⟩
      rw [thread h old, older _ before]
      exact ⟨Nat.lt_succ_of_lt before, handle⟩
    · rw [own, newest]
      exact ⟨Nat.lt_succ_self _, rfl⟩
  · intro task spawned h handle
    rcases Nat.lt_succ_iff_lt_or_eq.mp spawned with old | rfl
    · rw [older task old] at handle
      rcases consistent.owners task old h handle with ⟨known, same⟩
      rw [thread h known]
      exact ⟨Nat.lt_succ_of_lt known, same⟩
    · rw [newest] at handle
      cases handle
      exact ⟨Nat.lt_succ_self _, own⟩
  · intro task spawned dead
    rcases Nat.lt_succ_iff_lt_or_eq.mp spawned with old | rfl
    · rw [older task old] at dead ⊢
      exact consistent.ended task old dead
    · rw [newest] at dead
      cases dead
  · intro h known joined
    rcases Nat.lt_succ_iff_lt_or_eq.mp known with old | rfl
    · rw [thread h old, older _ (consistent.threadOf h old).1]
      exact consistent.awaited h old joined
    · exact absurd (unclaimed.symm.trans joined) (by simp)
  · intro h known by_ task joining
    rcases Nat.lt_succ_iff_lt_or_eq.mp known with old | rfl
    · rw [thread h old]
      exact consistent.awaits h old by_ task joining
    · exact absurd (unclaimed.symm.trans joining) (by simp)
  · intro h beyond
    exact consistent.fresh h (Nat.le_of_succ_le beyond)

structure Touches (threads next : Threads Address) (h : Nat) : Prop where
  created : next.created = threads.created
  spawned : next.spawned = threads.spawned
  thread : next.thread = threads.thread
  handles : ∀ other, other ≠ h → next.handles other = threads.handles other
  claims : ∀ other, other ≠ h → next.claims other = threads.claims other
  deletions : ∀ other, other ≠ h → next.deletions other = threads.deletions other
  address : ∀ task, (next.tasks task).address = (threads.tasks task).address
  handle : ∀ task, (next.tasks task).handle = (threads.tasks task).handle
  phase : ∀ task, (next.tasks task).phase = (threads.tasks task).phase
  alive : ∀ task, task ≠ threads.thread h →
    (next.tasks task).alive = (threads.tasks task).alive

omit [DecidableEq Address] in
theorem touches_consistent (threads next : Threads Address) (h : Nat)
    (consistent : Consistent threads) (touches : Touches threads next h)
    (known : h < threads.created) (unharmed : next.faulty = false)
    (own : next.handles h = expected next h)
    (count : next.deletions h = if (expected next h).isNone then 1 else 0)
    (ended : (next.tasks (threads.thread h)).alive = false →
      (threads.tasks (threads.thread h)).phase = .finished)
    (awaited : next.claims h = .joined → (threads.tasks (threads.thread h)).phase = .finished)
    (awaits : ∀ by_ task, next.claims h = .joining by_ task → task = threads.thread h) :
    Consistent next := by
  have others : ∀ other < threads.created, other ≠ h →
      expected next other = expected threads other := by
    intro other there different
    -- Two handles do not have one thread.
    have apart : threads.thread other ≠ threads.thread h := by
      intro same
      have mine := (consistent.threadOf h known).2
      have theirs := (consistent.threadOf other there).2
      rw [same, mine] at theirs
      exact different (Option.some.inj theirs).symm
    exact expected_congr threads next other (by rw [touches.thread]) (touches.claims other different)
      (touches.alive _ apart) (touches.address _)
  -- Each clause holds of the other handles as before, and of this one by assumption.
  refine ⟨unharmed, ?_, ?_, ?_, ?_, ?_, ?_, ?_, ?_⟩
  · intro other there
    rw [touches.created] at there
    by_cases same : other = h
    · exact same ▸ own
    · rw [touches.handles other same, others other there same]
      exact consistent.handles other there
  · intro other there
    rw [touches.created] at there
    by_cases same : other = h
    · exact same ▸ count
    · rw [touches.deletions other same, others other there same]
      exact consistent.deletions other there
  · rw [touches.created, touches.spawned, touches.thread]
    intro other there
    rw [touches.handle]
    exact consistent.threadOf other there
  · rw [touches.created, touches.spawned, touches.thread]
    intro task spawned other
    rw [touches.handle]
    exact consistent.owners task spawned other
  · rw [touches.spawned]
    intro task spawned dead
    rw [touches.phase]
    by_cases same : task = threads.thread h
    · subst same
      exact ended dead
    · rw [touches.alive task same] at dead
      exact consistent.ended task spawned dead
  · rw [touches.created, touches.thread]
    intro other there joined
    rw [touches.phase]
    by_cases same : other = h
    · subst same
      exact awaited joined
    · rw [touches.claims other same] at joined
      exact consistent.awaited other there joined
  · rw [touches.created, touches.thread]
    intro other there by_ task joining
    by_cases same : other = h
    · subst same
      exact awaits by_ task joining
    · rw [touches.claims other same] at joining
      exact consistent.awaits other there by_ task joining
  · rw [touches.created]
    intro other beyond
    have different : other ≠ h := Nat.ne_of_gt (Nat.lt_of_lt_of_le known beyond)
    rw [touches.claims other different, touches.deletions other different]
    exact consistent.fresh other beyond

omit [DecidableEq Address] in
/-- The join or detach of a handle that nobody has claimed yet finds it alive. -/
theorem unclaimed_handle (threads : Threads Address) (h : Nat) (consistent : Consistent threads)
    (known : h < threads.created) (unclaimed : threads.claims h = .unclaimed) :
    threads.handles h = some
      { task := if (threads.tasks (threads.thread h)).alive then some (threads.thread h) else none
        id := (threads.tasks (threads.thread h)).address
        detached := false
        joined := false } ∧
      threads.deletions h = 0 := by
  have there := consistent.handles h known
  have count := consistent.deletions h known
  simp only [expected, unclaimed, Claim.joins] at there count
  split at there <;> rename_i life <;> simp_all

def Threads.removed (threads : Threads Address) (h : Nat) (claim : Claim) : Threads Address :=
  { threads with
    handles := Function.update threads.handles h none
    tasks := Function.update threads.tasks (threads.thread h)
      { threads.tasks (threads.thread h) with alive := false }
    claims := Function.update threads.claims h claim
    deletions := Function.update threads.deletions h (threads.deletions h + 1) }

def Threads.changed (threads : Threads Address) (h : Nat) (handle : JoinHandle Address)
    (claim : Claim) (index : Nat) (task : CTask Address) : Threads Address :=
  { threads with
    handles := Function.update threads.handles h (some handle)
    tasks := Function.update threads.tasks index task
    claims := Function.update threads.claims h claim }

omit [DecidableEq Address] in
theorem removed_consistent (threads : Threads Address) (h : Nat) (claim : Claim)
    (consistent : Consistent threads) (known : h < threads.created)
    (count : threads.deletions h = 0) (claimed : claim ≠ .unclaimed)
    (finished : (threads.tasks (threads.thread h)).phase = .finished)
    (awaits : ∀ by_ task, claim = .joining by_ task → task = threads.thread h) :
    Consistent (threads.removed h claim) := by
  have gone : expected (threads.removed h claim) h = none := by
    simp [expected, Threads.removed, claimed]
  apply touches_consistent threads (threads.removed h claim) h consistent _ known
    consistent.unharmed
  · rw [gone]
    simp [Threads.removed]
  · rw [gone]
    simp [Threads.removed, count]
  · exact fun _ => finished
  · exact fun _ => finished
  · intro by_ task joining
    exact awaits by_ task (by simpa [Threads.removed] using joining)
  · have tasks : ∀ task, (((threads.removed h claim).tasks task).address =
          (threads.tasks task).address ∧
        ((threads.removed h claim).tasks task).handle = (threads.tasks task).handle) ∧
        ((threads.removed h claim).tasks task).phase = (threads.tasks task).phase := by
      intro task
      by_cases own : task = threads.thread h
      · subst own
        simp [Threads.removed]
      · simp [Threads.removed, own]
    refine ⟨rfl, rfl, rfl, ?_, ?_, ?_, fun task => (tasks task).1.1, fun task => (tasks task).1.2,
      fun task => (tasks task).2, ?_⟩
    all_goals
      intro other different
      simp [Threads.removed, different]

omit [DecidableEq Address] in
theorem changed_consistent (threads : Threads Address) (h : Nat) (handle : JoinHandle Address)
    (claim : Claim) (index : Nat) (task : CTask Address) (consistent : Consistent threads)
    (known : h < threads.created) (count : threads.deletions h = 0)
    (own : expected (threads.changed h handle claim index task) h = some handle)
    (address : task.address = (threads.tasks index).address)
    (back : task.handle = (threads.tasks index).handle)
    (phase : task.phase = (threads.tasks index).phase)
    (alive : index ≠ threads.thread h → task.alive = (threads.tasks index).alive)
    (ended : ((threads.changed h handle claim index task).tasks (threads.thread h)).alive = false →
      (threads.tasks (threads.thread h)).phase = .finished)
    (awaited : claim = .joined → (threads.tasks (threads.thread h)).phase = .finished)
    (awaits : ∀ by_ task, claim = .joining by_ task → task = threads.thread h) :
    Consistent (threads.changed h handle claim index task) := by
  apply touches_consistent threads (threads.changed h handle claim index task) h consistent _ known
    consistent.unharmed
  · rw [own]
    simp [Threads.changed]
  · rw [own]
    simpa [Threads.changed] using count
  · exact ended
  · intro joined
    exact awaited (by simpa [Threads.changed] using joined)
  · intro by_ task joining
    exact awaits by_ task (by simpa [Threads.changed] using joining)
  · have tasks : ∀ other, (((threads.changed h handle claim index task).tasks other).address =
          (threads.tasks other).address ∧
        ((threads.changed h handle claim index task).tasks other).handle =
          (threads.tasks other).handle) ∧
        ((threads.changed h handle claim index task).tasks other).phase =
          (threads.tasks other).phase := by
      intro other
      by_cases mine : other = index
      · subst mine
        simp [Threads.changed, address, back, phase]
      · simp [Threads.changed, mine]
    refine ⟨rfl, rfl, rfl, ?_, ?_, fun _ _ => rfl, fun task => (tasks task).1.1,
      fun task => (tasks task).1.2, fun task => (tasks task).2, ?_⟩
    · intro other different
      simp [Threads.changed, different]
    · intro other different
      simp [Threads.changed, different]
    · intro other different
      by_cases mine : other = index
      · subst mine
        simpa [Threads.changed] using alive different
      · simp [Threads.changed, mine]

omit [DecidableEq Address] in
/-- A deleted task is removed once more without a change. -/
theorem update_dead (threads : Threads Address) (index : Nat)
    (dead : (threads.tasks index).alive = false) :
    Function.update threads.tasks index { threads.tasks index with alive := false } =
      threads.tasks := by
  have same : ({ threads.tasks index with alive := false } : CTask Address) =
      threads.tasks index := by
    rw [← dead]
  rw [same, Function.update_eq_self]

omit [DecidableEq Address] in
theorem join_consistent (threads : Threads Address) (by_ h : Nat) (consistent : Consistent threads)
    (known : h < threads.created) (unclaimed : threads.claims h = .unclaimed) :
    Consistent (threads.join by_ h) := by
  rcases unclaimed_handle threads h consistent known unclaimed with ⟨there, count⟩
  by_cases life : (threads.tasks (threads.thread h)).alive = true
  · rw [if_pos life] at there
    have next : threads.join by_ h = threads.changed h
        ⟨some (threads.thread h), (threads.tasks (threads.thread h)).address, false, true⟩
        (.joining by_ (threads.thread h)) by_ { threads.tasks by_ with waits := true } := by
      simp [Threads.join, there, life, Threads.setHandle, Threads.setTask, Threads.setClaim,
        Threads.changed]
    have tasks : ∀ task, (Function.update threads.tasks by_
        { threads.tasks by_ with waits := true } task).alive = (threads.tasks task).alive ∧
        (Function.update threads.tasks by_
          { threads.tasks by_ with waits := true } task).address =
          (threads.tasks task).address := by
      intro task
      by_cases mine : task = by_
      · subst mine
        simp
      · simp [mine]
    rw [next]
    apply changed_consistent threads h _ _ by_ { threads.tasks by_ with waits := true } consistent
      known count _ rfl rfl rfl fun _ => rfl
    · intro dead
      simp only [Threads.changed, (tasks _).1, life] at dead
      cases dead
    · intro joined
      cases joined
    · rintro _ _ ⟨⟩
      rfl
    · simp [expected, Threads.changed, (tasks _).1, (tasks _).2, life, Claim.joins]
  · -- The task has been deleted: nobody else is left to delete the handle.
    have dead : (threads.tasks (threads.thread h)).alive = false := by simpa using life
    rw [if_neg life] at there
    have next : threads.join by_ h = threads.removed h .joined := by
      simp [Threads.join, there, Threads.deleteHandle, Threads.setClaim, Threads.removed,
        update_dead threads _ dead]
    rw [next]
    apply removed_consistent threads h .joined consistent known count (by simp)
      (consistent.ended _ (consistent.threadOf h known).1 dead)
    rintro _ _ ⟨⟩

omit [DecidableEq Address] in
theorem detach_consistent (threads : Threads Address) (h : Nat) (consistent : Consistent threads)
    (known : h < threads.created) (unclaimed : threads.claims h = .unclaimed) :
    Consistent (threads.detach h) := by
  rcases unclaimed_handle threads h consistent known unclaimed with ⟨there, count⟩
  by_cases life : (threads.tasks (threads.thread h)).alive = true
  · rw [if_pos life] at there
    have next : threads.detach h = threads.changed h
        ⟨some (threads.thread h), (threads.tasks (threads.thread h)).address, true, false⟩
        .detached (threads.thread h) (threads.tasks (threads.thread h)) := by
      simp [Threads.detach, there, Threads.setHandle, Threads.setClaim, Threads.changed]
    rw [next]
    apply changed_consistent threads h _ _ _ _ consistent known count _ rfl rfl rfl fun _ => rfl
    · intro dead
      simp only [Threads.changed, Function.update_self, life] at dead
      cases dead
    · intro joined
      cases joined
    · rintro _ _ ⟨⟩
    · simp [expected, Threads.changed, life, Claim.joins]
  · have dead : (threads.tasks (threads.thread h)).alive = false := by simpa using life
    rw [if_neg life] at there
    have next : threads.detach h = threads.removed h .detached := by
      simp [Threads.detach, there, Threads.deleteHandle, Threads.setHandle, Threads.setClaim,
        Threads.removed, update_dead threads _ dead]
    rw [next]
    apply removed_consistent threads h .detached consistent known count (by simp)
      (consistent.ended _ (consistent.threadOf h known).1 dead)
    rintro _ _ ⟨⟩

omit [DecidableEq Address] in
theorem wake_consistent (threads : Threads Address) (by_ h task : Nat)
    (consistent : Consistent threads) (spawned : by_ < threads.spawned) (known : h < threads.created)
    (joining : threads.claims h = .joining by_ task)
    (finished : (threads.tasks task).phase = .finished) :
    Consistent
      ((threads.setTask by_ { threads.tasks by_ with waits := false }).setClaim h .joined) := by
  have own := consistent.awaits h known by_ task joining
  subst own
  have first := consistent_tasks threads by_ { threads.tasks by_ with waits := false } consistent
    rfl rfl (fun _ => rfl) id (consistent.ended by_ spawned)
  generalize moved : threads.setTask by_ { threads.tasks by_ with waits := false } = middle at *
  have claim : middle.claims h = .joining by_ (threads.thread h) := by
    rw [← moved]
    exact joining
  have phase : (middle.tasks (middle.thread h)).phase = .finished := by
    have thread : middle.thread = threads.thread := by rw [← moved]; rfl
    rw [thread, ← moved, Threads.setTask]
    by_cases mine : threads.thread h = by_
    · simpa [mine] using finished
    · simpa [mine] using finished
  have known : h < middle.created := by
    rw [← moved]
    exact known
  have whole : expected (middle.setClaim h .joined) h = expected middle h := by
    simp [expected, Threads.setClaim, claim, Claim.joins]
  apply touches_consistent middle (middle.setClaim h .joined) h first _ known first.unharmed
  · rw [whole]
    exact first.handles h known
  · rw [whole]
    exact first.deletions h known
  · exact fun _ => phase
  · exact fun _ => phase
  · intro joiner task joins
    simp [Threads.setClaim] at joins
  · refine ⟨rfl, rfl, rfl, fun _ _ => rfl, ?_, fun _ _ => rfl, fun _ => rfl, fun _ => rfl,
      fun _ => rfl, fun _ _ => rfl⟩
    intro other different
    simp [Threads.setClaim, different]

omit [DecidableEq Address] in
/-- `~CLibCXXTask` finds its handle alive, and deletes it when the thread is claimed. -/
theorem deleteTask_thread (threads : Threads Address) (h : Nat) (consistent : Consistent threads)
    (known : h < threads.created)
    (life : (threads.tasks (threads.thread h)).alive = true) :
    threads.deleteTask (threads.thread h) =
      if threads.claims h = .unclaimed then
        threads.changed h
          ⟨none, (threads.tasks (threads.thread h)).address, false, false⟩ .unclaimed
          (threads.thread h) { threads.tasks (threads.thread h) with alive := false }
      else threads.removed h (threads.claims h) := by
  have there := consistent.handles h known
  have back := (consistent.threadOf h known).2
  have same := Function.update_eq_self h threads.claims
  simp only [expected, life, ↓reduceIte] at there
  cases claim : threads.claims h <;> rw [claim] at same <;>
    simp [Threads.deleteTask, back, Threads.setTask, there, Threads.setHandle, claim, Claim.joins,
      Threads.deleteHandle, Threads.changed, Threads.removed, same]

omit [DecidableEq Address] in
theorem delete_consistent (threads : Threads Address) (index : Nat)
    (consistent : Consistent threads) (spawned : index < threads.spawned)
    (life : (threads.tasks index).alive = true)
    (finished : (threads.tasks index).phase = .finished) :
    Consistent (threads.deleteTask index) := by
  cases handle : (threads.tasks index).handle with
  | some h =>
      rcases consistent.owners index spawned h handle with ⟨known, rfl⟩
      have count : threads.deletions h = 0 := by
        rw [consistent.deletions h known]
        simp [expected, life]
      rw [deleteTask_thread threads h consistent known life]
      split
      · apply changed_consistent threads h _ _ (threads.thread h)
          { threads.tasks (threads.thread h) with alive := false } consistent known count _ rfl rfl
          rfl fun other => absurd rfl other
        · exact fun _ => finished
        · exact fun _ => finished
        · rintro _ _ ⟨⟩
        · simp [expected, Threads.changed]
      · rename_i claimed
        exact removed_consistent threads h _ consistent known count claimed finished
          (consistent.awaits h known)
  | none =>
      have next : threads.deleteTask index =
          threads.setTask index { threads.tasks index with alive := false } := by
        simp [Threads.deleteTask, handle]
      rw [next]
      exact consistent_tasks threads index _ consistent rfl rfl
        (fun thread => absurd handle thread) id fun _ => finished

theorem step_consistent (threads : Threads Address) (label : Label Address)
    (next : Threads Address) (consistent : Consistent threads)
    (taken : step threads label = some next) : Consistent next := by
  cases label with
  | create by_ address =>
      simp only [step, Option.ite_none_right_eq_some, Option.some.injEq] at taken
      obtain ⟨-, rfl⟩ := taken
      exact create_consistent threads address consistent
  | spawn by_ address =>
      simp only [step, Option.ite_none_right_eq_some, Option.some.injEq] at taken
      obtain ⟨-, rfl⟩ := taken
      exact spawn_consistent threads address consistent
  | advance task =>
      simp only [step, Option.ite_none_right_eq_some, Option.some.injEq] at taken
      obtain ⟨⟨spawned, runs⟩, rfl⟩ := taken
      have life : (threads.tasks task).alive = true := by
        simp only [CTask.runs, Bool.and_eq_true] at runs
        exact runs.1.1
      have kept : ((threads.tasks task).advance.address = (threads.tasks task).address ∧
          (threads.tasks task).advance.handle = (threads.tasks task).handle) ∧
          (threads.tasks task).advance.alive = (threads.tasks task).alive ∧
          ((threads.tasks task).phase = .finished →
            (threads.tasks task).advance.phase = .finished) := by
        unfold CTask.advance
        split <;> simp_all
      apply consistent_tasks threads task _ consistent kept.1.1 kept.1.2 (fun _ => kept.2.1) kept.2.2
      intro dead
      rw [kept.2.1, life] at dead
      cases dead
  | delete task =>
      simp only [step, Option.ite_none_right_eq_some, Option.some.injEq] at taken
      obtain ⟨⟨spawned, life, finished⟩, rfl⟩ := taken
      exact delete_consistent threads task consistent spawned life finished
  | join by_ h =>
      simp only [step, Option.ite_none_right_eq_some, Option.some.injEq] at taken
      obtain ⟨⟨-, -, known, unclaimed⟩, rfl⟩ := taken
      exact join_consistent threads by_ h consistent known unclaimed
  | wake by_ h task =>
      simp only [step, Option.ite_none_right_eq_some, Option.some.injEq] at taken
      obtain ⟨⟨spawned, known, joining, finished⟩, rfl⟩ := taken
      exact wake_consistent threads by_ h task consistent spawned known joining finished
  | detach by_ h =>
      simp only [step, Option.ite_none_right_eq_some, Option.some.injEq] at taken
      obtain ⟨⟨-, -, known, unclaimed⟩, rfl⟩ := taken
      exact detach_consistent threads h consistent known unclaimed

omit [DecidableEq Address] in
theorem initial_consistent (address : Address) : Consistent (initial address) := by
  refine ⟨rfl, ?_, ?_, ?_, ?_, ?_, ?_, ?_, fun _ _ => ⟨rfl, rfl⟩⟩
  · intro h known
    cases known
  · intro h known
    cases known
  · intro h known
    cases known
  · intro task _ h handle
    cases handle
  · intro task _ dead
    cases dead
  · intro h known
    cases known
  · intro h known
    cases known

/-- In every state of every run, for any number of threads and any order of creation,
termination, deletion, join and detach. -/
theorem handles_owned (address : Address) (labels : List (Label Address)) :
    Throughout step Owned (initial address) labels := by
  apply throughout_invariant Consistent Owned consistent_owned step_consistent
  exact initial_consistent address

end CircleStdlib.ThreadHandles
