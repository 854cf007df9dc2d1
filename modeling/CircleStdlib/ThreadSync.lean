import CircleStdlib.Execution
import CircleStdlib.FamilyCount
import Mathlib.Data.Finset.Card

/-!
The synchronisation layer of libs/libcxx-threading: `NonRecursiveMutexImpl` of
mutex_impl.h and the condition variable of condvar.cpp, for any number of
mutexes, condition variables and tasks. Circle's `CSemaphore` is not part of
the repository; it is taken as the counting semaphore its users rely on.
Tasks are switched only where they block, so one label runs a task from one
blocking point to its next. Which blocked task finds the count positive first
is left open: `wake` may pick any of them.
-/

namespace CircleStdlib.ThreadSync

structure CSemaphore where
  count : Nat
  deriving DecidableEq, Repr

def CSemaphore.up (sem : CSemaphore) : CSemaphore := ⟨sem.count + 1⟩

-- `TryDown`, and the step `Down` takes as soon as the count is positive.
def CSemaphore.tryDown (sem : CSemaphore) : Option CSemaphore :=
  match sem.count with
  | 0 => none
  | count + 1 => some ⟨count⟩

structure NonRecursiveMutexImpl where
  locked : Bool
  waiters : Int
  sem : CSemaphore
  deriving DecidableEq, Repr

namespace NonRecursiveMutexImpl

-- The second component is `true` when `Acquire` returns without blocking.
def acquire (impl : NonRecursiveMutexImpl) : NonRecursiveMutexImpl × Bool :=
  if !impl.locked then
    ({ impl with locked := true }, true)
  else
    match impl.sem.tryDown with
    | some sem => ({ impl with waiters := impl.waiters + 1, sem := sem }, true)
    | none => ({ impl with waiters := impl.waiters + 1 }, false)

def tryAcquire (impl : NonRecursiveMutexImpl) : NonRecursiveMutexImpl × Bool :=
  if !impl.locked then ({ impl with locked := true }, true) else (impl, false)

def release (impl : NonRecursiveMutexImpl) : NonRecursiveMutexImpl :=
  if impl.waiters > 0 then
    { impl with waiters := impl.waiters - 1, sem := impl.sem.up }
  else
    { impl with locked := false }

end NonRecursiveMutexImpl

structure CondvarImpl where
  sem : CSemaphore
  waiters : Int
  deriving DecidableEq, Repr

namespace CondvarImpl

def signal (impl : CondvarImpl) : CondvarImpl :=
  if impl.waiters > 0 then
    { sem := impl.sem.up, waiters := impl.waiters - 1 }
  else impl

-- The loop `for (int i = 0; i < n; ++i) impl->sem.Up()` runs not at all for a
-- negative `n`.
def broadcast (impl : CondvarImpl) : CondvarImpl :=
  { sem := CSemaphore.up^[impl.waiters.toNat] impl.sem, waiters := 0 }

end CondvarImpl

def etimedout : Int := 116

/-- Where a task stands. `running` keeps what its last call returned,
`acquiring` what the interrupted call is going to return. `timedOut` is the
window in which the scheduler has made a timed waiter ready and the task has
not yet been given the CPU. -/
inductive Point (Mutex Cond : Type) where
  | running (result : Int)
  | acquiring (mutex : Mutex) (result : Int)
  | waiting (cond : Cond) (mutex : Mutex)
  | timedWaiting (cond : Cond) (mutex : Mutex)
  | timedOut (cond : Cond) (mutex : Mutex)
  deriving DecidableEq

inductive Call (Task Mutex Cond : Type) where
  | lock (task : Task) (mutex : Mutex)
  | trylock (task : Task) (mutex : Mutex)
  | unlock (task : Task) (mutex : Mutex)
  | wait (task : Task) (cond : Cond) (mutex : Mutex)
  | timedwait (task : Task) (cond : Cond) (mutex : Mutex)
  | signal (task : Task) (cond : Cond)
  | broadcast (task : Task) (cond : Cond)
  | wake (task : Task)
  | timeout (task : Task)
  | resume (task : Task)
  deriving DecidableEq

/-- `owners` is not stored by the code: a task owns a mutex from the return of
its `Acquire` or successful `TryAcquire` to its `Release`. -/
structure System (Task Mutex Cond : Type) where
  mutex : Mutex → NonRecursiveMutexImpl
  condvar : Cond → CondvarImpl
  owners : Mutex → Finset Task
  point : Task → Point Mutex Cond

variable {Task Mutex Cond : Type} [DecidableEq Task] [DecidableEq Mutex] [DecidableEq Cond]

omit [DecidableEq Task] [DecidableEq Mutex] [DecidableEq Cond] in
def initial : System Task Mutex Cond :=
  { mutex := fun _ => ⟨false, 0, ⟨0⟩⟩
    condvar := fun _ => ⟨⟨0⟩, 0⟩
    owners := fun _ => ∅
    point := fun _ => .running 0 }

namespace System

def setPoint (sys : System Task Mutex Cond) (task : Task) (point : Point Mutex Cond) :
    System Task Mutex Cond :=
  { sys with point := Function.update sys.point task point }

def setCondvar (sys : System Task Mutex Cond) (cond : Cond) (impl : CondvarImpl) :
    System Task Mutex Cond :=
  { sys with condvar := Function.update sys.condvar cond impl }

def own (sys : System Task Mutex Cond) (task : Task) (mutex : Mutex)
    (impl : NonRecursiveMutexImpl) (result : Int) : System Task Mutex Cond :=
  { sys with
    mutex := Function.update sys.mutex mutex impl
    owners := Function.update sys.owners mutex (insert task (sys.owners mutex))
    point := Function.update sys.point task (.running result) }

-- `mutex->Acquire ()` inside a call that returns `result` afterwards.
def acquire (sys : System Task Mutex Cond) (task : Task) (mutex : Mutex) (result : Int) :
    System Task Mutex Cond :=
  let (impl, returned) := (sys.mutex mutex).acquire
  if returned then sys.own task mutex impl result
  else
    { sys with
      mutex := Function.update sys.mutex mutex impl
      point := Function.update sys.point task (.acquiring mutex result) }

def release (sys : System Task Mutex Cond) (task : Task) (mutex : Mutex) :
    System Task Mutex Cond :=
  { sys with
    mutex := Function.update sys.mutex mutex (sys.mutex mutex).release
    owners := Function.update sys.owners mutex ((sys.owners mutex).erase task) }

-- `__libcpp_condvar_wait` and `__libcpp_condvar_timedwait` up to the return
-- of `Down` or to blocking in it; `blocked` is the point of the blocked task.
def beginWait (sys : System Task Mutex Cond) (task : Task) (cond : Cond) (mutex : Mutex)
    (blocked : Point Mutex Cond) : System Task Mutex Cond :=
  let impl := sys.condvar cond
  let counted := { impl with waiters := impl.waiters + 1 }
  let released := (sys.setCondvar cond counted).release task mutex
  match counted.sem.tryDown with
  | some sem => (released.setCondvar cond { counted with sem := sem }).acquire task mutex 0
  | none => released.setPoint task blocked

def endWait (sys : System Task Mutex Cond) (task : Task) (cond : Cond) (mutex : Mutex) :
    Option (System Task Mutex Cond) :=
  let impl := sys.condvar cond
  impl.sem.tryDown.map fun sem =>
    (sys.setCondvar cond { impl with sem := sem }).acquire task mutex 0

-- The code after `DownWithTimeout` returned `TRUE`: the `TryDown` guard.
def resumeTimedOut (sys : System Task Mutex Cond) (task : Task) (cond : Cond)
    (mutex : Mutex) : System Task Mutex Cond :=
  let impl := sys.condvar cond
  match impl.sem.tryDown with
  | some sem => (sys.setCondvar cond { impl with sem := sem }).acquire task mutex 0
  | none =>
      (sys.setCondvar cond { impl with waiters := impl.waiters - 1 }).acquire task mutex etimedout

def isRunning (sys : System Task Mutex Cond) (task : Task) : Bool :=
  match sys.point task with
  | .running _ => true
  | _ => false

end System

-- One task runs from a blocking point to its next. `Release` is called only
-- by the owner; a blocked task takes no other step.
def step (sys : System Task Mutex Cond) : Call Task Mutex Cond → Option (System Task Mutex Cond)
  | .lock task mutex =>
      if sys.isRunning task then some (sys.acquire task mutex 0) else none
  | .trylock task mutex =>
      if sys.isRunning task then
        let (impl, taken) := (sys.mutex mutex).tryAcquire
        if taken then some (sys.own task mutex impl 1)
        else some (sys.setPoint task (.running 0))
      else none
  | .unlock task mutex =>
      if sys.isRunning task ∧ task ∈ sys.owners mutex then
        some ((sys.release task mutex).setPoint task (.running 0))
      else none
  | .wait task cond mutex =>
      if sys.isRunning task ∧ task ∈ sys.owners mutex then
        some (sys.beginWait task cond mutex (.waiting cond mutex))
      else none
  | .timedwait task cond mutex =>
      if sys.isRunning task ∧ task ∈ sys.owners mutex then
        some (sys.beginWait task cond mutex (.timedWaiting cond mutex))
      else none
  | .signal task cond =>
      if sys.isRunning task then
        some ((sys.setCondvar cond (sys.condvar cond).signal).setPoint task (.running 0))
      else none
  | .broadcast task cond =>
      if sys.isRunning task then
        some ((sys.setCondvar cond (sys.condvar cond).broadcast).setPoint task (.running 0))
      else none
  | .wake task =>
      match sys.point task with
      | .acquiring mutex result =>
          (sys.mutex mutex).sem.tryDown.map fun sem =>
            sys.own task mutex { sys.mutex mutex with sem := sem } result
      | .waiting cond mutex => sys.endWait task cond mutex
      | .timedWaiting cond mutex => sys.endWait task cond mutex
      | _ => none
  | .timeout task =>
      match sys.point task with
      | .timedWaiting cond mutex => some (sys.setPoint task (.timedOut cond mutex))
      | _ => none
  | .resume task =>
      match sys.point task with
      | .timedOut cond mutex => some (sys.resumeTimedOut task cond mutex)
      | _ => none

inductive Progress (sys : System Task Mutex Cond) :
    Call Task Mutex Cond → System Task Mutex Cond → Prop where
  | lock (task : Task) (mutex : Mutex) (running : sys.isRunning task = true) :
      Progress sys (.lock task mutex) (sys.acquire task mutex 0)
  | gained (task : Task) (mutex : Mutex) (impl : NonRecursiveMutexImpl)
      (running : sys.isRunning task = true)
      (outcome : (sys.mutex mutex).tryAcquire = (impl, true)) :
      Progress sys (.trylock task mutex) (sys.own task mutex impl 1)
  | refused (task : Task) (mutex : Mutex) (running : sys.isRunning task = true) :
      Progress sys (.trylock task mutex) (sys.setPoint task (.running 0))
  | unlock (task : Task) (mutex : Mutex) (running : sys.isRunning task = true)
      (owned : task ∈ sys.owners mutex) :
      Progress sys (.unlock task mutex) ((sys.release task mutex).setPoint task (.running 0))
  | wait (task : Task) (cond : Cond) (mutex : Mutex) (running : sys.isRunning task = true)
      (owned : task ∈ sys.owners mutex) :
      Progress sys (.wait task cond mutex) (sys.beginWait task cond mutex (.waiting cond mutex))
  | timedwait (task : Task) (cond : Cond) (mutex : Mutex) (running : sys.isRunning task = true)
      (owned : task ∈ sys.owners mutex) :
      Progress sys (.timedwait task cond mutex)
        (sys.beginWait task cond mutex (.timedWaiting cond mutex))
  | signal (task : Task) (cond : Cond) (running : sys.isRunning task = true) :
      Progress sys (.signal task cond)
        ((sys.setCondvar cond (sys.condvar cond).signal).setPoint task (.running 0))
  | broadcast (task : Task) (cond : Cond) (running : sys.isRunning task = true) :
      Progress sys (.broadcast task cond)
        ((sys.setCondvar cond (sys.condvar cond).broadcast).setPoint task (.running 0))
  | acquired (task : Task) (mutex : Mutex) (result : Int) (sem : CSemaphore)
      (place : sys.point task = .acquiring mutex result)
      (down : (sys.mutex mutex).sem.tryDown = some sem) :
      Progress sys (.wake task) (sys.own task mutex { sys.mutex mutex with sem := sem } result)
  | woken (task : Task) (cond : Cond) (mutex : Mutex) (next : System Task Mutex Cond)
      (place : sys.point task = .waiting cond mutex ∨ sys.point task = .timedWaiting cond mutex)
      (ends : sys.endWait task cond mutex = some next) : Progress sys (.wake task) next
  | timeout (task : Task) (cond : Cond) (mutex : Mutex)
      (place : sys.point task = .timedWaiting cond mutex) :
      Progress sys (.timeout task) (sys.setPoint task (.timedOut cond mutex))
  | resume (task : Task) (cond : Cond) (mutex : Mutex)
      (place : sys.point task = .timedOut cond mutex) :
      Progress sys (.resume task) (sys.resumeTimedOut task cond mutex)

theorem step_progress (sys next : System Task Mutex Cond) (call : Call Task Mutex Cond)
    (taken : step sys call = some next) : Progress sys call next := by
  cases call with
  | lock task mutex =>
      simp only [step, Option.ite_none_right_eq_some, Option.some.injEq] at taken
      obtain ⟨running, rfl⟩ := taken
      exact .lock task mutex running
  | trylock task mutex =>
      simp only [step, Option.ite_none_right_eq_some] at taken
      obtain ⟨running, taken⟩ := taken
      cases outcome : (sys.mutex mutex).tryAcquire with
      | mk impl got =>
          cases got with
          | true =>
              simp only [outcome, ↓reduceIte, Option.some.injEq] at taken
              exact taken ▸ .gained task mutex impl running outcome
          | false =>
              simp only [outcome, Bool.false_eq_true, ↓reduceIte, Option.some.injEq] at taken
              exact taken ▸ .refused task mutex running
  | unlock task mutex =>
      simp only [step, Option.ite_none_right_eq_some, Option.some.injEq] at taken
      obtain ⟨⟨running, owned⟩, rfl⟩ := taken
      exact .unlock task mutex running owned
  | wait task cond mutex =>
      simp only [step, Option.ite_none_right_eq_some, Option.some.injEq] at taken
      obtain ⟨⟨running, owned⟩, rfl⟩ := taken
      exact .wait task cond mutex running owned
  | timedwait task cond mutex =>
      simp only [step, Option.ite_none_right_eq_some, Option.some.injEq] at taken
      obtain ⟨⟨running, owned⟩, rfl⟩ := taken
      exact .timedwait task cond mutex running owned
  | signal task cond =>
      simp only [step, Option.ite_none_right_eq_some, Option.some.injEq] at taken
      obtain ⟨running, rfl⟩ := taken
      exact .signal task cond running
  | broadcast task cond =>
      simp only [step, Option.ite_none_right_eq_some, Option.some.injEq] at taken
      obtain ⟨running, rfl⟩ := taken
      exact .broadcast task cond running
  | wake task =>
      simp only [step] at taken
      cases place : sys.point task with
      | acquiring mutex result =>
          simp only [place, Option.map_eq_some_iff] at taken
          obtain ⟨sem, down, rfl⟩ := taken
          exact .acquired task mutex result sem place down
      | waiting cond mutex =>
          simp only [place] at taken
          exact .woken task cond mutex next (.inl place) taken
      | timedWaiting cond mutex =>
          simp only [place] at taken
          exact .woken task cond mutex next (.inr place) taken
      | running result => simp [place] at taken
      | timedOut cond mutex => simp [place] at taken
  | timeout task =>
      simp only [step] at taken
      cases place : sys.point task <;> simp only [place, Option.some.injEq, reduceCtorEq] at taken
      subst taken
      exact .timeout task _ _ place
  | resume task =>
      simp only [step] at taken
      cases place : sys.point task <;> simp only [place, Option.some.injEq, reduceCtorEq] at taken
      subst taken
      exact .resume task _ _ place

end CircleStdlib.ThreadSync
