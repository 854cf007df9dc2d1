import CircleStdlib.MutexHandover

/-!
The waiter count of condvar.cpp. A signaller decrements `waiters` on behalf of
the task it wakes, a task whose timeout is genuine decrements it itself, and
the `TryDown` guard decides which of the two happened. The balance counts the
tasks that have incremented `waiters` and have neither taken a token nor
finished a genuine timeout: those standing in `Down`, in `DownWithTimeout`, or
between the expiry of the timeout and the guard.
-/

namespace CircleStdlib.CondvarAccounting

open ThreadSync FamilyCount MutexHandover

structure CondAccount (impl : CondvarImpl) (waiting : Nat) : Prop where
  nonneg : 0 ≤ impl.waiters
  total : impl.waiters + impl.sem.count = waiting

theorem up_iterate_count (times : Nat) (sem : CSemaphore) :
    (CSemaphore.up^[times] sem).count = sem.count + times := by
  induction times generalizing sem with
  | zero => rfl
  | succ times ih =>
      rw [Function.iterate_succ_apply, ih]
      simp only [CSemaphore.up]
      omega

theorem signal_account (impl : CondvarImpl) (waiting : Nat)
    (account : CondAccount impl waiting) : CondAccount impl.signal waiting := by
  obtain ⟨nonneg, total⟩ := account
  unfold CondvarImpl.signal CSemaphore.up
  by_cases some_wait : impl.waiters > 0
  · simp only [some_wait, ↓reduceIte]
    constructor <;> simp <;> omega
  · simp only [some_wait, ↓reduceIte]
    exact ⟨nonneg, total⟩

theorem broadcast_account (impl : CondvarImpl) (waiting : Nat)
    (account : CondAccount impl waiting) : CondAccount impl.broadcast waiting := by
  obtain ⟨nonneg, total⟩ := account
  constructor
  · exact Int.le_refl 0
  · simp only [CondvarImpl.broadcast, up_iterate_count]
    push_cast
    omega

-- `++waiters`, then `Down` finds a token that was there before: the arrival and
-- the departure cancel, whoever the token was meant for.
theorem arrive_and_take (impl : CondvarImpl) (sem : CSemaphore) (waiting : Nat)
    (account : CondAccount impl waiting) (taken : impl.sem.tryDown = some sem) :
    CondAccount { sem := sem, waiters := impl.waiters + 1 } waiting := by
  obtain ⟨nonneg, total⟩ := account
  have count := tryDown_some _ _ taken
  constructor <;> simp <;> omega

theorem arrive_and_block (impl : CondvarImpl) (waiting : Nat)
    (account : CondAccount impl waiting) :
    CondAccount { impl with waiters := impl.waiters + 1 } (waiting + 1) := by
  obtain ⟨nonneg, total⟩ := account
  constructor <;> simp <;> omega

theorem waiter_takes (impl : CondvarImpl) (sem : CSemaphore) (others : Nat)
    (account : CondAccount impl (others + 1)) (taken : impl.sem.tryDown = some sem) :
    CondAccount { impl with sem := sem } others := by
  obtain ⟨nonneg, total⟩ := account
  have count := tryDown_some _ _ taken
  constructor <;> simp <;> omega

-- The guard found no token, so no signaller has spoken for this task and the
-- count it decrements is still its own.
theorem waiter_expires (impl : CondvarImpl) (others : Nat)
    (account : CondAccount impl (others + 1)) (empty : impl.sem.tryDown = none) :
    CondAccount { impl with waiters := impl.waiters - 1 } others := by
  obtain ⟨nonneg, total⟩ := account
  have count := tryDown_none _ empty
  constructor <;> simp <;> omega

section Tasks
variable {Task Mutex Cond : Type} [DecidableEq Task] [DecidableEq Mutex] [DecidableEq Cond]

omit [DecidableEq Task] [DecidableEq Mutex] in
def waitsOn (cond : Cond) : Point Mutex Cond → Bool
  | .waiting other _ | .timedWaiting other _ | .timedOut other _ => decide (other = cond)
  | _ => false

/-- Whatever `Acquire` does, it leaves the condition variables alone and puts
its task at a point where it waits for none of them. -/
theorem acquire_leaves (sys : System Task Mutex Cond) (task : Task) (mutex : Mutex)
    (result : Int) :
    (sys.acquire task mutex result).condvar = sys.condvar ∧
      ∃ point, (sys.acquire task mutex result).point = Function.update sys.point task point ∧
        ∀ cond, waitsOn cond point = false := by
  unfold System.acquire
  cases (sys.mutex mutex).acquire with
  | mk impl returned =>
      cases returned with
      | true => exact ⟨rfl, .running result, rfl, fun _ => rfl⟩
      | false => exact ⟨rfl, .acquiring mutex result, rfl, fun _ => rfl⟩

variable [Fintype Task]

def waitersOn (sys : System Task Mutex Cond) (cond : Cond) : Nat :=
  countWhere (waitsOn cond) sys.point

def Accounted (sys : System Task Mutex Cond) : Prop :=
  ∀ cond, CondAccount (sys.condvar cond) (waitersOn sys cond)

omit [DecidableEq Task] [DecidableEq Mutex] in
theorem initial_accounted : Accounted (initial : System Task Mutex Cond) := by
  intro cond
  have nobody : waitersOn (initial : System Task Mutex Cond) cond = 0 :=
    (count_zero_iff _ _).mpr fun _ => rfl
  rw [nobody]
  exact ⟨Int.le_refl 0, rfl⟩

omit [DecidableEq Mutex] in
/-- One condition variable and one task's point change together; `impl` must
match what the new point does to the number of waiters on `cond`, and the task
must not wait anywhere else. -/
theorem accounted_of_parts (sys next : System Task Mutex Cond) (task : Task) (cond : Cond)
    (impl : CondvarImpl) (point : Point Mutex Cond) (accounted : Accounted sys)
    (condvars : next.condvar = Function.update sys.condvar cond impl)
    (points : next.point = Function.update sys.point task point)
    (elsewhere : ∀ other, other ≠ cond →
      waitsOn other (sys.point task) = false ∧ waitsOn other point = false)
    (balance : ∀ waiting, CondAccount (sys.condvar cond)
        (waiting + (waitsOn cond (sys.point task)).toNat) →
      CondAccount impl (waiting + (waitsOn cond point).toNat)) : Accounted next := by
  intro other
  have moved := count_update (waitsOn other) sys.point task point
  rw [← points] at moved
  change waitersOn next other + _ = waitersOn sys other + _ at moved
  by_cases same : other = cond
  · subst same
    rw [condvars, Function.update_self]
    have enough : (waitsOn other (sys.point task)).toNat ≤ waitersOn sys other := by
      cases waits : waitsOn other (sys.point task) with
      | false => exact Nat.zero_le _
      | true => exact count_pos (waitsOn other) sys.point task waits
    have before : CondAccount (sys.condvar other)
        (waitersOn sys other - (waitsOn other (sys.point task)).toNat +
          (waitsOn other (sys.point task)).toNat) := by
      rw [Nat.sub_add_cancel enough]
      exact accounted other
    have after := balance _ before
    have count : waitersOn next other =
        waitersOn sys other - (waitsOn other (sys.point task)).toNat +
          (waitsOn other point).toNat := by omega
    rw [count]
    exact after
  · obtain ⟨before, after⟩ := elsewhere other same
    rw [before, after] at moved
    simp only [Bool.toNat_false, Nat.add_zero] at moved
    rw [condvars, Function.update_of_ne same, moved]
    exact accounted other

theorem acquire_accounted (sys : System Task Mutex Cond) (task : Task) (mutex : Mutex)
    (result : Int) (cond : Cond) (impl : CondvarImpl) (accounted : Accounted sys)
    (elsewhere : ∀ other, other ≠ cond → waitsOn other (sys.point task) = false)
    (balance : ∀ waiting, CondAccount (sys.condvar cond)
        (waiting + (waitsOn cond (sys.point task)).toNat) → CondAccount impl waiting) :
    Accounted ((sys.setCondvar cond impl).acquire task mutex result) := by
  obtain ⟨condvars, point, points, nowhere⟩ :=
    acquire_leaves (sys.setCondvar cond impl) task mutex result
  refine accounted_of_parts sys _ task cond impl point accounted condvars points
    (fun other different => ⟨elsewhere other different, nowhere other⟩) ?_
  intro waiting before
  rw [nowhere cond]
  exact balance waiting before

omit [DecidableEq Mutex] in
theorem accounted_of_points (sys next : System Task Mutex Cond) (task : Task)
    (point : Point Mutex Cond) (accounted : Accounted sys)
    (condvars : next.condvar = sys.condvar)
    (points : next.point = Function.update sys.point task point)
    (same : ∀ cond, waitsOn cond point = waitsOn cond (sys.point task)) : Accounted next := by
  intro cond
  have count : waitersOn next cond = waitersOn sys cond := by
    unfold waitersOn
    rw [points]
    exact count_update_same _ _ _ _ (same cond)
  rw [condvars, count]
  exact accounted cond

omit [DecidableEq Task] [DecidableEq Mutex] [Fintype Task] in
theorem running_waits_nowhere (sys : System Task Mutex Cond) (task : Task)
    (running : sys.isRunning task = true) (cond : Cond) :
    waitsOn cond (sys.point task) = false := by
  unfold System.isRunning at running
  cases place : sys.point task <;> simp [place, waitsOn] at running ⊢

theorem beginWait_accounted (sys : System Task Mutex Cond) (task : Task) (cond : Cond)
    (mutex : Mutex) (blocked : Point Mutex Cond) (accounted : Accounted sys)
    (nowhere : ∀ other, waitsOn other (sys.point task) = false)
    (waits : ∀ other, waitsOn other blocked = decide (cond = other)) :
    Accounted (sys.beginWait task cond mutex blocked) := by
  unfold System.beginWait
  cases taken : (sys.condvar cond).sem.tryDown with
  | none =>
      simp only [taken]
      refine accounted_of_parts sys _ task cond _ blocked accounted rfl rfl ?_ ?_
      · intro other different
        exact ⟨nowhere other, by rw [waits other]; simp [Ne.symm different]⟩
      · intro waiting before
        rw [nowhere cond] at before
        rw [waits cond]
        simpa using arrive_and_block _ waiting before
  | some sem =>
      simp only [taken]
      obtain ⟨condvars, point, points, left⟩ := acquire_leaves
        (((sys.setCondvar cond { sys.condvar cond with
          waiters := (sys.condvar cond).waiters + 1 }).release task mutex).setCondvar cond
          { sem := sem, waiters := (sys.condvar cond).waiters + 1 }) task mutex 0
      refine accounted_of_parts sys _ task cond _ point accounted
        (condvars.trans (Function.update_idem _ _ _)) points ?_ ?_
      · intro other _
        exact ⟨nowhere other, left other⟩
      · intro waiting before
        rw [nowhere cond] at before
        rw [left cond]
        exact arrive_and_take _ sem waiting before taken

theorem endWait_accounted (sys next : System Task Mutex Cond) (task : Task) (cond : Cond)
    (mutex : Mutex) (accounted : Accounted sys)
    (waits : ∀ other, waitsOn other (sys.point task) = decide (cond = other))
    (taken : sys.endWait task cond mutex = some next) : Accounted next := by
  simp only [System.endWait, Option.map_eq_some_iff] at taken
  obtain ⟨sem, down, rfl⟩ := taken
  refine acquire_accounted sys task mutex 0 cond _ accounted ?_ ?_
  · intro other different
    rw [waits other]
    simp [Ne.symm different]
  · intro waiting before
    rw [waits cond] at before
    exact waiter_takes _ sem waiting (by simpa using before) down

theorem resume_accounted (sys : System Task Mutex Cond) (task : Task) (cond : Cond)
    (mutex : Mutex) (accounted : Accounted sys)
    (waits : ∀ other, waitsOn other (sys.point task) = decide (cond = other)) :
    Accounted (sys.resumeTimedOut task cond mutex) := by
  have elsewhere : ∀ other, other ≠ cond → waitsOn other (sys.point task) = false := by
    intro other different
    rw [waits other]
    simp [Ne.symm different]
  unfold System.resumeTimedOut
  cases taken : (sys.condvar cond).sem.tryDown with
  | some sem =>
      simp only [taken]
      refine acquire_accounted sys task mutex 0 cond _ accounted elsewhere ?_
      intro waiting before
      rw [waits cond] at before
      exact waiter_takes _ sem waiting (by simpa using before) taken
  | none =>
      simp only [taken]
      refine acquire_accounted sys task mutex etimedout cond _ accounted elsewhere ?_
      intro waiting before
      rw [waits cond] at before
      exact waiter_expires _ waiting (by simpa using before) taken

omit [DecidableEq Mutex] in
/-- Signal and broadcast, by a running task, with what they do to the condition
variable kept abstract. -/
theorem post_accounted (sys : System Task Mutex Cond) (task : Task) (cond : Cond)
    (impl : CondvarImpl) (accounted : Accounted sys)
    (nowhere : ∀ other, waitsOn other (sys.point task) = false)
    (posts : ∀ waiting, CondAccount (sys.condvar cond) waiting → CondAccount impl waiting) :
    Accounted ((sys.setCondvar cond impl).setPoint task (.running 0)) := by
  refine accounted_of_parts sys _ task cond impl (.running 0) accounted rfl rfl ?_ ?_
  · intro other _
    exact ⟨nowhere other, rfl⟩
  · intro waiting before
    rw [nowhere cond] at before
    exact posts waiting before

theorem step_accounted (sys next : System Task Mutex Cond) (call : Call Task Mutex Cond)
    (accounted : Accounted sys) (taken : step sys call = some next) : Accounted next := by
  cases step_progress sys next call taken with
  | lock task mutex running =>
      obtain ⟨condvars, point, points, left⟩ := acquire_leaves sys task mutex 0
      refine accounted_of_points sys _ task point accounted condvars points fun cond => ?_
      rw [left cond, running_waits_nowhere sys task running cond]
  | gained task mutex impl running outcome =>
      exact accounted_of_points sys _ task (.running 1) accounted rfl rfl
        fun cond => (running_waits_nowhere sys task running cond).symm
  | refused task mutex running =>
      exact accounted_of_points sys _ task (.running 0) accounted rfl rfl
        fun cond => (running_waits_nowhere sys task running cond).symm
  | unlock task mutex running owned =>
      exact accounted_of_points sys _ task (.running 0) accounted rfl rfl
        fun cond => (running_waits_nowhere sys task running cond).symm
  | wait task cond mutex running owned =>
      exact beginWait_accounted sys task cond mutex _ accounted
        (running_waits_nowhere sys task running) fun _ => rfl
  | timedwait task cond mutex running owned =>
      exact beginWait_accounted sys task cond mutex _ accounted
        (running_waits_nowhere sys task running) fun _ => rfl
  | signal task cond running =>
      exact post_accounted sys task cond _ accounted
        (running_waits_nowhere sys task running) (signal_account _)
  | broadcast task cond running =>
      exact post_accounted sys task cond _ accounted
        (running_waits_nowhere sys task running) (broadcast_account _)
  | acquired task mutex result sem place down =>
      exact accounted_of_points sys _ task (.running result) accounted rfl rfl
        fun cond => by rw [place]; rfl
  | woken task cond mutex _ place ends =>
      apply endWait_accounted sys next task cond mutex accounted ?_ ends
      intro other
      rcases place with place | place <;> rw [place] <;> rfl
  | timeout task cond mutex place =>
      exact accounted_of_points sys _ task _ accounted rfl rfl fun cond => by rw [place]; rfl
  | resume task cond mutex place =>
      exact resume_accounted sys task _ _ accounted fun other => by rw [place]; rfl

theorem reachable_accounted (calls : List (Call Task Mutex Cond))
    (sys : System Task Mutex Cond) (reached : Execution.run step initial calls = some sys) :
    Accounted sys :=
  Execution.run_invariant Accounted
    (fun state call next => step_accounted state next call) initial sys calls
    initial_accounted reached

/-- The accounting of a condition variable in every reachable state. A negative
`waiters` would be the trace of a double decrement, a positive count with
nobody waiting an orphaned wakeup. -/
theorem condvar_accounting (calls : List (Call Task Mutex Cond))
    (sys : System Task Mutex Cond) (reached : Execution.run step initial calls = some sys)
    (cond : Cond) :
    0 ≤ (sys.condvar cond).waiters ∧
    (sys.condvar cond).waiters + (sys.condvar cond).sem.count = waitersOn sys cond ∧
    ((∀ task, waitsOn cond (sys.point task) = false) →
      (sys.condvar cond).waiters = 0 ∧ (sys.condvar cond).sem.count = 0) := by
  obtain ⟨nonneg, total⟩ := reachable_accounted calls sys reached cond
  refine ⟨nonneg, total, fun nobody => ?_⟩
  have empty : waitersOn sys cond = 0 := (count_zero_iff _ _).mpr nobody
  omega

end Tasks

def racingSignal : List (Call (Fin 2) Unit Unit) :=
  [.lock 0 (), .timedwait 0 () (), .timeout 0, .signal 1 (), .resume 0]

theorem racingSignal_accounted :
    ∃ sys, Execution.run step initial racingSignal = some sys ∧
      sys.point 0 = .running 0 ∧
      (sys.condvar ()).waiters = 0 ∧ (sys.condvar ()).sem.count = 0 :=
  ⟨(Execution.run step initial racingSignal).get rfl, (Option.some_get _).symm, rfl,
    (condvar_accounting racingSignal _ (Option.some_get _).symm ()).2.2 (by decide)⟩

end CircleStdlib.CondvarAccounting
