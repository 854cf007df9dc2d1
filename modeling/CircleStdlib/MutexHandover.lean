import CircleStdlib.ThreadSync

/-!
Ownership of `NonRecursiveMutexImpl`. `Release` with a waiter leaves `m_locked`
set and posts a token; whoever finds the token, the intended waiter or a third
task passing through `Acquire`, becomes the owner. The invariant therefore
balances owners, tokens and blocked tasks and never names the intended waiter.
-/

namespace CircleStdlib.MutexHandover

open ThreadSync FamilyCount

/-- The balance of one mutex with `owners` owners and `acquirers` tasks blocked
in `Acquire`. A token in the semaphore stands for an ownership in transit. -/
structure Account (impl : NonRecursiveMutexImpl) (owners acquirers : Nat) : Prop where
  single : owners + impl.sem.count ≤ 1
  blocked : impl.waiters + impl.sem.count = acquirers
  nonneg : 0 ≤ impl.waiters
  free_iff : impl.locked = false ↔ owners = 0 ∧ impl.sem.count = 0
  free_alone : impl.locked = false → impl.waiters = 0

theorem tryDown_some (sem next : CSemaphore) (taken : sem.tryDown = some next) :
    sem.count = next.count + 1 := by
  obtain ⟨count⟩ := sem
  cases count with
  | zero => simp [CSemaphore.tryDown] at taken
  | succ count =>
      simp only [CSemaphore.tryDown, Option.some.injEq] at taken
      subst taken
      rfl

theorem tryDown_none (sem : CSemaphore) (empty : sem.tryDown = none) : sem.count = 0 := by
  obtain ⟨count⟩ := sem
  cases count with
  | zero => rfl
  | succ count => simp [CSemaphore.tryDown] at empty

theorem zero_account : Account ⟨false, 0, ⟨0⟩⟩ 0 0 := by
  constructor <;> simp

-- A caller that gets through takes either the free mutex or the one token in
-- transit: in both cases nobody owned it.
theorem acquire_returned (impl next : NonRecursiveMutexImpl) (owners acquirers : Nat)
    (account : Account impl owners acquirers) (result : impl.acquire = (next, true)) :
    owners = 0 ∧ Account next 1 acquirers := by
  obtain ⟨single, blocked, nonneg, free, alone⟩ := account
  unfold NonRecursiveMutexImpl.acquire at result
  cases state : impl.locked with
  | false =>
      have vacant := free.mp state
      have none_waits := alone state
      simp only [state, Bool.not_false, ↓reduceIte, Prod.mk.injEq, and_true] at result
      subst result
      refine ⟨vacant.1, ?_, ?_, ?_, ?_, ?_⟩ <;> simp <;> omega
  | true =>
      simp only [state, Bool.not_true, Bool.false_eq_true, ↓reduceIte] at result
      cases taken : impl.sem.tryDown with
      | none => simp [taken] at result
      | some sem =>
          have count := tryDown_some _ _ taken
          simp only [taken, Prod.mk.injEq, and_true] at result
          subst result
          refine ⟨by omega, ?_, ?_, ?_, ?_, ?_⟩ <;> simp <;> omega

theorem acquire_blocked (impl next : NonRecursiveMutexImpl) (owners acquirers : Nat)
    (account : Account impl owners acquirers) (result : impl.acquire = (next, false)) :
    Account next owners (acquirers + 1) := by
  obtain ⟨single, blocked, nonneg, free, alone⟩ := account
  unfold NonRecursiveMutexImpl.acquire at result
  cases state : impl.locked with
  | false => simp [state] at result
  | true =>
      simp only [state, Bool.not_true, Bool.false_eq_true, ↓reduceIte] at result
      cases taken : impl.sem.tryDown with
      | some sem => simp [taken] at result
      | none =>
          simp only [taken, Prod.mk.injEq, and_true] at result
          subst result
          have occupied : ¬ (owners = 0 ∧ impl.sem.count = 0) := by
            rw [← free, state]
            simp
          refine ⟨single, ?_, ?_, ?_, ?_⟩ <;> simp <;> omega

theorem tryAcquire_taken (impl next : NonRecursiveMutexImpl) (owners acquirers : Nat)
    (account : Account impl owners acquirers) (result : impl.tryAcquire = (next, true)) :
    owners = 0 ∧ Account next 1 acquirers := by
  apply acquire_returned impl next owners acquirers account
  cases state : impl.locked with
  | false => simpa [NonRecursiveMutexImpl.tryAcquire, NonRecursiveMutexImpl.acquire, state]
      using result
  | true => simp [NonRecursiveMutexImpl.tryAcquire, state] at result

theorem token_taken (impl : NonRecursiveMutexImpl) (sem : CSemaphore) (owners acquirers : Nat)
    (account : Account impl owners acquirers) (taken : impl.sem.tryDown = some sem) :
    owners = 0 ∧ ∃ others, acquirers = others + 1 ∧
      Account { impl with sem := sem } 1 others := by
  obtain ⟨single, blocked, nonneg, free, alone⟩ := account
  have count := tryDown_some _ _ taken
  have held : impl.locked = true := by
    cases state : impl.locked with
    | true => rfl
    | false =>
        have vacant := free.mp state
        omega
  refine ⟨by omega, acquirers - 1, by omega, ?_, ?_, nonneg, ?_, ?_⟩ <;> simp [held] <;> omega

theorem release_owned (impl : NonRecursiveMutexImpl) (acquirers : Nat)
    (account : Account impl 1 acquirers) : Account impl.release 0 acquirers := by
  obtain ⟨single, blocked, nonneg, free, alone⟩ := account
  have held : impl.locked = true := by
    cases state : impl.locked with
    | true => rfl
    | false =>
        have vacant := free.mp state
        omega
  unfold NonRecursiveMutexImpl.release CSemaphore.up
  by_cases waiting : impl.waiters > 0
  · simp only [waiting, ↓reduceIte]
    refine ⟨?_, ?_, ?_, ?_, ?_⟩ <;> simp [held] <;> omega
  · simp only [waiting, ↓reduceIte]
    refine ⟨?_, blocked, nonneg, ?_, ?_⟩ <;> simp <;> omega

/-! The same steps inside the system: which mutex, which task, and everything
that is left alone. -/
section Tasks
variable {Task Mutex Cond : Type} [DecidableEq Task] [DecidableEq Mutex] [DecidableEq Cond]
variable [Fintype Task]

omit [DecidableEq Task] [DecidableEq Cond] [Fintype Task] in
def acquires (mutex : Mutex) : Point Mutex Cond → Bool
  | .acquiring other _ => decide (other = mutex)
  | _ => false

def acquirers (sys : System Task Mutex Cond) (mutex : Mutex) : Nat :=
  countWhere (acquires mutex) sys.point

def Balanced (sys : System Task Mutex Cond) : Prop :=
  ∀ mutex, Account (sys.mutex mutex) (sys.owners mutex).card (acquirers sys mutex)

omit [DecidableEq Task] [DecidableEq Cond] in
theorem initial_balanced : Balanced (initial : System Task Mutex Cond) := by
  intro mutex
  have nobody : acquirers (initial : System Task Mutex Cond) mutex = 0 :=
    (count_zero_iff _ _).mpr fun _ => rfl
  rw [nobody]
  exact zero_account

omit [DecidableEq Cond] in
/-- Moving a task between two points outside `Acquire` changes no account. -/
theorem setPoint_balanced (sys : System Task Mutex Cond) (task : Task)
    (point : Point Mutex Cond) (balanced : Balanced sys)
    (before : ∀ mutex, acquires mutex (sys.point task) = false)
    (after : ∀ mutex, acquires mutex point = false) : Balanced (sys.setPoint task point) := by
  intro mutex
  have same : acquirers (sys.setPoint task point) mutex = acquirers sys mutex :=
    count_update_same _ _ _ _ (by rw [before mutex, after mutex])
  rw [same]
  exact balanced mutex

omit [DecidableEq Task] in
theorem setCondvar_balanced (sys : System Task Mutex Cond) (cond : Cond) (impl : CondvarImpl)
    (balanced : Balanced sys) : Balanced (sys.setCondvar cond impl) := balanced

omit [DecidableEq Cond] in
theorem own_balanced (sys : System Task Mutex Cond) (task : Task) (mutex : Mutex)
    (impl : NonRecursiveMutexImpl) (result : Int) (balanced : Balanced sys)
    (others : ∀ other, other ≠ mutex → acquires other (sys.point task) = false)
    (vacant : (sys.owners mutex).card = 0)
    (account : Account impl 1 (acquirers (sys.setPoint task (.running result)) mutex)) :
    Balanced (sys.own task mutex impl result) := by
  intro other
  by_cases same : other = mutex
  · subst same
    have empty : sys.owners other = ∅ := Finset.card_eq_zero.mp vacant
    have owned : ((sys.own task other impl result).owners other).card = 1 := by
      simp [System.own, empty]
    have held : (sys.own task other impl result).mutex other = impl := by simp [System.own]
    rw [owned, held]
    exact account
  · have count : acquirers (sys.own task mutex impl result) other = acquirers sys other :=
      count_update_same _ _ _ _ (by rw [others other same]; rfl)
    have kept : (sys.own task mutex impl result).owners other = sys.owners other := by
      simp [System.own, same]
    have held : (sys.own task mutex impl result).mutex other = sys.mutex other := by
      simp [System.own, same]
    rw [count, kept, held]
    exact balanced other

omit [DecidableEq Cond] in
theorem acquire_balanced (sys : System Task Mutex Cond) (task : Task) (mutex : Mutex)
    (result : Int) (balanced : Balanced sys)
    (outside : ∀ other, acquires other (sys.point task) = false) :
    Balanced (sys.acquire task mutex result) := by
  unfold System.acquire
  cases outcome : (sys.mutex mutex).acquire with
  | mk impl returned =>
      cases returned with
      | true =>
          obtain ⟨vacant, account⟩ := acquire_returned _ _ _ _ (balanced mutex) outcome
          have same : acquirers (sys.setPoint task (.running result)) mutex =
              acquirers sys mutex :=
            count_update_same _ _ _ _ (by rw [outside mutex]; rfl)
          exact own_balanced sys task mutex impl result balanced
            (fun other _ => outside other) vacant (same ▸ account)
      | false =>
          intro other
          by_cases same : other = mutex
          · subst same
            have balance := count_update (acquires other) sys.point task
              (.acquiring other result)
            rw [outside other] at balance
            simp only [acquires, decide_true, Bool.toNat_true, Bool.toNat_false] at balance
            have one_more : countWhere (acquires other)
                (Function.update sys.point task (.acquiring other result)) =
                  acquirers sys other + 1 := by
              unfold acquirers
              omega
            simp only [acquirers, Function.update_self, Bool.false_eq_true, ↓reduceIte]
            rw [one_more]
            exact acquire_blocked _ _ _ _ (balanced other) outcome
          · have count : countWhere (acquires other)
                (Function.update sys.point task (.acquiring mutex result)) =
                  acquirers sys other :=
              count_update_same _ _ _ _ (by
                rw [outside other]
                simp [acquires, Ne.symm same])
            simp only [acquirers, Bool.false_eq_true, ↓reduceIte, ne_eq, same,
              not_false_eq_true, Function.update_of_ne]
            rw [count]
            exact balanced other

omit [DecidableEq Cond] in
theorem release_balanced (sys : System Task Mutex Cond) (task : Task) (mutex : Mutex)
    (balanced : Balanced sys) (owner : task ∈ sys.owners mutex) :
    Balanced (sys.release task mutex) := by
  intro other
  by_cases same : other = mutex
  · subst same
    have account := balanced other
    have positive := Finset.card_pos.mpr ⟨task, owner⟩
    have alone : (sys.owners other).card = 1 := by
      have := account.single
      omega
    have erased : ((sys.owners other).erase task).card = 0 := by
      rw [Finset.card_erase_of_mem owner]
      omega
    rw [alone] at account
    simpa [System.release, acquirers, erased] using release_owned _ _ account
  · simpa [System.release, acquirers, same] using balanced other

omit [DecidableEq Task] [DecidableEq Cond] [Fintype Task] in
theorem running_outside (sys : System Task Mutex Cond) (task : Task)
    (running : sys.isRunning task = true) (mutex : Mutex) :
    acquires mutex (sys.point task) = false := by
  unfold System.isRunning at running
  cases place : sys.point task <;> simp [place, acquires] at running ⊢

-- Inside a wait the condition variable and the mutex move in turn; the mutex
-- account only sees the release and, later, the new `Acquire`.
theorem beginWait_balanced (sys : System Task Mutex Cond) (task : Task) (cond : Cond)
    (mutex : Mutex) (blocked : Point Mutex Cond) (balanced : Balanced sys)
    (outside : ∀ other, acquires other (sys.point task) = false)
    (after : ∀ other, acquires other blocked = false)
    (owner : task ∈ sys.owners mutex) :
    Balanced (sys.beginWait task cond mutex blocked) := by
  let counted : CondvarImpl :=
    { sys.condvar cond with waiters := (sys.condvar cond).waiters + 1 }
  have released : Balanced ((sys.setCondvar cond counted).release task mutex) :=
    release_balanced _ task mutex (setCondvar_balanced sys cond counted balanced) owner
  unfold System.beginWait
  cases taken : (sys.condvar cond).sem.tryDown with
  | none =>
      simp only [taken]
      exact setPoint_balanced _ task blocked released outside after
  | some sem =>
      simp only [taken]
      exact acquire_balanced _ task mutex 0
        (setCondvar_balanced _ cond { counted with sem := sem } released) outside

theorem step_balanced (sys next : System Task Mutex Cond) (call : Call Task Mutex Cond)
    (balanced : Balanced sys) (taken : step sys call = some next) : Balanced next := by
  cases step_progress sys next call taken with
  | lock task mutex running =>
      exact acquire_balanced sys task mutex 0 balanced (running_outside sys task running)
  | gained task mutex impl running outcome =>
      have outside := running_outside sys task running
      obtain ⟨vacant, account⟩ := tryAcquire_taken _ _ _ _ (balanced mutex) outcome
      have same : acquirers (sys.setPoint task (.running 1)) mutex = acquirers sys mutex :=
        count_update_same _ _ _ _ (by rw [outside mutex]; rfl)
      exact own_balanced sys task mutex impl 1 balanced (fun other _ => outside other) vacant
        (same ▸ account)
  | refused task mutex running =>
      exact setPoint_balanced sys task _ balanced (running_outside sys task running) fun _ => rfl
  | unlock task mutex running owned =>
      exact setPoint_balanced _ task _ (release_balanced sys task mutex balanced owned)
        (running_outside sys task running) fun _ => rfl
  | wait task cond mutex running owned =>
      exact beginWait_balanced sys task cond mutex _ balanced (running_outside sys task running)
        (fun _ => rfl) owned
  | timedwait task cond mutex running owned =>
      exact beginWait_balanced sys task cond mutex _ balanced (running_outside sys task running)
        (fun _ => rfl) owned
  | signal task cond running =>
      exact setPoint_balanced _ task _ (setCondvar_balanced sys cond _ balanced)
        (running_outside sys task running) fun _ => rfl
  | broadcast task cond running =>
      exact setPoint_balanced _ task _ (setCondvar_balanced sys cond _ balanced)
        (running_outside sys task running) fun _ => rfl
  | acquired task mutex result sem place down =>
      obtain ⟨vacant, others, count, account⟩ := token_taken _ sem _ _ (balanced mutex) down
      have balance := count_update (acquires mutex) sys.point task (.running result)
      have one_less : acquirers (sys.setPoint task (.running result)) mutex = others := by
        simp only [place, acquires, decide_true, Bool.toNat_true, Bool.toNat_false] at balance
        simp only [acquirers, System.setPoint] at count ⊢
        omega
      refine own_balanced sys task mutex _ result balanced ?_ vacant (one_less ▸ account)
      intro other different
      simp [place, acquires, Ne.symm different]
  | woken task cond mutex _ place ends =>
      simp only [System.endWait, Option.map_eq_some_iff] at ends
      obtain ⟨sem, -, rfl⟩ := ends
      apply acquire_balanced _ task mutex 0 (setCondvar_balanced sys cond _ balanced)
      intro other
      rcases place with place | place <;> simp [System.setCondvar, place, acquires]
  | timeout task cond mutex place =>
      exact setPoint_balanced sys task _ balanced (fun _ => by rw [place]; rfl) fun _ => rfl
  | resume task cond mutex place =>
      unfold System.resumeTimedOut
      dsimp only
      split <;> exact acquire_balanced _ task _ _ (setCondvar_balanced sys _ _ balanced)
        fun _ => by simp [System.setCondvar, place, acquires]

theorem reachable_balanced (calls : List (Call Task Mutex Cond)) (sys : System Task Mutex Cond)
    (reached : Execution.run step initial calls = some sys) : Balanced sys :=
  Execution.run_invariant Balanced
    (fun state call next => step_balanced state next call) initial sys calls
    initial_balanced reached

/-- Mutual exclusion and no stranded waiter, in every state that any
interleaving of the tasks' calls reaches from zero-initialised storage. -/
theorem mutex_exclusive_unstranded (calls : List (Call Task Mutex Cond))
    (sys : System Task Mutex Cond) (reached : Execution.run step initial calls = some sys)
    (mutex : Mutex) :
    (∀ task ∈ sys.owners mutex, ∀ other ∈ sys.owners mutex, task = other) ∧
    (sys.mutex mutex).waiters + (sys.mutex mutex).sem.count = acquirers sys mutex ∧
    ((sys.mutex mutex).locked = false ↔
      sys.owners mutex = ∅ ∧ (sys.mutex mutex).sem.count = 0) ∧
    (∀ task, acquires mutex (sys.point task) = true →
      (sys.owners mutex).Nonempty ∨ 0 < (sys.mutex mutex).sem.count) := by
  obtain ⟨single, blocked, nonneg, free, alone⟩ := reachable_balanced calls sys reached mutex
  refine ⟨?_, blocked, ?_, ?_⟩
  · intro task first other second
    exact Finset.card_le_one.mp (by omega) task first other second
  · rw [free, Finset.card_eq_zero]
  · intro task waits
    have someone := count_pos (acquires mutex) sys.point task waits
    change 0 < acquirers sys mutex at someone
    by_cases vacant : (sys.owners mutex).card = 0
    · right
      by_contra no_token
      have unlocked := free.mpr ⟨vacant, by omega⟩
      have nobody := alone unlocked
      omega
    · left
      exact Finset.card_pos.mp (by omega)

end Tasks

/-- Three tasks: the second blocks, the first hands over, and the third takes
the token before the second is scheduled. -/
def overtaken : List (Call (Fin 3) Unit Unit) :=
  [.lock 0 (), .lock 1 (), .unlock 0 (), .lock 2 ()]

theorem overtaken_unstranded :
    ∃ sys, Execution.run step initial overtaken = some sys ∧
      acquires () (sys.point 1) = true ∧
      ((sys.owners ()).Nonempty ∨ 0 < (sys.mutex ()).sem.count) :=
  ⟨(Execution.run step initial overtaken).get rfl, (Option.some_get _).symm, rfl,
    (mutex_exclusive_unstranded overtaken _ (Option.some_get _).symm ()).2.2.2 1 rfl⟩

end CircleStdlib.MutexHandover
