import CircleStdlib.CondvarAccounting

/-!
Who takes a wakeup. The semaphore of condvar.cpp holds anonymous tokens, so the
observer below keeps beside the system when each wait began, when each wakeup
was posted and to whom, and which wait consumed it. Several outstanding tokens
cannot be told apart; each label therefore carries a number that selects the
one to be charged, and the results hold for every selection.
-/

set_option linter.unusedSectionVars false

namespace CircleStdlib.CondvarWakeup

open ThreadSync FamilyCount MutexHandover CondvarAccounting Execution

variable {Task Mutex Cond : Type} [DecidableEq Task] [DecidableEq Mutex] [DecidableEq Cond]
variable [Fintype Task]

/-- One `Up` of the condition variable's semaphore: its time, and the tasks that
were waiting at that time. -/
structure Wakeup (Task : Type) where
  posted : Nat
  waited : Finset Task

/-- A wakeup consumed by a wait of `task` whose `++waiters` ran at `begun`. -/
structure Taken (Task : Type) where
  task : Task
  begun : Nat
  wakeup : Wakeup Task

structure Observed (Task Mutex Cond : Type) where
  sys : System Task Mutex Cond
  clock : Nat
  begun : Task → Nat
  pending : Cond → List (Wakeup Task)
  taken : Cond → List (Taken Task)

def start : Observed Task Mutex Cond :=
  { sys := initial
    clock := 0
    begun := fun _ => 0
    pending := fun _ => []
    taken := fun _ => [] }

namespace Observed

def waitingFor (obs : Observed Task Mutex Cond) (cond : Cond) : Finset Task :=
  Finset.univ.filter fun task => waitsOn cond (obs.sys.point task) = true

def post (obs : Observed Task Mutex Cond) (cond : Cond) (times : Nat) :
    Observed Task Mutex Cond :=
  { obs with
    pending := Function.update obs.pending cond
      (obs.pending cond ++ List.replicate times ⟨obs.clock, obs.waitingFor cond⟩) }

def consume (obs : Observed Task Mutex Cond) (task : Task) (cond : Cond) (begun pick : Nat) :
    Observed Task Mutex Cond :=
  let index := pick % (obs.pending cond).length
  match (obs.pending cond)[index]? with
  | none => obs
  | some wakeup =>
      { obs with
        pending := Function.update obs.pending cond ((obs.pending cond).eraseIdx index)
        taken := Function.update obs.taken cond (⟨task, begun, wakeup⟩ :: obs.taken cond) }

def begins (obs : Observed Task Mutex Cond) (task : Task) : Observed Task Mutex Cond :=
  { obs with begun := Function.update obs.begun task obs.clock }

def down (obs : Observed Task Mutex Cond) (task : Task) (cond : Cond) (pick : Nat) :
    Observed Task Mutex Cond :=
  if 0 < (obs.sys.condvar cond).sem.count then obs.consume task cond (obs.begun task) pick
  else obs

def note (obs : Observed Task Mutex Cond) (pick : Nat) : Call Task Mutex Cond →
    Observed Task Mutex Cond
  | .wait task cond _ | .timedwait task cond _ => (obs.begins task).down task cond pick
  | .signal _ cond =>
      if (obs.sys.condvar cond).waiters > 0 then obs.post cond 1 else obs
  | .broadcast _ cond => obs.post cond (obs.sys.condvar cond).waiters.toNat
  | .wake task =>
      match obs.sys.point task with
      | .waiting cond _ | .timedWaiting cond _ => obs.down task cond pick
      | _ => obs
  | .resume task =>
      match obs.sys.point task with
      | .timedOut cond _ => obs.down task cond pick
      | _ => obs
  | _ => obs

end Observed

def observe (obs : Observed Task Mutex Cond) (label : Call Task Mutex Cond × Nat) :
    Option (Observed Task Mutex Cond) :=
  (step obs.sys label.1).map fun next =>
    { obs.note label.2 label.1 with sys := next, clock := obs.clock + 1 }

/-- The observer neither adds nor forbids behaviour: its runs are the system's. -/
theorem run_observe_sys (obs : Observed Task Mutex Cond)
    (labels : List (Call Task Mutex Cond × Nat)) :
    (run observe obs labels).map Observed.sys = run step obs.sys (labels.map Prod.fst) := by
  induction labels generalizing obs with
  | nil => rfl
  | cons label rest ih =>
      simp only [run, List.map_cons, observe]
      cases step obs.sys label.1 with
      | none => rfl
      | some next =>
          simp only [Option.map_some, Option.bind_some]
          exact ih _

/-- A wakeup went to a wait that began after it was posted, all tokens are used
up, and a task that was waiting when it was posted is still blocked. -/
def Stranded (obs : Observed Task Mutex Cond) (cond : Cond) : Prop :=
  (obs.sys.condvar cond).sem.count = 0 ∧
    ∃ taken ∈ obs.taken cond, taken.wakeup.posted ≤ taken.begun ∧
      ∃ task ∈ taken.wakeup.waited, waitsOn cond (obs.sys.point task) = true ∧
        obs.begun task < taken.wakeup.posted

/-- Every consumed wakeup went to a wait that had begun before it was posted,
and nobody is stranded. -/
def WakeupsSound (obs : Observed Task Mutex Cond) : Prop :=
  (∀ cond, ∀ taken ∈ obs.taken cond, taken.begun < taken.wakeup.posted) ∧
    ∀ cond, ¬ Stranded obs cond

/-- A wait begins only while no posted wakeup of its condition variable is
outstanding. -/
def OpensDrained (obs : Observed Task Mutex Cond) : Call Task Mutex Cond × Nat → Prop
  | (.wait _ cond _, _) | (.timedwait _ cond _, _) => (obs.sys.condvar cond).sem.count = 0
  | _ => True

structure Ordered (obs : Observed Task Mutex Cond) : Prop where
  tokens : ∀ cond, (obs.pending cond).length = (obs.sys.condvar cond).sem.count
  posted_past : ∀ cond, ∀ wakeup ∈ obs.pending cond, wakeup.posted < obs.clock
  begun_past : ∀ cond task, waitsOn cond (obs.sys.point task) = true →
    obs.begun task < obs.clock
  begun_first : ∀ cond task, waitsOn cond (obs.sys.point task) = true →
    ∀ wakeup ∈ obs.pending cond, obs.begun task < wakeup.posted
  taken_first : ∀ cond, ∀ taken ∈ obs.taken cond, taken.begun < taken.wakeup.posted

theorem start_ordered : Ordered (start : Observed Task Mutex Cond) := by
  constructor <;> simp [start, initial, waitsOn]

theorem ordered_sound (obs : Observed Task Mutex Cond) (ordered : Ordered obs) :
    WakeupsSound obs := by
  refine ⟨ordered.taken_first, ?_⟩
  rintro cond ⟨-, taken, member, late, -⟩
  have early := ordered.taken_first cond taken member
  omega

/-- What a step has to respect: outstanding wakeups are old ones or posted now,
a waiting task is an old waiter or starts now with no wakeup outstanding. -/
theorem ordered_step (obs record : Observed Task Mutex Cond) (next : System Task Mutex Cond)
    (ordered : Ordered obs)
    (tokens : ∀ cond, (record.pending cond).length = (next.condvar cond).sem.count)
    (fresh : ∀ cond, ∀ wakeup ∈ record.pending cond,
      wakeup ∈ obs.pending cond ∨ wakeup.posted = obs.clock)
    (waits : ∀ cond task, waitsOn cond (next.point task) = true →
      (waitsOn cond (obs.sys.point task) = true ∧ record.begun task = obs.begun task) ∨
        (record.begun task = obs.clock ∧ record.pending cond = []))
    (takes : ∀ cond, ∀ taken ∈ record.taken cond,
      taken ∈ obs.taken cond ∨ taken.begun < taken.wakeup.posted) :
    Ordered { record with sys := next, clock := obs.clock + 1 } := by
  refine ⟨tokens, ?_, ?_, ?_, ?_⟩
  · intro cond wakeup member
    change wakeup.posted < obs.clock + 1
    rcases fresh cond wakeup member with old | now
    · have := ordered.posted_past cond wakeup old
      omega
    · omega
  · intro cond task waiting
    change record.begun task < obs.clock + 1
    rcases waits cond task waiting with ⟨before, same⟩ | ⟨now, -⟩
    · have := ordered.begun_past cond task before
      omega
    · omega
  · intro cond task waiting wakeup member
    change record.begun task < wakeup.posted
    rcases waits cond task waiting with ⟨before, same⟩ | ⟨-, none⟩
    · rw [same]
      rcases fresh cond wakeup member with old | now
      · exact ordered.begun_first cond task before wakeup old
      · rw [now]
        exact ordered.begun_past cond task before
    · change wakeup ∈ record.pending cond at member
      simp [none] at member
  · intro cond taken member
    rcases takes cond taken member with old | early
    · exact ordered.taken_first cond taken old
    · exact early

theorem down_empty (obs : Observed Task Mutex Cond) (task : Task) (cond : Cond) (pick : Nat)
    (empty : (obs.sys.condvar cond).sem.count = 0) : obs.down task cond pick = obs := by
  simp [Observed.down, empty]

theorem down_takes (obs : Observed Task Mutex Cond) (task : Task) (cond : Cond) (pick : Nat)
    (tokens : (obs.pending cond).length = (obs.sys.condvar cond).sem.count)
    (some_left : 0 < (obs.sys.condvar cond).sem.count) :
    ∃ wakeup ∈ obs.pending cond, ∃ rest : List (Wakeup Task),
      rest.length + 1 = (obs.sys.condvar cond).sem.count ∧
      (∀ other ∈ rest, other ∈ obs.pending cond) ∧
      obs.down task cond pick =
        { obs with
          pending := Function.update obs.pending cond rest
          taken := Function.update obs.taken cond
            (⟨task, obs.begun task, wakeup⟩ :: obs.taken cond) } := by
  let index := pick % (obs.pending cond).length
  have inside : index < (obs.pending cond).length := Nat.mod_lt _ (by omega)
  refine ⟨(obs.pending cond)[index], List.getElem_mem inside,
    (obs.pending cond).eraseIdx index, ?_, fun other => List.mem_of_mem_eraseIdx, ?_⟩
  · rw [List.length_eraseIdx_of_lt inside]
    omega
  · simp [Observed.down, Observed.consume, some_left, index, List.getElem?_eq_getElem inside]

/-- A call that touches no condition variable and moves its task to a point
where it waits for nothing it did not wait for before. -/
theorem quiet_ordered (obs : Observed Task Mutex Cond) (next : System Task Mutex Cond)
    (task : Task) (point : Point Mutex Cond) (ordered : Ordered obs)
    (condvars : next.condvar = obs.sys.condvar)
    (points : next.point = Function.update obs.sys.point task point)
    (kept : ∀ cond, waitsOn cond point = true → waitsOn cond (obs.sys.point task) = true) :
    Ordered { obs with sys := next, clock := obs.clock + 1 } := by
  refine ordered_step obs obs next ordered ?_ (fun _ _ member => Or.inl member) ?_
    (fun _ _ member => Or.inl member)
  · intro cond
    rw [condvars]
    exact ordered.tokens cond
  · intro cond other waiting
    left
    rw [points] at waiting
    by_cases same : other = task
    · subst same
      rw [Function.update_self] at waiting
      exact ⟨kept cond waiting, rfl⟩
    · rw [Function.update_of_ne same] at waiting
      exact ⟨waiting, rfl⟩

theorem post_ordered (obs : Observed Task Mutex Cond) (task : Task) (cond : Cond)
    (impl : CondvarImpl) (times : Nat) (ordered : Ordered obs)
    (count : impl.sem.count = (obs.sys.condvar cond).sem.count + times) :
    Ordered { obs.post cond times with
      sys := (obs.sys.setCondvar cond impl).setPoint task (.running 0)
      clock := obs.clock + 1 } := by
  refine ordered_step obs (obs.post cond times) _ ordered ?_ ?_ ?_
    (fun _ _ member => Or.inl member)
  · intro other
    by_cases same : other = cond
    · subst same
      simp [Observed.post, System.setCondvar, System.setPoint, count, ordered.tokens other]
    · simpa [Observed.post, System.setCondvar, System.setPoint, same] using ordered.tokens other
  · intro other wakeup member
    by_cases same : other = cond
    · subst same
      simp only [Observed.post, Function.update_self, List.mem_append, List.mem_replicate]
        at member
      rcases member with old | ⟨-, rfl⟩
      · exact Or.inl old
      · exact Or.inr rfl
    · left
      simpa [Observed.post, same] using member
  · intro other waiter waiting
    left
    by_cases same : waiter = task
    · subst same
      simp [System.setPoint, waitsOn] at waiting
    · exact ⟨by simpa [System.setPoint, System.setCondvar, same] using waiting, rfl⟩

/-- A task on record takes one token and stops waiting. -/
theorem take_ordered (obs : Observed Task Mutex Cond) (next : System Task Mutex Cond)
    (task : Task) (cond : Cond) (impl : CondvarImpl) (point : Point Mutex Cond) (pick : Nat)
    (ordered : Ordered obs) (waited : waitsOn cond (obs.sys.point task) = true)
    (some_left : (obs.sys.condvar cond).sem.count = impl.sem.count + 1)
    (condvars : next.condvar = Function.update obs.sys.condvar cond impl)
    (points : next.point = Function.update obs.sys.point task point)
    (nowhere : ∀ other, waitsOn other point = false) :
    Ordered { obs.down task cond pick with sys := next, clock := obs.clock + 1 } := by
  obtain ⟨wakeup, member, rest, length, subset, equal⟩ :=
    down_takes obs task cond pick (ordered.tokens cond) (by omega)
  refine ordered_step obs (obs.down task cond pick) next ordered ?_ ?_ ?_ ?_
  · intro other
    rw [equal, condvars]
    by_cases same : other = cond
    · subst same
      simp only [Function.update_self]
      omega
    · simpa [same] using ordered.tokens other
  · intro other found inside
    left
    rw [equal] at inside
    by_cases same : other = cond
    · subst same
      exact subset found (by simpa using inside)
    · simpa [same] using inside
  · intro other waiter waiting
    left
    rw [points] at waiting
    by_cases same : waiter = task
    · subst same
      rw [Function.update_self, nowhere other] at waiting
      cases waiting
    · rw [Function.update_of_ne same] at waiting
      exact ⟨waiting, by rw [equal]⟩
  · intro other taken inside
    rw [equal] at inside
    by_cases same : other = cond
    · subst same
      simp only [Function.update_self, List.mem_cons] at inside
      rcases inside with rfl | old
      · exact Or.inr (ordered.begun_first other task waited wakeup member)
      · exact Or.inl old
    · left
      simpa [same] using inside

theorem endWait_ordered (obs : Observed Task Mutex Cond) (next : System Task Mutex Cond)
    (task : Task) (cond : Cond) (mutex : Mutex) (pick : Nat) (ordered : Ordered obs)
    (waited : waitsOn cond (obs.sys.point task) = true)
    (taken : obs.sys.endWait task cond mutex = some next) :
    Ordered { obs.down task cond pick with sys := next, clock := obs.clock + 1 } := by
  simp only [System.endWait, Option.map_eq_some_iff] at taken
  obtain ⟨sem, down, rfl⟩ := taken
  obtain ⟨condvars, point, points, nowhere⟩ := acquire_leaves
    (obs.sys.setCondvar cond { obs.sys.condvar cond with sem := sem }) task mutex 0
  exact take_ordered obs _ task cond _ point pick ordered waited (tryDown_some _ _ down)
    condvars points nowhere

theorem resume_ordered (obs : Observed Task Mutex Cond) (task : Task) (cond : Cond)
    (mutex : Mutex) (pick : Nat) (ordered : Ordered obs)
    (waited : waitsOn cond (obs.sys.point task) = true) :
    Ordered { obs.down task cond pick with
      sys := obs.sys.resumeTimedOut task cond mutex
      clock := obs.clock + 1 } := by
  unfold System.resumeTimedOut
  cases down : (obs.sys.condvar cond).sem.tryDown with
  | some sem =>
      simp only [down]
      obtain ⟨condvars, point, points, nowhere⟩ := acquire_leaves
        (obs.sys.setCondvar cond { obs.sys.condvar cond with sem := sem }) task mutex 0
      exact take_ordered obs _ task cond _ point pick ordered waited (tryDown_some _ _ down)
        condvars points nowhere
  | none =>
      have empty := tryDown_none _ down
      simp only [down]
      rw [down_empty obs task cond pick empty]
      obtain ⟨condvars, point, points, nowhere⟩ := acquire_leaves
        (obs.sys.setCondvar cond { obs.sys.condvar cond with
          waiters := (obs.sys.condvar cond).waiters - 1 }) task mutex etimedout
      refine ordered_step obs obs _ ordered ?_ (fun _ _ member => Or.inl member) ?_
        (fun _ _ member => Or.inl member)
      · intro other
        rw [condvars]
        by_cases same : other = cond
        · subst same
          simpa [System.setCondvar] using ordered.tokens other
        · simpa [System.setCondvar, same] using ordered.tokens other
      · intro other waiter waiting
        left
        rw [points] at waiting
        by_cases same : waiter = task
        · subst same
          rw [Function.update_self, nowhere other] at waiting
          cases waiting
        · rw [Function.update_of_ne same] at waiting
          exact ⟨waiting, rfl⟩

/-- With no wakeup outstanding a new wait blocks, and no older wakeup can reach
it. -/
theorem open_ordered (obs : Observed Task Mutex Cond) (task : Task) (cond : Cond)
    (mutex : Mutex) (blocked : Point Mutex Cond) (pick : Nat) (ordered : Ordered obs)
    (waits : ∀ other, waitsOn other blocked = decide (cond = other))
    (empty : (obs.sys.condvar cond).sem.count = 0) :
    Ordered { (obs.begins task).down task cond pick with
      sys := obs.sys.beginWait task cond mutex blocked
      clock := obs.clock + 1 } := by
  rw [down_empty (obs.begins task) task cond pick empty]
  have none_left : obs.pending cond = [] := by
    apply List.eq_nil_of_length_eq_zero
    rw [ordered.tokens cond, empty]
  have down : (obs.sys.condvar cond).sem.tryDown = none := by
    simp [CSemaphore.tryDown, empty]
  refine ordered_step obs (obs.begins task) _ ordered ?_ (fun _ _ member => Or.inl member) ?_
    (fun _ _ member => Or.inl member)
  · intro other
    have counts : ((obs.sys.beginWait task cond mutex blocked).condvar other).sem =
        (obs.sys.condvar other).sem := by
      by_cases same : other = cond
      · subst same
        simp [System.beginWait, down, System.setPoint, System.release, System.setCondvar]
      · simp [System.beginWait, down, System.setPoint, System.release, System.setCondvar, same]
    rw [counts]
    exact ordered.tokens other
  · intro other waiter waiting
    have points : (obs.sys.beginWait task cond mutex blocked).point =
        Function.update obs.sys.point task blocked := by
      simp [System.beginWait, down, System.setPoint, System.release, System.setCondvar]
    rw [points] at waiting
    by_cases same : waiter = task
    · subst same
      right
      rw [Function.update_self, waits other, decide_eq_true_eq] at waiting
      subst waiting
      exact ⟨Function.update_self .., none_left⟩
    · left
      rw [Function.update_of_ne same] at waiting
      exact ⟨waiting, Function.update_of_ne same ..⟩

-- The other half: a wait that begins while a token is outstanding takes it in
-- the same step, and that token was posted earlier.
theorem open_steals (obs : Observed Task Mutex Cond) (next : System Task Mutex Cond)
    (task : Task) (cond : Cond) (pick : Nat) (ordered : Ordered obs)
    (outstanding : (obs.sys.condvar cond).sem.count ≠ 0) :
    ¬ WakeupsSound { (obs.begins task).down task cond pick with
      sys := next
      clock := obs.clock + 1 } := by
  obtain ⟨wakeup, member, rest, -, -, equal⟩ :=
    down_takes (obs.begins task) task cond pick (ordered.tokens cond)
      (Nat.pos_of_ne_zero outstanding)
  rw [equal]
  intro sound
  have early := sound.1 cond ⟨task, (obs.begins task).begun task, wakeup⟩ (by simp)
  have past := ordered.posted_past cond wakeup member
  simp only [Observed.begins, Function.update_self] at early
  omega

theorem observe_ordered (obs next : Observed Task Mutex Cond)
    (label : Call Task Mutex Cond × Nat) (ordered : Ordered obs)
    (drained : OpensDrained obs label) (taken : observe obs label = some next) :
    Ordered next := by
  obtain ⟨call, pick⟩ := label
  simp only [observe, Option.map_eq_some_iff] at taken
  obtain ⟨sys, taken, rfl⟩ := taken
  cases step_progress obs.sys sys call taken with
  | lock task mutex running =>
      obtain ⟨condvars, point, points, nowhere⟩ := acquire_leaves obs.sys task mutex 0
      exact quiet_ordered obs _ task point ordered condvars points
        fun cond waits => by simp [nowhere cond] at waits
  | gained task mutex impl running outcome =>
      exact quiet_ordered obs _ task (.running 1) ordered rfl rfl fun _ waits => by cases waits
  | refused task mutex running =>
      exact quiet_ordered obs _ task (.running 0) ordered rfl rfl fun _ waits => by cases waits
  | unlock task mutex running owned =>
      exact quiet_ordered obs _ task (.running 0) ordered rfl rfl fun _ waits => by cases waits
  | wait task cond mutex running owned =>
      exact open_ordered obs task cond mutex _ pick ordered (fun _ => rfl) drained
  | timedwait task cond mutex running owned =>
      exact open_ordered obs task cond mutex _ pick ordered (fun _ => rfl) drained
  | signal task cond running =>
      by_cases some_wait : (obs.sys.condvar cond).waiters > 0
      · simp only [Observed.note, some_wait, ↓reduceIte]
        exact post_ordered obs task cond _ 1 ordered
          (by simp [CondvarImpl.signal, some_wait, CSemaphore.up])
      · have idle : (obs.sys.condvar cond).signal = obs.sys.condvar cond := by
          simp [CondvarImpl.signal, some_wait]
        simp only [Observed.note, some_wait, ↓reduceIte, idle]
        refine quiet_ordered obs _ task (.running 0) ordered ?_ rfl fun _ waits => by cases waits
        exact Function.update_eq_self cond obs.sys.condvar
  | broadcast task cond running =>
      exact post_ordered obs task cond _ _ ordered
        (by simp [CondvarImpl.broadcast, up_iterate_count])
  | acquired task mutex result sem place down =>
      simp only [Observed.note, place]
      exact quiet_ordered obs _ task (.running result) ordered rfl rfl
        fun _ waits => by cases waits
  | woken task cond mutex _ place ends =>
      -- The note of the observer does not tell the two kinds of waiting apart.
      rcases place with place | place <;> simp only [Observed.note, place]
      · exact endWait_ordered obs sys task cond mutex pick ordered (by simp [place, waitsOn]) ends
      · exact endWait_ordered obs sys task cond mutex pick ordered (by simp [place, waitsOn]) ends
  | timeout task cond mutex place =>
      exact quiet_ordered obs _ task _ ordered rfl rfl fun _ waits => by rw [place]; exact waits
  | resume task cond mutex place =>
      simp only [Observed.note, place]
      exact resume_ordered obs task _ _ pick ordered (by simp [place, waitsOn])

theorem observe_steals (obs next : Observed Task Mutex Cond)
    (label : Call Task Mutex Cond × Nat) (ordered : Ordered obs)
    (undrained : ¬ OpensDrained obs label) (taken : observe obs label = some next) :
    ¬ WakeupsSound next := by
  obtain ⟨call, pick⟩ := label
  simp only [observe, Option.map_eq_some_iff] at taken
  obtain ⟨sys, -, rfl⟩ := taken
  cases call with
  | wait task cond mutex => exact open_steals obs sys task cond pick ordered undrained
  | timedwait task cond mutex => exact open_steals obs sys task cond pick ordered undrained
  | _ => exact absurd trivial undrained

/-- In every run, whichever outstanding token a consumption is charged to: each
wakeup reaches a wait that began before it, in every state of the run, exactly
when no wait begins while a wakeup of its condition variable is outstanding. -/
theorem wakeups_sound_iff_drained (labels : List (Call Task Mutex Cond × Nat))
    (final : Observed Task Mutex Cond) (reached : run observe start labels = some final) :
    Throughout observe WakeupsSound start labels ↔ Along observe OpensDrained start labels :=
  throughout_iff_along OpensDrained Ordered WakeupsSound ordered_sound
    (fun obs label next => observe_ordered obs next label)
    (fun obs label next => observe_steals obs next label)
    start final labels start_ordered reached

local instance twoTasks : NeZero 2 := ⟨by decide⟩

/-- A task waits; another signals, then waits for the answer on the same
condition variable, as the predicate loop of a request and a reply does. -/
def signalThenWait : List (Call (Fin 2) Unit Unit × Nat) :=
  [(.lock 0 (), 0), (.wait 0 () (), 0), (.lock 1 (), 0), (.signal 1 (), 0), (.wait 1 () (), 0)]

theorem signalThenWait_strands :
    ∃ final : Observed (Fin 2) Unit Unit, run observe start signalThenWait = some final ∧
      Stranded final () ∧ ¬ WakeupsSound final := by
  have stranded : Stranded ((run observe start signalThenWait).get rfl) () := by
    refine ⟨rfl, ⟨1, 4, ⟨3, _⟩⟩, List.mem_singleton.mpr rfl, by decide, 0, by decide, by decide,
      by decide⟩
  exact ⟨(run observe start signalThenWait).get rfl, (Option.some_get _).symm, stranded,
    fun sound => sound.2 () stranded⟩

def wakeThenWait : List (Call (Fin 2) Unit Unit × Nat) :=
  [(.lock 0 (), 0), (.wait 0 () (), 0), (.lock 1 (), 0), (.signal 1 (), 0), (.unlock 1 (), 0),
    (.wake 0, 0)]

theorem wakeThenWait_sound : Throughout observe WakeupsSound start wakeThenWait := by
  refine (wakeups_sound_iff_drained wakeThenWait
    ((run observe start wakeThenWait).get rfl) (Option.some_get _).symm).mpr ?_
  simp [wakeThenWait, Along, OpensDrained, observe, step, start, initial, System.isRunning,
    System.acquire, NonRecursiveMutexImpl.acquire, System.own]

end CircleStdlib.CondvarWakeup
