import CircleStdlib.ThreadStorage
import Mathlib.Data.Prod.Lex

/-!
The end of a thread: the exit loop of `CLibCXXTask::Run` with the destructors of the keys,
and the list of `__cxa_thread_atexit`. The labels are what the code does that runs in the
thread, first its function and then one destructor after the other: these may register
further destructors and store further values. Keys may also be created by other tasks. All
keys are created by labels, those from before the thread as well.
-/

namespace CircleStdlib.ThreadExit

open Execution ThreadStorage

def destructorIterations : Nat := 4

inductive Destructor where
  | cxaThreadAtexit
  | user
  deriving DecidableEq, Repr

inductive Slot (Pair Value : Type) where
  | nodes (list : List Pair)
  | value (value : Value)

/-- Where the thread is: in its function; in a destructor that pass `iteration` has called
for `key`, with the nodes behind the current one; or behind the loop, after some passes. -/
inductive Point (Pair : Type) where
  | function
  | destroying (iteration key : Nat) (rest : List Pair)
  | finished (passes : Nat)

/-- `atexitKey` is `s_cxa_thread_atexit_key` from its initialisation on. Not stored by the
code are the lists: the pairs that were registered, cut into batches where the loop has read
the list, those that have run, and for each key the values that were stored, overwritten, and
destroyed. -/
structure Thread (Pair Value : Type) where
  table : KeyTable Destructor
  atexitKey : Option Nat
  kv : Nat → Option (Slot Pair Value)
  point : Point Pair
  registered : List Pair
  batches : List (List Pair)
  ran : List Pair
  stored : Nat → List Value
  replaced : Nat → List Value
  destroyed : Nat → List Value
  overrun : Bool

inductive Label (Pair Value : Type) where
  | atexit (pair : Pair) (allocated : Bool)
  | atexitElsewhere
  | set (key : Nat) (value : Option Value)
  | create (atExit : Bool)
  | leave

variable {Pair Value : Type}

namespace Thread

def held (thread : Thread Pair Value) (key : Nat) : List Pair :=
  match thread.kv key with
  | some (.nodes list) => list
  | _ => []

def current (thread : Thread Pair Value) (key : Nat) : List Value :=
  match thread.kv key with
  | some (.value value) => [value]
  | _ => []

def initAtexit (thread : Thread Pair Value) : Thread Pair Value :=
  match thread.atexitKey with
  | some _ => thread
  | none =>
      { thread with
        table := thread.table.create (some .cxaThreadAtexit)
        atexitKey := some thread.table.nextKey }

-- The node in front of the list; outside `kv` there is no slot for it.
def prepend (thread : Thread Pair Value) (key : Nat) (pair : Pair) : Thread Pair Value :=
  if key < maxTlsKeys then
    { thread with
      kv := Function.update thread.kv key (some (.nodes (pair :: thread.held key)))
      registered := thread.registered ++ [pair] }
  else { thread with registered := thread.registered ++ [pair], overrun := true }

-- `__cxa_thread_atexit`; without memory for the node it returns -1.
def cxaThreadAtexit (thread : Thread Pair Value) (pair : Pair) (allocated : Bool) :
    Thread Pair Value :=
  let thread := thread.initAtexit
  if allocated then
    match thread.atexitKey with
    | some key => thread.prepend key pair
    | none => thread
  else thread

def tlsSet (thread : Thread Pair Value) (key : Nat) (value : Option Value) : Thread Pair Value :=
  if key < maxTlsKeys then
    { thread with
      kv := Function.update thread.kv key (value.map .value)
      stored := Function.update thread.stored key (thread.stored key ++ value.toList)
      replaced := Function.update thread.replaced key
        (thread.replaced key ++ thread.current key) }
  else { thread with overrun := true }

def occupied (thread : Thread Pair Value) (start : Nat) : Option Nat :=
  (List.range thread.table.nextKey).find? fun key =>
    decide (start ≤ key) && (thread.kv key).isSome && (thread.table.destructors key).isSome

-- What has been registered since the loop read the list the last time, in this order.
def latest (thread : Thread Pair Value) : List Pair :=
  thread.registered.drop thread.batches.flatten.length

-- The slot is emptied and its destructor called; for the list that is the destructor of
-- the first node.
def enter (thread : Thread Pair Value) (iteration key : Nat) : Thread Pair Value :=
  let emptied := { thread with kv := Function.update thread.kv key none }
  match thread.kv key with
  | some (.nodes (pair :: rest)) =>
      { emptied with
        batches := thread.batches ++ [thread.latest]
        ran := thread.ran ++ [pair]
        point := .destroying iteration key rest }
  | some (.value value) =>
      { emptied with
        destroyed := Function.update thread.destroyed key (thread.destroyed key ++ [value])
        point := .destroying iteration key [] }
  | _ => { emptied with point := .destroying iteration key [] }

-- The loop goes on with the key `start` of a pass. `called` is `destructors_called`.
def proceed (thread : Thread Pair Value) (iteration : Nat) (called : Bool) (start : Nat) :
    Thread Pair Value :=
  match thread.occupied start with
  | some key => thread.enter iteration key
  | none =>
      if called && decide (iteration + 1 < destructorIterations) then
        match thread.occupied 0 with
        | some key => thread.enter (iteration + 1) key
        | none => { thread with point := .finished (iteration + 2) }
      else { thread with point := .finished (iteration + 1) }

def leave (thread : Thread Pair Value) : Option (Thread Pair Value) :=
  match thread.point with
  | .function => some (thread.proceed 0 false 0)
  | .destroying iteration key (pair :: rest) =>
      some { thread with ran := thread.ran ++ [pair], point := .destroying iteration key rest }
  | .destroying iteration key [] => some (thread.proceed iteration true (key + 1))
  | .finished _ => none

def isOver (thread : Thread Pair Value) : Bool :=
  match thread.point with
  | .finished _ => true
  | _ => false

end Thread

-- One step. The program stores values only under keys of its own.
def step (thread : Thread Pair Value) : Label Pair Value → Option (Thread Pair Value)
  | .atexit pair allocated =>
      if thread.isOver then none else some (thread.cxaThreadAtexit pair allocated)
  | .atexitElsewhere => if thread.isOver then none else some thread.initAtexit
  | .set key value =>
      if thread.isOver = false ∧ key < thread.table.nextKey ∧ thread.atexitKey ≠ some key then
        some (thread.tlsSet key value)
      else none
  | .create atExit =>
      if thread.isOver then none
      else some { thread with table := thread.table.create (if atExit then some .user else none) }
  | .leave => thread.leave

def initial : Thread Pair Value :=
  { table := { nextKey := 0, destructors := fun _ => none, overrun := false }
    atexitKey := none
    kv := fun _ => none
    point := .function
    registered := []
    batches := []
    ran := []
    stored := fun _ => []
    replaced := fun _ => []
    destroyed := fun _ => []
    overrun := false }

namespace Thread

-- The pairs that are registered and have not been read by the loop.
def pending (thread : Thread Pair Value) : List Pair :=
  match thread.atexitKey with
  | some key => thread.held key
  | none => []

def rest (thread : Thread Pair Value) : List Pair :=
  match thread.point with
  | .destroying _ _ rest => rest
  | _ => []

-- How far the loop is; it becomes smaller with every destructor that returns.
def stage (thread : Thread Pair Value) : ℕ ×ₗ ℕ ×ₗ ℕ :=
  match thread.point with
  | .function => toLex (destructorIterations + 1, toLex (0, 0))
  | .destroying iteration key rest =>
      toLex (destructorIterations - iteration, toLex (maxTlsKeys - key, rest.length))
  | .finished _ => toLex (0, toLex (0, 0))

end Thread

/-- What was registered up to a reading of the list runs in the reverse order of registration,
each pair once, and what has been registered since is still to come. -/
structure InTurn (thread : Thread Pair Value) : Prop where
  registered : thread.registered = thread.batches.flatten ++ thread.pending.reverse
  ran : thread.ran ++ thread.rest = (thread.batches.map List.reverse).flatten

/-- What holds at the end of the loop. Unless a further pass would find something, every pair
has run, and no value with a destructor is left. -/
structure Done (thread : Thread Pair Value) (passes : Nat) : Prop where
  few : passes ≤ destructorIterations
  limit : thread.occupied 0 ≠ none → passes = destructorIterations
  ran : thread.occupied 0 = none → thread.registered = thread.batches.flatten ∧
    thread.ran = (thread.batches.map List.reverse).flatten
  destroyed : thread.occupied 0 = none → ∀ key < thread.table.nextKey,
    (thread.table.destructors key).isSome →
      thread.kv key = none ∧ (thread.stored key).Perm (thread.destroyed key ++ thread.replaced key)

/-- What the exit loop is for. Nothing is used outside the tables, each value that is not
overwritten is destroyed once or still in its slot, and the loop comes to its end. -/
structure Discharges (thread : Thread Pair Value) : Prop where
  intact : thread.table.overrun = false ∧ thread.overrun = false
  inTurn : InTurn thread
  conserved : ∀ key, (thread.stored key).Perm
    (thread.destroyed key ++ (thread.replaced key ++ thread.current key))
  done : ∀ passes, thread.point = .finished passes → Done thread passes
  returns : thread.isOver = false → ∃ next, step thread .leave = some next ∧
    next.stage < thread.stage

def Fits (thread : Thread Pair Value) : Label Pair Value → Prop
  | .atexit _ _ | .atexitElsewhere =>
      thread.atexitKey = none → thread.table.nextKey < maxTlsKeys
  | .create _ => thread.table.nextKey < maxTlsKeys
  | _ => True

structure Sound (thread : Thread Pair Value) : Prop where
  room : thread.table.nextKey ≤ maxTlsKeys
  intact : thread.table.overrun = false ∧ thread.overrun = false
  atexit : ∀ key, thread.atexitKey = some key →
    key < thread.table.nextKey ∧ (thread.table.destructors key).isSome
  nodes : ∀ key list, thread.kv key = some (.nodes list) →
    thread.atexitKey = some key ∧ list ≠ []
  values : ∀ key value, thread.kv key = some (.value value) → thread.atexitKey ≠ some key
  unused : ∀ key, thread.table.nextKey ≤ key → thread.kv key = none
  inTurn : InTurn thread
  conserved : ∀ key, (thread.stored key).Perm
    (thread.destroyed key ++ (thread.replaced key ++ thread.current key))
  inside : ∀ iteration key rest, thread.point = .destroying iteration key rest →
    iteration < destructorIterations ∧ key < thread.table.nextKey
  ended : ∀ passes, thread.point = .finished passes → passes ≤ destructorIterations ∧
    (thread.occupied 0 ≠ none → passes = destructorIterations)

theorem occupied_some (thread : Thread Pair Value) (start key : Nat)
    (found : thread.occupied start = some key) :
    start ≤ key ∧ key < thread.table.nextKey ∧ (thread.kv key).isSome ∧
      (thread.table.destructors key).isSome := by
  have member := List.mem_of_find?_eq_some found
  have hit := List.find?_some found
  simp only [Bool.and_eq_true, decide_eq_true_eq] at hit
  exact ⟨hit.1.1, List.mem_range.mp member, hit.1.2, hit.2⟩

theorem occupied_none (thread : Thread Pair Value) (none : thread.occupied 0 = none) (key : Nat)
    (created : key < thread.table.nextKey) (destructor : (thread.table.destructors key).isSome) :
    thread.kv key = Option.none := by
  have missed := List.find?_eq_none.mp none key (List.mem_range.mpr created)
  simp only [Nat.zero_le, decide_true, Bool.true_and, destructor, Bool.and_true,
    Bool.not_eq_true, Option.isSome_eq_false_iff, Option.isNone_iff_eq_none] at missed
  exact missed

theorem create_room (table : KeyTable Destructor) (atExit : Option Destructor)
    (room : table.nextKey < maxTlsKeys) :
    (table.create atExit).nextKey = table.nextKey + 1 ∧
      (table.create atExit).overrun = table.overrun ∧
      (table.create atExit).destructors table.nextKey = atExit ∧
      ∀ key < table.nextKey, (table.create atExit).destructors key = table.destructors key := by
  have small : maxTlsKeys < 2 ^ 32 := by decide
  refine ⟨Nat.mod_eq_of_lt (by omega), by simp [KeyTable.create, room], ?_, ?_⟩
  · simp [KeyTable.create, room]
  · intro key old
    simp [KeyTable.create, room, Nat.ne_of_lt old]

/-- A new key changes nothing for the thread. -/
theorem create_sound (thread : Thread Pair Value) (atExit : Option Destructor)
    (sound : Sound thread) (room : thread.table.nextKey < maxTlsKeys)
    (running : thread.isOver = false) :
    Sound { thread with table := thread.table.create atExit } := by
  rcases create_room thread.table atExit room with ⟨next, overrun, -, old⟩
  refine ⟨?_, ?_, ?_, sound.nodes, sound.values, ?_, ⟨sound.inTurn.registered, sound.inTurn.ran⟩,
    sound.conserved, ?_, ?_⟩
  · show (thread.table.create atExit).nextKey ≤ maxTlsKeys
    omega
  · exact ⟨overrun.trans sound.intact.1, sound.intact.2⟩
  · intro key same
    rcases sound.atexit key same with ⟨created, destructor⟩
    show key < (thread.table.create atExit).nextKey ∧ _
    rw [next, old key created]
    exact ⟨Nat.lt_succ_of_lt created, destructor⟩
  · intro key beyond
    change (thread.table.create atExit).nextKey ≤ key at beyond
    exact sound.unused key (by omega)
  · intro iteration key rest there
    rcases sound.inside iteration key rest there with ⟨few, created⟩
    refine ⟨few, ?_⟩
    show key < (thread.table.create atExit).nextKey
    omega
  · intro passes over_
    have done : thread.point = .finished passes := over_
    simp [Thread.isOver, done] at running

theorem initAtexit_sound (thread : Thread Pair Value) (sound : Sound thread)
    (fits : thread.atexitKey = none → thread.table.nextKey < maxTlsKeys)
    (running : thread.isOver = false) : Sound thread.initAtexit := by
  unfold Thread.initAtexit
  split
  · exact sound
  · rename_i first
    have room := fits first
    have created := create_sound thread (some .cxaThreadAtexit) sound room running
    rcases create_room thread.table (some .cxaThreadAtexit) room with ⟨next, -, new, -⟩
    -- Without its key the list is empty, and the slot of the new key as well.
    have empty := sound.unused thread.table.nextKey (Nat.le_refl _)
    refine ⟨created.room, created.intact, ?_, ?_, ?_, created.unused, ?_, created.conserved,
      created.inside, created.ended⟩
    · rintro key ⟨⟩
      show _ < (thread.table.create _).nextKey ∧ ((thread.table.create _).destructors _).isSome
      rw [next, new]
      exact ⟨Nat.lt_succ_self _, rfl⟩
    · intro key list there
      have none := (sound.nodes key list there).1
      rw [first] at none
      cases none
    · rintro key value there ⟨⟩
      rw [empty] at there
      cases there
    · rcases sound.inTurn with ⟨registered, ran⟩
      refine ⟨?_, ran⟩
      have before : thread.pending = [] := by
        simp [Thread.pending, first]
      rw [before] at registered
      simpa [Thread.pending, Thread.held, empty] using registered

theorem prepend_sound (thread : Thread Pair Value) (key : Nat) (pair : Pair) (sound : Sound thread)
    (own : thread.atexitKey = some key) (running : thread.isOver = false) :
    Sound (thread.prepend key pair) := by
  rcases sound.atexit key own with ⟨created, destructor⟩
  have inside : key < maxTlsKeys := Nat.lt_of_lt_of_le created sound.room
  unfold Thread.prepend
  rw [if_pos inside]
  refine ⟨sound.room, sound.intact, sound.atexit, ?_, ?_, ?_, ?_, ?_, sound.inside, ?_⟩
  · intro other list there
    by_cases same : other = key
    · subst same
      refine ⟨own, ?_⟩
      simp only [Function.update_self, Option.some.injEq, Slot.nodes.injEq] at there
      rw [← there]
      exact List.cons_ne_nil _ _
    · exact sound.nodes other list (by simpa [same] using there)
  · intro other value there
    by_cases same : other = key
    · subst same
      simp at there
    · exact sound.values other value (by simpa [same] using there)
  · intro other beyond
    have same : other ≠ key := Nat.ne_of_gt (Nat.lt_of_lt_of_le created beyond)
    simpa [same] using sound.unused other beyond
  · -- The pair is the last one registered and the first one of the list.
    rcases sound.inTurn with ⟨registered, ran⟩
    refine ⟨?_, ran⟩
    have before : thread.pending = thread.held key := by
      simp [Thread.pending, own]
    rw [before] at registered
    simp [Thread.pending, own, Thread.held, registered]
  · intro other
    -- the nodes are no value, under this key or another
    have unchanged : ({ thread with
        kv := Function.update thread.kv key (some (.nodes (pair :: thread.held key)))
        registered := thread.registered ++ [pair] } : Thread Pair Value).current other =
        thread.current other := by
      by_cases same : other = key
      · subst same
        simp only [Thread.current, Function.update_self]
        split
        · rename_i value there
          exact absurd own (sound.values other value there)
        · rfl
      · simp [Thread.current, same]
    rw [unchanged]
    exact sound.conserved other
  · intro passes over_
    have done : thread.point = .finished passes := over_
    simp [Thread.isOver, done] at running

theorem tlsSet_sound (thread : Thread Pair Value) (key : Nat) (value : Option Value)
    (sound : Sound thread) (running : thread.isOver = false)
    (created : key < thread.table.nextKey) (foreign : thread.atexitKey ≠ some key) :
    Sound (thread.tlsSet key value) := by
  have inside : key < maxTlsKeys := Nat.lt_of_lt_of_le created sound.room
  unfold Thread.tlsSet
  rw [if_pos inside]
  refine ⟨sound.room, sound.intact, sound.atexit, ?_, ?_, ?_, ?_, ?_, sound.inside, ?_⟩
  · intro other list there
    by_cases same : other = key
    · subst same
      cases value <;> simp at there
    · exact sound.nodes other list (by simpa [same] using there)
  · intro other stored there
    by_cases same : other = key
    · exact same ▸ foreign
    · exact sound.values other stored (by simpa [same] using there)
  · intro other beyond
    have same : other ≠ key := Nat.ne_of_gt (Nat.lt_of_lt_of_le created beyond)
    simpa [same] using sound.unused other beyond
  · rcases sound.inTurn with ⟨registered, ran⟩
    refine ⟨registered.trans ?_, ran⟩
    cases own : thread.atexitKey with
    | none => simp [Thread.pending, own]
    | some list =>
        have different : list ≠ key := by
          rintro rfl
          exact foreign own
        simp [Thread.pending, own, Thread.held, different]
  · intro other
    by_cases same : other = key
    · subst same
      have before := sound.conserved other
      have now : ∀ replaced stored, ({ thread with
          kv := Function.update thread.kv other (value.map .value)
          stored, replaced } : Thread Pair Value).current other = value.toList := by
        intro replaced stored
        cases value <;> simp [Thread.current]
      rw [now]
      simp only [Function.update_self]
      have joined := before.append_right value.toList
      simpa [List.append_assoc] using joined
    · simpa [same, Thread.current] using sound.conserved other
  · intro passes over_
    have done : thread.point = .finished passes := over_
    simp [Thread.isOver, done] at running

/-- What a slot holds when the loop finds it. -/
theorem found_slot (thread : Thread Pair Value) (key : Nat) (sound : Sound thread)
    (found : (thread.kv key).isSome) :
    (∃ pair rest, thread.kv key = some (.nodes (pair :: rest)) ∧ thread.atexitKey = some key) ∨
      ∃ value, thread.kv key = some (.value value) ∧ thread.atexitKey ≠ some key := by
  rcases Option.isSome_iff_exists.mp found with ⟨slot, there⟩
  cases slot with
  | nodes list =>
      rcases sound.nodes key list there with ⟨own, some⟩
      cases list with
      | nil => exact absurd rfl some
      | cons pair rest => exact Or.inl ⟨pair, rest, there, own⟩
  | value value => exact Or.inr ⟨value, there, sound.values key value there⟩

theorem enter_sound (thread : Thread Pair Value) (iteration key : Nat) (sound : Sound thread)
    (idle : thread.rest = []) (few : iteration < destructorIterations)
    (created : key < thread.table.nextKey) (found : (thread.kv key).isSome) :
    Sound (thread.enter iteration key) := by
  have nodes : ∀ other list, Function.update thread.kv key none other = some (.nodes list) →
      thread.atexitKey = some other ∧ list ≠ [] := by
    intro other list there
    by_cases same : other = key
    · subst same
      simp at there
    · exact sound.nodes other list (by simpa [same] using there)
  have values : ∀ other value, Function.update thread.kv key none other = some (.value value) →
      thread.atexitKey ≠ some other := by
    intro other value there
    by_cases same : other = key
    · subst same
      simp at there
    · exact sound.values other value (by simpa [same] using there)
  have unused : ∀ other, thread.table.nextKey ≤ other →
      Function.update thread.kv key none other = none := by
    intro other beyond
    have same : other ≠ key := Nat.ne_of_gt (Nat.lt_of_lt_of_le created beyond)
    simpa [same] using sound.unused other beyond
  rcases sound.inTurn with ⟨registered, ran⟩
  rw [idle, List.append_nil] at ran
  rcases found_slot thread key sound found with ⟨pair, rest, there, own⟩ | ⟨value, there, foreign⟩
  · simp only [Thread.enter, there]
    refine ⟨sound.room, sound.intact, sound.atexit, nodes, values, unused, ?_, ?_, ?_, ?_⟩
    · -- The list holds just what has been registered since the last reading, backwards.
      have pending : thread.pending = pair :: rest := by
        simp [Thread.pending, own, Thread.held, there]
      rw [pending] at registered
      have latest : thread.latest = (pair :: rest).reverse := by
        simp [Thread.latest, registered]
      constructor
      · simp [Thread.pending, own, Thread.held, latest, registered]
      · simp [Thread.rest, ran, latest]
    · intro other
      by_cases same : other = key
      · subst same
        simpa [Thread.current, there] using sound.conserved other
      · simpa [Thread.current, same] using sound.conserved other
    · intro i k left point
      cases point
      exact ⟨few, created⟩
    · intro passes over_
      cases over_
  · simp only [Thread.enter, there]
    refine ⟨sound.room, sound.intact, sound.atexit, nodes, values, unused, ?_, ?_, ?_, ?_⟩
    · -- The value stands under another key, and the list stays as it is.
      refine ⟨registered.trans ?_, ?_⟩
      · cases own : thread.atexitKey with
        | none => simp [Thread.pending, own]
        | some list =>
            have different : list ≠ key := by
              rintro rfl
              exact foreign own
            simp [Thread.pending, own, Thread.held, different]
      · simpa [Thread.rest] using ran
    · intro other
      by_cases same : other = key
      · subst same
        have before := sound.conserved other
        simp only [Thread.current, there] at before
        simp only [Thread.current, Function.update_self, List.append_nil]
        -- the value has moved from the slot to those that are destroyed
        have moved : (thread.replaced other ++ [value]).Perm ([value] ++ thread.replaced other) :=
          List.perm_append_comm
        rw [List.append_assoc]
        exact before.trans (moved.append_left _)
      · simpa [Thread.current, same] using sound.conserved other
    · intro i k left point
      cases point
      exact ⟨few, created⟩
    · intro passes over_
      cases over_

/-- The end of the loop. -/
theorem finish_sound (thread : Thread Pair Value) (passes : Nat) (sound : Sound thread)
    (idle : thread.rest = []) (few : passes ≤ destructorIterations)
    (limit : thread.occupied 0 ≠ none → passes = destructorIterations) :
    Sound { thread with point := .finished passes } := by
  refine ⟨sound.room, sound.intact, sound.atexit, sound.nodes, sound.values, sound.unused, ?_,
    sound.conserved, ?_, ?_⟩
  · rcases sound.inTurn with ⟨registered, ran⟩
    rw [idle] at ran
    exact ⟨registered, ran⟩
  · intro i k left point
    cases point
  · rintro n ⟨⟩
    exact ⟨few, limit⟩

theorem proceed_sound (thread : Thread Pair Value) (iteration start : Nat) (called : Bool)
    (sound : Sound thread) (idle : thread.rest = []) (few : iteration < destructorIterations)
    (first : called = false → start = 0) : Sound (thread.proceed iteration called start) := by
  unfold Thread.proceed
  split
  · rename_i key found
    rcases occupied_some thread start key found with ⟨-, created, some, -⟩
    exact enter_sound thread iteration key sound idle few created some
  · rename_i none
    split
    · rename_i again
      simp only [Bool.and_eq_true, decide_eq_true_eq] at again
      split
      · rename_i key found
        rcases occupied_some thread 0 key found with ⟨-, created, some, -⟩
        exact enter_sound thread (iteration + 1) key sound idle again.2 created some
      · rename_i clean
        exact finish_sound thread _ sound idle again.2 fun left => absurd clean left
    · rename_i last
      apply finish_sound thread _ sound idle few
      intro left
      -- Something is left: the pass has called destructors, so it was the last one.
      cases called with
      | false =>
          rw [first rfl] at none
          exact absurd none left
      | true =>
          simp only [Bool.true_and, decide_eq_true_eq, not_lt] at last
          exact Nat.le_antisymm few last

theorem leave_sound (thread next : Thread Pair Value) (sound : Sound thread)
    (taken : thread.leave = some next) : Sound next := by
  unfold Thread.leave at taken
  split at taken
  · rename_i point
    cases taken
    exact proceed_sound thread 0 0 false sound (by simp [Thread.rest, point]) (by decide)
      fun _ => rfl
  · rename_i iteration key pair rest point
    cases taken
    refine ⟨sound.room, sound.intact, sound.atexit, sound.nodes, sound.values, sound.unused, ?_,
      sound.conserved, ?_, ?_⟩
    · rcases sound.inTurn with ⟨registered, ran⟩
      refine ⟨registered, ?_⟩
      simpa [Thread.rest, point] using ran
    · rintro i k left ⟨⟩
      exact sound.inside iteration key _ point
    · intro passes over_
      cases over_
  · rename_i iteration key point
    cases taken
    exact proceed_sound thread iteration (key + 1) true sound (by simp [Thread.rest, point])
      (sound.inside iteration key [] point).1 fun again => nomatch again
  · cases taken

theorem step_sound (thread : Thread Pair Value) (label : Label Pair Value)
    (next : Thread Pair Value) (sound : Sound thread) (fits : Fits thread label)
    (taken : step thread label = some next) : Sound next := by
  cases label with
  | atexit pair allocated =>
      simp only [step, Option.ite_none_left_eq_some, Bool.not_eq_true, Option.some.injEq] at taken
      obtain ⟨running, rfl⟩ := taken
      have ready := initAtexit_sound thread sound fits running
      have still : thread.initAtexit.isOver = false := by
        unfold Thread.initAtexit
        split <;> exact running
      unfold Thread.cxaThreadAtexit
      dsimp only
      split
      · split
        · rename_i key own
          exact prepend_sound _ key pair ready own still
        · exact ready
      · exact ready
  | atexitElsewhere =>
      simp only [step, Option.ite_none_left_eq_some, Bool.not_eq_true, Option.some.injEq] at taken
      obtain ⟨running, rfl⟩ := taken
      exact initAtexit_sound thread sound fits running
  | set key value =>
      simp only [step, Option.ite_none_right_eq_some, Option.some.injEq] at taken
      obtain ⟨⟨running, created, foreign⟩, rfl⟩ := taken
      exact tlsSet_sound thread key value sound running created foreign
  | create atExit =>
      simp only [step, Option.ite_none_left_eq_some, Bool.not_eq_true, Option.some.injEq] at taken
      obtain ⟨running, rfl⟩ := taken
      exact create_sound thread _ sound fits running
  | leave => exact leave_sound thread next sound taken

theorem stage_lt (first second third before middle last : Nat)
    (less : first < before ∨ first = before ∧ (second < middle ∨ second = middle ∧ third < last)) :
    (toLex (first, toLex (second, third)) : ℕ ×ₗ ℕ ×ₗ ℕ) <
      toLex (before, toLex (middle, last)) := by
  rw [Prod.Lex.toLex_lt_toLex, Prod.Lex.toLex_lt_toLex]
  exact less

theorem enter_stage (thread : Thread Pair Value) (iteration key : Nat) :
    ∃ length, (thread.enter iteration key).stage =
      toLex (destructorIterations - iteration, toLex (maxTlsKeys - key, length)) := by
  unfold Thread.enter
  dsimp only
  split <;> exact ⟨_, rfl⟩

/-- Whatever the loop goes on with is a later key, a later pass, or its end. -/
theorem proceed_stage (thread : Thread Pair Value) (iteration start : Nat) (called : Bool)
    (first second third : Nat) (room : thread.table.nextKey ≤ maxTlsKeys)
    (few : iteration < destructorIterations)
    (ahead : ∀ key, start ≤ key → key < maxTlsKeys → destructorIterations - iteration < first ∨
      destructorIterations - iteration = first ∧ maxTlsKeys - key < second)
    (positive : destructorIterations - iteration ≤ first) :
    (thread.proceed iteration called start).stage < toLex (first, toLex (second, third)) := by
  unfold Thread.proceed
  split
  · rename_i key found
    rcases occupied_some thread start key found with ⟨onwards, created, -⟩
    rcases enter_stage thread iteration key with ⟨length, same⟩
    rw [same]
    apply stage_lt
    rcases ahead key onwards (Nat.lt_of_lt_of_le created room) with less | ⟨equal, less⟩
    · exact Or.inl less
    · exact Or.inr ⟨equal, Or.inl less⟩
  · split
    · rename_i again
      simp only [Bool.and_eq_true, decide_eq_true_eq] at again
      split
      · rename_i key found
        rcases enter_stage thread (iteration + 1) key with ⟨length, same⟩
        rw [same]
        exact stage_lt _ _ _ _ _ _ (Or.inl (by omega))
      · exact stage_lt _ _ _ _ _ _ (Or.inl (by omega))
    · exact stage_lt _ _ _ _ _ _ (Or.inl (by omega))

theorem leave_stage (thread : Thread Pair Value) (sound : Sound thread)
    (running : thread.isOver = false) :
    ∃ next, step thread .leave = some next ∧ next.stage < thread.stage := by
  cases point : thread.point with
  | function =>
      refine ⟨thread.proceed 0 false 0, by simp [step, Thread.leave, point], ?_⟩
      have before : thread.stage = toLex (destructorIterations + 1, toLex (0, 0)) := by
        simp [Thread.stage, point]
      rw [before]
      exact proceed_stage thread 0 0 false _ _ _ sound.room (by decide)
        (fun _ _ _ => Or.inl (by decide)) (by decide)
  | destroying iteration key rest =>
      rcases sound.inside iteration key rest point with ⟨few, created⟩
      have before : thread.stage = toLex (destructorIterations - iteration,
          toLex (maxTlsKeys - key, rest.length)) := by
        simp [Thread.stage, point]
      rw [before]
      cases rest with
      | nil =>
          refine ⟨thread.proceed iteration true (key + 1), by simp [step, Thread.leave, point], ?_⟩
          apply proceed_stage thread iteration (key + 1) true _ _ _ sound.room few _ (Nat.le_refl _)
          intro other onwards inside
          exact Or.inr ⟨rfl, by omega⟩
      | cons pair rest =>
          refine ⟨{ thread with
            ran := thread.ran ++ [pair], point := .destroying iteration key rest },
            by simp [step, Thread.leave, point], ?_⟩
          exact stage_lt _ _ _ _ _ _ (Or.inr ⟨rfl, Or.inr ⟨rfl, Nat.lt_succ_self _⟩⟩)
  | finished passes => simp [Thread.isOver, point] at running

theorem sound_discharges (thread : Thread Pair Value) (sound : Sound thread) :
    Discharges thread := by
  refine ⟨sound.intact, sound.inTurn, sound.conserved, ?_, leave_stage thread sound⟩
  intro passes point
  rcases sound.ended passes point with ⟨few, limit⟩
  refine ⟨few, limit, ?_, ?_⟩
  · intro clean
    have empty : thread.pending = [] := by
      cases own : thread.atexitKey with
      | none => simp [Thread.pending, own]
      | some key =>
          rcases sound.atexit key own with ⟨created, destructor⟩
          have none := occupied_none thread clean key created destructor
          simp [Thread.pending, own, Thread.held, none]
    rcases sound.inTurn with ⟨registered, ran⟩
    refine ⟨?_, ?_⟩
    · simpa [empty] using registered
    · simpa [Thread.rest, point] using ran
  · intro clean key created destructor
    have none := occupied_none thread clean key created destructor
    have conserved := sound.conserved key
    simp only [Thread.current, none, List.append_nil] at conserved
    exact ⟨none, conserved⟩

/-- A key without a slot is written outside the table. -/
theorem step_unsound (thread : Thread Pair Value) (label : Label Pair Value)
    (next : Thread Pair Value) (unfit : ¬ Fits thread label)
    (taken : step thread label = some next) : ¬ Discharges next := by
  intro discharges
  have broken : ∀ atExit, ¬ thread.table.nextKey < maxTlsKeys →
      (thread.table.create atExit).overrun = true := by
    intro atExit full
    simp [KeyTable.create, Nat.le_of_not_lt full]
  have intact := discharges.intact.1
  cases label with
  | atexit pair allocated =>
      simp only [Fits, not_forall] at unfit
      rcases unfit with ⟨none, full⟩
      simp only [step, Option.ite_none_left_eq_some, Bool.not_eq_true, Option.some.injEq] at taken
      obtain ⟨-, rfl⟩ := taken
      have table : (thread.cxaThreadAtexit pair allocated).table =
          thread.table.create (some .cxaThreadAtexit) := by
        have slot : ¬ thread.table.nextKey < maxTlsKeys := full
        cases allocated with
        | true => simp [Thread.cxaThreadAtexit, Thread.initAtexit, none, Thread.prepend, slot]
        | false => simp [Thread.cxaThreadAtexit, Thread.initAtexit, none]
      rw [table, broken _ full] at intact
      cases intact
  | atexitElsewhere =>
      simp only [Fits, not_forall] at unfit
      rcases unfit with ⟨none, full⟩
      simp only [step, Option.ite_none_left_eq_some, Bool.not_eq_true, Option.some.injEq] at taken
      obtain ⟨-, rfl⟩ := taken
      simp only [Thread.initAtexit, none, broken _ full] at intact
      cases intact
  | create atExit =>
      simp only [step, Option.ite_none_left_eq_some, Bool.not_eq_true, Option.some.injEq] at taken
      obtain ⟨-, rfl⟩ := taken
      rw [broken _ unfit] at intact
      cases intact
  | set | leave => exact unfit trivial

theorem initial_sound : Sound (initial : Thread Pair Value) := by
  refine ⟨Nat.zero_le _, ⟨rfl, rfl⟩, ?_, ?_, ?_, fun _ _ => rfl, ⟨rfl, rfl⟩,
    fun _ => .refl _, ?_, ?_⟩
  · intro key own
    cases own
  · intro key list there
    cases there
  · intro key value there
    cases there
  · intro iteration key rest point
    cases point
  · intro passes point
    cases point

/-- For every thread, whatever it and its destructors register and store: the exit loop does
what it is for, in every state reached, exactly when at most 32 keys are created. -/
theorem exit_discharges_iff_fits (labels : List (Label Pair Value)) (final : Thread Pair Value)
    (reached : run step initial labels = some final) :
    Throughout step Discharges initial labels ↔ Along step Fits initial labels :=
  throughout_iff_along Fits Sound Discharges sound_discharges step_sound
    (fun thread label next _ => step_unsound thread label next) initial final labels initial_sound
    reached

def registersAgain : List (Label Nat Nat) :=
  [.create true, .atexit 1 true, .atexit 2 true, .set 0 (some 5), .leave, .leave, .atexit 3 true,
    .set 0 (some 6), .leave, .leave, .leave, .leave]

theorem registersAgain_discharges :
    Throughout step Discharges initial registersAgain ∧
      ∃ final, run step initial registersAgain = some final ∧ final.point = .finished 3 ∧
        final.ran = [2, 1, 3] ∧ final.destroyed 0 = [5, 6] := by
  refine ⟨(exit_discharges_iff_fits registersAgain _ rfl).mpr ?_, _, rfl, rfl, rfl, rfl⟩
  refine ⟨(by decide : 0 < maxTlsKeys), ?_⟩
  rintro _ ⟨⟩
  refine ⟨fun _ => (by decide : 1 < maxTlsKeys), ?_⟩
  rintro _ ⟨⟩
  refine ⟨by rintro ⟨⟩, ?_⟩
  rintro _ ⟨⟩
  refine ⟨trivial, ?_⟩
  rintro _ ⟨⟩
  refine ⟨trivial, ?_⟩
  rintro _ ⟨⟩
  refine ⟨trivial, ?_⟩
  rintro _ ⟨⟩
  refine ⟨by rintro ⟨⟩, ?_⟩
  rintro _ ⟨⟩
  refine ⟨trivial, ?_⟩
  rintro _ ⟨⟩
  refine ⟨trivial, ?_⟩
  rintro _ ⟨⟩
  refine ⟨trivial, ?_⟩
  rintro _ ⟨⟩
  refine ⟨trivial, ?_⟩
  rintro _ ⟨⟩
  exact ⟨trivial, fun _ _ => trivial⟩

/-- After 32 keys of the program there is no slot for the list: the registration returns 0,
and the destructor does not run. -/
theorem lateRegistration_lost :
    ∃ final : Thread Nat Nat,
      run step initial (List.replicate 32 (.create true) ++ [.atexit 7 true, .leave]) =
        some final ∧
      final.point = .finished 1 ∧ final.registered = [7] ∧ final.ran = [] ∧
      final.occupied 0 = none ∧ ¬ Discharges final := by
  obtain ⟨final, reached, point, registered, ran, clean⟩ : ∃ final : Thread Nat Nat,
      run step initial (List.replicate 32 (.create true) ++ [.atexit 7 true, .leave]) =
        some final ∧
      final.point = .finished 1 ∧ final.registered = [7] ∧ final.ran = [] ∧
      final.occupied 0 = none :=
    ⟨_, rfl, rfl, rfl, rfl, by decide⟩
  refine ⟨final, reached, point, registered, ran, clean, ?_⟩
  intro discharges
  have all := (discharges.done 1 point).ran clean
  rw [registered, ran] at all
  have batched := congrArg List.length all.1
  have none := congrArg List.length all.2
  simp only [List.length_flatten, List.map_map, List.length_nil] at batched none
  have same : List.length ∘ List.reverse = (List.length : List Nat → Nat) := by
    funext list
    exact List.length_reverse
  rw [same, ← batched] at none
  cases none

end CircleStdlib.ThreadExit
