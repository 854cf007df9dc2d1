import CircleStdlib.Execution
import Mathlib.Data.List.Nodup
import Mathlib.Algebra.Group.Nat.Defs

/-!
The key-value layer of thread.cpp: the table of keys with their destructors, and the slots
that each task has in its `TaskTLSData`. A task has one from the start when it is a thread,
from the creation of the first thread on when it is the task that creates it, and otherwise
never. The exit loop of a thread empties a slot before it calls the destructor; that is a
store of null by the thread itself. Null pointers are `none`.
-/

namespace CircleStdlib.ThreadStorage

open Execution

def maxTlsKeys : Nat := 32

/-- `s_next_key` and `s_destructors`; `overrun` says that the table has been written outside
its bounds. -/
structure KeyTable (Destructor : Type) where
  nextKey : Nat
  destructors : Nat → Option Destructor
  overrun : Bool

def KeyTable.create {Destructor : Type} (table : KeyTable Destructor)
    (atExit : Option Destructor) : KeyTable Destructor :=
  { nextKey := (table.nextKey + 1) % 2 ^ 32
    destructors :=
      if table.nextKey < maxTlsKeys then Function.update table.destructors table.nextKey atExit
      else table.destructors
    overrun := table.overrun || decide (maxTlsKeys ≤ table.nextKey) }

inductive Status where
  | absent
  | present
  | over
  deriving DecidableEq, Repr

/-- `data` is `kv` of the `TaskTLSData` that a task has. Not stored by the code are `keys`,
the keys that were returned, and `stored`, what each task has stored last under each key.
`overrun` says that a slot outside `kv` has been written. -/
structure Storage (Task Value Destructor : Type) where
  table : KeyTable Destructor
  initialized : Bool
  status : Task → Status
  data : Task → Option (Nat → Option Value)
  keys : List Nat
  stored : Task → Nat → Option Value
  overrun : Bool

inductive Label (Task Value Destructor : Type) where
  | tlsCreate (atExit : Option Destructor)
  | tlsSet (task : Task) (key : Nat) (value : Option Value)
  | threadCreate (by_ thread : Task)
  | spawn (task : Task)
  | clear (thread : Task) (key : Nat)
  | finish (thread : Task)

variable {Task Value Destructor : Type}

def Storage.tlsGet (storage : Storage Task Value Destructor) (task : Task) (key : Nat) :
    Option Value :=
  match storage.data task with
  | some kv => kv key
  | none => none

variable [DecidableEq Task]

namespace Storage

def giveData (storage : Storage Task Value Destructor) (task : Task) :
    Storage Task Value Destructor :=
  { storage with data := Function.update storage.data task (some fun _ => none) }

def put (storage : Storage Task Value Destructor) (task : Task) (key : Nat)
    (value : Option Value) : Storage Task Value Destructor :=
  match storage.data task with
  | some kv =>
      if key < maxTlsKeys then
        { storage with
          data := Function.update storage.data task (some (Function.update kv key value)) }
      else { storage with overrun := true }
  | none => storage

def note (storage : Storage Task Value Destructor) (task : Task) (key : Nat)
    (value : Option Value) : Storage Task Value Destructor :=
  { storage with
    stored := Function.update storage.stored task
      (Function.update (storage.stored task) key value) }

-- `__libcpp_thread_create`, as far as the storage is concerned.
def threadCreate (storage : Storage Task Value Destructor) (by_ thread : Task) :
    Storage Task Value Destructor :=
  let storage :=
    if storage.initialized then storage else { storage with initialized := true }.giveData by_
  { storage with status := Function.update storage.status thread .present }.giveData thread

end Storage

-- One call of a task. Only keys that have been created are used, and a task that is over
-- makes no calls. `__libcpp_tls_set` returns 0 in all cases.
def step (storage : Storage Task Value Destructor) :
    Label Task Value Destructor → Option (Storage Task Value Destructor)
  | .tlsCreate atExit =>
      some { storage with
        table := storage.table.create atExit
        keys := storage.keys ++ [storage.table.nextKey] }
  | .tlsSet task key value =>
      if storage.status task = .present ∧ key ∈ storage.keys then
        some ((storage.put task key value).note task key value)
      else none
  | .threadCreate by_ thread =>
      if storage.status by_ = .present ∧ storage.status thread = .absent then
        some (storage.threadCreate by_ thread)
      else none
  | .spawn task =>
      if storage.status task = .absent then
        some { storage with status := Function.update storage.status task .present }
      else none
  | .clear thread key =>
      if storage.status thread = .present ∧ (storage.data thread).isSome ∧
          key ∈ storage.keys then
        some ((storage.put thread key none).note thread key none)
      else none
  | .finish thread =>
      if storage.status thread = .present then
        some { storage with
          status := Function.update storage.status thread .over
          data := Function.update storage.data thread none }
      else none

omit [DecidableEq Task] in
def initial (present : Task → Bool) : Storage Task Value Destructor :=
  { table := { nextKey := 0, destructors := fun _ => none, overrun := false }
    initialized := false
    status := fun task => if present task then .present else .absent
    data := fun _ => none
    keys := []
    stored := fun _ _ => none
    overrun := false }

/-- The keys are distinct and index inside `kv`, nothing has been written outside the tables,
and a task reads what it has stored last. -/
structure Refines (storage : Storage Task Value Destructor) : Prop where
  distinct : storage.keys.Nodup
  inside : ∀ key ∈ storage.keys, key < maxTlsKeys
  intact : storage.table.overrun = false ∧ storage.overrun = false
  reads : ∀ task, storage.status task = .present → ∀ key ∈ storage.keys,
    storage.tlsGet task key = storage.stored task key

omit [DecidableEq Task] in
-- Not more keys than there are slots, and values only in tasks that have their data.
def Proper (storage : Storage Task Value Destructor) : Label Task Value Destructor → Prop
  | .tlsCreate _ => storage.table.nextKey < maxTlsKeys
  | .tlsSet task _ value => (storage.data task).isSome ∨ value = none
  | _ => True

structure Faithful (storage : Storage Task Value Destructor) : Prop where
  counted : storage.keys = List.range storage.table.nextKey
  few : storage.table.nextKey ≤ maxTlsKeys
  intact : storage.table.overrun = false ∧ storage.overrun = false
  uninitialized : storage.initialized = false → ∀ task, storage.data task = none
  absent : ∀ task, storage.status task = .absent →
    storage.data task = none ∧ ∀ key, storage.stored task key = none
  reads : ∀ task, storage.status task = .present → ∀ key,
    storage.tlsGet task key = storage.stored task key

omit [DecidableEq Task] in
theorem faithful_refines (storage : Storage Task Value Destructor) (faithful : Faithful storage) :
    Refines storage := by
  refine ⟨?_, ?_, faithful.intact, fun task present key _ => faithful.reads task present key⟩
  · rw [faithful.counted]
    exact List.nodup_range
  · intro key member
    rw [faithful.counted, List.mem_range] at member
    exact Nat.lt_of_lt_of_le member faithful.few

omit [DecidableEq Task] in
theorem key_inside (storage : Storage Task Value Destructor) (faithful : Faithful storage)
    (key : Nat) (member : key ∈ storage.keys) : key < maxTlsKeys :=
  (faithful_refines storage faithful).inside key member

/-- What a store does to the slots, when it is not dropped. -/
theorem tlsGet_put (storage : Storage Task Value Destructor) (task other : Task) (key index : Nat)
    (value : Option Value) (inside : key < maxTlsKeys)
    (kept : (storage.data task).isSome ∨ value = none) :
    (storage.put task key value).tlsGet other index =
      if other = task ∧ index = key then value else storage.tlsGet other index := by
  cases there : storage.data task with
  | none =>
      have dropped : value = none := by simpa [there] using kept
      simp only [Storage.put, there]
      split
      · rename_i same
        rw [dropped, same.1, Storage.tlsGet, there]
      · rfl
  | some kv =>
      simp only [Storage.put, there, inside, ↓reduceIte, Storage.tlsGet]
      by_cases mine : other = task
      · subst mine
        by_cases same : index = key
        · subst same
          simp
        · simp [same, there]
      · simp [mine]

theorem put_framed (storage : Storage Task Value Destructor) (task : Task) (key : Nat)
    (value : Option Value) (inside : key < maxTlsKeys) :
    (storage.put task key value).table = storage.table ∧
      (storage.put task key value).initialized = storage.initialized ∧
      (storage.put task key value).status = storage.status ∧
      (storage.put task key value).keys = storage.keys ∧
      (storage.put task key value).stored = storage.stored ∧
      (storage.put task key value).overrun = storage.overrun ∧
      ∀ other, ((storage.put task key value).data other).isNone = (storage.data other).isNone := by
  unfold Storage.put
  split
  · rename_i kv there
    rw [if_pos inside]
    refine ⟨rfl, rfl, rfl, rfl, rfl, rfl, ?_⟩
    intro other
    by_cases mine : other = task
    · subst mine
      simp [there]
    · simp [mine]
  · exact ⟨rfl, rfl, rfl, rfl, rfl, rfl, fun _ => rfl⟩

/-- A value that is stored and noted. -/
theorem store_faithful (storage : Storage Task Value Destructor) (task : Task) (key : Nat)
    (value : Option Value) (faithful : Faithful storage) (present : storage.status task = .present)
    (member : key ∈ storage.keys) (kept : (storage.data task).isSome ∨ value = none) :
    Faithful ((storage.put task key value).note task key value) := by
  have inside := key_inside storage faithful key member
  rcases put_framed storage task key value inside with
    ⟨table, initialized, status, keys, stored, overrun, data⟩
  refine ⟨?_, ?_, ?_, ?_, ?_, ?_⟩
  · simpa [Storage.note, keys, table] using faithful.counted
  · simpa [Storage.note, table] using faithful.few
  · simpa [Storage.note, table, overrun] using faithful.intact
  · intro begun other
    have none := faithful.uninitialized (initialized ▸ begun) other
    have same := data other
    rw [none] at same
    exact Option.isNone_iff_eq_none.mp same
  · intro other absent
    have before : storage.status other = .absent := by simpa [Storage.note, status] using absent
    have different : other ≠ task := by
      rintro rfl
      rw [present] at before
      cases before
    rcases faithful.absent other before with ⟨none, empty⟩
    have same := data other
    rw [none] at same
    refine ⟨Option.isNone_iff_eq_none.mp same, ?_⟩
    intro index
    simpa [Storage.note, different, stored] using empty index
  · intro other there index
    have before : storage.status other = .present := by simpa [Storage.note, status] using there
    have get : ((storage.put task key value).note task key value).tlsGet other index =
        (storage.put task key value).tlsGet other index := rfl
    rw [get, tlsGet_put storage task other key index value inside kept]
    by_cases mine : other = task
    · subst mine
      by_cases same : index = key
      · subst same
        simp [Storage.note]
      · simpa [Storage.note, same, stored] using faithful.reads other before index
    · simpa [Storage.note, mine, stored] using faithful.reads other before index

omit [DecidableEq Task] in
/-- A task reads nothing from data that has just been given to it. -/
theorem tlsGet_giveData [DecidableEq Task] (storage : Storage Task Value Destructor)
    (task other : Task) (key : Nat) :
    (storage.giveData task).tlsGet other key =
      if other = task then none else storage.tlsGet other key := by
  by_cases mine : other = task
  · subst mine
    simp [Storage.giveData, Storage.tlsGet]
  · simp [Storage.giveData, Storage.tlsGet, mine]

theorem threadCreate_faithful (storage : Storage Task Value Destructor) (by_ thread : Task)
    (faithful : Faithful storage) (present : storage.status by_ = .present)
    (absent : storage.status thread = .absent) : Faithful (storage.threadCreate by_ thread) := by
  -- The first caller gets its data, and had stored nothing before.
  have begun : Faithful (if storage.initialized then storage
      else { storage with initialized := true }.giveData by_) := by
    split
    · exact faithful
    · rename_i first
      have bare := faithful.uninitialized (by simpa using first)
      refine ⟨faithful.counted, faithful.few, faithful.intact, ?_, ?_, ?_⟩
      · intro again
        cases again
      · intro task missing
        have other : task ≠ by_ := by
          rintro rfl
          exact absurd (present.symm.trans missing) (by simp)
        refine ⟨?_, (faithful.absent task missing).2⟩
        simpa [Storage.giveData, other] using bare task
      · intro task there key
        have before := faithful.reads task there key
        rw [tlsGet_giveData]
        have empty : storage.tlsGet task key = none := by
          simp only [Storage.tlsGet, bare task]
        rw [empty] at before
        split
        · exact before
        · exact empty.trans before
  unfold Storage.threadCreate
  generalize created : (if storage.initialized then storage
    else { storage with initialized := true }.giveData by_) = middle at begun ⊢
  have missing : middle.status thread = .absent := by
    rw [← created]
    split <;> exact absent
  rcases begun.absent thread missing with ⟨-, empty⟩
  refine ⟨begun.counted, begun.few, begun.intact, ?_, ?_, ?_⟩
  · intro again
    have done : middle.initialized = true := by
      rw [← created]
      split
      · assumption
      · rfl
    exact absurd (done.symm.trans again) (by simp)
  · intro task there
    have other : task ≠ thread := by
      rintro rfl
      simp [Storage.giveData] at there
    have before : middle.status task = .absent := by
      simpa [Storage.giveData, other] using there
    refine ⟨?_, (begun.absent task before).2⟩
    simpa [Storage.giveData, other] using (begun.absent task before).1
  · intro task there key
    rw [tlsGet_giveData]
    by_cases new : task = thread
    · subst new
      rw [if_pos rfl]
      exact (empty key).symm
    · rw [if_neg new]
      have before : middle.status task = .present := by
        simpa [Storage.giveData, new] using there
      exact begun.reads task before key

omit [DecidableEq Task] in
theorem tlsCreate_faithful (storage : Storage Task Value Destructor) (atExit : Option Destructor)
    (faithful : Faithful storage) (room : storage.table.nextKey < maxTlsKeys) :
    Faithful { storage with
      table := storage.table.create atExit
      keys := storage.keys ++ [storage.table.nextKey] } := by
  have next : (storage.table.create atExit).nextKey = storage.table.nextKey + 1 := by
    have small : maxTlsKeys < 2 ^ 32 := by decide
    exact Nat.mod_eq_of_lt (by omega)
  refine ⟨?_, ?_, ⟨?_, faithful.intact.2⟩, faithful.uninitialized, faithful.absent, faithful.reads⟩
  · show storage.keys ++ _ = _
    rw [next, List.range_succ, faithful.counted]
  · show (storage.table.create atExit).nextKey ≤ _
    rw [next]
    exact room
  · simp [KeyTable.create, faithful.intact.1, room]

theorem step_faithful (storage : Storage Task Value Destructor)
    (label : Label Task Value Destructor) (next : Storage Task Value Destructor)
    (faithful : Faithful storage) (proper : Proper storage label)
    (taken : step storage label = some next) : Faithful next := by
  cases label with
  | tlsCreate atExit =>
      cases taken
      exact tlsCreate_faithful storage atExit faithful proper
  | tlsSet task key value =>
      simp only [step, Option.ite_none_right_eq_some, Option.some.injEq] at taken
      obtain ⟨⟨present, member⟩, rfl⟩ := taken
      exact store_faithful storage task key value faithful present member proper
  | threadCreate by_ thread =>
      simp only [step, Option.ite_none_right_eq_some, Option.some.injEq] at taken
      obtain ⟨⟨present, absent⟩, rfl⟩ := taken
      exact threadCreate_faithful storage by_ thread faithful present absent
  | spawn task =>
      simp only [step, Option.ite_none_right_eq_some, Option.some.injEq] at taken
      obtain ⟨absent, rfl⟩ := taken
      rcases faithful.absent task absent with ⟨bare, empty⟩
      refine ⟨faithful.counted, faithful.few, faithful.intact, faithful.uninitialized, ?_, ?_⟩
      · intro other there
        by_cases new : other = task
        · exact ⟨new ▸ bare, new ▸ empty⟩
        · exact faithful.absent other (by simpa [new] using there)
      · intro other there key
        by_cases new : other = task
        · subst new
          show storage.tlsGet other key = _
          simp only [Storage.tlsGet, bare, empty key]
        · exact faithful.reads other (by simpa [new] using there) key
  | clear thread key =>
      simp only [step, Option.ite_none_right_eq_some, Option.some.injEq] at taken
      obtain ⟨⟨present, -, member⟩, rfl⟩ := taken
      exact store_faithful storage thread key none faithful present member (Or.inr rfl)
  | finish thread =>
      simp only [step, Option.ite_none_right_eq_some, Option.some.injEq] at taken
      obtain ⟨present, rfl⟩ := taken
      refine ⟨faithful.counted, faithful.few, faithful.intact, ?_, ?_, ?_⟩
      · intro begun other
        by_cases own : other = thread
        · subst own
          simp
        · simpa [own] using faithful.uninitialized begun other
      · intro other there
        by_cases own : other = thread
        · subst own
          simp at there
        · have before := faithful.absent other (by simpa [own] using there)
          exact ⟨by simpa [own] using before.1, before.2⟩
      · intro other there key
        by_cases own : other = thread
        · subst own
          simp at there
        · have before := faithful.reads other (by simpa [own] using there) key
          simpa [Storage.tlsGet, own] using before

/-- A key too many indexes outside, and a value without data is lost. -/
theorem step_unfaithful (storage : Storage Task Value Destructor)
    (label : Label Task Value Destructor) (next : Storage Task Value Destructor)
    (improper : ¬ Proper storage label) (taken : step storage label = some next) :
    ¬ Refines next := by
  intro refines
  cases label with
  | tlsCreate atExit =>
      cases taken
      exact improper (refines.inside storage.table.nextKey (by simp))
  | tlsSet task key value =>
      simp only [Proper, not_or] at improper
      simp only [step, Option.ite_none_right_eq_some, Option.some.injEq] at taken
      obtain ⟨⟨present, member⟩, rfl⟩ := taken
      have bare : storage.data task = none := by simpa using improper.1
      have dropped : storage.put task key value = storage := by
        simp only [Storage.put, bare]
      rw [dropped] at refines
      have read := refines.reads task present key member
      have lost : (storage.note task key value).tlsGet task key = none := by
        simp only [Storage.tlsGet, Storage.note, bare]
      rw [lost] at read
      simp only [Storage.note, Function.update_self] at read
      exact improper.2 read.symm
  | threadCreate | spawn | clear | finish => exact improper trivial

omit [DecidableEq Task] in
theorem initial_faithful (present : Task → Bool) :
    Faithful (initial present : Storage Task Value Destructor) :=
  ⟨rfl, Nat.zero_le _, ⟨rfl, rfl⟩, fun _ _ => rfl, fun _ _ => ⟨rfl, fun _ => rfl⟩,
    fun _ _ _ => rfl⟩

/-- In every run, whatever the tasks are and however their calls interleave: the storage is
a map from tasks and keys to the values stored last, in every state reached, exactly when
at most 32 keys are created and no task without data stores a value. -/
theorem storage_refines_iff_proper (present : Task → Bool)
    (labels : List (Label Task Value Destructor)) (final : Storage Task Value Destructor)
    (reached : run step (initial present) labels = some final) :
    Throughout step Refines (initial present : Storage Task Value Destructor) labels ↔
      Along step Proper (initial present) labels :=
  throughout_iff_along Proper Faithful Refines faithful_refines step_faithful
    (fun storage label next _ => step_unfaithful storage label next) (initial present) final labels
    (initial_faithful present) reached

def threadStores : List (Label Nat Nat Nat) :=
  [.tlsCreate none, .tlsCreate (some 7), .threadCreate 0 1, .tlsSet 1 1 (some 5)]

theorem threadStores_refines : Throughout step Refines (initial (· = 0)) threadStores := by
  refine (storage_refines_iff_proper (· = 0) threadStores _ rfl).mpr ?_
  refine ⟨(by decide : 0 < maxTlsKeys), ?_⟩
  intro one taken
  cases taken
  refine ⟨(by decide : 1 < maxTlsKeys), ?_⟩
  intro two taken
  cases taken
  refine ⟨trivial, ?_⟩
  intro started taken
  cases taken
  exact ⟨Or.inl rfl, fun _ _ => trivial⟩

/-- The main task stores a value before the first thread is created, and cannot read it;
and the 33rd key does not index into `kv`. -/
theorem mainStores_lost :
    (∃ final : Storage Nat Nat Nat,
      run step (initial (· = 0)) [.tlsCreate none, .tlsSet 0 0 (some 5)] = some final ∧
      final.tlsGet 0 0 = none ∧ final.stored 0 0 = some 5 ∧ ¬ Refines final) ∧
    ∃ final : Storage Nat Nat Nat,
      run step (initial (· = 0)) (List.replicate 33 (.tlsCreate none)) = some final ∧
      32 ∈ final.keys ∧ ¬ Refines final := by
  constructor
  · obtain ⟨final, reached, read, stored, present, member⟩ : ∃ final : Storage Nat Nat Nat,
        run step (initial (· = 0)) [.tlsCreate none, .tlsSet 0 0 (some 5)] = some final ∧
        final.tlsGet 0 0 = none ∧ final.stored 0 0 = some 5 ∧ final.status 0 = .present ∧
        0 ∈ final.keys :=
      ⟨_, rfl, rfl, rfl, rfl, by decide⟩
    refine ⟨final, reached, read, stored, ?_⟩
    intro refines
    have same := refines.reads 0 present 0 member
    rw [read, stored] at same
    cases same
  · obtain ⟨final, reached, member⟩ : ∃ final : Storage Nat Nat Nat,
        run step (initial (· = 0)) (List.replicate 33 (.tlsCreate none)) = some final ∧
        32 ∈ final.keys :=
      ⟨_, rfl, by decide⟩
    refine ⟨final, reached, member, ?_⟩
    intro refines
    exact absurd (refines.inside 32 member) (by decide)

end CircleStdlib.ThreadStorage
