import CircleStdlib.Execution
import Mathlib.Logic.Function.Basic

/-!
The handle table of adaptedsocket.cpp and its users in net_sockets.cpp.
`s_SocketArray` is a `CPtrArray`: an indexable array that grows by `Append` and
whose subscript asserts the bound. Objects are addresses; the allocator may
hand out any address that no live object occupies, or none. What the network
answers is part of a call's label. A step is `none` where the code would fail
an assertion or use an object that has been destroyed.
-/

namespace CircleStdlib.SocketHandles

open Execution

inductive NetResult where
  | ok
  | socketFailed
  | connectFailed
  | unknownHost
  | bindFailed
  | acceptFailed
  | allocFailed
  | bufferTooSmall
  | invalidContext
  deriving DecidableEq, Repr

/-- `handle` holds `m_nHandle` of the live objects, `fd` the contexts of the
mbed TLS interface. `accepted` is kept for the statements only: `m_nHandle` of
each accepted socket beside the handle `Accept` returned for it. -/
structure Sockets (Addr Ctx : Type) where
  socketArray : List (Option Addr)
  handle : Addr → Option Int
  fd : Ctx → Int
  returned : NetResult
  accepted : List (Int × Int)

variable {Addr Ctx : Type} [DecidableEq Addr] [DecidableEq Ctx]

def initial : Sockets Addr Ctx :=
  { socketArray := []
    handle := fun _ => none
    fd := fun _ => -1
    returned := .ok
    accepted := [] }

def addSocket (socket : Addr) : List (Option Addr) → List (Option Addr) × Nat
  | [] => ([some socket], 0)
  | none :: rest => (some socket :: rest, 0)
  | some other :: rest =>
      let (slots, index) := addSocket socket rest
      (some other :: slots, index + 1)

-- `none` is the failed subscript assertion of `CPtrArray`, `some none` the
-- null pointer.
def get (sockets : Sockets Addr Ctx) (nHandle : Int) : Option (Option Addr) :=
  if nHandle < 0 then some none else sockets.socketArray[nHandle.toNat]?

-- Both constructors register the new object and keep the slot as `m_nHandle`.
def construct (sockets : Sockets Addr Ctx) (socket : Addr) : Option (Sockets Addr Ctx) :=
  match sockets.handle socket with
  | some _ => none
  | none =>
      let (slots, index) := addSocket socket sockets.socketArray
      some { sockets with
        socketArray := slots
        handle := Function.update sockets.handle socket (some index) }

-- `DeleteSocket (m_nHandle)`, and the object is gone.
def destruct (sockets : Sockets Addr Ctx) (socket : Addr) : Option (Sockets Addr Ctx) :=
  match sockets.handle socket with
  | none => none
  | some nHandle =>
      if 0 ≤ nHandle ∧ nHandle.toNat < sockets.socketArray.length then
        some { sockets with
          socketArray := sockets.socketArray.set nHandle.toNat none
          handle := Function.update sockets.handle socket none }
      else none

-- `CAdaptedSocket::Accept` once the connection and the memory are there: the
-- constructor registers the socket, and `Accept` registers it again.
def acceptNew (sockets : Sockets Addr Ctx) (client : Ctx) (socket : Addr) :
    Option (Sockets Addr Ctx) :=
  (construct sockets socket).map fun built =>
    let (slots, index) := addSocket socket built.socketArray
    { built with
      socketArray := slots
      fd := Function.update built.fd client index
      returned := .ok
      accepted := ((built.handle socket).getD (-1), (index : Int)) :: built.accepted }

inductive NetCall (Addr Ctx : Type) where
  | create (socket : Addr)
  | adopt (socket : Addr)
  | destroy (socket : Addr)
  | netInit (ctx : Ctx)
  | netConnect (ctx : Ctx) (tcp : Bool) (memory : Option Addr) (outcome : NetResult)
  | netBind (ctx : Ctx) (tcp bindIp : Bool) (memory : Option Addr) (outcome : NetResult)
  | netAccept (bindCtx clientCtx : Ctx) (clientIp : Option Nat) (connection : Bool)
      (memory : Option Addr)
  | netFree (ctx : Ctx)
  deriving DecidableEq

-- `sizeof (IP_ADDRESS_SIZE)`: the size of the `int` that the constant is.
def ipAddressSizeof : Nat := 4

def bufferTooSmall : Option Nat → Bool
  | none => false
  | some bufSize => decide (bufSize < ipAddressSizeof)

-- The part `mbedtls_net_connect` and `mbedtls_net_bind` share: a new socket
-- whose handle goes into the context, then the outcome of the network.
def openSocket (sockets : Sockets Addr Ctx) (ctx : Ctx) (memory : Option Addr)
    (outcome : NetResult) : Option (Sockets Addr Ctx) :=
  match memory with
  | none => some { sockets with returned := .allocFailed }
  | some socket =>
      (construct sockets socket).map fun built =>
        { built with
          fd := Function.update built.fd ctx ((built.handle socket).getD (-1))
          returned := outcome }

def step (sockets : Sockets Addr Ctx) : NetCall Addr Ctx → Option (Sockets Addr Ctx)
  | .create socket => construct sockets socket
  | .adopt socket => construct sockets socket
  | .destroy socket => destruct sockets socket
  | .netInit ctx => some { sockets with fd := Function.update sockets.fd ctx (-1) }
  | .netConnect ctx tcp memory outcome =>
      if !tcp then some { sockets with returned := .socketFailed }
      else openSocket sockets ctx memory outcome
  | .netBind ctx tcp bindIp memory outcome =>
      if !tcp then some { sockets with returned := .socketFailed }
      else if bindIp then some { sockets with returned := .bindFailed }
      else openSocket sockets ctx memory outcome
  | .netAccept bindCtx clientCtx clientIp connection memory =>
      if bufferTooSmall clientIp then some { sockets with returned := .bufferTooSmall }
      else
        match get sockets (sockets.fd bindCtx) with
        | none => none
        | some none => some { sockets with returned := .invalidContext }
        | some (some listener) =>
            if (sockets.handle listener).isNone then none
            else if !connection then some { sockets with returned := .acceptFailed }
            else
              match memory with
              | none => some { sockets with returned := .acceptFailed }
              | some socket => acceptNew sockets clientCtx socket
  | .netFree ctx =>
      match get sockets (sockets.fd ctx) with
      | none => none
      | some none => some { sockets with fd := Function.update sockets.fd ctx (-1) }
      | some (some socket) =>
          (destruct sockets socket).map fun left =>
            { left with fd := Function.update left.fd ctx (-1) }

/-- Every live socket occupies one slot, the one in its `m_nHandle`; every other
slot is 0; `Accept` returned `m_nHandle`; `Get` returns no destroyed object. -/
structure TableSound (sockets : Sockets Addr Ctx) : Prop where
  registered : ∀ socket nHandle, sockets.handle socket = some nHandle →
    0 ≤ nHandle ∧ sockets.socketArray[nHandle.toNat]? = some (some socket) ∧
      ∀ index : Nat, sockets.socketArray[index]? = some (some socket) → (index : Int) = nHandle
  vacant : ∀ (index : Nat) socket, sockets.socketArray[index]? = some (some socket) →
    sockets.handle socket = some (index : Int)
  returned : ∀ pair ∈ sockets.accepted, pair.2 = pair.1
  alive : ∀ nHandle socket, get sockets nHandle = some (some socket) →
    (sockets.handle socket).isSome = true

-- The call is an `mbedtls_net_accept` that finds a listening socket, a
-- connection and memory for the new socket.
def Accepts (sockets : Sockets Addr Ctx) : NetCall Addr Ctx → Prop
  | .netAccept bindCtx _ clientIp connection memory =>
      bufferTooSmall clientIp = false ∧ connection = true ∧ memory.isSome = true ∧
        get sockets (sockets.fd bindCtx) ≠ some none
  | _ => False

omit [DecidableEq Addr] in
theorem addSocket_slot (socket : Addr) (slots : List (Option Addr)) :
    (addSocket socket slots).1[(addSocket socket slots).2]? = some (some socket) := by
  induction slots with
  | nil => rfl
  | cons slot rest ih =>
      cases slot with
      | none => rfl
      | some other => simpa [addSocket] using ih

omit [DecidableEq Addr] in
theorem addSocket_other (socket : Addr) (slots : List (Option Addr)) (index : Nat)
    (different : index ≠ (addSocket socket slots).2) :
    (addSocket socket slots).1[index]? = slots[index]? := by
  induction slots generalizing index with
  | nil =>
      cases index with
      | zero => exact absurd rfl different
      | succ index => rfl
  | cons slot rest ih =>
      cases slot with
      | none =>
          cases index with
          | zero => exact absurd rfl different
          | succ index => rfl
      | some other =>
          cases index with
          | zero => rfl
          | succ index =>
              simp only [addSocket, List.getElem?_cons_succ]
              exact ih index fun same => different (by simp [addSocket, same])

omit [DecidableEq Addr] in
theorem addSocket_free (socket other : Addr) (slots : List (Option Addr)) :
    slots[(addSocket socket slots).2]? ≠ some (some other) := by
  induction slots with
  | nil => simp [addSocket]
  | cons slot rest ih =>
      cases slot with
      | none => simp [addSocket]
      | some occupant => simpa [addSocket] using ih

structure Registry (slots : List (Option Addr)) (handle : Addr → Option Int) : Prop where
  registered : ∀ socket nHandle, handle socket = some nHandle →
    0 ≤ nHandle ∧ slots[nHandle.toNat]? = some (some socket)
  vacant : ∀ (index : Nat) socket, slots[index]? = some (some socket) →
    handle socket = some (index : Int)

def Consistent (sockets : Sockets Addr Ctx) : Prop :=
  Registry sockets.socketArray sockets.handle ∧ ∀ pair ∈ sockets.accepted, pair.2 = pair.1

omit [DecidableEq Addr] [DecidableEq Ctx] in
theorem initial_consistent : Consistent (initial : Sockets Addr Ctx) := by
  refine ⟨⟨?_, ?_⟩, ?_⟩ <;> simp [initial]

omit [DecidableEq Addr] [DecidableEq Ctx] in
theorem consistent_sound (sockets : Sockets Addr Ctx) (consistent : Consistent sockets) :
    TableSound sockets := by
  obtain ⟨registry, returned⟩ := consistent
  refine ⟨?_, registry.vacant, returned, ?_⟩
  · intro socket nHandle live
    obtain ⟨nonneg, slot⟩ := registry.registered socket nHandle live
    refine ⟨nonneg, slot, fun index found => ?_⟩
    have same := registry.vacant index socket found
    rw [live] at same
    exact (Option.some.inj same).symm
  · intro nHandle socket found
    unfold get at found
    split at found
    · cases found
    · rw [registry.vacant nHandle.toNat socket found]
      rfl

theorem registry_add (slots : List (Option Addr)) (handle : Addr → Option Int) (socket : Addr)
    (registry : Registry slots handle) (dead : handle socket = none) :
    Registry (addSocket socket slots).1
      (Function.update handle socket (some ((addSocket socket slots).2 : Int))) := by
  constructor
  · intro other nHandle live
    by_cases same : other = socket
    · subst same
      rw [Function.update_self] at live
      cases live
      exact ⟨Int.natCast_nonneg _, by simpa using addSocket_slot other slots⟩
    · rw [Function.update_of_ne same] at live
      obtain ⟨nonneg, slot⟩ := registry.registered other nHandle live
      refine ⟨nonneg, ?_⟩
      rw [addSocket_other socket slots nHandle.toNat ?_, slot]
      intro taken
      exact addSocket_free socket other slots (taken ▸ slot)
  · intro index other found
    by_cases fresh : index = (addSocket socket slots).2
    · subst fresh
      rw [addSocket_slot] at found
      cases found
      rw [Function.update_self]
    · rw [addSocket_other socket slots index fresh] at found
      have live := registry.vacant index other found
      rw [Function.update_of_ne ?_, live]
      rintro rfl
      rw [dead] at live
      cases live

theorem registry_remove (slots : List (Option Addr)) (handle : Addr → Option Int)
    (socket : Addr) (nHandle : Int) (registry : Registry slots handle)
    (live : handle socket = some nHandle) :
    Registry (slots.set nHandle.toNat none) (Function.update handle socket none) := by
  obtain ⟨nonneg, slot⟩ := registry.registered socket nHandle live
  constructor
  · intro other otherHandle otherLive
    by_cases same : other = socket
    · subst same
      simp at otherLive
    · rw [Function.update_of_ne same] at otherLive
      obtain ⟨otherNonneg, otherSlot⟩ := registry.registered other otherHandle otherLive
      refine ⟨otherNonneg, ?_⟩
      rw [List.getElem?_set_ne ?_, otherSlot]
      intro equal
      rw [equal, otherSlot] at slot
      simp only [Option.some.injEq] at slot
      exact same slot
  · intro index other found
    by_cases cleared : nHandle.toNat = index
    · subst cleared
      simp [List.getElem?_set] at found
    · rw [List.getElem?_set_ne cleared] at found
      have otherLive := registry.vacant index other found
      rw [Function.update_of_ne ?_, otherLive]
      rintro rfl
      rw [live] at otherLive
      simp only [Option.some.injEq] at otherLive
      omega

omit [DecidableEq Ctx] in
theorem construct_cases (sockets built : Sockets Addr Ctx) (socket : Addr)
    (done : construct sockets socket = some built) :
    sockets.handle socket = none ∧
      built = { sockets with
        socketArray := (addSocket socket sockets.socketArray).1
        handle := Function.update sockets.handle socket
          (some ((addSocket socket sockets.socketArray).2 : Int)) } := by
  unfold construct at done
  cases dead : sockets.handle socket with
  | some nHandle => simp [dead] at done
  | none =>
      simp only [dead, Option.some.injEq] at done
      exact ⟨rfl, done.symm⟩

omit [DecidableEq Ctx] in
theorem construct_consistent (sockets built : Sockets Addr Ctx) (socket : Addr)
    (consistent : Consistent sockets) (done : construct sockets socket = some built) :
    Consistent built := by
  obtain ⟨dead, rfl⟩ := construct_cases sockets built socket done
  exact ⟨registry_add _ _ socket consistent.1 dead, consistent.2⟩

omit [DecidableEq Ctx] in
theorem destruct_consistent (sockets left : Sockets Addr Ctx) (socket : Addr)
    (consistent : Consistent sockets) (done : destruct sockets socket = some left) :
    Consistent left := by
  unfold destruct at done
  cases live : sockets.handle socket with
  | none => simp [live] at done
  | some nHandle =>
      simp only [live, Option.ite_none_right_eq_some, Option.some.injEq] at done
      obtain ⟨-, rfl⟩ := done
      exact ⟨registry_remove _ _ socket nHandle consistent.1 live, consistent.2⟩

theorem openSocket_consistent (sockets next : Sockets Addr Ctx) (ctx : Ctx)
    (memory : Option Addr) (outcome : NetResult) (consistent : Consistent sockets)
    (done : openSocket sockets ctx memory outcome = some next) : Consistent next := by
  unfold openSocket at done
  cases memory with
  | none =>
      simp only [Option.some.injEq] at done
      subst done
      exact consistent
  | some socket =>
      simp only [Option.map_eq_some_iff] at done
      obtain ⟨built, construction, rfl⟩ := done
      exact construct_consistent sockets built socket consistent construction

-- Every way through `mbedtls_net_accept` that stops before the new socket.
theorem accept_refused_consistent (sockets next : Sockets Addr Ctx) (bindCtx clientCtx : Ctx)
    (clientIp : Option Nat) (connection : Bool) (memory : Option Addr)
    (consistent : Consistent sockets)
    (refused : ¬ Accepts sockets (.netAccept bindCtx clientCtx clientIp connection memory))
    (done : step sockets (.netAccept bindCtx clientCtx clientIp connection memory) = some next) :
    Consistent next := by
  simp only [step] at done
  split at done
  · cases done
    exact consistent
  · rename_i roomy
    split at done
    · cases done
    · cases done
      exact consistent
    · rename_i listener found
      simp only [Option.ite_none_left_eq_some] at done
      obtain ⟨-, done⟩ := done
      split at done
      · cases done
        exact consistent
      · rename_i connected
        cases memory with
        | none =>
            cases done
            exact consistent
        | some socket =>
            apply absurd _ refused
            refine ⟨by simpa using roomy, by simpa using connected, rfl, ?_⟩
            rw [found]
            simp

theorem step_consistent (sockets next : Sockets Addr Ctx) (call : NetCall Addr Ctx)
    (consistent : Consistent sockets) (refused : ¬ Accepts sockets call)
    (done : step sockets call = some next) : Consistent next := by
  cases call with
  | create socket => exact construct_consistent sockets next socket consistent done
  | adopt socket => exact construct_consistent sockets next socket consistent done
  | destroy socket => exact destruct_consistent sockets next socket consistent done
  | netInit ctx =>
      cases done
      exact consistent
  | netConnect ctx tcp memory outcome =>
      simp only [step] at done
      split at done
      · cases done
        exact consistent
      · exact openSocket_consistent sockets next ctx memory outcome consistent done
  | netBind ctx tcp bindIp memory outcome =>
      simp only [step] at done
      split at done
      · cases done
        exact consistent
      · split at done
        · cases done
          exact consistent
        · exact openSocket_consistent sockets next ctx memory outcome consistent done
  | netAccept bindCtx clientCtx clientIp connection memory =>
      exact accept_refused_consistent sockets next bindCtx clientCtx clientIp connection memory
        consistent refused done
  | netFree ctx =>
      simp only [step] at done
      split at done
      · cases done
      · cases done
        exact consistent
      · simp only [Option.map_eq_some_iff] at done
        obtain ⟨left, destruction, rfl⟩ := done
        exact destruct_consistent sockets left _ consistent destruction

/-- The second registration takes a second slot, since the first is occupied. -/
theorem acceptNew_unsound (sockets next : Sockets Addr Ctx) (client : Ctx) (socket : Addr)
    (done : acceptNew sockets client socket = some next) : ¬ TableSound next := by
  simp only [acceptNew, Option.map_eq_some_iff] at done
  obtain ⟨built, construction, rfl⟩ := done
  obtain ⟨-, rfl⟩ := construct_cases sockets built socket construction
  intro sound
  let slots := (addSocket socket sockets.socketArray).1
  let first := (addSocket socket sockets.socketArray).2
  let second := (addSocket socket slots).2
  have distinct : first ≠ second := by
    intro same
    have occupied : slots[second]? = some (some socket) :=
      same ▸ addSocket_slot socket sockets.socketArray
    exact addSocket_free socket socket slots occupied
  have once := sound.vacant second socket (addSocket_slot socket slots)
  simp only [Function.update_self, Option.some.injEq] at once
  exact distinct (by exact_mod_cast once)

theorem step_unsound (sockets next : Sockets Addr Ctx) (call : NetCall Addr Ctx)
    (accepts : Accepts sockets call) (done : step sockets call = some next) :
    ¬ TableSound next := by
  cases call with
  | netAccept bindCtx clientCtx clientIp connection memory =>
      obtain ⟨roomy, connected, memory_there, found⟩ := accepts
      obtain ⟨socket, rfl⟩ := Option.isSome_iff_exists.mp memory_there
      simp only [step, roomy, connected, Bool.false_eq_true, ↓reduceIte, Bool.not_true] at done
      split at done
      · cases done
      · rename_i null
        exact absurd null found
      · simp only [Option.ite_none_left_eq_some] at done
        exact acceptNew_unsound sockets next clientCtx socket done.2
  | _ => exact absurd accepts not_false

/-- In every run: the table is sound in every state exactly when no
`mbedtls_net_accept` of the run gets a connection and memory for it. -/
theorem table_sound_iff_none_accepted (calls : List (NetCall Addr Ctx))
    (final : Sockets Addr Ctx) (reached : run step initial calls = some final) :
    Throughout step TableSound initial calls ↔
      Along step (fun sockets call => ¬ Accepts sockets call) initial calls :=
  throughout_iff_along _ Consistent TableSound consistent_sound
    (fun sockets call next consistent refused =>
      step_consistent sockets next call consistent refused)
    (fun sockets call next _ accepts done =>
      step_unsound sockets next call (not_not.mp accepts) done)
    initial final calls initial_consistent reached

def acceptAndFree : List (NetCall Nat Bool) :=
  [.netBind false true false (some 1) .ok, .netAccept false true none true (some 2),
    .netFree true]

/-- The accepted socket got two slots, `Accept` returned the second and not its
`m_nHandle`, and after its destruction that handle still leads to it. -/
theorem acceptAndFree_dangles :
    ∃ final : Sockets Nat Bool, run step initial acceptAndFree = some final ∧
      final.accepted = [(1, 2)] ∧ get final 2 = some (some 2) ∧ final.handle 2 = none ∧
      ¬ TableSound final := by
  refine ⟨(run step initial acceptAndFree).get rfl, (Option.some_get _).symm, rfl, rfl, rfl,
    fun sound => ?_⟩
  have alive := sound.alive 2 2 rfl
  cases alive

def connectTwice : List (NetCall Nat Bool) :=
  [.netConnect false true (some 1) .ok, .netFree false, .netConnect true true (some 2) .ok]

theorem connectTwice_sound : Throughout step TableSound initial connectTwice :=
  (table_sound_iff_none_accepted connectTwice
    ((run step initial connectTwice).get rfl) (Option.some_get _).symm).mpr (by
      simp [connectTwice, Along, Accepts])

end CircleStdlib.SocketHandles
