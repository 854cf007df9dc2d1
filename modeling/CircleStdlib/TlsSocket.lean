import CircleStdlib.Execution
import CircleStdlib.NetSockets
import CircleStdlib.ServerVerification

/-!
`CTLSSocket` over its life, as a user of mbed TLS. What mbed TLS, the name service and the socket
below answer are inputs, and the calls on the SSL context are kept in a log. A step is `none`
where an assertion fails, and where the loop around the handshake has not come to its end. What
mbed TLS asks of its callers is in part guarded by the assertions, and in part left to the user.
-/

namespace CircleStdlib.TlsSocket

open Execution
open NetSockets (portNumber)
open ServerVerification.ClientSocket (SetupResults)

def sslWantRead : Int := -0x6900
def sslWantWrite : Int := -0x6880
def sslAllocFailed : Int := -0x7F00
def sslAsyncInProgress : Int := -0x6500
def sslCryptoInProgress : Int := -0x7000
def x509CertVerifyFailed : Int := -0x2700
def netConnectFailed : Int := -0x0044
def netUnknownHost : Int := -0x0052

def wants (result : Int) : Bool := result = sslWantRead || result = sslWantWrite

inductive Event where
  | init
  | setup (result : Int)
  | setHostname (result : Int)
  | connect (result : Int)
  | setBio
  | handshake (result : Int)
  | verifyResult (flags : UInt32)
  | read (result : Int)
  | write (result : Int)
  | closeNotify
  | free
  | delete
  deriving DecidableEq, Repr

/-- `socket` is `m_pSocket`: null when there was no memory for it. `returned` is what the last
call returned. -/
structure Socket where
  socket : Bool
  connected : Bool
  returned : Int
  log : List Event
  deriving DecidableEq, Repr

def create (memory : Bool) : Socket := ⟨memory, false, 0, [.init]⟩

inductive Flags where
  | none
  | msgDontwait
  deriving DecidableEq, Repr

namespace Socket

def logged (socket : Socket) (events : List Event) (returned : Int) : Socket :=
  { socket with log := socket.log ++ events, returned }

def setup (socket : Socket) (result : Int) : Option Socket :=
  if socket.connected then none else some (socket.logged [.setup result] result)

def setHostname (socket : Socket) (result : Int) : Option Socket :=
  if socket.connected then none else some (socket.logged [.setHostname result] result)

-- `CTLSSimpleClientSocket::Setup`; the configuration is that of ServerVerification.
def simpleSetup (socket : Socket) (results : SetupResults) : Option Socket :=
  if results.seed ≠ 0 then some { socket with returned := results.seed }
  else if results.setDefaults ≠ 0 then some { socket with returned := results.setDefaults }
  else
    (socket.setup results.setup).bind fun next =>
      if results.setup ≠ 0 then some next else next.setHostname results.setHostname

def handshakes : List Int → Option (List Event × Int)
  | [] => none
  | result :: later =>
      if result = 0 then some ([.handshake 0], 0)
      else if wants result then
        (handshakes later).map fun (events, last) => (.handshake result :: events, last)
      else some ([.handshake result], result)

def connect (socket : Socket) (joined : Bool) (results : List Int) (flags : UInt32) :
    Option Socket :=
  if !socket.socket then some { socket with returned := sslAllocFailed }
  else if socket.connected then none
  else if !joined then some (socket.logged [.connect netConnectFailed] netConnectFailed)
  else
    (handshakes results).map fun (events, last) =>
      let shaken := socket.logged (.connect 0 :: .setBio :: events) last
      if last ≠ 0 then shaken
      else
        -- the flag is set before the certificate is looked at
        { shaken.logged [.verifyResult flags] (if flags ≠ 0 then x509CertVerifyFailed else 0) with
          connected := true }

def connectHost (ulongMax : Nat) (socket : Socket) (pPort : List UInt8) (resolved : Bool)
    (joined : UInt16 → Bool) (results : List Int) (flags : UInt32) : Option Socket :=
  match portNumber ulongMax pPort with
  | none => some { socket with returned := netConnectFailed }
  | some port =>
      if !resolved then some { socket with returned := netUnknownHost }
      else socket.connect (joined port) results flags

def receive (socket : Socket) (flags : Flags) (result : Int) : Option Socket :=
  if !socket.socket then none
  else if !socket.connected then none
  else if wants result then
    if flags = .msgDontwait then some (socket.logged [.read result] 0) else none
  else some (socket.logged [.read result] (if result = 0 then -1 else result))

def send (socket : Socket) (result : Int) : Option Socket :=
  if socket.connected then some (socket.logged [.write result] result) else none

def destroyed (socket : Socket) : List Event :=
  socket.log ++ (if socket.connected then [.closeNotify] else []) ++ [.free] ++
    (if socket.socket then [.delete] else [])

end Socket

inductive Machine where
  | live (socket : Socket)
  | gone (log : List Event)
  deriving DecidableEq, Repr

def Machine.log : Machine → List Event
  | .live socket => socket.log
  | .gone log => log

inductive Call where
  | setup (result : Int)
  | setHostname (result : Int)
  | simpleSetup (results : SetupResults)
  | connect (joined : Bool) (results : List Int) (flags : UInt32)
  | connectHost (pPort : List UInt8) (resolved : Bool) (joined : UInt16 → Bool)
      (results : List Int) (flags : UInt32)
  | receive (flags : Flags) (result : Int)
  | send (result : Int)
  | destroy

def step (ulongMax : Nat) : Machine → Call → Option Machine
  | .gone _, _ => none
  | .live socket, .setup result => (socket.setup result).map .live
  | .live socket, .setHostname result => (socket.setHostname result).map .live
  | .live socket, .simpleSetup results => (socket.simpleSetup results).map .live
  | .live socket, .connect joined results flags =>
      (socket.connect joined results flags).map .live
  | .live socket, .connectHost pPort resolved joined results flags =>
      (socket.connectHost ulongMax pPort resolved joined results flags).map .live
  | .live socket, .receive flags result => (socket.receive flags result).map .live
  | .live socket, .send result => (socket.send result).map .live
  | .live socket, .destroy => some (.gone socket.destroyed)

/-! What mbed TLS documents for its functions: which calls have to stand in front of a call, and
which must not. -/

def GoesOn (result : Int) : Prop :=
  wants result = true ∨ result = sslAsyncInProgress ∨ result = sslCryptoInProgress

def Live (front : List Event) : Prop := .init ∈ front ∧ .free ∉ front

def Unshaken (front : List Event) : Prop := ∀ result, .handshake result ∈ front → GoesOn result

/-- No read has met the end of the stream or an error, and no write an error. -/
structure Flowing (front : List Event) : Prop where
  read : ∀ result, .read result ∈ front → 0 < result ∨ GoesOn result
  write : ∀ result, .write result ∈ front → 0 ≤ result ∨ GoesOn result

def Admits (front : List Event) : Event → Prop
  | .init => front = []
  | .setup _ => Live front ∧ ∀ result, .setup result ∉ front
  | .setHostname _ => Live front ∧ .handshake 0 ∉ front
  | .connect _ => Live front ∧ .handshake 0 ∉ front
  | .setBio => Live front ∧ .handshake 0 ∉ front
  | .handshake _ =>
      Live front ∧ (.connect 0 ∈ front ∧ .setBio ∈ front) ∧ .setup 0 ∈ front ∧ Unshaken front
  | .verifyResult _ => Live front ∧ .handshake 0 ∈ front
  | .read _ => Live front ∧ .handshake 0 ∈ front ∧ Flowing front
  | .write _ => Live front ∧ .handshake 0 ∈ front ∧ Flowing front
  | .closeNotify => Live front ∧ .handshake 0 ∈ front ∧ .closeNotify ∉ front
  | .free => Live front
  | .delete => .free ∈ front ∧ .delete ∉ front

def Adds : List Event → List Event → Prop
  | _, [] => True
  | front, event :: later => Admits front event ∧ Adds (front ++ [event]) later

theorem adds_append (front left right : List Event) :
    Adds front (left ++ right) ↔ Adds front left ∧ Adds (front ++ left) right := by
  induction left generalizing front with
  | nil => simp [Adds]
  | cons event left ih =>
      have same : front ++ [event] ++ left = front ++ event :: left := List.append_cons .. |>.symm
      simp only [List.cons_append, Adds, ih, same, and_assoc]

theorem adds_one (front : List Event) (event : Event) :
    Adds front [event] ↔ Admits front event := by
  simp [Adds]

/-! What a user has to see to. -/

def Unset (log : List Event) : Prop := ∀ result, .setup result ∉ log

structure Ready (log : List Event) : Prop where
  setup : .setup 0 ∈ log
  unshaken : Unshaken log

-- The context is set up once, and before a handshake; there is no other handshake behind one
-- that has failed; nothing is read or written behind an end or an error.
def Disciplined (ulongMax : Nat) : Machine → Call → Prop
  | .live socket, .setup _ => Unset socket.log
  | .live socket, .simpleSetup results =>
      results.seed = 0 → results.setDefaults = 0 → Unset socket.log
  | .live socket, .connect joined _ _ =>
      socket.socket = true → joined = true → Ready socket.log
  | .live socket, .connectHost pPort resolved joined _ _ =>
      ∀ port, portNumber ulongMax pPort = some port → resolved = true →
        socket.socket = true → joined port = true → Ready socket.log
  | .live socket, .receive _ _ => Flowing socket.log
  | .live socket, .send _ => Flowing socket.log
  | _, _ => True

structure Kept (socket : Socket) : Prop where
  live : Live socket.log
  unclosed : .closeNotify ∉ socket.log ∧ .delete ∉ socket.log
  online : socket.connected = true ↔ .handshake 0 ∈ socket.log

/-- A call on a socket: what it appends is in order when the user has seen to `condition`. -/
structure Moves (condition : Prop) (socket next : Socket) : Prop where
  kept : Kept next
  adds : ∃ events, next.log = socket.log ++ events ∧ (Adds socket.log events ↔ condition)

theorem live_append (log events : List Event) (live : Live log) (unfreed : .free ∉ events) :
    Live (log ++ events) := by
  refine ⟨List.mem_append_left events live.1, fun member => ?_⟩
  rcases List.mem_append.mp member with before | later
  · exact live.2 before
  · exact unfreed later

theorem kept_append (socket next : Socket) (events : List Event) (kept : Kept socket)
    (log : next.log = socket.log ++ events)
    (plain : ∀ event ∈ events, event ∉ [.free, .closeNotify, .delete])
    (online : next.connected = true ↔ .handshake 0 ∈ next.log) : Kept next := by
  refine ⟨?_, ?_, online⟩
  · rw [log]
    exact live_append socket.log events kept.live fun member => plain _ member (by simp)
  · rw [log]
    simp only [List.mem_append, not_or]
    exact ⟨⟨kept.unclosed.1, fun member => plain _ member (by simp)⟩,
      kept.unclosed.2, fun member => plain _ member (by simp)⟩

theorem moves_silent (socket : Socket) (returned : Int) (kept : Kept socket) :
    Moves True socket { socket with returned } :=
  ⟨⟨kept.live, kept.unclosed, kept.online⟩, [], (List.append_nil _).symm, by simp [Adds]⟩

/-- One event that neither opens nor ends the connection. -/
theorem moves_one (socket : Socket) (event : Event) (returned : Int) (kept : Kept socket)
    (other : event ∉ [.free, .closeNotify, .delete, .handshake 0]) :
    Moves (Admits socket.log event) socket (socket.logged [event] returned) := by
  simp only [List.mem_cons, List.not_mem_nil, or_false, not_or] at other
  refine ⟨kept_append socket _ [event] kept rfl ?_ ?_, [event], rfl, adds_one _ _⟩
  · simpa using ⟨other.1, other.2.1, other.2.2.1⟩
  · simpa [Socket.logged, Ne.symm other.2.2.2] using kept.online

theorem moves_congr (first second : Prop) (socket next : Socket) (same : first ↔ second)
    (moves : Moves first socket next) : Moves second socket next := by
  rcases moves with ⟨kept, events, log, adds⟩
  exact ⟨kept, events, log, adds.trans same⟩

theorem moves_trans (first second : Prop) (socket middle next : Socket)
    (before : Moves first socket middle) (after : Moves second middle next) :
    Moves (first ∧ second) socket next := by
  rcases before with ⟨-, events, log, adds⟩
  rcases after with ⟨kept, later, log', adds'⟩
  refine ⟨kept, events ++ later, by rw [log', log, List.append_assoc], ?_⟩
  rw [adds_append, adds, ← log, adds']

section Calls
variable (socket next : Socket) (kept : Kept socket)

include kept

theorem unshaken_offline (unconnected : ¬ socket.connected = true) : .handshake 0 ∉ socket.log :=
  fun member => unconnected (kept.online.mpr member)

theorem setup_moves (result : Int) (done : socket.setup result = some next) :
    Moves (Unset socket.log) socket next := by
  simp only [Socket.setup, Option.ite_none_left_eq_some, Option.some.injEq] at done
  rcases done with ⟨-, rfl⟩
  apply moves_congr _ _ _ _ _ (moves_one socket (.setup result) result kept (by simp))
  exact and_iff_right kept.live

theorem setHostname_moves (result : Int) (done : socket.setHostname result = some next) :
    Moves True socket next := by
  simp only [Socket.setHostname, Option.ite_none_left_eq_some, Option.some.injEq] at done
  rcases done with ⟨unconnected, rfl⟩
  apply moves_congr _ _ _ _ _ (moves_one socket (.setHostname result) result kept (by simp))
  exact iff_true_intro ⟨kept.live, unshaken_offline socket kept unconnected⟩

theorem simpleSetup_moves (results : SetupResults)
    (done : socket.simpleSetup results = some next) :
    Moves (results.seed = 0 → results.setDefaults = 0 → Unset socket.log) socket next := by
  unfold Socket.simpleSetup at done
  split at done
  · rename_i failed
    cases done
    apply moves_congr _ _ _ _ _ (moves_silent socket _ kept)
    exact (iff_true_intro fun zero => absurd zero failed).symm
  split at done
  · rename_i failed
    cases done
    apply moves_congr _ _ _ _ _ (moves_silent socket _ kept)
    exact (iff_true_intro fun _ zero => absurd zero failed).symm
  rename_i seeded defaults
  rw [not_not] at seeded defaults
  rcases Option.bind_eq_some_iff.mp done with ⟨middle, first, second⟩
  have configured := setup_moves socket middle kept results.setup first
  have needed : Unset socket.log ↔
      (results.seed = 0 → results.setDefaults = 0 → Unset socket.log) :=
    ⟨fun unset _ _ => unset, fun needs => needs seeded defaults⟩
  split at second
  · cases second
    exact moves_congr _ _ _ _ needed configured
  · have named := setHostname_moves middle next configured.kept results.setHostname second
    have both := moves_trans _ _ _ _ _ configured named
    rw [and_true] at both
    exact moves_congr _ _ _ _ needed both

theorem receive_moves (flags : Flags) (result : Int)
    (done : socket.receive flags result = some next) : Moves (Flowing socket.log) socket next := by
  have moves : ∀ returned, socket.connected = true →
      Moves (Flowing socket.log) socket (socket.logged [.read result] returned) := by
    intro returned connected
    apply moves_congr _ _ _ _ _ (moves_one socket (.read result) returned kept (by simp))
    exact (and_iff_right kept.live).trans (and_iff_right (kept.online.mp connected))
  unfold Socket.receive at done
  split at done
  · cases done
  split at done
  · cases done
  rename_i connected
  simp only [Bool.not_eq_true, Bool.not_eq_false'] at connected
  split at done
  · simp only [Option.ite_none_right_eq_some, Option.some.injEq] at done
    rcases done with ⟨-, rfl⟩
    exact moves 0 connected
  · cases done
    exact moves _ connected

theorem send_moves (result : Int) (done : socket.send result = some next) :
    Moves (Flowing socket.log) socket next := by
  simp only [Socket.send, Option.ite_none_right_eq_some, Option.some.injEq] at done
  rcases done with ⟨connected, rfl⟩
  apply moves_congr _ _ _ _ _ (moves_one socket (.write result) result kept (by simp))
  exact (and_iff_right kept.live).trans (and_iff_right (kept.online.mp connected))

end Calls

/-! Handshakes. -/

theorem unshaken_snoc (front : List Event) (result : Int) :
    Unshaken (front ++ [.handshake result]) ↔ Unshaken front ∧ GoesOn result := by
  simp [Unshaken, or_imp, forall_and]

theorem handshakes_only (results : List Int) (events : List Event) (last : Int)
    (ended : Socket.handshakes results = some (events, last)) :
    (∀ event ∈ events, ∃ result, event = .handshake result) ∧
      (.handshake 0 ∈ events ↔ last = 0) := by
  induction results generalizing events with
  | nil => cases ended
  | cons result later ih =>
      unfold Socket.handshakes at ended
      split at ended
      · cases ended
        simp
      · rename_i nonzero
        split at ended
        · rcases Option.map_eq_some_iff.mp ended with ⟨⟨rest, final⟩, found, same⟩
          cases same
          rcases ih rest found with ⟨only, zero⟩
          constructor
          · intro event member
            rcases List.mem_cons.mp member with rfl | further
            · exact ⟨result, rfl⟩
            · exact only event further
          · simpa [Ne.symm nonzero] using zero
        · cases ended
          simp [eq_comm]

theorem admits_handshake (front : List Event) (result : Int) (live : Live front)
    (carried : .connect 0 ∈ front ∧ .setBio ∈ front) :
    Admits front (.handshake result) ↔ Ready front := by
  constructor
  · exact fun admits => ⟨admits.2.2.1, admits.2.2.2⟩
  · exact fun ready => ⟨live, carried, ready.setup, ready.unshaken⟩

/-- The loop is in order when its first handshake is. -/
theorem handshakes_add (front : List Event) (results : List Int) (events : List Event)
    (last : Int) (ended : Socket.handshakes results = some (events, last)) (live : Live front)
    (carried : .connect 0 ∈ front ∧ .setBio ∈ front) : Adds front events ↔ Ready front := by
  induction results generalizing front events with
  | nil => cases ended
  | cons result later ih =>
      have first := admits_handshake front result live carried
      unfold Socket.handshakes at ended
      split at ended
      · rename_i zero
        cases ended
        rw [adds_one, ← zero, first]
      · split at ended
        · rename_i again
          rcases Option.map_eq_some_iff.mp ended with ⟨⟨rest, final⟩, found, same⟩
          cases same
          have onward := ih (front ++ [.handshake result]) rest found
            (live_append front _ live (by simp))
            ⟨List.mem_append_left _ carried.1, List.mem_append_left _ carried.2⟩
          simp only [Adds, first, onward]
          constructor
          · exact And.left
          · refine fun ready => ⟨ready, List.mem_append_left _ ready.setup, ?_⟩
            exact (unshaken_snoc front result).mpr ⟨ready.unshaken, .inl again⟩
        · cases ended
          rw [adds_one, first]

theorem ready_append (log : List Event) : Ready (log ++ [.connect 0] ++ [.setBio]) ↔ Ready log := by
  constructor
  · rintro ⟨setup, unshaken⟩
    exact ⟨by simpa using setup, fun result member => unshaken result (by simp [member])⟩
  · rintro ⟨setup, unshaken⟩
    exact ⟨by simp [setup], fun result member => unshaken result (by simpa using member)⟩

/-- The part of `Connect` that starts with a connection below. -/
theorem joined_adds (log : List Event) (results : List Int) (events : List Event) (last : Int)
    (ended : Socket.handshakes results = some (events, last)) (live : Live log)
    (offline : .handshake 0 ∉ log) : Adds log (.connect 0 :: .setBio :: events) ↔ Ready log := by
  have live' : Live (log ++ [.connect 0]) := live_append log _ live (by simp)
  have live'' : Live (log ++ [.connect 0] ++ [.setBio]) := live_append _ _ live' (by simp)
  have bound : Admits (log ++ [.connect 0]) .setBio := ⟨live', by simpa using offline⟩
  have shaken := handshakes_add _ results events last ended live'' (by simp)
  rw [ready_append] at shaken
  exact (and_iff_right ⟨live, offline⟩).trans ((and_iff_right bound).trans shaken)

theorem connect_moves (socket next : Socket) (kept : Kept socket) (joined : Bool)
    (results : List Int) (flags : UInt32)
    (done : socket.connect joined results flags = some next) :
    Moves (socket.socket = true → joined = true → Ready socket.log) socket next := by
  unfold Socket.connect at done
  split at done
  · rename_i missing
    cases done
    apply moves_congr _ _ _ _ _ (moves_silent socket _ kept)
    exact (iff_true_intro fun present => absurd present (by simpa using missing)).symm
  rename_i present
  split at done
  · cases done
  rename_i unconnected
  have offline := unshaken_offline socket kept unconnected
  split at done
  · rename_i unjoined
    cases done
    apply moves_congr _ _ _ _ _ (moves_one socket (.connect netConnectFailed) _ kept (by simp))
    refine (iff_true_intro ⟨kept.live, offline⟩).trans (iff_true_intro fun _ joined => ?_).symm
    exact absurd joined (by simpa using unjoined)
  rename_i below
  rcases Option.map_eq_some_iff.mp done with ⟨⟨events, last⟩, shaken, same⟩
  rcases handshakes_only results events last shaken with ⟨only, zero⟩
  -- From here on the handshake is begun, and needs what it needs.
  have needed : Ready socket.log ↔ (socket.socket = true → joined = true → Ready socket.log) :=
    ⟨fun ready _ _ => ready, fun needs => needs (by simpa using present) (by simpa using below)⟩
  have adds := joined_adds socket.log results events last shaken kept.live offline
  have plain : ∀ event ∈ events, event ∉ [.free, .closeNotify, .delete] := by
    intro event member
    rcases only event member with ⟨result, rfl⟩
    simp
  apply moves_congr _ _ _ _ needed
  dsimp only at same
  split at same
  · -- The last handshake has failed: there is no connection.
    rename_i failed
    subst same
    refine ⟨kept_append socket _ (.connect 0 :: .setBio :: events) kept rfl ?_ ?_, _, rfl, adds⟩
    · simpa using plain
    · simp [Socket.logged, unconnected, offline, zero, failed]
  · -- It has ended, and the result of the check is asked for.
    rename_i completed
    rw [not_not] at completed
    subst same
    have member : .handshake 0 ∈ socket.log ++ .connect 0 :: .setBio :: events := by
      simp [zero, completed]
    have live : Live (socket.log ++ .connect 0 :: .setBio :: events) :=
      live_append _ _ kept.live fun freed => by
        simp only [List.mem_cons, reduceCtorEq, false_or] at freed
        exact plain _ freed (by simp)
    refine ⟨kept_append socket _ (.connect 0 :: .setBio :: (events ++ [Event.verifyResult flags]))
      kept ?_ ?_ ?_, .connect 0 :: .setBio :: (events ++ [Event.verifyResult flags]), ?_, ?_⟩
    · simp [Socket.logged]
    · simpa [or_imp, forall_and] using plain
    · exact iff_of_true rfl (List.mem_append_left _ member)
    · simp [Socket.logged]
    · rw [← List.cons_append, ← List.cons_append, adds_append, adds, adds_one]
      exact and_iff_left ⟨live, member⟩

theorem connectHost_moves (ulongMax : Nat) (socket next : Socket) (kept : Kept socket)
    (pPort : List UInt8) (resolved : Bool) (joined : UInt16 → Bool) (results : List Int)
    (flags : UInt32)
    (done : socket.connectHost ulongMax pPort resolved joined results flags = some next) :
    Moves (Disciplined ulongMax (.live socket) (.connectHost pPort resolved joined results flags))
      socket next := by
  unfold Socket.connectHost at done
  split at done
  · rename_i noPort
    cases done
    apply moves_congr _ _ _ _ _ (moves_silent socket _ kept)
    refine (iff_true_intro fun port found => ?_).symm
    rw [noPort] at found
    cases found
  · rename_i port found
    split at done
    · rename_i unresolved
      cases done
      apply moves_congr _ _ _ _ _ (moves_silent socket _ kept)
      exact (iff_true_intro fun _ _ known => absurd known (by simpa using unresolved)).symm
    · rename_i known
      apply moves_congr _ _ _ _ _ (connect_moves socket next kept (joined port) results flags done)
      constructor
      · intro needs other same _
        rw [found] at same
        cases same
        exact needs
      · exact fun needs => needs port found (by simpa using known)

/-- A call other than the last one is in order exactly when the user has seen to it. -/
theorem step_moves (ulongMax : Nat) (socket next : Socket) (call : Call) (kept : Kept socket)
    (taken : step ulongMax (.live socket) call = some (.live next)) :
    Moves (Disciplined ulongMax (.live socket) call) socket next := by
  cases call with
  | setup result =>
      rcases Option.map_eq_some_iff.mp taken with ⟨_, done, ⟨⟩⟩
      exact setup_moves socket next kept result done
  | setHostname result =>
      rcases Option.map_eq_some_iff.mp taken with ⟨_, done, ⟨⟩⟩
      exact setHostname_moves socket next kept result done
  | simpleSetup results =>
      rcases Option.map_eq_some_iff.mp taken with ⟨_, done, ⟨⟩⟩
      exact simpleSetup_moves socket next kept results done
  | connect joined results flags =>
      rcases Option.map_eq_some_iff.mp taken with ⟨_, done, ⟨⟩⟩
      exact connect_moves socket next kept joined results flags done
  | connectHost pPort resolved joined results flags =>
      rcases Option.map_eq_some_iff.mp taken with ⟨_, done, ⟨⟩⟩
      exact connectHost_moves ulongMax socket next kept pPort resolved joined results flags done
  | receive flags result =>
      rcases Option.map_eq_some_iff.mp taken with ⟨_, done, ⟨⟩⟩
      exact receive_moves socket next kept flags result done
  | send result =>
      rcases Option.map_eq_some_iff.mp taken with ⟨_, done, ⟨⟩⟩
      exact send_moves socket next kept result done
  | destroy => cases taken

/-! Whole lives. -/

-- The context is freed with the socket, behind a `close_notify` if a handshake has succeeded.
def Ended : Machine → Prop
  | .live socket => .free ∉ socket.log
  | .gone log => .free ∈ log ∧ (.closeNotify ∈ log ↔ .handshake 0 ∈ log)

structure InOrder (machine : Machine) : Prop where
  keeps : Adds [] machine.log
  ends : Ended machine

def Guarded : Machine → Prop
  | .live socket => Kept socket
  | .gone _ => True

theorem create_ordered (memory : Bool) :
    InOrder (.live (create memory)) ∧ Kept (create memory) := by
  refine ⟨⟨⟨rfl, trivial⟩, by simp [Ended, create]⟩, ⟨by simp [create], by simp [create]⟩, ?_, ?_⟩
  · simp [create]
  · simp [create]

def Socket.farewell (socket : Socket) : List Event :=
  if socket.connected then [.closeNotify] else []

theorem farewell_adds (socket : Socket) (kept : Kept socket) :
    Adds socket.log socket.farewell ∧
      ∀ event ∈ socket.farewell, event = .closeNotify ∧ socket.connected = true := by
  unfold Socket.farewell
  split
  · rename_i connected
    refine ⟨(adds_one _ _).mpr ⟨kept.live, kept.online.mp connected, kept.unclosed.1⟩, ?_⟩
    simpa using connected
  · simp [Adds]

theorem destroyed_ordered (socket : Socket) (kept : Kept socket)
    (order : InOrder (.live socket)) : InOrder (.gone socket.destroyed) := by
  rcases farewell_adds socket kept with ⟨closing, only⟩
  have keeps : Adds [] socket.log := order.keeps
  have live : Live (socket.log ++ socket.farewell) :=
    live_append _ _ kept.live fun member => by cases (only _ member).1
  have freed := (adds_one (socket.log ++ socket.farewell) .free).mpr live
  have undeleted : .delete ∉ socket.log ++ socket.farewell ++ [.free] := by
    simp only [List.mem_append, List.mem_singleton, reduceCtorEq, or_false, not_or]
    exact ⟨kept.unclosed.2, fun member => by cases (only _ member).1⟩
  have deleted : Adds (socket.log ++ socket.farewell ++ [.free])
      (if socket.socket then [.delete] else []) := by
    split
    · exact (adds_one _ _).mpr ⟨by simp, undeleted⟩
    · trivial
  constructor
  · change Adds [] (socket.log ++ socket.farewell ++ [.free] ++ _)
    rw [adds_append, adds_append, adds_append, List.nil_append]
    exact ⟨⟨⟨keeps, closing⟩, freed⟩, deleted⟩
  · have notified : .closeNotify ∈ socket.destroyed ↔ socket.connected = true := by
      unfold Socket.destroyed
      cases socket.connected <;> cases socket.socket <;> simp [kept.unclosed.1]
    have shaken : .handshake 0 ∈ socket.destroyed ↔ .handshake 0 ∈ socket.log := by
      unfold Socket.destroyed
      cases socket.connected <;> cases socket.socket <;> simp
    refine ⟨by simp [Socket.destroyed], ?_⟩
    rw [notified, shaken, kept.online]

theorem moves_ordered (condition : Prop) (socket next : Socket)
    (moves : Moves condition socket next) (order : InOrder (.live socket)) :
    InOrder (.live next) ↔ condition := by
  rcases moves with ⟨kept, events, log, adds⟩
  have keeps : Adds [] next.log ↔ condition := by
    rw [log, adds_append, List.nil_append, adds]
    exact and_iff_right order.keeps
  exact ⟨fun later => keeps.mp later.keeps, fun met => ⟨keeps.mpr met, kept.live.2⟩⟩

/-- A step keeps to the order exactly when the user sees to it. -/
theorem step_ordered (ulongMax : Nat) (machine next : Machine) (call : Call)
    (order : InOrder machine) (guarded : Guarded machine)
    (taken : step ulongMax machine call = some next) :
    Guarded next ∧ (InOrder next ↔ Disciplined ulongMax machine call) := by
  cases machine with
  | gone log => cases call <;> cases taken
  | live socket =>
      cases next with
      | live after =>
          have moves := step_moves ulongMax socket after call guarded taken
          exact ⟨moves.kept, moves_ordered _ socket after moves order⟩
      | gone log =>
          cases call with
          | destroy =>
              cases taken
              exact ⟨trivial, iff_of_true (destroyed_ordered socket guarded order) trivial⟩
          | _ => rcases Option.map_eq_some_iff.mp taken with ⟨_, _, ⟨⟩⟩

def shortSession : List Call :=
  [.simpleSetup ⟨0, 0, 0, 0⟩, .connect true [sslWantRead, sslWantWrite, 0] 0, .send 3,
    .receive .msgDontwait sslWantRead, .receive .none 5, .destroy]

end CircleStdlib.TlsSocket
