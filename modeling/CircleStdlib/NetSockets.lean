import CircleStdlib.HandleOwners
import CircleStdlib.AdaptedSocket
import CircleStdlib.CText

/-!
The calls of net_sockets.cpp on any number of contexts, in any order: the table of
adaptedsocket.cpp decides which object a context leads to, and each object has the two
streams of its own socket. What the network, the name service and the allocator answer is part
of a call. Contexts are not copied; `mbedtls_net_usleep` does not touch them.
-/

namespace CircleStdlib.NetSockets

open Execution CText AdaptedSocket HandleOwners
open SocketHandles (Sockets NetResult construct destruct acceptNew openSocket)

def portNumber (ulongMax : Nat) (pPort : List UInt8) : Option UInt16 :=
  let (ulPort, rest) := strtoul ulongMax 10 (cstr pPort)
  if rest ≠ [] ∨ ulPort = 0 ∨ ulPort > 0xFFFF then none else some (UInt16.ofNat ulPort)

def connect (ulongMax : Nat) (pPort : List UInt8) (resolved : Bool) (connected : UInt16 → Bool) :
    NetResult :=
  match portNumber ulongMax pPort with
  | none => .connectFailed
  | some port =>
      if !resolved then .unknownHost
      else if connected port then .ok else .connectFailed

def bind (ulongMax : Nat) (pPort : List UInt8) (bound : UInt16 → Bool) (listening : Bool) :
    NetResult :=
  match portNumber ulongMax pPort with
  | none => .connectFailed
  | some port => if bound port && listening then .ok else .bindFailed

inductive Returned where
  | code (result : NetResult)
  | received (outcome : Outcome)
  | sent (count : Nat)
  | sendFailed
  deriving DecidableEq, Repr

abbrev Buffer (platform : Platform) : Type :=
  { bytes : List UInt8 // bytes.length = platform.frameBufferSize }

/-- `connection` and `outgoing` hold the streams of the live objects. `got` and `gave` are kept
for the statements only: the bytes that the calls on a context have returned, and those that
they have reported as sent, since the context has its object. -/
structure Net (platform : Platform) (Addr Ctx : Type) where
  sockets : Sockets Addr Ctx
  connection : Addr → Connection platform
  outgoing : Addr → List UInt8
  returned : Returned
  got : Ctx → List UInt8
  gave : Ctx → List UInt8

-- The `size_t` length of a call arrives as `unsigned` at the socket.
def truncated (len : Nat) : Nat := len % 2 ^ 32

inductive Call (platform : Platform) (Addr Ctx : Type) where
  | netInit (ctx : Ctx)
  | netConnect (ctx : Ctx) (tcp : Bool) (memory : Option (Addr × Buffer platform))
      (port : List UInt8) (resolved : Bool) (connected : UInt16 → Bool)
  | netBind (ctx : Ctx) (tcp bindIp : Bool) (memory : Option (Addr × Buffer platform))
      (port : List UInt8) (bound : UInt16 → Bool) (listening : Bool)
  | netAccept (bindCtx clientCtx : Ctx) (clientIp : Option Nat) (connection : Bool)
      (memory : Option (Addr × Buffer platform))
  | netSetBlock (ctx : Ctx)
  | netSetNonblock (ctx : Ctx)
  | netRecv (ctx : Ctx) (len : UInt64) (answer : Flags → Answer platform)
  | netRecvTimeout (ctx : Ctx) (len : UInt64) (timeout startTicks : UInt32)
      (passes : List ((Flags → Answer platform) × UInt32))
  | netSend (ctx : Ctx) (buf : List UInt8) (answer : Option (Fin (truncated buf.length + 1)))
  | netFree (ctx : Ctx)

variable {platform : Platform} {Addr Ctx : Type} [DecidableEq Addr] [DecidableEq Ctx]

def initial (connection : Addr → Connection platform) : Net platform Addr Ctx :=
  { sockets := SocketHandles.initial
    connection
    outgoing := fun _ => []
    returned := .code .ok
    got := fun _ => []
    gave := fun _ => [] }

namespace Net

variable (net : Net platform Addr Ctx)

def opened (sockets : Sockets Addr Ctx) (ctx : Ctx) (socket : Addr) (buffer : Buffer platform) :
    Net platform Addr Ctx :=
  { net with
    sockets
    connection := Function.update net.connection socket (Connection.create buffer)
    outgoing := Function.update net.outgoing socket []
    returned := .code sockets.returned
    got := Function.update net.got ctx []
    gave := Function.update net.gave ctx [] }

def entered (ctx : Ctx) (memory : Option (Addr × Buffer platform)) (sockets : Sockets Addr Ctx) :
    Net platform Addr Ctx :=
  match memory with
  | none => { net with sockets, returned := .code sockets.returned }
  | some (socket, buffer) =>
      -- whether the constructor has run
      if (net.sockets.handle socket).isNone && (sockets.handle socket).isSome then
        net.opened sockets ctx socket buffer
      else { net with sockets, returned := .code sockets.returned }

def received (ctx : Ctx) (socket : Addr) (after : Connection platform) : Net platform Addr Ctx :=
  let outcome := (after.calls.getLast?.map Call.outcome).getD .wantRead
  { net with
    connection := Function.update net.connection socket after
    returned := .received outcome
    got := Function.update net.got ctx (net.got ctx ++ outcome.bytes) }

def setOptionBlocking (socket : Addr) (after : Connection platform) : Net platform Addr Ctx :=
  { net with
    connection := Function.update net.connection socket after
    returned := .code .ok }

def send (ctx : Ctx) (socket : Addr) (buf : List UInt8)
    (answer : Option (Fin (truncated buf.length + 1))) : Net platform Addr Ctx :=
  match answer with
  | none => { net with returned := .sendFailed }
  | some count =>
      { net with
        outgoing :=
          Function.update net.outgoing socket (net.outgoing socket ++ buf.take count.val)
        returned := .sent count.val
        gave := Function.update net.gave ctx (net.gave ctx ++ buf.take count.val) }

-- The start of the functions that use a context's object. `none` is the failed subscript
-- assertion, or an object that has been destroyed.
def onSocket (ctx : Ctx) (use : Addr → Option (Net platform Addr Ctx)) :
    Option (Net platform Addr Ctx) :=
  match SocketHandles.get net.sockets (net.sockets.fd ctx) with
  | none => none
  | some none => some { net with returned := .code .invalidContext }
  | some (some socket) => if (net.sockets.handle socket).isNone then none else use socket

end Net

def step (ulongMax : Nat) (net : Net platform Addr Ctx) :
    Call platform Addr Ctx → Option (Net platform Addr Ctx)
  | .netInit ctx =>
      (SocketHandles.step net.sockets (.netInit ctx)).map fun sockets => { net with sockets }
  | .netConnect ctx tcp memory port resolved connected =>
      (SocketHandles.step net.sockets (.netConnect ctx tcp (memory.map (·.1))
        (connect ulongMax port resolved connected))).map (net.entered ctx memory)
  | .netBind ctx tcp bindIp memory port bound listening =>
      (SocketHandles.step net.sockets (.netBind ctx tcp bindIp (memory.map (·.1))
        (bind ulongMax port bound listening))).map (net.entered ctx memory)
  | .netAccept bindCtx clientCtx clientIp connection memory =>
      (SocketHandles.step net.sockets (.netAccept bindCtx clientCtx clientIp connection
        (memory.map (·.1)))).map (net.entered clientCtx memory)
  | .netSetBlock ctx =>
      net.onSocket ctx fun socket =>
        ((net.connection socket).step (.setOptionBlocking true)).map
          (net.setOptionBlocking socket)
  | .netSetNonblock ctx =>
      net.onSocket ctx fun socket =>
        ((net.connection socket).step (.setOptionBlocking false)).map
          (net.setOptionBlocking socket)
  | .netRecv ctx len answer =>
      net.onSocket ctx fun socket =>
        ((net.connection socket).step (.receive len.toUInt32 answer)).map
          (net.received ctx socket)
  | .netRecvTimeout ctx len timeout startTicks passes =>
      net.onSocket ctx fun socket =>
        ((net.connection socket).step
          (.receiveTimeout len.toUInt32 timeout startTicks passes)).map (net.received ctx socket)
  | .netSend ctx buf answer =>
      net.onSocket ctx fun socket => some (net.send ctx socket buf answer)
  | .netFree ctx =>
      (SocketHandles.step net.sockets (.netFree ctx)).map fun sockets => { net with sockets }

def Call.context : Call platform Addr Ctx → Ctx
  | .netInit ctx => ctx
  | .netConnect ctx _ _ _ _ _ => ctx
  | .netBind ctx _ _ _ _ _ _ => ctx
  | .netAccept _ clientCtx _ _ _ => clientCtx
  | .netSetBlock ctx => ctx
  | .netSetNonblock ctx => ctx
  | .netRecv ctx _ _ => ctx
  | .netRecvTimeout ctx _ _ _ _ => ctx
  | .netSend ctx _ _ => ctx
  | .netFree ctx => ctx

inductive Effect (net : Net platform Addr Ctx) (ctx : Ctx) : Net platform Addr Ctx → Prop where
  | refused (returned : NetResult) (code : Returned) :
      Effect net ctx { net with sockets := { net.sockets with returned }, returned := code }
  | opened (sockets : Sockets Addr Ctx) (socket : Addr) (buffer : Buffer platform)
      (home index : Nat) (entered : Entered net.sockets ctx socket sockets home index) :
      Effect net ctx (net.opened sockets ctx socket buffer)
  | left :
      Effect net ctx { net with sockets :=
        { net.sockets with fd := Function.update net.sockets.fd ctx (-1) } }
  | freed (socket : Addr) (nHandle : Int)
      (leads : SocketHandles.get net.sockets (net.sockets.fd ctx) = some (some socket))
      (live : net.sockets.handle socket = some nHandle) :
      Effect net ctx { net with sockets := { net.sockets with
        socketArray := net.sockets.socketArray.set nHandle.toNat none
        handle := Function.update net.sockets.handle socket none
        fd := Function.update net.sockets.fd ctx (-1) } }
  | streamed (socket : Addr) (after : Connection platform) (seen bytes : List UInt8)
      (code : Returned)
      (leads : SocketHandles.get net.sockets (net.sockets.fd ctx) = some (some socket))
      (kept : Kept (net.connection socket) → Kept after)
      (delivered : after.bytesDelivered = (net.connection socket).bytesDelivered ++ seen) :
      Effect net ctx { net with
        connection := Function.update net.connection socket after
        outgoing := Function.update net.outgoing socket (net.outgoing socket ++ bytes)
        returned := code
        got := Function.update net.got ctx (net.got ctx ++ seen)
        gave := Function.update net.gave ctx (net.gave ctx ++ bytes) }

section Inversion

variable (net next : Net platform Addr Ctx)

theorem entered_effect (sockets : Sockets Addr Ctx) (ctx : Ctx)
    (memory : Option (Addr × Buffer platform))
    (cases : (∃ returned, sockets = { net.sockets with returned }) ∨
      ∃ socket home index, memory.map (·.1) = some socket ∧
        Entered net.sockets ctx socket sockets home index) :
    Effect net ctx (net.entered ctx memory sockets) := by
  rcases cases with ⟨returned, rfl⟩ | ⟨socket, home, index, there, entered⟩
  · -- no constructor has run, whatever memory there was
    have stays : Effect net ctx
        { net with sockets := { net.sockets with returned }, returned := .code returned } :=
      .refused returned (.code returned)
    cases memory with
    | none => exact stays
    | some new =>
        simp only [Net.entered]
        split
        · rename_i constructed
          simp only [Bool.and_eq_true, Option.isNone_iff_eq_none] at constructed
          simp [constructed.1] at constructed
        · exact stays
  · cases memory with
    | none => cases there
    | some new =>
        obtain rfl := Option.some.inj there
        have constructed : ((net.sockets.handle new.1).isNone &&
            (sockets.handle new.1).isSome) = true := by
          simp [entered.dead, entered.handle]
        simp only [Net.entered, constructed, ↓reduceIte]
        exact .opened sockets new.1 new.2 home index entered

theorem freed_effect (ctx : Ctx) (sockets : Sockets Addr Ctx)
    (done : SocketHandles.step net.sockets (.netFree ctx) = some sockets) :
    Effect net ctx { net with sockets } := by
  simp only [SocketHandles.step] at done
  split at done
  · cases done
  · cases done
    exact .left
  · rename_i socket leads
    rcases Option.map_eq_some_iff.mp done with ⟨left, destruction, rfl⟩
    rcases destruct_cases net.sockets left socket destruction with ⟨nHandle, live, rfl⟩
    exact .freed socket nHandle leads live

theorem onSocket_effect (ctx : Ctx) (use : Addr → Option (Net platform Addr Ctx))
    (done : net.onSocket ctx use = some next)
    (each : ∀ socket,
      SocketHandles.get net.sockets (net.sockets.fd ctx) = some (some socket) →
        use socket = some next → Effect net ctx next) :
    Effect net ctx next := by
  unfold Net.onSocket at done
  split at done
  · cases done
  · cases done
    exact .refused net.sockets.returned _
  · rename_i socket leads
    simp only [Option.ite_none_left_eq_some] at done
    exact each socket leads done.2

theorem option_effect (ctx : Ctx) (block : Bool)
    (done : net.onSocket ctx (fun socket =>
      ((net.connection socket).step (.setOptionBlocking block)).map
        (net.setOptionBlocking socket)) = some next) : Effect net ctx next := by
  apply onSocket_effect net next ctx _ done
  intro socket leads taken
  rcases Option.map_eq_some_iff.mp taken with ⟨after, stepped, rfl⟩
  have same : after.bytesDelivered = (net.connection socket).bytesDelivered ++ [] := by
    cases stepped
    simp [Connection.bytesDelivered]
  have effect := Effect.streamed socket after [] [] (.code .ok) leads
    (fun kept => step_kept _ _ after kept stepped) same
  simpa [Net.setOptionBlocking] using effect

/-- A call of `Receive` or `ReceiveTimeout` has come back from the connection. -/
theorem received_effect (ctx : Ctx) (socket : Addr) (label : AdaptedSocket.Label platform)
    (leads : SocketHandles.get net.sockets (net.sockets.fd ctx) = some (some socket))
    (length : UInt32) (call : List (Answer platform) × Outcome × Receiver)
    (stepped : (net.connection socket).step label =
      some ((net.connection socket).returned length call)) :
    Effect net ctx
      (net.received ctx socket ((net.connection socket).returned length call)) := by
  have grown : ((net.connection socket).returned length call).bytesDelivered =
      (net.connection socket).bytesDelivered ++ call.2.1.bytes := by
    simp [Connection.bytesDelivered, Connection.returned]
  have effect := Effect.streamed socket _ call.2.1.bytes []
    (.received call.2.1) leads (fun kept => step_kept _ _ _ kept stepped) grown
  simpa [Net.received, Connection.returned] using effect

theorem send_effect (ctx : Ctx) (socket : Addr) (buf : List UInt8)
    (answer : Option (Fin (truncated buf.length + 1)))
    (leads : SocketHandles.get net.sockets (net.sockets.fd ctx) = some (some socket)) :
    Effect net ctx (net.send ctx socket buf answer) := by
  cases answer with
  | none => exact .refused net.sockets.returned _
  | some count =>
      have effect := Effect.streamed socket (net.connection socket) []
        (buf.take count.val) (.sent count.val) leads id (List.append_nil _).symm
      simpa [Net.send] using effect

theorem step_effect (ulongMax : Nat) (call : Call platform Addr Ctx)
    (taken : step ulongMax net call = some next) : Effect net call.context next := by
  cases call with
  | netInit ctx =>
      cases taken
      exact .left
  | netConnect ctx tcp memory port resolved connected =>
      rcases Option.map_eq_some_iff.mp taken with ⟨sockets, done, rfl⟩
      apply entered_effect net sockets ctx memory
      simp only [SocketHandles.step] at done
      split at done
      · exact .inl ⟨_, (Option.some.inj done).symm⟩
      · exact openSocket_cases net.sockets sockets ctx _ _ done
  | netBind ctx tcp bindIp memory port bound listening =>
      rcases Option.map_eq_some_iff.mp taken with ⟨sockets, done, rfl⟩
      apply entered_effect net sockets ctx memory
      simp only [SocketHandles.step] at done
      split at done
      · exact .inl ⟨_, (Option.some.inj done).symm⟩
      · split at done
        · exact .inl ⟨_, (Option.some.inj done).symm⟩
        · exact openSocket_cases net.sockets sockets ctx _ _ done
  | netAccept bindCtx clientCtx clientIp connection memory =>
      rcases Option.map_eq_some_iff.mp taken with ⟨sockets, done, rfl⟩
      apply entered_effect net sockets clientCtx memory
      exact accept_cases net.sockets sockets bindCtx clientCtx clientIp connection _ done
  | netSetBlock ctx => exact option_effect net next ctx true taken
  | netSetNonblock ctx => exact option_effect net next ctx false taken
  | netRecv ctx len answer =>
      apply onSocket_effect net next ctx _ taken
      intro socket leads done
      rcases Option.map_eq_some_iff.mp done with ⟨after, stepped, rfl⟩
      cases stepped
      exact received_effect net ctx socket (.receive len.toUInt32 answer) leads _ _ rfl
  | netRecvTimeout ctx len timeout startTicks passes =>
      apply onSocket_effect net next ctx _ taken
      intro socket leads done
      rcases Option.map_eq_some_iff.mp done with ⟨after, stepped, rfl⟩
      rcases Option.map_eq_some_iff.mp stepped with ⟨call, -, rfl⟩
      exact received_effect net ctx socket _ leads _ _ stepped
  | netSend ctx buf answer =>
      apply onSocket_effect net next ctx _ taken
      intro socket leads done
      cases done
      exact send_effect net ctx socket buf answer leads
  | netFree ctx =>
      rcases Option.map_eq_some_iff.mp taken with ⟨sockets, done, rfl⟩
      exact freed_effect net ctx sockets done

end Inversion

/-- What the calls keep: besides the table, every live object is a faithful stream, and the
calls on a context have seen exactly the two streams of the object that it leads to. -/
structure Served (net : Net platform Addr Ctx) : Prop where
  handles : Handles net.sockets
  kept : ∀ socket, (net.sockets.handle socket).isSome = true → Kept (net.connection socket)
  own : ∀ ctx socket,
    SocketHandles.get net.sockets (net.sockets.fd ctx) = some (some socket) →
      net.got ctx = (net.connection socket).bytesDelivered ∧
        net.gave ctx = net.outgoing socket

omit [DecidableEq Addr] [DecidableEq Ctx] in
theorem initial_served (connection : Addr → Connection platform) :
    Served (initial connection : Net platform Addr Ctx) := by
  constructor
  · constructor <;> simp [initial, SocketHandles.initial, SocketHandles.get, Registered]
  · simp [initial, SocketHandles.initial]
  · simp [initial, SocketHandles.initial, SocketHandles.get]

/-- A context that a call is not about keeps its object, with the buffer, the mode and both
streams that it had. -/
structure Untouched (net next : Net platform Addr Ctx) (other : Ctx) (socket : Addr) : Prop where
  leads : SocketHandles.get next.sockets (next.sockets.fd other) = some (some socket)
  handle : next.sockets.handle socket = net.sockets.handle socket
  connection : next.connection socket = net.connection socket
  outgoing : next.outgoing socket = net.outgoing socket
  got : next.got other = net.got other
  gave : next.gave other = net.gave other

theorem effect_untouched (net next : Net platform Addr Ctx) (ctx other : Ctx) (socket : Addr)
    (handles : Handles net.sockets) (effect : Effect net ctx next) (different : other ≠ ctx)
    (leads : SocketHandles.get net.sockets (net.sockets.fd other) = some (some socket)) :
    Untouched net next other socket := by
  cases effect with
  | refused returned code => exact ⟨leads, rfl, rfl, rfl, rfl, rfl⟩
  | opened sockets new buffer home index entered =>
      have old := old_leads net.sockets handles new other socket entered.dead leads
      have still := (entered_other net.sockets sockets handles ctx new home index entered other
        socket different).mpr leads
      refine ⟨still, ?_, ?_, ?_, ?_, ?_⟩
      · simp [Net.opened, entered.handle, Function.update_of_ne old]
      · simp [Net.opened, Function.update_of_ne old]
      · simp [Net.opened, Function.update_of_ne old]
      · simp [Net.opened, Function.update_of_ne different]
      · simp [Net.opened, Function.update_of_ne different]
  | left =>
      refine ⟨?_, rfl, rfl, rfl, rfl, rfl⟩
      simp only [Function.update_of_ne different]
      exact leads
  | freed gone nHandle there live =>
      have apart : socket ≠ gone := by
        rintro rfl
        exact different (handles.apart other ctx socket leads there)
      refine ⟨?_, Function.update_of_ne apart _ _, rfl, rfl, rfl, rfl⟩
      rw [get_slot] at leads ⊢
      simp only [Function.update_of_ne different]
      exact ⟨leads.1, cleared_keeps net.sockets gone nHandle handles.registered live _ socket apart
        leads.2⟩
  | streamed used after seen bytes code there kept delivered =>
      have apart : socket ≠ used := by
        rintro rfl
        exact different (handles.apart other ctx socket leads there)
      exact ⟨leads, rfl, Function.update_of_ne apart _ _, Function.update_of_ne apart _ _,
        Function.update_of_ne different _ _, Function.update_of_ne different _ _⟩

/-- Another context leads nowhere else than before. -/
theorem effect_back (net next : Net platform Addr Ctx) (ctx other : Ctx) (socket : Addr)
    (handles : Handles net.sockets) (effect : Effect net ctx next) (different : other ≠ ctx)
    (leads : SocketHandles.get next.sockets (next.sockets.fd other) = some (some socket)) :
    SocketHandles.get net.sockets (net.sockets.fd other) = some (some socket) := by
  have same : next.sockets.fd other = net.sockets.fd other := by
    cases effect with
    | refused returned code => rfl
    | opened sockets new buffer home index entered =>
        simp [Net.opened, entered.fd, Function.update_of_ne different]
    | left => exact Function.update_of_ne different _ _
    | freed gone nHandle there live => exact Function.update_of_ne different _ _
    | streamed used after seen bytes code there kept delivered => rfl
  rcases handles.led other with negative | ⟨before, led, -⟩
  · rw [same, get_negative next.sockets _ negative] at leads
    cases leads
  · have stays := (effect_untouched net next ctx other before handles effect different led).leads
    rw [leads] at stays
    cases stays
    exact led

theorem effect_handles (net next : Net platform Addr Ctx) (ctx : Ctx)
    (handles : Handles net.sockets) (effect : Effect net ctx next) : Handles next.sockets := by
  cases effect with
  | refused returned code => exact ⟨handles.registered, handles.led, handles.apart⟩
  | opened sockets new buffer home index entered =>
      exact handles_entered net.sockets sockets handles ctx new home index entered
  | left => exact handles_left net.sockets handles ctx net.sockets.returned
  | freed gone nHandle leads live =>
      exact handles_freed net.sockets handles ctx gone nHandle leads live
  | streamed used after seen bytes code leads kept delivered => exact handles

theorem effect_kept (net next : Net platform Addr Ctx) (ctx : Ctx)
    (served : Served net) (effect : Effect net ctx next) (socket : Addr)
    (live : (next.sockets.handle socket).isSome = true) : Kept (next.connection socket) := by
  cases effect with
  | refused returned code => exact served.kept socket live
  | opened sockets new buffer home index entered =>
      by_cases same : socket = new
      · subst same
        simpa [Net.opened] using create_kept buffer
      · simp only [Net.opened, entered.handle, Function.update_of_ne same] at live ⊢
        exact served.kept socket live
  | left => exact served.kept socket live
  | freed gone nHandle leads alive =>
      by_cases same : socket = gone
      · subst same
        simp at live
      · simp only [Function.update_of_ne same] at live
        exact served.kept socket live
  | streamed used after seen bytes code leads kept delivered =>
      by_cases same : socket = used
      · subst same
        simpa using kept (served.kept socket live)
      · simpa [Function.update_of_ne same] using served.kept socket live

/-- The streams of the context that the call is about. -/
theorem effect_own (net next : Net platform Addr Ctx) (ctx : Ctx)
    (served : Served net) (effect : Effect net ctx next) (socket : Addr)
    (leads : SocketHandles.get next.sockets (next.sockets.fd ctx) = some (some socket)) :
    next.got ctx = (next.connection socket).bytesDelivered ∧
      next.gave ctx = next.outgoing socket := by
  cases effect with
  | refused returned code => exact served.own ctx socket leads
  | opened sockets new buffer home index entered =>
      obtain rfl := (entered_leads net.sockets sockets ctx new home index entered socket).mp leads
      simp [Net.opened, Connection.bytesDelivered, Connection.create]
  | left => simp [SocketHandles.get] at leads
  | freed gone nHandle there live => simp [SocketHandles.get] at leads
  | streamed used after seen bytes code there kept delivered =>
      rw [there] at leads
      cases leads
      rcases served.own ctx socket there with ⟨received, reported⟩
      simp [delivered, received, reported]

theorem step_served (ulongMax : Nat) (net : Net platform Addr Ctx)
    (call : Call platform Addr Ctx) (next : Net platform Addr Ctx) (served : Served net)
    (taken : step ulongMax net call = some next) : Served next := by
  have effect := step_effect net next ulongMax call taken
  refine ⟨effect_handles net next _ served.handles effect,
    effect_kept net next _ served effect, ?_⟩
  intro ctx socket leads
  by_cases mine : ctx = call.context
  · subst mine
    exact effect_own net next _ served effect socket leads
  · have before := effect_back net next _ ctx socket served.handles effect mine leads
    have stays := effect_untouched net next _ ctx socket served.handles effect mine before
    rw [stays.got, stays.gave, stays.connection, stays.outgoing]
    exact served.own ctx socket before

/-! When a call does not come back. -/

def Waits (flags : Flags) (timeoutHz startTicks : UInt32)
    (passes : List ((Flags → Answer platform) × UInt32)) : Prop :=
  ∀ pass ∈ passes, pass.1 flags = .noData ∧ pass.2 - startTicks < timeoutHz

theorem awaitFrame_waits (receiver : Receiver) (length timeoutHz startTicks : UInt32)
    (flags : Flags) (passes : List ((Flags → Answer platform) × UInt32))
    (endless : receiver.awaitFrame length timeoutHz startTicks flags passes = none) :
    Waits flags timeoutHz startTicks passes := by
  induction passes with
  | nil => simp [Waits]
  | cons pass later ih =>
      rcases pass with ⟨answer, ticks⟩
      unfold Receiver.awaitFrame at endless
      split at endless
      · rename_i nothing
        split at endless
        · cases endless
        · rename_i early
          rw [Option.map_eq_none_iff] at endless
          intro other present
          rcases List.mem_cons.mp present with rfl | further
          · exact ⟨nothing, UInt32.not_le.mp early⟩
          · exact ih endless other further
      · cases endless
      · cases endless

-- The allocator has handed out memory that is in use, or the call still waits for its
-- socket.
def Withheld (net : Net platform Addr Ctx) : Call platform Addr Ctx → Prop
  | .netConnect _ _ memory _ _ _ => ∃ new ∈ memory, (net.sockets.handle new.1).isSome = true
  | .netBind _ _ _ memory _ _ _ => ∃ new ∈ memory, (net.sockets.handle new.1).isSome = true
  | .netAccept _ _ _ _ memory => ∃ new ∈ memory, (net.sockets.handle new.1).isSome = true
  | .netRecvTimeout _ _ timeout startTicks passes =>
      Waits (if timeout = 0 then .none else .msgDontwait) (platform.msec2hz timeout) startTicks
        passes
  | _ => False

omit [DecidableEq Ctx] in
theorem construct_none (sockets : Sockets Addr Ctx) (socket : Addr)
    (stuck : construct sockets socket = none) : (sockets.handle socket).isSome = true := by
  unfold construct at stuck
  split at stuck
  · rename_i nHandle live
    simp [live]
  · cases stuck

theorem openSocket_none (sockets : Sockets Addr Ctx) (ctx : Ctx)
    (memory : Option (Addr × Buffer platform)) (outcome : NetResult)
    (stuck : openSocket sockets ctx (memory.map (·.1)) outcome = none) :
    ∃ new ∈ memory, (sockets.handle new.1).isSome = true := by
  cases memory with
  | none => cases stuck
  | some new =>
      simp only [openSocket, Option.map_some, Option.map_eq_none_iff] at stuck
      exact ⟨new, rfl, construct_none sockets new.1 stuck⟩

omit [DecidableEq Addr] [DecidableEq Ctx] in
theorem led_cases (sockets : Sockets Addr Ctx) (handles : Handles sockets) (ctx : Ctx) :
    SocketHandles.get sockets (sockets.fd ctx) = some none ∨ ∃ socket,
      SocketHandles.get sockets (sockets.fd ctx) = some (some socket) ∧
        (sockets.handle socket).isNone = false := by
  rcases handles.led ctx with negative | ⟨socket, leads, live⟩
  · exact .inl (get_negative sockets _ negative)
  · refine .inr ⟨socket, leads, ?_⟩
    rcases Option.isSome_iff_exists.mp live with ⟨nHandle, known⟩
    simp [known]

omit [DecidableEq Addr] [DecidableEq Ctx] in
theorem onSocket_none (net : Net platform Addr Ctx) (handles : Handles net.sockets) (ctx : Ctx)
    (use : Addr → Option (Net platform Addr Ctx)) (stuck : net.onSocket ctx use = none) :
    ∃ socket, use socket = none := by
  rcases led_cases net.sockets handles ctx with nowhere | ⟨socket, leads, live⟩
  · simp [Net.onSocket, nowhere] at stuck
  · simp only [Net.onSocket, leads, live, Bool.false_eq_true, ↓reduceIte] at stuck
    exact ⟨socket, stuck⟩

theorem accept_none (sockets : Sockets Addr Ctx) (handles : Handles sockets)
    (bindCtx clientCtx : Ctx) (clientIp : Option Nat) (connection : Bool)
    (memory : Option (Addr × Buffer platform))
    (stuck : SocketHandles.step sockets
      (.netAccept bindCtx clientCtx clientIp connection (memory.map (·.1))) = none) :
    ∃ new ∈ memory, (sockets.handle new.1).isSome = true := by
  simp only [SocketHandles.step] at stuck
  split at stuck
  · cases stuck
  rcases led_cases sockets handles bindCtx with nowhere | ⟨listener, leads, live⟩
  · simp [nowhere] at stuck
  · simp only [leads, live, Bool.false_eq_true, ↓reduceIte] at stuck
    split at stuck
    · cases stuck
    · cases memory with
      | none => cases stuck
      | some new =>
          simp only [Option.map_some, acceptNew, Option.map_eq_none_iff] at stuck
          exact ⟨new, rfl, construct_none sockets new.1 stuck⟩

/-- `mbedtls_net_free` always comes back: a handle leads into the table. -/
theorem free_some (sockets : Sockets Addr Ctx) (handles : Handles sockets) (ctx : Ctx) :
    SocketHandles.step sockets (.netFree ctx) ≠ none := by
  intro stuck
  simp only [SocketHandles.step] at stuck
  rcases led_cases sockets handles ctx with nowhere | ⟨socket, leads, live⟩
  · simp [nowhere] at stuck
  · simp only [leads, Option.map_eq_none_iff, destruct] at stuck
    split at stuck
    · rename_i gone
      simp [gone] at live
    · rename_i nHandle known
      rcases handles.registered socket nHandle known with ⟨nonneg, slot⟩
      have inside := (List.getElem?_eq_some_iff.mp slot).1
      simp [nonneg, inside] at stuck

theorem step_withheld (ulongMax : Nat) (net : Net platform Addr Ctx)
    (call : Call platform Addr Ctx) (handles : Handles net.sockets)
    (stuck : step ulongMax net call = none) : Withheld net call := by
  cases call with
  | netInit ctx => cases stuck
  | netConnect ctx tcp memory port resolved connected =>
      have none_yet := Option.map_eq_none_iff.mp stuck
      simp only [SocketHandles.step] at none_yet
      split at none_yet
      · cases none_yet
      · exact openSocket_none net.sockets ctx memory _ none_yet
  | netBind ctx tcp bindIp memory port bound listening =>
      have none_yet := Option.map_eq_none_iff.mp stuck
      simp only [SocketHandles.step] at none_yet
      split at none_yet
      · cases none_yet
      · split at none_yet
        · cases none_yet
        · exact openSocket_none net.sockets ctx memory _ none_yet
  | netAccept bindCtx clientCtx clientIp connection memory =>
      have none_yet := Option.map_eq_none_iff.mp stuck
      exact accept_none net.sockets handles bindCtx clientCtx clientIp connection memory none_yet
  | netSetBlock ctx =>
      rcases onSocket_none net handles ctx _ stuck with ⟨socket, never⟩
      cases never
  | netSetNonblock ctx =>
      rcases onSocket_none net handles ctx _ stuck with ⟨socket, never⟩
      cases never
  | netRecv ctx len answer =>
      rcases onSocket_none net handles ctx _ stuck with ⟨socket, never⟩
      cases never
  | netRecvTimeout ctx len timeout startTicks passes =>
      rcases onSocket_none net handles ctx _ stuck with ⟨socket, never⟩
      rw [Option.map_eq_none_iff] at never
      have waits := Option.map_eq_none_iff.mp never
      unfold Receiver.receiveTimeout at waits
      split at waits
      · exact awaitFrame_waits _ _ _ _ _ passes waits
      · cases waits
  | netSend ctx buf answer =>
      rcases onSocket_none net handles ctx _ stuck with ⟨socket, never⟩
      cases never
  | netFree ctx =>
      exact absurd (Option.map_eq_none_iff.mp stuck) (free_some net.sockets handles ctx)

structure Isolated (net : Net platform Addr Ctx) : Prop where
  led : ∀ ctx, net.sockets.fd ctx < 0 ∨ ∃ socket,
    SocketHandles.get net.sockets (net.sockets.fd ctx) = some (some socket) ∧
      (net.sockets.handle socket).isSome = true
  apart : ∀ left right socket,
    SocketHandles.get net.sockets (net.sockets.fd left) = some (some socket) →
      SocketHandles.get net.sockets (net.sockets.fd right) = some (some socket) → left = right
  received : ∀ ctx socket,
    SocketHandles.get net.sockets (net.sockets.fd ctx) = some (some socket) →
      (net.connection socket).bytesRead =
        net.got ctx ++ (net.connection socket).receiver.remainder
  sent : ∀ ctx socket,
    SocketHandles.get net.sockets (net.sockets.fd ctx) = some (some socket) →
      net.gave ctx = net.outgoing socket

omit [DecidableEq Addr] [DecidableEq Ctx] in
theorem served_isolated (net : Net platform Addr Ctx) (served : Served net) : Isolated net where
  led := served.handles.led
  apart := served.handles.apart
  received := by
    intro ctx socket leads
    have live := led_alive net.sockets served.handles ctx socket leads
    rw [(served.own ctx socket leads).1]
    exact (served.kept socket live).stream
  sent := fun ctx socket leads => (served.own ctx socket leads).2

def smallPlatform : Platform := ⟨4, by decide, id⟩

def emptyBuffer : Buffer smallPlatform := ⟨[0, 0, 0, 0], rfl⟩

def threeBytes (first : UInt8) : Answer smallPlatform :=
  .frame [first, first + 1, first + 2] (by simp) (by simp [smallPlatform])

def serverAndClient : List (Call smallPlatform Nat Nat) :=
  [.netBind 0 true false (some (1, emptyBuffer)) [0x38, 0x30] (fun _ => true) true,
    .netAccept 0 1 none true (some (2, emptyBuffer)),
    .netRecv 1 2 (fun _ => threeBytes 10),
    .netConnect 2 true (some (3, emptyBuffer)) [0x34, 0x34, 0x33] true (fun _ => true),
    .netRecv 2 1 (fun _ => threeBytes 20),
    .netSend 1 [1, 2] (some 1),
    .netFree 1,
    .netRecv 2 4 (fun _ => threeBytes 30)]

def beforehand : Nat → Connection smallPlatform := fun _ => Connection.create emptyBuffer

end CircleStdlib.NetSockets
