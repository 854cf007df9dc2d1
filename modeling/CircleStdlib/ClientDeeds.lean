import CircleStdlib.Acknowledgements
import CircleStdlib.GuardedAssertions
import CircleStdlib.Retransmissions

/-!
The operations of `CMQTTClient` as they are seen from outside: the packets that go to the
socket, the callbacks, the queue, the status and the timer. A `Deed` is the smallest piece of
an operation behind which the client can be looked at; each constructor says in full what it
does. An operation is a chain of deeds, or it is `Connect`, or a request that is sent and
enters the queue. `heard` is the packet that a round of `Receiver` dispatches; only it makes
entries leave the queue of an open connection.
-/

namespace CircleStdlib.Mqtt

open ByteMemory Checked Acknowledgements RetransmissionQueue

def PacketType.inSession : PacketType → Bool
  | .publish | .pubAck | .pubRec | .pubRel | .pubComp | .subscribe | .unsubscribe | .pingReq
  | .disconnect => true
  | _ => false

-- The flag bits that the standard reserves for the packets other than PUBLISH.
def reservedFlags : PacketType → UInt8
  | .connect | .connAck => 0b0000
  | .pubAck | .pubRec | .pubComp => 0b0000
  | .pubRel => 0b0010
  | .subscribe | .unsubscribe => 0b0010
  | .subAck | .unsubAck => 0b0000
  | .pingReq | .pingResp | .disconnect => 0b0000
  | .publish | .reserved | .unknown => 0b0000

def Headed (type : PacketType) (flags : UInt8) : Prop :=
  if type = .publish then
    flags ≤ 0x0F ∧ qosOfFlags flags ≤ 2 ∧ (qosOfFlags flags = 0 → flags &&& flagDup = 0)
  else flags = reservedFlags type
  deriving Decidable

/-- The constructor sets the flags of the standard. -/
theorem initialFlags_reserved (type : PacketType) :
    SendPacket.initialFlags type = reservedFlags type := by
  cases type <;> rfl

def StampedAs (type : PacketType) (flags uchQoS : UInt8) : Prop :=
  Headed type flags ∧ (type = .publish → qosOfFlags flags = uchQoS)

def Stamped (packet : SendPacket) : Prop := StampedAs packet.type packet.flags packet.qos

theorem headed_small (type : PacketType) (flags : UInt8) (headed : Headed type flags) :
    flags ≤ 0x0F := by
  unfold Headed at headed
  split at headed
  · exact headed.1
  · rw [headed, ← initialFlags_reserved]
    exact SendPacket.initialFlags_low type

structure Outgoing (packet : SendPacket) : Prop where
  ready : packet.Ready
  headed : Headed packet.type packet.flags

def SendPacket.rescheduled (platform : Platform) (packet : SendPacket) (input : SendInput) :
    SendPacket :=
  { packet with scheduledTime := input.queueTicks + platform.resendTimeout }

structure Queues (packet : SendPacket) (uchQoS : UInt8) (usPacketIdentifier : UInt16)
    (entry : SendPacket) : Prop where
  type : entry.type = packet.type
  flags : entry.flags = packet.flags
  bufPtr : entry.bufPtr = packet.bufPtr
  body : slice entry.buffer maxLengthFixedHeader (entry.bufPtr - maxLengthFixedHeader) =
    slice packet.buffer maxLengthFixedHeader (packet.bufPtr - maxLengthFixedHeader)
  qos : entry.qos = uchQoS
  packetIdentifier : entry.packetIdentifier = usPacketIdentifier
  sendTries : entry.sendTries + 1 = packet.sendTries

inductive Requested (config : Config) (usPacketIdentifier : UInt16) :
    Operation config.toPlatform → SendPacket → UInt8 → Prop where
  | publish (pTopic payload : List UInt8) (uchQoS : UInt8) (bRetain : Bool) (input : SendInput)
      (packet : SendPacket) (valid : uchQoS ≤ 2) (answered : uchQoS ≥ 1)
      (built : Client.publishPacket config usPacketIdentifier pTopic payload uchQoS bRetain
        input.memory = .ok packet) :
      Requested config usPacketIdentifier (.publish pTopic payload uchQoS bRetain input) packet
        uchQoS
  | subscribe (pTopic : List UInt8) (uchQoS : UInt8) (input : SendInput) (packet : SendPacket)
      (built : Client.subscribePacket config usPacketIdentifier pTopic uchQoS input.memory =
        .ok packet) :
      Requested config usPacketIdentifier (.subscribe pTopic uchQoS input) packet 1
  | unsubscribe (pTopic : List UInt8) (input : SendInput) (packet : SendPacket)
      (built : Client.unsubscribePacket config usPacketIdentifier pTopic input.memory =
        .ok packet) :
      Requested config usPacketIdentifier (.unsubscribe pTopic input) packet 1

-- The packets that nothing waits for: acknowledgements, and a PUBLISH without a QoS.
def Incidental (packet : SendPacket) : Prop :=
  packet.type = .pubAck ∨ packet.type = .pubRec ∨ packet.type = .pubComp ∨
    packet.type = .publish ∧ qosOfFlags packet.flags = 0

def Unsent (packet : SendPacket) (events : List Event) : Prop :=
  events = [] ∨ packet.Ready ∧ events = [.sent packet.wire false]

inductive Parting : List Event → Prop where
  | silent : Parting []
  | refused (packet : SendPacket) (outgoing : Outgoing packet)
      (kind : packet.type.inSession = true) : Parting [.sent packet.wire false]
  | farewell (packet : SendPacket) (outgoing : Outgoing packet)
      (type : packet.type = .disconnect) : Parting [.sent packet.wire true]

namespace Client

-- The keep-alive timer behind a packet that is neither a PINGREQ nor a DISCONNECT.
def restarted (platform : Platform) (client : Client) (ticks : UInt32) : Client :=
  if client.status = .connected ∧ client.keepAliveSeconds > 0 then
    client.startTimer (ticks + client.keepAliveSeconds * platform.hz)
  else client

def spoken (platform : Platform) (client : Client) (packet : SendPacket) (ticks : UInt32) :
    Client :=
  (client.record (.sent packet.wire true)).restarted platform ticks

def pinged (platform : Platform) (client : Client) (packet : SendPacket) (ticks : UInt32) :
    Client :=
  { client.record (.sent packet.wire true) with status := .waitForPingResp }.startTimer
    (ticks + platform.pingTimeout)

def logged (client : Client) (events : List Event) : Client :=
  { client with log := client.log ++ events }

end Client

inductive Deed (config : Config) (heard : Option Packet) (client : Client) : Client → Prop where
  | aside (packet : ReceivePacket) (store : List UInt16) :
      Deed config heard client
        { client with receivePacket := packet, packetIdentifierStore := store }
  | numbering : Deed config heard client client.advanceIdentifier
  | sending (packet : SendPacket) (ticks : UInt32) (online : client.status ≠ .disconnected)
      (outgoing : Outgoing packet) (incidental : Incidental packet) :
      Deed config heard client (client.spoken config.toPlatform packet ticks)
  | pinging (packet : SendPacket) (now ticks : UInt32) (connected : client.status = .connected)
      (period : client.keepAliveSeconds > 0) (running : client.timerRunning = true)
      (elapsed : later client.timerElapsesAt now = false) (outgoing : Outgoing packet)
      (type : packet.type = .pingReq) :
      Deed config heard client (client.pinged config.toPlatform packet ticks)
  | repeating (before behind : List SendPacket) (packet entry : SendPacket)
      (nTicks ticks : UInt32) (online : client.status ≠ .disconnected)
      (queue : client.retransmissionQueue = before ++ packet :: behind)
      (due : later packet.scheduledTime nTicks = false) (outgoing : Outgoing (repeated packet))
      (queues : Queues (repeated packet) packet.qos packet.packetIdentifier entry) :
      Deed config heard client
        ((client.spoken config.toPlatform (repeated packet) ticks).withQueue
          (insertByTime entry (before ++ behind)))
  | settling (first : Packet) (entry : SendPacket) (dispatched : heard = some first)
      (asked : askedQoS first.type = some entry.qos) (other : first.type ≠ .pubRec)
      (found : client.retransmissionQueue.find? (bears (identifierOf first.body)) = some entry) :
      Deed config heard client
        (client.withQueue (client.retransmissionQueue.eraseP (bears (identifierOf first.body))))
  | releasing (first : Packet) (entry packet release : SendPacket) (ticks : UInt32)
      (memory : Option (Nat → UInt8)) (dispatched : heard = some first)
      (type : first.type = .pubRec) (qos : entry.qos = 2)
      (found : client.retransmissionQueue.find? (bears (identifierOf first.body)) = some entry)
      (online : client.status ≠ .disconnected) (outgoing : Outgoing packet)
      (built : (SendPacket.create .pubRel 128 memory).appendWord (identifierOf first.body) =
        .ok packet)
      (queues : Queues packet 2 (identifierOf first.body) release) :
      Deed config heard client
        ((client.spoken config.toPlatform packet ticks).withQueue
          (insertByTime release
            (client.retransmissionQueue.eraseP (bears (identifierOf first.body)))))
  | hearing (message : Message) (online : client.status ≠ .disconnected) :
      Deed config heard client (client.record (.onMessage message))
  | ponging (first : Packet) (ticks : UInt32) (dispatched : heard = some first)
      (type : first.type = .pingResp) (online : client.status ≠ .disconnected) :
      Deed config heard client (client.respondPingResp config.toPlatform ticks)
  | establishing (first : Packet) (sessionPresent : Bool) (dispatched : heard = some first)
      (type : first.type = .connAck) (pending : client.status = .connectPending) :
      Deed config heard client (client.established sessionPresent)
  | closing (reason : DisconnectReason) (events : List Event)
      (online : client.status ≠ .disconnected) (parting : Parting events) :
      Deed config heard client ((client.logged events).closed reason)

inductive Opening (client : Client) : Client → Prop where
  | opened (packet : SendPacket) (usKeepAliveSeconds : UInt16)
      (offline : client.status = .disconnected) (outgoing : Outgoing packet)
      (type : packet.type = .connect) :
      Opening client ((client.opened usKeepAliveSeconds).record (.sent packet.wire true))
  | refused (reason : DisconnectReason) (offline : client.status = .disconnected) :
      Opening client (client.record (.onDisconnect reason))
  | failed (usKeepAliveSeconds : UInt16) (events : List Event)
      (offline : client.status = .disconnected)
      (unsent : events = [] ∨ ∃ packet, Outgoing packet ∧ packet.type = .connect ∧
        events = [.sent packet.wire false]) :
      Opening client (((client.opened usKeepAliveSeconds).logged events).closed .sendFailed)

def Deeds (config : Config) (heard : Option Packet) : Client → Client → Prop :=
  Relation.ReflTransGen (Deed config heard)

-- The operation is a request that the broker has to answer.
def Operation.asks {platform : Platform} : Operation platform → Bool
  | .subscribe _ _ _ | .unsubscribe _ _ => true
  | .publish _ _ uchQoS _ _ => decide (uchQoS ≥ 1)
  | _ => false

inductive Asking (config : Config) (client : Client) (operation : Operation config.toPlatform) :
    Client → Prop where
  | asked (packet entry : SendPacket) (uchQoS : UInt8) (ticks : UInt32)
      (online : client.status ≠ .disconnected) (outgoing : Outgoing packet)
      (requested : Requested config client.nextPacketIdentifier operation packet uchQoS)
      (queues : Queues packet uchQoS client.nextPacketIdentifier entry) :
      Asking config client operation
        ((client.advanceIdentifier.spoken config.toPlatform packet ticks).withQueue
          (insertByTime entry client.retransmissionQueue))

/-- The packet that an operation dispatches, if it is a round of `Receiver` that does. -/
inductive Hears (config : Config) (client : Client) (operation : Operation config.toPlatform) :
    Option Packet → Prop where
  | nothing : Hears config client operation none
  | dispatch (input : ReceiveInput config.toPlatform) (first : Packet) (rest : List UInt8)
      (round : operation = .receiver input)
      (dispatched : client.front config input = some (first, rest)) (accepted : first.Accepted) :
      Hears config client operation (some first)

inductive Course (config : Config) (client : Client) (operation : Operation config.toPlatform)
    (next : Client) : Prop where
  | opening (called : operation.isConnect = true) (opening : Opening client next)
  | asking (other : operation.isConnect = false) (asking : Asking config client operation next)
  | deeds (other : operation.isConnect = false) (heard : Option Packet)
      (unasked : operation.asks = true → next.status = .disconnected)
      (hears : Hears config client operation heard) (deeds : Deeds config heard client next)

variable {config : Config} {heard : Option Packet}

theorem deeds_invariant (invariant : Client → Prop)
    (preserved : ∀ client next, Deed config heard client next → invariant client →
      invariant next)
    (client next : Client) (deeds : Deeds config heard client next) (initial : invariant client) :
    invariant next := by
  induction deeds with
  | refl => exact initial
  | tail _ deed ih => exact preserved _ _ deed ih

/-! What `restarted` leaves as it is. -/

section Restarted

variable (platform : Platform) (client : Client) (ticks : UInt32)

theorem restarted_eq :
    ∃ running elapses, client.restarted platform ticks =
      { client with timerRunning := running, timerElapsesAt := elapses } := by
  unfold Client.restarted
  split <;> exact ⟨_, _, rfl⟩

@[simp] theorem spoken_log (packet : SendPacket) :
    (client.spoken platform packet ticks).log = client.log ++ [.sent packet.wire true] := by
  rcases restarted_eq platform (client.record (.sent packet.wire true)) ticks with ⟨_, _, same⟩
  rw [Client.spoken, same]
  rfl

@[simp] theorem spoken_status (packet : SendPacket) :
    (client.spoken platform packet ticks).status = client.status := by
  rcases restarted_eq platform (client.record (.sent packet.wire true)) ticks with ⟨_, _, same⟩
  rw [Client.spoken, same]
  rfl

@[simp] theorem spoken_queue (packet : SendPacket) :
    (client.spoken platform packet ticks).retransmissionQueue = client.retransmissionQueue := by
  rcases restarted_eq platform (client.record (.sent packet.wire true)) ticks with ⟨_, _, same⟩
  rw [Client.spoken, same]
  rfl

@[simp] theorem spoken_nextPacketIdentifier (packet : SendPacket) :
    (client.spoken platform packet ticks).nextPacketIdentifier = client.nextPacketIdentifier := by
  rcases restarted_eq platform (client.record (.sent packet.wire true)) ticks with ⟨_, _, same⟩
  rw [Client.spoken, same]
  rfl

@[simp] theorem spoken_keepAliveSeconds (packet : SendPacket) :
    (client.spoken platform packet ticks).keepAliveSeconds = client.keepAliveSeconds := by
  rcases restarted_eq platform (client.record (.sent packet.wire true)) ticks with ⟨_, _, same⟩
  rw [Client.spoken, same]
  rfl

end Restarted

/-! What a transmission is when it succeeds, and when it does not. -/

namespace Client

theorem keepAlive_restarted (platform : Platform) (client : Client) (type : PacketType)
    (ticks : UInt32) (restarts : restartsTimer type = true) :
    client.keepAlive platform type ticks = .ok (client.restarted platform ticks) := by
  cases type
  case reserved | connAck | subAck | unsubAck | pingReq | pingResp | disconnect | unknown =>
      cases restarts
  all_goals
    simp only [keepAlive, restarted]
    split <;> rfl

theorem keepAlive_pinged (platform : Platform) (client next : Client) (ticks : UInt32)
    (done : client.keepAlive platform .pingReq ticks = .ok next) :
    client.keepAliveSeconds > 0 ∧
      next = { client with status := .waitForPingResp }.startTimer
        (ticks + platform.pingTimeout) := by
  simp only [keepAlive, bind_ok, require_ok, pure_ok, Except.ok.injEq] at done
  rcases done with ⟨_, period, _, -, _, -, rfl⟩
  exact ⟨period, rfl⟩

theorem logged_nil (client : Client) : client.logged [] = client := by
  simp [logged]

theorem sendPacket_true (platform : Platform) (client next : Client) (packet after : SendPacket)
    (input : SendInput)
    (done : client.sendPacket platform packet input = .ok (true, after, next)) :
    client.status ≠ .disconnected ∧ packet.Ready ∧ SamePacket packet after ∧
      after.flags = packet.flags ∧ after.sendTries + 1 = packet.sendTries ∧
      (client.record (.sent packet.wire true)).keepAlive platform packet.type input.timerTicks =
        .ok next := by
  unfold sendPacket at done
  split at done
  · cases done
  · rename_i online
    simp only [bind_ok, require_ok, recordHanded_eq] at done
    rcases done with ⟨_, -, sending, send, done⟩
    split at done
    · rename_i accepted
      simp only [bind_ok, pure_ok, Except.ok.injEq, Prod.mk.injEq] at done
      rcases done with ⟨timed, alive, -, rfl, rfl⟩
      rcases packet.send_accepted input.socket sending send accepted with ⟨ready, handed⟩
      rcases send_unchanged packet input.socket sending send with ⟨same, flags, -⟩
      have spent := (Retransmissions.send_spends packet input.socket sending ready send).2
      have some := ready.tries
      refine ⟨online, ready, same, flags, by omega, ?_⟩
      rw [← alive, record]
      simp only [Sending.events, handed, accepted]
    · cases done

theorem sendPacket_false (platform : Platform) (client next : Client) (packet after : SendPacket)
    (input : SendInput)
    (done : client.sendPacket platform packet input = .ok (false, after, next)) :
    client.status = .disconnected ∧ next = client ∨
      client.status ≠ .disconnected ∧ ∃ events, next = client.logged events ∧
        Unsent packet events := by
  unfold sendPacket at done
  split at done
  · rename_i offline
    cases done
    exact Or.inl ⟨offline, rfl⟩
  · rename_i online
    simp only [bind_ok, require_ok, recordHanded_eq] at done
    rcases done with ⟨_, -, sending, send, done⟩
    split at done
    · simp only [bind_ok, pure_ok, Except.ok.injEq, Prod.mk.injEq] at done
      rcases done with ⟨_, -, refused, -⟩
      cases refused
    · rename_i refused
      cases done
      refine Or.inr ⟨online, sending.events, rfl, ?_⟩
      cases handed : sending.handed with
      | none => exact Or.inl (by simp [Sending.events, handed])
      | some bytes =>
          rcases packet.send_handed input.socket sending bytes send handed with ⟨ready, rfl⟩
          exact Or.inr ⟨ready, by simp [Sending.events, handed, refused]⟩

theorem sendPacket_spoken (platform : Platform) (client next : Client) (packet after : SendPacket)
    (input : SendInput) (restarts : restartsTimer packet.type = true)
    (done : client.sendPacket platform packet input = .ok (true, after, next)) :
    next = client.spoken platform packet input.timerTicks := by
  have alive := (sendPacket_true platform client next packet after input done).2.2.2.2.2
  rw [keepAlive_restarted _ _ _ _ restarts] at alive
  exact (Except.ok.inj alive).symm

theorem parting_of_unsent (packet : SendPacket) (events : List Event)
    (headed : packet.Ready → Headed packet.type packet.flags)
    (kind : packet.type.inSession = true) (unsent : Unsent packet events) : Parting events := by
  rcases unsent with rfl | ⟨ready, rfl⟩
  · exact .silent
  · exact .refused packet ⟨ready, headed ready⟩ kind

/-- The entry that goes into the queue behind a successful transmission. -/
theorem queues_after (packet after : SendPacket) (uchQoS : UInt8) (usPacketIdentifier : UInt16)
    (nScheduledTime : UInt32) (same : SamePacket packet after) (flags : after.flags = packet.flags)
    (tries : after.sendTries + 1 = packet.sendTries) :
    Queues packet uchQoS usPacketIdentifier { after with
      qos := uchQoS
      packetIdentifier := usPacketIdentifier
      scheduledTime := nScheduledTime } :=
  ⟨same.type, flags, same.bufPtr, same.body, rfl, rfl, tries⟩

theorem spoken_withQueue (platform : Platform) (client : Client) (packet : SendPacket)
    (ticks : UInt32) (queue other : List SendPacket) :
    ((client.withQueue queue).spoken platform packet ticks).withQueue other =
      (client.spoken platform packet ticks).withQueue other := by
  by_cases timed : client.status = .connected ∧ client.keepAliveSeconds > 0
  · have left : ((client.withQueue queue).record (.sent packet.wire true)).restarted platform
        ticks = _ := if_pos timed
    have right : (client.record (.sent packet.wire true)).restarted platform ticks = _ :=
      if_pos timed
    rw [spoken, spoken, left, right]
    rfl
  · have left : ((client.withQueue queue).record (.sent packet.wire true)).restarted platform
        ticks = _ := if_neg timed
    have right : (client.record (.sent packet.wire true)).restarted platform ticks = _ :=
      if_neg timed
    rw [spoken, spoken, left, right]
    rfl

theorem close_deeds (client next : Client) (reason : DisconnectReason)
    (done : client.closeConnection reason = .ok next) : Deeds config heard client next := by
  rcases client.closeConnection_cases next reason done with ⟨-, rfl⟩ | ⟨online, -, rfl⟩
  · exact .refl
  · have closing : Deed config heard client ((client.logged []).closed reason) :=
      .closing reason [] online .silent
    rw [logged_nil] at closing
    exact .single closing

/-- A transmission that fails, and the end of the connection over it. -/
theorem fail_deeds (client middle next : Client) (packet after : SendPacket) (input : SendInput)
    (reason : DisconnectReason) (headed : packet.Ready → Headed packet.type packet.flags)
    (kind : packet.type.inSession = true)
    (sending : client.sendPacket config.toPlatform packet input = .ok (false, after, middle))
    (done : middle.closeConnection reason = .ok next) : Deeds config heard client next := by
  rcases sendPacket_false config.toPlatform client middle packet after input sending with
    ⟨-, rfl⟩ | ⟨online, events, rfl, unsent⟩
  · exact close_deeds middle next reason done
  · rcases (client.logged events).closeConnection_cases next reason done with
      ⟨offline, -⟩ | ⟨-, -, rfl⟩
    · exact absurd offline online
    · exact .single (.closing reason events online
        (parting_of_unsent packet events headed kind unsent))

/-- Everything `sendAndQueue` can do. -/
theorem sendAndQueue_cases (platform : Platform) (client next : Client) (packet : SendPacket)
    (uchQoS : UInt8) (usPacketIdentifier : UInt16) (input : SendInput)
    (restarts : restartsTimer packet.type = true)
    (done : client.sendAndQueue platform packet uchQoS usPacketIdentifier input = .ok next) :
    (client.status ≠ .disconnected ∧ packet.Ready ∧
      (uchQoS ≥ 1 ∧ (∃ entry, Queues packet uchQoS usPacketIdentifier entry ∧
          next = (client.spoken platform packet input.timerTicks).withQueue
            (insertByTime entry client.retransmissionQueue)) ∨
        ¬ uchQoS ≥ 1 ∧ next = client.spoken platform packet input.timerTicks)) ∨
    ∃ after middle, client.sendPacket platform packet input = .ok (false, after, middle) ∧
      middle.closeConnection .sendFailed = .ok next := by
  simp only [sendAndQueue, bind_ok] at done
  rcases done with ⟨⟨sent, after, middle⟩, sending, done⟩
  cases sent with
  | false => exact Or.inr ⟨after, middle, sending, done⟩
  | true =>
      rcases sendPacket_true platform client middle packet after input sending with
        ⟨online, ready, same, flags, tries, -⟩
      have spoken := sendPacket_spoken platform client middle packet after input restarts sending
      refine Or.inl ⟨online, ready, ?_⟩
      simp only [↓reduceIte] at done
      split at done
      · rename_i answered
        cases done
        refine Or.inl ⟨answered, _, queues_after packet after uchQoS usPacketIdentifier
          (input.queueTicks + platform.resendTimeout) same flags tries, ?_⟩
        have queue : middle.retransmissionQueue = client.retransmissionQueue := by
          rw [spoken, spoken_queue]
        rw [← spoken, ← queue]
        rfl
      · rename_i plain
        cases done
        exact Or.inr ⟨plain, spoken⟩

/-! The flags of the packets. -/

theorem created_zero (type : PacketType) (nMaxPacketSize : Nat) (memory : Option (Nat → UInt8))
    (packet : SendPacket) (zero : SendPacket.initialFlags type = 0) (other : type ≠ .publish)
    (same : (SendPacket.create type nMaxPacketSize memory).SameHeader packet) :
    Headed packet.type packet.flags := by
  have flags : (SendPacket.create type nMaxPacketSize memory).flags = 0 := by
    cases memory with
    | none => rfl
    | some memory => exact zero
  have type : packet.type = type := same.type
  rw [type, same.flags, Headed, if_neg other, flags, ← initialFlags_reserved]
  exact zero.symm

/-- With memory for the packet the constructor sets the flags, and without it there is an
error. -/
theorem created_headed (type : PacketType) (nMaxPacketSize : Nat) (memory : Option (Nat → UInt8))
    (packet : SendPacket) (other : type ≠ .publish)
    (same : (SendPacket.create type nMaxPacketSize memory).SameHeader packet)
    (clean : packet.error = false → (SendPacket.create type nMaxPacketSize memory).error = false)
    (ready : packet.Ready) : Headed packet.type packet.flags := by
  have start := clean ready.clean
  have type : packet.type = type := same.type
  rw [type, same.flags, Headed, if_neg other]
  cases memory with
  | none => cases start
  | some memory => exact initialFlags_reserved _

theorem publishFlags_headed (uchQoS : UInt8) (bRetain : Bool) (valid : uchQoS ≤ 2) :
    Headed .publish (publishFlags uchQoS bRetain) ∧
      qosOfFlags (publishFlags uchQoS bRetain) = uchQoS := by
  unfold Headed
  rw [if_pos rfl]
  rcases qos_values uchQoS valid with rfl | rfl | rfl <;> cases bRetain <;> decide

theorem publishPacket_header (config : Config) (usPacketIdentifier : UInt16)
    (pTopic payload : List UInt8) (uchQoS : UInt8) (bRetain : Bool)
    (memory : Option (Nat → UInt8)) (packet : SendPacket)
    (built : publishPacket config usPacketIdentifier pTopic payload uchQoS bRetain memory =
      .ok packet) : packet.type = .publish ∧ packet.flags = publishFlags uchQoS bRetain := by
  simp only [publishPacket, SendPacket.setFlags, bind_ok, require_ok, pure_ok,
    Except.ok.injEq] at built
  rcases built with ⟨_, ⟨_, -, _, -, rfl⟩, named, first, numbered, second, third⟩
  have same := (SendPacket.appendString_same _ _ named _ first).trans
    (SendPacket.appendWord_same named numbered _ second)
  split at third
  · have all := same.trans (SendPacket.appendData_same _ numbered packet _ third)
    exact ⟨all.type, all.flags⟩
  · cases third
    exact ⟨same.type, same.flags⟩

theorem requested_stamped (usPacketIdentifier : UInt16) (operation : Operation config.toPlatform)
    (packet : SendPacket) (uchQoS : UInt8)
    (requested : Requested config usPacketIdentifier operation packet uchQoS) (ready : packet.Ready) :
    StampedAs packet.type packet.flags uchQoS := by
  cases requested with
  | publish pTopic payload _ bRetain input _ valid answered built =>
      rcases publishPacket_header config _ pTopic payload uchQoS bRetain input.memory packet
        built with
        ⟨type, flags⟩
      rcases publishFlags_headed uchQoS bRetain valid with ⟨headed, qos⟩
      rw [type, flags]
      exact ⟨headed, fun _ => qos⟩
  | subscribe pTopic uchQoS input _ built =>
      have type := subscribePacket_type config _ _ _ _ packet built
      simp only [subscribePacket, bind_ok] at built
      rcases built with ⟨numbered, first, named, second, third⟩
      refine ⟨created_headed .subscribe config.maxPacketSize input.memory packet (by decide)
        (((SendPacket.appendWord_same _ numbered _ first).trans
          (SendPacket.appendString_same _ numbered named _ second)).trans
          (SendPacket.appendByte_same named packet _ third)) ?_ ready, ?_⟩
      · intro clean
        exact SendPacket.appendWord_clean _ numbered _ first
          (SendPacket.appendString_clean _ numbered named _ second
            (SendPacket.appendByte_clean named packet _ third clean))
      · rw [type]
        intro other
        cases other
  | unsubscribe pTopic input _ built =>
      have type := unsubscribePacket_type config _ _ _ packet built
      simp only [unsubscribePacket, bind_ok] at built
      rcases built with ⟨numbered, first, second⟩
      refine ⟨created_headed .unsubscribe config.maxPacketSize input.memory packet (by decide)
        ((SendPacket.appendWord_same _ numbered _ first).trans
          (SendPacket.appendString_same _ numbered packet _ second)) ?_ ready, ?_⟩
      · intro clean
        exact SendPacket.appendWord_clean _ numbered _ first
          (SendPacket.appendString_clean _ numbered packet _ second clean)
      · rw [type]
        intro other
        cases other

theorem repeated_type (packet : SendPacket) : (repeated packet).type = packet.type :=
  (repeated_same packet).type

-- The DUP bit stands beside the bits of the QoS.
theorem qosOfFlags_dup (flags : UInt8) (small : flags ≤ 0x0F) :
    qosOfFlags (flags ||| flagDup) = qosOfFlags flags := by
  have bound : flags.toNat ≤ 15 := UInt8.le_iff_toNat_le.mp small
  have table : ∀ index : Fin 16,
      qosOfFlags (UInt8.ofNat index ||| flagDup) = qosOfFlags (UInt8.ofNat index) := by
    decide
  have entry := table ⟨flags.toNat, by omega⟩
  simpa using entry

theorem repeated_stamped (packet : SendPacket) (fits : Queueable packet.type packet.qos)
    (stamped : Stamped packet) :
    StampedAs (repeated packet).type (repeated packet).flags packet.qos := by
  rcases stamped with ⟨headed, qos⟩
  rw [repeated_type]
  by_cases publish : packet.type = .publish
  · rw [Retransmissions.repeated_flags, if_pos publish]
    rw [publish] at headed fits
    rw [Headed, if_pos rfl] at headed
    rcases headed with ⟨small, level, -⟩
    have same := qosOfFlags_dup packet.flags small
    refine ⟨?_, fun _ => same.trans (qos publish)⟩
    rw [publish, Headed, if_pos rfl, same]
    refine ⟨dup_small packet.flags small, level, fun zero => ?_⟩
    rw [qos publish] at zero
    rcases fits with one | two
    · rw [zero] at one
      cases one
    · rw [zero] at two
      cases two
  · rw [Retransmissions.repeated_flags, if_neg publish]
    exact ⟨headed, qos⟩

/-! The operations, one after the other. -/

theorem restarts_inSession (type : PacketType) (restarts : restartsTimer type = true)
    (other : type ≠ .connect) : type.inSession = true := by
  cases type <;> first | rfl | exact absurd rfl other | cases restarts

/-- The three requests. -/
theorem request_course (client next : Client) (operation : Operation config.toPlatform)
    (packet : SendPacket) (uchQoS : UInt8) (input : SendInput)
    (other : operation.isConnect = false) (asks : operation.asks = decide (uchQoS ≥ 1))
    (restarts : restartsTimer packet.type = true) (kind : packet.type ≠ .connect)
    (headed : packet.Ready → Headed packet.type packet.flags)
    (requested : uchQoS ≥ 1 →
      Requested config client.nextPacketIdentifier operation packet uchQoS)
    (plain : ¬ uchQoS ≥ 1 → Incidental packet)
    (done : client.advanceIdentifier.sendAndQueue config.toPlatform packet uchQoS
      client.nextPacketIdentifier input = .ok next) : Course config client operation next := by
  have advanced : Deeds config none client client.advanceIdentifier := .single .numbering
  rcases sendAndQueue_cases config.toPlatform client.advanceIdentifier next packet uchQoS _ input
    restarts done with
    ⟨online, ready, ⟨answered, entry, queues, rfl⟩ | ⟨unanswered, rfl⟩⟩ |
    ⟨after, middle, sending, closing⟩
  · exact .asking other (.asked packet entry uchQoS input.timerTicks online ⟨ready, headed ready⟩
      (requested answered) queues)
  · refine .deeds other none (fun asked => ?_) .nothing (advanced.tail
      (.sending packet input.timerTicks online ⟨ready, headed ready⟩ (plain unanswered)))
    rw [asks] at asked
    exact absurd (of_decide_eq_true asked) unanswered
  · have offline := middle.closeConnection_offline next _ closing
    exact .deeds other none (fun _ => offline) .nothing (advanced.trans (fail_deeds _ middle next
      packet after input _ headed (restarts_inSession packet.type restarts kind) sending closing))

theorem publish_course (client next : Client) (pTopic payload : List UInt8) (uchQoS : UInt8)
    (bRetain : Bool) (input : SendInput)
    (done : client.publish config pTopic payload uchQoS bRetain input = .ok next) :
    Course config client (.publish pTopic payload uchQoS bRetain input) next := by
  simp only [publish, bind_ok, require_ok] at done
  rcases done with ⟨_, valid, packet, built, done⟩
  rcases publishPacket_header config _ pTopic payload uchQoS bRetain input.memory packet built with
    ⟨type, flags⟩
  rcases publishFlags_headed uchQoS bRetain valid with ⟨headed, qos⟩
  refine request_course client next _ packet uchQoS input rfl rfl (by rw [type]; rfl)
    (by rw [type]; decide) (fun _ => by rw [type, flags]; exact headed)
    (fun answered => .publish pTopic payload uchQoS bRetain input packet valid answered built)
    ?_ done
  intro unanswered
  refine Or.inr (Or.inr (Or.inr ⟨type, ?_⟩))
  rw [flags, qos]
  rcases qos_values uchQoS valid with rfl | rfl | rfl
  · rfl
  · exact absurd (by decide) unanswered
  · exact absurd (by decide) unanswered

theorem subscribe_course (client next : Client) (pTopic : List UInt8) (uchQoS : UInt8)
    (input : SendInput) (done : client.subscribe config pTopic uchQoS input = .ok next) :
    Course config client (.subscribe pTopic uchQoS input) next := by
  simp only [subscribe, bind_ok, require_ok] at done
  rcases done with ⟨_, -, packet, built, done⟩
  have type := subscribePacket_type config _ _ _ _ packet built
  have requested : Requested config client.nextPacketIdentifier
      (.subscribe pTopic uchQoS input) packet 1 := .subscribe pTopic uchQoS input packet built
  exact request_course client next _ packet 1 input rfl rfl (by rw [type]; rfl)
    (by rw [type]; decide) (fun ready => (requested_stamped _ _ packet 1 requested ready).1)
    (fun _ => requested) (fun plain => absurd (by decide) plain) done

theorem unsubscribe_course (client next : Client) (pTopic : List UInt8) (input : SendInput)
    (done : client.unsubscribe config pTopic input = .ok next) :
    Course config client (.unsubscribe pTopic input) next := by
  simp only [unsubscribe, bind_ok] at done
  rcases done with ⟨packet, built, done⟩
  have type := unsubscribePacket_type config _ _ _ packet built
  have requested : Requested config client.nextPacketIdentifier
      (.unsubscribe pTopic input) packet 1 := .unsubscribe pTopic input packet built
  exact request_course client next _ packet 1 input rfl rfl (by rw [type]; rfl)
    (by rw [type]; decide) (fun ready => (requested_stamped _ _ packet 1 requested ready).1)
    (fun _ => requested) (fun plain => absurd (by decide) plain) done

theorem disconnect_deeds (client next : Client) (bForce : Bool) (input : SendInput)
    (done : client.disconnect config bForce input = .ok next) : Deeds config heard client next := by
  unfold disconnect at done
  split at done
  · exact close_deeds client next _ done
  · simp only [bind_ok] at done
    rcases done with ⟨⟨sent, after, middle⟩, sending, closing⟩
    have headed := created_zero .disconnect 128 input.memory _ rfl (by decide)
      (SendPacket.sameHeader_refl _)
    cases sent with
    | false =>
        exact fail_deeds client middle next _ after input _ (fun _ => headed) rfl sending closing
    | true =>
        rcases sendPacket_true config.toPlatform client middle _ after input sending with
          ⟨online, ready, -, -, -, alive⟩
        cases alive
        rcases Client.closeConnection_cases _ next _ closing with ⟨offline, -⟩ | ⟨-, -, rfl⟩
        · exact absurd offline online
        · exact .single (.closing .fromApplication _ online (.farewell _ ⟨ready, headed⟩ rfl))

/-- Everything `KeepAliveHandler` can do. -/
theorem keepAliveHandler_cases (client next : Client) (ticks : UInt32) (input : SendInput)
    (done : client.keepAliveHandler config.toPlatform ticks input = .ok next) :
    (¬ (client.timerRunning ∧ ¬ later client.timerElapsesAt ticks) ∧ next = client) ∨
    (client.timerRunning ∧ ¬ later client.timerElapsesAt ticks) ∧
      ((client.status = .connected ∧ client.keepAliveSeconds > 0 ∧ ∃ packet, Outgoing packet ∧
          packet.type = .pingReq ∧ next = client.pinged config.toPlatform packet input.timerTicks) ∨
        (client.status = .connected ∧ ∃ events, Parting events ∧
          next = (client.logged events).closed .sendFailed) ∨
        (client.status = .waitForPingResp ∧ next = client.closed .pingFailed)) := by
  unfold keepAliveHandler at done
  split at done
  · rename_i due
    refine Or.inr ⟨due, ?_⟩
    have headed := created_zero .pingReq 128 input.memory _ rfl (by decide)
      (SendPacket.sameHeader_refl _)
    dsimp only at done
    split at done
    · rename_i connected
      simp only [bind_ok] at done
      rcases done with ⟨⟨sent, after, middle⟩, sending, done⟩
      cases sent with
      | true =>
          cases done
          rcases sendPacket_true config.toPlatform client.stopTimer middle _ after input sending
            with ⟨online, ready, -, -, -, alive⟩
          rcases keepAlive_pinged _ _ _ _ alive with ⟨period, rfl⟩
          exact Or.inl ⟨connected, period, _, ⟨ready, headed⟩, rfl, rfl⟩
      | false =>
          -- the timer is stopped in between, as the closing stops it anyway
          rcases sendPacket_false config.toPlatform client.stopTimer middle _ after input sending
            with ⟨offline, -⟩ | ⟨online, events, rfl, unsent⟩
          · exact absurd offline (by rw [show client.stopTimer.status = _ from connected]; decide)
          · rcases Client.closeConnection_cases _ next _ done with ⟨offline, -⟩ | ⟨-, -, rfl⟩
            · exact absurd offline online
            · exact Or.inr (Or.inl ⟨connected, events,
                parting_of_unsent _ events (fun _ => headed) rfl unsent, rfl⟩)
    · simp only [bind_ok, require_ok] at done
      rcases done with ⟨_, waiting, closing⟩
      rcases Client.closeConnection_cases _ next _ closing with ⟨offline, -⟩ | ⟨-, -, rfl⟩
      · rw [waiting] at offline
        cases offline
      · exact Or.inr (Or.inr ⟨waiting, rfl⟩)
  · rename_i early
    cases done
    exact Or.inl ⟨early, rfl⟩

theorem keepAliveHandler_deeds (client next : Client) (ticks : UInt32) (input : SendInput)
    (done : client.keepAliveHandler config.toPlatform ticks input = .ok next) :
    Deeds config heard client next := by
  rcases client.keepAliveHandler_cases next ticks input done with
    ⟨-, rfl⟩ | ⟨⟨running, elapsed⟩, ⟨connected, period, packet, outgoing, type, rfl⟩ |
      ⟨connected, events, parting, rfl⟩ | ⟨waiting, rfl⟩⟩
  · exact .refl
  · exact .single (.pinging packet ticks input.timerTicks connected period running
      (by simpa using elapsed) outgoing type)
  · exact .single (.closing .sendFailed events (by rw [connected]; decide) parting)
  · have closing : Deed config heard client ((client.logged []).closed .pingFailed) :=
      .closing .pingFailed [] (by rw [waiting]; decide) .silent
    rw [logged_nil] at closing
    exact .single closing

theorem markRepeated_repeated (packet next : SendPacket) (done : markRepeated packet = .ok next) :
    next = repeated packet := by
  unfold markRepeated at done
  unfold repeated
  split at done
  · rename_i publish
    simp only [SendPacket.setFlags, bind_ok, require_ok, pure_ok, Except.ok.injEq] at done
    rcases done with ⟨_, -, _, -, rfl⟩
    exact (if_pos publish).symm
  · rename_i other
    cases done
    exact (if_neg other).symm

def Presentable (packet : SendPacket) : Prop :=
  Queueable packet.type packet.qos ∧ Stamped packet

theorem queues_stamped (packet entry : SendPacket) (uchQoS : UInt8) (usPacketIdentifier : UInt16)
    (stamped : StampedAs packet.type packet.flags uchQoS)
    (queues : Queues packet uchQoS usPacketIdentifier entry) : Stamped entry := by
  unfold Stamped
  rw [queues.type, queues.flags, queues.qos]
  exact stamped

theorem queues_presentable (packet entry : SendPacket) (usPacketIdentifier : UInt16)
    (presentable : Presentable packet)
    (queues : Queues (repeated packet) packet.qos usPacketIdentifier entry) :
    Presentable entry := by
  refine ⟨?_, queues_stamped (repeated packet) entry packet.qos usPacketIdentifier
    (repeated_stamped packet presentable.1 presentable.2) queues⟩
  rw [queues.type, queues.qos, repeated_type]
  exact presentable.1

/-- The queue in which an entry has been sent again. -/
theorem reinserted_presentable (packet entry : SendPacket) (before behind : List SendPacket)
    (presentable : ∀ other ∈ before ++ packet :: behind, Presentable other)
    (queues : Queues (repeated packet) packet.qos packet.packetIdentifier entry) :
    ∀ other ∈ insertByTime entry (before ++ behind), Presentable other := by
  intro other member
  rcases List.mem_cons.mp ((insertByTime_perm _ _).mem_iff.mp member) with rfl | old
  · exact queues_presentable packet _ _ (presentable packet (by simp)) queues
  · apply presentable
    simp only [List.mem_append, List.mem_cons] at old ⊢
    exact old.imp_right Or.inr

theorem requested_presentable (operation : Operation config.toPlatform)
    (packet entry : SendPacket) (uchQoS : UInt8) (usPacketIdentifier : UInt16)
    (requested : Requested config usPacketIdentifier operation packet uchQoS) (ready : packet.Ready)
    (queues : Queues packet uchQoS usPacketIdentifier entry) : Presentable entry := by
  refine ⟨?_, queues_stamped packet entry uchQoS usPacketIdentifier
    (requested_stamped usPacketIdentifier operation packet uchQoS requested ready) queues⟩
  rw [queues.type, queues.qos]
  cases requested with
  | publish pTopic payload _ bRetain input _ valid answered built =>
      have type := (publishPacket_header config _ pTopic payload uchQoS bRetain input.memory packet
        built).1
      rw [type]
      rcases qos_values uchQoS valid with rfl | rfl | rfl
      · exact absurd answered (by decide)
      · exact Or.inl rfl
      · exact Or.inr rfl
  | subscribe pTopic uchQoS input _ built =>
      rw [subscribePacket_type config _ _ _ _ packet built]
      exact rfl
  | unsubscribe pTopic input _ built =>
      rw [unsubscribePacket_type config _ _ _ packet built]
      exact rfl

theorem released_presentable (packet entry : SendPacket) (usWord usPacketIdentifier : UInt16)
    (memory : Option (Nat → UInt8)) (outgoing : Outgoing packet)
    (built : (SendPacket.create .pubRel 128 memory).appendWord usWord = .ok packet)
    (queues : Queues packet 2 usPacketIdentifier entry) : Presentable entry := by
  have type : packet.type = .pubRel := (SendPacket.appendWord_same _ packet _ built).type
  refine ⟨?_, queues_stamped packet entry 2 usPacketIdentifier ⟨outgoing.headed, ?_⟩ queues⟩
  · rw [queues.type, queues.qos, type]
    exact rfl
  · rw [type]
    intro other
    cases other

def sendAgain (platform : Platform) (client : Client) (packet : SendPacket) (input : SendInput) :
    Except Fault (Bool × SendPacket × Client) := do
  client.sendPacket platform (← markRepeated packet) input

/-- A round of the loop of `Sender` with a packet that is due: the socket refuses it or takes
it. -/
theorem senderRound_cases (nTicks : UInt32) (client next : Client) (packet : SendPacket)
    (passed rest : List SendPacket) (input : SendInput) (inputs : List SendInput)
    (presentable : Presentable packet) (online : client.status ≠ .disconnected)
    (due : later packet.scheduledTime nTicks = false)
    (done : client.senderLoop config.toPlatform nTicks passed (packet :: rest) (input :: inputs) =
      .ok (some next)) :
    (∃ after middle events, (client.withQueue (passed ++ rest)).sendAgain config.toPlatform packet
        input = .ok (false, after, middle) ∧ Parting events ∧
        next = (client.logged events).closed .sendFailed) ∨
      ∃ after, (client.withQueue (passed ++ rest)).sendAgain config.toPlatform packet input =
          .ok (true, after, (client.withQueue (passed ++ rest)).spoken config.toPlatform
            (repeated packet) input.timerTicks) ∧
        Outgoing (repeated packet) ∧
        Queues (repeated packet) packet.qos packet.packetIdentifier
          (after.rescheduled config.toPlatform input) ∧
        ((client.withQueue (passed ++ rest)).spoken config.toPlatform (repeated packet)
          input.timerTicks).senderLoop config.toPlatform nTicks
            (reinsert (after.rescheduled config.toPlatform input) passed rest).1
            (reinsert (after.rescheduled config.toPlatform input) passed rest).2 inputs =
          .ok (some next) := by
  rw [senderLoop, due] at done
  simp only [Bool.false_eq_true, ↓reduceIte, bind_ok] at done
  rcases done with ⟨marked, marking, ⟨sent, after, middle⟩, sending, done⟩
  obtain rfl := markRepeated_repeated packet marked marking
  -- what is sent is the packet, marked as a repetition
  have again : (client.withQueue (passed ++ rest)).sendAgain config.toPlatform packet input =
      .ok (sent, after, middle) := by
    rw [sendAgain, marking, ok_bind]
    exact sending
  have headed := (repeated_stamped packet presentable.1 presentable.2).1
  have restarts : restartsTimer (repeated packet).type = true := by
    rw [repeated_type]
    exact queueable_restarts packet.type packet.qos presentable.1
  cases sent with
  | false =>
      simp only [Bool.false_eq_true, ↓reduceIte, bind_ok, pure_ok, Except.ok.injEq,
        Option.some.injEq] at done
      -- the connection is closed at once, with what has been sent as its last words
      rcases done with ⟨closed, closing, rfl⟩
      rcases sendPacket_false config.toPlatform _ middle _ after input sending with
        ⟨offline, -⟩ | ⟨still, events, rfl, unsent⟩
      · exact absurd offline online
      · rcases closeConnection_cases _ closed _ closing with ⟨offline, -⟩ | ⟨-, -, rfl⟩
        · exact absurd offline still
        · have kind := restarts_inSession (repeated packet).type restarts (by
            rw [repeated_type]
            intro connect
            have fits := presentable.1
            rw [connect] at fits
            exact fits)
          exact Or.inl ⟨after, _, events, again,
            parting_of_unsent _ events (fun _ => headed) kind unsent, rfl⟩
  | true =>
      simp only [↓reduceIte] at done
      rcases sendPacket_true config.toPlatform _ middle _ after input sending with
        ⟨-, ready, same, flags, tries, -⟩
      have spoken := sendPacket_spoken config.toPlatform _ middle _ after input restarts sending
      rw [spoken] at done again
      exact Or.inr ⟨after, again, ⟨ready, headed⟩, ⟨same.type, flags, same.bufPtr, same.body,
        same.qos.trans (repeated_same packet).qos,
        same.packetIdentifier.trans (repeated_same packet).packetIdentifier, tries⟩, done⟩

/-- The loop of `Sender`, seen from the whole queue. -/
theorem senderLoop_deeds (nTicks : UInt32) (client next : Client) (passed ahead : List SendPacket)
    (inputs : List SendInput) (presentable : ∀ packet ∈ passed ++ ahead, Presentable packet)
    (empty : client.status = .disconnected → passed ++ ahead = [])
    (done : client.senderLoop config.toPlatform nTicks passed ahead inputs = .ok (some next)) :
    Deeds config heard (client.withQueue (passed ++ ahead)) next := by
  induction inputs generalizing client passed ahead with
  | nil =>
      unfold senderLoop at done
      split at done
      · cases done
        rw [List.append_nil]
        exact .refl
      · split at done
        · cases done
          exact .refl
        · cases done
  | cons input inputs ih =>
      cases ahead with
      | nil =>
          cases done
          rw [List.append_nil]
          exact .refl
      | cons packet rest =>
          by_cases due : later packet.scheduledTime nTicks = true
          · rw [senderLoop, if_pos due] at done
            cases done
            exact .refl
          · have now := Bool.eq_false_iff.mpr due
            have online : client.status ≠ .disconnected := by
              intro offline
              simpa using empty offline
            have own : Presentable packet := presentable packet (by simp)
            rcases client.senderRound_cases nTicks next packet passed rest input inputs own online
              now done with ⟨-, -, events, -, parting, rfl⟩ | ⟨after, -, outgoing, queues, done⟩
            · exact .single (.closing .sendFailed events online parting)
            · -- The packet is back in the queue, and the loop goes on behind it.
              have place := reinsert_eq (after.rescheduled config.toPlatform input) passed rest
              have first : Deed config heard (client.withQueue (passed ++ packet :: rest))
                  (((client.withQueue (passed ++ packet :: rest)).spoken config.toPlatform
                    (repeated packet) input.timerTicks).withQueue
                    (insertByTime (after.rescheduled config.toPlatform input)
                      (passed ++ rest))) :=
                .repeating passed rest packet _ nTicks input.timerTicks online rfl now outgoing
                  queues
              refine (Relation.ReflTransGen.single first).trans ?_
              have behind := ih _ _ _ (by
                rw [place]
                exact reinserted_presentable packet _ passed rest presentable queues) (by
                intro offline
                rw [spoken_status] at offline
                exact absurd offline online) done
              rw [place, spoken_withQueue] at behind
              rw [spoken_withQueue]
              exact behind

theorem connect_opening (client next : Client) (request : ConnectRequest) (input : ConnectInput)
    (done : client.connect config request input = .ok next) : Opening client next := by
  rcases client.connect_outcome config next request input done with
    ⟨offline, ⟨-, reason, -, rfl⟩ | ⟨-, packet, after, middle, sent, built, sending, outcome⟩⟩
  · exact .refused reason offline
  · have header := connectPacket_same config request input packet built
    have type : packet.type = .connect := header.type
    have headed := created_zero .connect config.maxPacketSize input.send.memory packet rfl
      (by decide) header
    rcases outcome with ⟨rfl, rfl⟩ | ⟨rfl, closing⟩
    · have ready := (sendPacket_true config.toPlatform _ next packet after input.send sending).2.1
      have spoken := sendPacket_spoken config.toPlatform _ next packet after input.send
        (by rw [type]; rfl) sending
      -- the timer is not started before the CONNACK
      have still : next = (client.opened request.keepAliveSeconds).record
          (.sent packet.wire true) := by
        rw [spoken, Client.spoken, restarted, if_neg]
        rintro ⟨connected, -⟩
        cases connected
      rw [still]
      exact .opened packet request.keepAliveSeconds offline ⟨ready, headed⟩ type
    · rcases sendPacket_false config.toPlatform _ middle packet after input.send sending with
        ⟨other, -⟩ | ⟨online, events, rfl, unsent⟩
      · cases other
      · rcases closeConnection_cases _ next _ closing with ⟨other, -⟩ | ⟨-, -, rfl⟩
        · exact absurd other online
        · refine .failed request.keepAliveSeconds events offline ?_
          exact unsent.imp_right fun ⟨ready, refused⟩ => ⟨packet, ⟨ready, headed⟩, type, refused⟩

/-- An acknowledgement that is sent, or the end of the connection over it. -/
theorem answer_cases (client middle : Client) (type : PacketType) (usPacketIdentifier : UInt16)
    (input : SendInput) (sent : Bool) (restarts : restartsTimer type = true)
    (zero : SendPacket.initialFlags type = 0) (plain : type ≠ .publish)
    (done : client.answer config.toPlatform type usPacketIdentifier input = .ok (sent, middle)) :
    ∃ packet, packet.type = type ∧ Headed packet.type packet.flags ∧
      ((sent = true ∧ client.status ≠ .disconnected ∧ Outgoing packet ∧
          middle = client.spoken config.toPlatform packet input.timerTicks) ∨
        sent = false ∧ ∃ after,
          client.sendPacket config.toPlatform packet input = .ok (false, after, middle)) := by
  simp only [answer, bind_ok, pure_ok, Except.ok.injEq, Prod.mk.injEq] at done
  rcases done with ⟨packet, built, ⟨result, after, next⟩, sending, rfl, rfl⟩
  have header := SendPacket.appendWord_same _ packet _ built
  have headed := created_zero type 128 input.memory packet zero plain header
  refine ⟨packet, header.type, headed, ?_⟩
  dsimp only at sending ⊢
  cases result with
  | true =>
      rcases sendPacket_true config.toPlatform client next packet after input sending with
        ⟨online, ready, -⟩
      exact Or.inl ⟨rfl, online, ⟨ready, headed⟩,
        sendPacket_spoken config.toPlatform client next packet after input
          (by rw [header.type]; exact restarts) sending⟩
  | false => exact Or.inr ⟨rfl, after, sending⟩

theorem storing_deeds (client : Client) (store : List UInt16) :
    Deeds config heard client { client with packetIdentifierStore := store } :=
  .single (.aside client.receivePacket store)

theorem respondMessage_deeds (client next : Client) (uchQoS : UInt8) (usPacketIdentifier : UInt16)
    (message : Message) (input : SendInput) (online : client.status ≠ .disconnected)
    (done : client.respondMessage config.toPlatform uchQoS usPacketIdentifier message input =
      .ok next) : Deeds config heard client next := by
  rcases client.respondMessage_cases config.toPlatform next uchQoS usPacketIdentifier message input
    done with ⟨-, rfl⟩ | ⟨-, sent, middle, answered, outcome⟩
  · exact .single (.hearing message online)
  · have restarts : restartsTimer (if uchQoS = 1 then .pubAck else .pubRec) = true := by
      split <;> rfl
    have kind : ∀ type, type = (if uchQoS = 1 then PacketType.pubAck else .pubRec) →
        type = .pubAck ∨ type = .pubRec := by
      rintro type rfl
      split
      · exact Or.inl rfl
      · exact Or.inr rfl
    rcases answer_cases client middle _ usPacketIdentifier input sent restarts
      (by split <;> rfl) (by split <;> decide) answered with
      ⟨packet, type, headed, ⟨rfl, online, outgoing, rfl⟩ | ⟨rfl, after, sending⟩⟩
    · have incidental : Incidental packet :=
        (kind packet.type type).elim Or.inl fun rec => Or.inr (Or.inl rec)
      have first : Deeds config heard client
          (client.spoken config.toPlatform packet input.timerTicks) :=
        .single (.sending packet input.timerTicks online outgoing incidental)
      have still : (client.spoken config.toPlatform packet input.timerTicks).status ≠
          .disconnected := by
        rw [spoken_status]
        exact online
      rcases outcome with ⟨refused, -⟩ | ⟨-, -, rfl⟩ | ⟨-, -, -, rfl⟩ | ⟨-, -, -, rfl⟩
      · cases refused
      · exact first.tail (.hearing message still)
      · exact first
      · exact (first.trans (storing_deeds _ _)).tail (.hearing message still)
    · rcases outcome with ⟨-, closing⟩ | ⟨accepted, -⟩ | ⟨accepted, -⟩ | ⟨accepted, -⟩
      · exact fail_deeds client middle next packet after input _ (fun _ => headed)
          (by rcases kind packet.type type with same | same <;> rw [same] <;> rfl) sending closing
      · cases accepted
      · cases accepted
      · cases accepted

/-- The entry that an acknowledgement has found was not the right one. -/
theorem unclaimed_deeds (client next : Client) (queue : List SendPacket)
    (online : client.status ≠ .disconnected)
    (done : (client.withQueue queue).closeConnection .packetIdentifier = .ok next) :
    Deeds config heard client next := by
  rcases closeConnection_cases _ next _ done with ⟨offline, -⟩ | ⟨-, -, rfl⟩
  · exact absurd offline online
  · have closing : Deed config heard client ((client.logged []).closed .packetIdentifier) :=
      .closing .packetIdentifier [] online .silent
    rw [logged_nil] at closing
    exact .single closing

/-- The entry that is acknowledged, or the end of the connection. -/
theorem release_deeds (client next : Client) (first : Packet) (uchQoS : UInt8)
    (dispatched : heard = some first) (asked : askedQoS first.type = some uchQoS)
    (other : first.type ≠ .pubRec) (online : client.status ≠ .disconnected)
    (done : client.release (identifierOf first.body) uchQoS = .ok next) :
    Deeds config heard client next := by
  have removed := client.removePacketFromQueue_eq (identifierOf first.body)
  rcases client.release_cases next _ uchQoS done with ⟨-, closing⟩ | ⟨entry, found, qos, rfl⟩
  · rw [removed] at closing
    exact unclaimed_deeds client next _ online closing
  · rw [removed] at found ⊢
    exact .single (.settling first entry dispatched (by rw [asked, qos]) other found)

theorem respondPubRec_deeds (client next : Client) (first : Packet) (input : SendInput)
    (dispatched : heard = some first) (type : first.type = .pubRec)
    (online : client.status ≠ .disconnected)
    (done : client.respondPubRec config.toPlatform (identifierOf first.body) input = .ok next) :
    Deeds config heard client next := by
  have removed := client.removePacketFromQueue_eq (identifierOf first.body)
  rcases client.respondPubRec_cases config.toPlatform next _ input done with
    ⟨-, closing⟩ | ⟨entry, packet, found, qos, built, sent⟩
  · rw [removed] at closing
    exact unclaimed_deeds client next _ online closing
  · rw [removed] at found sent
    have header := SendPacket.appendWord_same _ packet _ built
    have released : packet.type = .pubRel := header.type
    have headed := created_headed .pubRel 128 input.memory packet (by decide) header
      (SendPacket.appendWord_clean _ packet _ built)
    rcases sendAndQueue_cases config.toPlatform _ next packet 2 _ input
      (by rw [released]; rfl) sent with
      ⟨-, ready, ⟨-, release, queues, rfl⟩ | ⟨unanswered, -⟩⟩ | ⟨after, middle, sending, closing⟩
    · have deed : Deed config heard client _ := .releasing first entry packet release
        input.timerTicks input.memory dispatched type qos found online ⟨ready, headed ready⟩ built
        queues
      rw [spoken_withQueue]
      exact .single deed
    · exact absurd (by decide) unanswered
    · rcases sendPacket_false config.toPlatform _ middle packet after input sending with
        ⟨offline, -⟩ | ⟨-, events, rfl, unsent⟩
      · exact absurd offline online
      · rcases closeConnection_cases _ next _ closing with ⟨offline, -⟩ | ⟨-, -, rfl⟩
        · exact absurd offline online
        · exact .single (.closing .sendFailed events online
            (parting_of_unsent packet events headed (by rw [released]; rfl) unsent))

theorem respondPubRel_deeds (client next : Client) (usPacketIdentifier : UInt16)
    (input : SendInput)
    (done : client.respondPubRel config.toPlatform usPacketIdentifier input = .ok next) :
    Deeds config heard client next := by
  rcases client.respondPubRel_cases config.toPlatform next usPacketIdentifier input done with
    ⟨-, closing⟩ | ⟨-, sent, middle, answered, outcome⟩
  · exact close_deeds client next _ closing
  · rcases answer_cases client middle .pubComp usPacketIdentifier input sent rfl rfl (by decide)
      answered with ⟨packet, type, headed, ⟨rfl, online, outgoing, rfl⟩ | ⟨rfl, after, sending⟩⟩
    · rcases outcome with ⟨refused, -⟩ | ⟨-, rfl⟩
      · cases refused
      · have first : Deeds config heard client
            (client.spoken config.toPlatform packet input.timerTicks) :=
          .single (.sending packet input.timerTicks online outgoing
            (Or.inr (Or.inr (Or.inl type))))
        exact first.trans (storing_deeds _ _)
    · rcases outcome with ⟨-, closing⟩ | ⟨accepted, -⟩
      · exact fail_deeds client middle next packet after input _ (fun _ => headed)
          (by rw [type]; rfl) sending closing
      · cases accepted

/-- What the packet that is dispatched brings about. -/
theorem respond_deeds (client next : Client) (first : Packet) (input : SendInput)
    (dispatched : heard = some first) (online : client.status ≠ .disconnected)
    (done : client.respond config first input = .ok next) : Deeds config heard client next := by
  have released : ∀ uchQoS, askedQoS first.type = some uchQoS → first.type ≠ .pubRec →
      client.release (identifierOf first.body) uchQoS = .ok next →
      Deeds config heard client next :=
    fun uchQoS asked other => release_deeds client next first uchQoS dispatched asked other online
  unfold respond at done
  split at done
  case h_1 type =>
      rcases client.respondConnAck_cases next _ _ done with
        ⟨-, closing⟩ | ⟨pending, ⟨-, rfl⟩ | ⟨-, closing⟩⟩
      · exact close_deeds client next _ closing
      · exact .single (.establishing first _ dispatched type pending)
      · exact close_deeds client next _ closing
  case h_2 type =>
      rcases client.respondPublish_cases config next first input done with
        ⟨reason, -, closing⟩ | ⟨usPacketIdentifier, message, -, told⟩
      · exact close_deeds client next reason closing
      · exact respondMessage_deeds client next _ _ message input online told
  case h_3 type => exact released 1 (by rw [type]; rfl) (by rw [type]; decide) done
  case h_4 type => exact respondPubRec_deeds client next first input dispatched type online done
  case h_5 type => exact respondPubRel_deeds client next _ input done
  case h_6 type => exact released 2 (by rw [type]; rfl) (by rw [type]; decide) done
  case h_7 type =>
      rcases client.respondSubAck_cases next _ _ done with ⟨-, closing⟩ | ⟨-, granted⟩
      · exact close_deeds client next _ closing
      · exact released 1 (by rw [type]; rfl) (by rw [type]; decide) granted
  case h_8 type => exact released 1 (by rw [type]; rfl) (by rw [type]; decide) done
  case h_9 type =>
      cases done
      exact .single (.ponging first input.timerTicks dispatched type online)
  case h_10 => cases done

theorem reading_deeds (client next : Client) (packet : ReceivePacket)
    (deeds : Deeds config heard client next) :
    Deeds config heard client (next.withPacket packet) :=
  deeds.tail (.aside packet next.packetIdentifierStore)

theorem receiverPass_deeds (client next : Client) (input : ReceiveInput config.toPlatform)
    (more : Bool) (sound : Sound config client)
    (done : client.receiverPass config input = .ok (more, next)) :
    ∃ heard, Hears config client (.receiver input) heard ∧ Deeds config heard client next := by
  rcases client.receiverPass_cases config next input more sound done with
    ⟨-, packet, rfl | ⟨reason, closed, -, closing, rfl⟩⟩ |
    ⟨first, rest, packet, result, there, accepted, open_, responded, rfl⟩
  · exact ⟨none, .nothing, reading_deeds client client packet .refl⟩
  · exact ⟨none, .nothing, reading_deeds client closed packet
      (close_deeds client closed reason closing)⟩
  · exact ⟨some first, .dispatch input first rest rfl there accepted,
      reading_deeds client result packet (respond_deeds client result first input.send rfl
        (sound.linked.mp open_) responded)⟩

end Client

def Tidy (client : Client) : Prop :=
  ∀ packet ∈ client.retransmissionQueue, Client.Presentable packet

theorem perform_course (config : Config) (client next : Client)
    (operation : Operation config.toPlatform) (kept : Kept config client) (tidy : Tidy client)
    (done : perform config client operation = .ok (some next)) :
    Course config client operation next := by
  cases perform_performs config client next operation done with
  | connect request input _ done =>
      exact .opening rfl (client.connect_opening next request input done)
  | disconnect bForce input _ done =>
      exact .deeds rfl none nofun .nothing (client.disconnect_deeds next bForce input done)
  | subscribe pTopic uchQoS input _ done =>
      exact client.subscribe_course next pTopic uchQoS input done
  | unsubscribe pTopic input _ done => exact client.unsubscribe_course next pTopic input done
  | publish pTopic payload uchQoS bRetain input _ done =>
      exact client.publish_course next pTopic payload uchQoS bRetain input done
  | receiver input more _ done =>
      rcases client.receiverPass_deeds next input more kept.sound done with ⟨heard, hears, deeds⟩
      exact .deeds rfl heard nofun hears deeds
  | sender nTicks inputs _ done =>
      have presentable : ∀ packet ∈ [] ++ client.retransmissionQueue, Client.Presentable packet :=
        fun packet member => tidy packet member
      exact .deeds rfl none nofun .nothing
        (client.senderLoop_deeds nTicks next [] _ inputs presentable kept.queued.empty done)
  | keepAliveHandler ticks input _ done =>
      exact .deeds rfl none nofun .nothing (client.keepAliveHandler_deeds next ticks input done)

theorem deed_tidy (client next : Client) (deed : Deed config heard client next)
    (tidy : Tidy client) : Tidy next := by
  cases deed with
  | repeating before behind packet entry nTicks ticks online queue due outgoing queues =>
      rw [Tidy, queue] at tidy
      exact Client.reinserted_presentable packet entry before behind tidy queues
  | settling first entry dispatched asked other found =>
      exact fun packet member => tidy packet (List.mem_of_mem_eraseP member)
  | releasing first entry packet release ticks memory dispatched type qos found online outgoing
      built queues =>
      intro other member
      rcases List.mem_cons.mp ((Client.insertByTime_perm _ _).mem_iff.mp member) with rfl | old
      · exact Client.released_presentable packet other _ _ memory outgoing built queues
      · exact tidy other (List.mem_of_mem_eraseP old)
  | closing reason events online parting => exact fun packet member => nomatch member
  | sending packet ticks online outgoing incidental =>
      intro other member
      rw [spoken_queue] at member
      exact tidy other member
  | ponging first ticks dispatched type online =>
      unfold Client.respondPingResp
      split <;> exact tidy
  | _ => exact tidy

theorem opening_tidy (client next : Client) (opening : Opening client next) (tidy : Tidy client) :
    Tidy next := by
  cases opening with
  | failed usKeepAliveSeconds events offline unsent => exact fun packet member => nomatch member
  | _ => exact tidy

theorem asking_tidy (client next : Client) (operation : Operation config.toPlatform)
    (asking : Asking config client operation next) (tidy : Tidy client) : Tidy next := by
  cases asking with
  | asked packet entry uchQoS ticks online outgoing requested queues =>
      intro other member
      rcases List.mem_cons.mp ((Client.insertByTime_perm _ _).mem_iff.mp member) with rfl | old
      · exact Client.requested_presentable operation packet other uchQoS _ requested
          outgoing.ready queues
      · exact tidy other old

theorem course_tidy (client next : Client) (operation : Operation config.toPlatform)
    (course : Course config client operation next) (tidy : Tidy client) : Tidy next := by
  cases course with
  | opening called opening => exact opening_tidy client next opening tidy
  | asking other asking => exact asking_tidy client next operation asking tidy
  | deeds other heard unasked hears deeds =>
      exact deeds_invariant Tidy deed_tidy client next deeds tidy

theorem asking_asks (client next : Client) (operation : Operation config.toPlatform)
    (asking : Asking config client operation next) :
    operation.asks = true ∧ next.status ≠ .disconnected := by
  cases asking with
  | asked packet entry uchQoS ticks online outgoing requested queues =>
      refine ⟨?_, fun offline => online
        ((spoken_status config.toPlatform client.advanceIdentifier ticks packet) ▸ offline)⟩
      cases requested with
      | publish pTopic payload _ bRetain input _ valid answered built =>
          exact decide_eq_true answered
      | _ => rfl

/-- Without `Connect` a client stays disconnected, and its timer as it is. -/
theorem deed_offline (client next : Client) (deed : Deed config heard client next)
    (offline : client.status = .disconnected) :
    next.status = .disconnected ∧ next.timerRunning = client.timerRunning := by
  cases deed with
  | aside | numbering | settling => exact ⟨offline, rfl⟩
  | pinging packet now ticks connected =>
      rw [offline] at connected
      cases connected
  | establishing first sessionPresent dispatched type pending =>
      rw [offline] at pending
      cases pending
  | sending packet ticks online => exact absurd offline online
  | repeating before behind packet entry nTicks ticks online => exact absurd offline online
  | releasing first entry packet release ticks memory dispatched type qos found online =>
      exact absurd offline online
  | hearing message online => exact absurd offline online
  | ponging first ticks dispatched type online => exact absurd offline online
  | closing reason events online => exact absurd offline online

theorem deeds_offline (client next : Client) (deeds : Deeds config heard client next)
    (offline : client.status = .disconnected) : next.status = .disconnected :=
  deeds_invariant (fun client => client.status = .disconnected)
    (fun client next deed offline => (deed_offline client next deed offline).1)
    client next deeds offline

structure Settled (config : Config) (client : Client) : Prop where
  kept : Kept config client
  tidy : Tidy client

theorem perform_settled (config : Config) (client next : Client)
    (operation : Operation config.toPlatform) (settled : Settled config client)
    (done : perform config client operation = .ok (some next)) : Settled config next :=
  ⟨perform_kept config client next operation settled.kept done,
    course_tidy client next operation
      (perform_course config client next operation settled.kept settled.tidy done) settled.tidy⟩

/-- What the allowed operations preserve from some state of a run on. -/
theorem along_courses (config : Config) (allowed : Machine → Operation config.toPlatform → Prop)
    (invariant : Client → Prop)
    (preserved : ∀ client next operation, Settled config client →
      allowed (.running client) operation → Course config client operation next →
      invariant client → invariant next)
    (client last : Client) (operations : List (Operation config.toPlatform))
    (settled : Settled config client) (initial : invariant client)
    (steps : Execution.Along (step config) allowed (.running client) operations)
    (goes : Execution.run (step config) (.running client) operations = some (.running last)) :
    Settled config last ∧ invariant last := by
  refine Execution.run_along allowed
    (fun machine => ∀ running, machine = Machine.running running →
      Settled config running ∧ invariant running) ?_ (.running client) (.running last) operations
    ?_ steps goes last rfl
  · rintro state operation next holds permitted taken running rfl
    rcases step_cases config state _ operation taken with
      ⟨before, rfl, ⟨after, done, ⟨⟩⟩ | ⟨fault, -, failed⟩⟩
    · rcases holds before rfl with ⟨settled, holds⟩
      have course := perform_course config before running operation settled.kept settled.tidy done
      exact ⟨perform_settled config before running operation settled done,
        preserved before running operation settled permitted course holds⟩
    · cases failed
  · rintro running ⟨⟩
    exact ⟨settled, initial⟩

/-- What the operations preserve, every run preserves. -/
theorem reached_courses (config : Config) (invariant : Client → Prop)
    (preserved : ∀ client next operation, Settled config client →
      Course config client operation next → invariant client → invariant next)
    (client last : Client) (operations : List (Operation config.toPlatform))
    (constructed : Constructed config client) (initial : invariant client)
    (reached : Execution.run (step config) (.running client) operations = some (.running last)) :
    Settled config last ∧ invariant last := by
  have settled : Settled config client :=
    ⟨constructed_kept config client constructed,
      by simp [Tidy, constructed.retransmissionQueue]⟩
  have all : ∀ state labels, Execution.Along (step config) (fun _ _ => True) state labels := by
    intro state labels
    induction labels generalizing state with
    | nil => trivial
    | cons operation rest ih => exact ⟨trivial, fun next _ => ih next⟩
  exact along_courses config (fun _ _ => True) invariant
    (fun client next operation settled _ => preserved client next operation settled)
    client last operations settled initial (all _ operations) reached

theorem reached_settled (config : Config) (client last : Client)
    (operations : List (Operation config.toPlatform)) (constructed : Constructed config client)
    (reached : Execution.run (step config) (.running client) operations = some (.running last)) :
    Settled config last :=
  (reached_courses config (fun _ => True) (fun _ _ _ _ _ _ => trivial) client last operations
    constructed trivial reached).1

end CircleStdlib.Mqtt
