import CircleStdlib.KeepAliveTimer

/-!
The order of the callbacks on a connection. `greeting` follows the log of a
client and says whether `OnConnect` has been called on the connection that is
open; it has no value once a callback has come out of turn. A client is in order
when this agrees with `IsConnected`. The handlers of PINGRESP and PUBLISH do not
look at the status, and these are the only ways out of the order.
-/

namespace CircleStdlib.Mqtt

open Checked Execution

namespace ConnectionEvents

/-- `OnConnect` comes once on a connection, `OnMessage` only behind it, and
`OnDisconnect` ends the connection. -/
def hear : Option Bool → Event → Option Bool
  | none, _ => none
  | some greeted, .sent _ _ => some greeted
  | some greeted, .onConnect _ => if greeted then none else some true
  | some greeted, .onMessage _ => if greeted then some true else none
  | some _, .onDisconnect _ => some false

def greeting (log : List Event) : Option Bool := log.foldl hear (some false)

/-- The callbacks have come in turn, and the client is connected exactly when
`OnConnect` has been called on the present connection. -/
def Greeted (client : Client) : Prop := greeting client.log = some client.isConnected

def Unstored (client : Client) : Prop :=
  client.isConnected = false → client.packetIdentifierStore = []

structure InOrder (client : Client) : Prop where
  greeted : Greeted client
  unstored : Unstored client

theorem greeting_append (log events : List Event) :
    greeting (log ++ events) = events.foldl hear (greeting log) :=
  List.foldl_append

theorem hear_silent (greeted : Option Bool) (events : List Event) (silent : Silent events) :
    events.foldl hear greeted = greeted := by
  induction events generalizing greeted with
  | nil => rfl
  | cons event rest ih =>
      rcases silent event (by simp) with ⟨bytes, accepted, rfl⟩
      have same : hear greeted (.sent bytes accepted) = greeted := by
        cases greeted <;> rfl
      rw [List.foldl_cons, same]
      exact ih greeted fun other member => silent other (by simp [member])

structure Calm (client next : Client) : Prop where
  connected : next.isConnected = client.isConnected
  log : ∃ events, Silent events ∧ next.log = client.log ++ events
  store : client.packetIdentifierStore = [] → next.packetIdentifierStore = []

theorem calm_same (client next : Client) (status : next.status = client.status)
    (log : next.log = client.log)
    (store : client.packetIdentifierStore = [] → next.packetIdentifierStore = []) :
    Calm client next :=
  ⟨by simp [Client.isConnected, status], ⟨[], by simp [Silent], by simp [log]⟩, store⟩

theorem inOrder_calm (client next : Client) (calm : Calm client next)
    (ordered : InOrder client) : InOrder next := by
  constructor
  · rcases calm.log with ⟨events, silent, log⟩
    unfold Greeted
    rw [log, greeting_append, hear_silent _ events silent, calm.connected]
    exact ordered.greeted
  · intro offline
    exact calm.store (ordered.unstored (calm.connected ▸ offline))

theorem inOrder_disconnected (client next : Client) (reason : DisconnectReason)
    (offline : next.status = .disconnected)
    (log : next.log = client.log ++ [.onDisconnect reason])
    (store : next.packetIdentifierStore = []) (ordered : InOrder client) : InOrder next := by
  constructor
  · unfold Greeted
    rw [log, greeting_append, ordered.greeted]
    simp [hear, Client.isConnected, offline]
  · exact fun _ => store

theorem inOrder_closed (client next : Client) (reason : DisconnectReason)
    (done : client.closeConnection reason = .ok next) (ordered : InOrder client) :
    InOrder next := by
  rcases client.closeConnection_cases next reason done with ⟨-, rfl⟩ | ⟨-, -, rfl⟩
  · exact ordered
  · exact inOrder_disconnected client _ reason rfl rfl rfl ordered

/-- A PINGREQ is only sent while connected, and a client that waits for the
PINGRESP still is. -/
theorem sendPacket_calm (platform : Platform) (client next : Client) (packet after : SendPacket)
    (input : SendInput) (sent : Bool)
    (done : client.sendPacket platform packet input = .ok (sent, after, next)) :
    Calm client next := by
  have connected : next.isConnected = client.isConnected := by
    rcases client.sendPacket_timer platform next packet after input sent done with ⟨-, timer⟩
    split at timer
    · rcases timer with ⟨before, -, waiting, -⟩
      simp [Client.isConnected, before, waiting]
    · simp [Client.isConnected, timer.1]
  rcases client.sendPacket_cases platform next packet after input sent done with
    ⟨-, -, -, rfl⟩ | ⟨-, -, sending, -, -, -, framed, log, -⟩
  · exact calm_same next next rfl rfl id
  · exact ⟨connected, ⟨sending.events, sending_silent sending, log⟩,
      fun empty => framed.packetIdentifierStore.trans empty⟩

theorem localMove_inOrder (config : Config) (client next : Client)
    (move : LocalMove config client next) (ordered : InOrder client) : InOrder next := by
  cases move with
  | transmission _ packet after input sent done =>
      exact inOrder_calm client next
        (sendPacket_calm config.toPlatform client next packet after input sent done) ordered
  | closing _ reason done => exact inOrder_closed client next reason done ordered
  | numbering => exact inOrder_calm client _ (calm_same client _ rfl rfl id) ordered
  | queueing packet nScheduledTime online fits =>
      exact inOrder_calm client _ (calm_same client _ rfl rfl id) ordered
  | requeueing queue fits empty =>
      exact inOrder_calm client _ (calm_same client _ rfl rfl id) ordered
  | ping _ packet after input running type done =>
      have stopped := inOrder_calm client client.stopTimer (calm_same client _ rfl rfl id) ordered
      exact inOrder_calm client.stopTimer next
        (sendPacket_calm config.toPlatform _ next packet after input true done) stopped
  | expiry middle _ reason events running framed log silent closing =>
      -- The transmission that failed may have left a trace in the log.
      rcases middle.closeConnection_cases next reason closing with ⟨offline, rfl⟩ | ⟨-, -, rfl⟩
      · have before : client.isConnected = false := by
          have before : client.status = .disconnected := framed.offline.mp offline
          simp [Client.isConnected, before]
        refine inOrder_calm client next ⟨?_, ⟨events, silent, log⟩, ?_⟩ ordered
        · rw [before]
          simp [Client.isConnected, offline]
        · exact fun empty => framed.packetIdentifierStore.trans empty
      · refine ⟨?_, fun _ => rfl⟩
        unfold Greeted
        rw [show (middle.closed reason).log = client.log ++ events ++ [.onDisconnect reason] by
          rw [← log]; rfl]
        rw [greeting_append, greeting_append, hear_silent _ events silent, ordered.greeted]
        rfl

theorem connectMove_inOrder (client next : Client) (move : ConnectMove client next)
    (ordered : InOrder client) : InOrder next := by
  cases move with
  | opening usKeepAliveSeconds offline =>
      have before : client.isConnected = false := by simp [Client.isConnected, offline]
      constructor
      · exact (show Greeted client from ordered.greeted).trans (by rw [before]; rfl)
      · exact fun _ => ordered.unstored before
  | refusal reason offline =>
      have before : client.isConnected = false := by simp [Client.isConnected, offline]
      exact inOrder_disconnected client _ reason offline rfl (ordered.unstored before) ordered

def answerTo (uchQoS : UInt8) : PacketType := if uchQoS = 1 then .pubAck else .pubRec

/-- The PUBLISH is delivered: it is well formed, and its acknowledgement can be sent. -/
def Delivered (config : Config) (first : Packet) (input : SendInput) : Prop :=
  ∃ usPacketIdentifier message,
    publishRead config.topicLimit first.flags first.body =
      some (.arrived usPacketIdentifier message) ∧
    (first.qos = 0 ∨ Client.Takes (answerTo first.qos) usPacketIdentifier input)

/-- A PINGRESP, or a PUBLISH that is delivered, in front of the CONNACK. -/
def Early (config : Config) (client : Client) (first : Packet) (input : SendInput) : Prop :=
  client.status = .connectPending ∧
    (first.type = .pingResp ∨ first.type = .publish ∧ Delivered config first input)

theorem release_inOrder (client next : Client) (usPacketIdentifier : UInt16) (uchQoS : UInt8)
    (done : client.release usPacketIdentifier uchQoS = .ok next) (ordered : InOrder client) :
    InOrder next := by
  have removed : InOrder (client.removePacketFromQueue usPacketIdentifier).2 :=
    inOrder_calm client _ (calm_same client _ rfl rfl id) ordered
  rcases client.release_cases next usPacketIdentifier uchQoS done with
    ⟨-, closing⟩ | ⟨entry, -, -, rfl⟩
  · exact inOrder_closed _ next _ closing removed
  · exact removed

theorem answer_calm (platform : Platform) (client next : Client) (type : PacketType)
    (usPacketIdentifier : UInt16) (input : SendInput) (sent : Bool)
    (done : client.answer platform type usPacketIdentifier input = .ok (sent, next)) :
    Calm client next := by
  simp only [Client.answer, bind_ok, pure_ok, Except.ok.injEq, Prod.mk.injEq] at done
  rcases done with ⟨packet, -, ⟨_, after, _⟩, sending, rfl, rfl⟩
  exact sendPacket_calm platform client _ packet after input _ sending

theorem sendAndQueue_inOrder (config : Config) (client next : Client) (packet : SendPacket)
    (uchQoS : UInt8) (usPacketIdentifier : UInt16) (input : SendInput)
    (fits : uchQoS ≥ 1 → Queueable packet.type uchQoS)
    (done : client.sendAndQueue config.toPlatform packet uchQoS usPacketIdentifier input =
      .ok next) (ordered : InOrder client) : InOrder next :=
  localMoves_invariant config InOrder (localMove_inOrder config) client next
    (client.sendAndQueue_moves config next packet uchQoS usPacketIdentifier input fits done) ordered

theorem message_inOrder (client : Client) (message : Message)
    (connected : client.isConnected = true) (ordered : InOrder client) :
    InOrder (client.record (.onMessage message)) := by
  constructor
  · have before : greeting client.log = some true := ordered.greeted.trans (by rw [connected])
    unfold Greeted
    rw [show (client.record (.onMessage message)).log = client.log ++ [.onMessage message] from rfl,
      greeting_append, before]
    exact (congrArg some connected).symm
  · exact ordered.unstored

/-- A client that is connected, or a PUBLISH that is not delivered. -/
theorem respondMessage_inOrder (platform : Platform) (client next : Client) (uchQoS : UInt8)
    (usPacketIdentifier : UInt16) (message : Message) (input : SendInput)
    (linked : client.Linked) (online : client.status ≠ .disconnected)
    (timely : client.isConnected = true ∨
      (uchQoS ≠ 0 ∧ ¬ Client.Takes (answerTo uchQoS) usPacketIdentifier input))
    (done : client.respondMessage platform uchQoS usPacketIdentifier message input = .ok next)
    (ordered : InOrder client) : InOrder next := by
  rcases client.respondMessage_cases platform next uchQoS usPacketIdentifier message input done with
    ⟨zero, rfl⟩ | ⟨-, sent, middle, answering, outcome⟩
  · rcases timely with connected | ⟨some, -⟩
    · exact message_inOrder client message connected ordered
    · exact absurd zero some
  · have calm := answer_calm platform client middle _ usPacketIdentifier input sent answering
    have kept := inOrder_calm client middle calm ordered
    have stays : sent = true → middle.isConnected = true := by
      intro accepted
      rcases timely with connected | ⟨-, refused⟩
      · exact calm.connected.trans connected
      · have restarts : Client.restartsTimer (answerTo uchQoS) = true := by
          unfold answerTo
          split <;> rfl
        rcases client.answer_outcome platform (answerTo uchQoS) usPacketIdentifier input linked
          online restarts with ⟨other, result, -⟩
        rw [answerTo, answering, accepted] at result
        simp only [Except.ok.injEq, Prod.mk.injEq] at result
        exact absurd (of_decide_eq_true result.1.symm) refused
    rcases outcome with ⟨-, closing⟩ | ⟨accepted, -, rfl⟩ | ⟨-, -, -, rfl⟩ | ⟨accepted, -, -, rfl⟩
    · exact inOrder_closed middle next _ closing kept
    · exact message_inOrder middle message (stays accepted) kept
    · exact kept
    · have connected := stays accepted
      refine message_inOrder _ message connected ⟨kept.greeted, ?_⟩
      intro offline
      rw [show (middle.insertPacketIdentifierIntoStore usPacketIdentifier).isConnected =
        middle.isConnected from rfl, connected] at offline
      cases offline

theorem respondPubRec_inOrder (config : Config) (client next : Client)
    (usPacketIdentifier : UInt16) (input : SendInput)
    (done : client.respondPubRec config.toPlatform usPacketIdentifier input = .ok next)
    (ordered : InOrder client) : InOrder next := by
  have removed : InOrder (client.removePacketFromQueue usPacketIdentifier).2 :=
    inOrder_calm client _ (calm_same client _ rfl rfl id) ordered
  rcases client.respondPubRec_cases config.toPlatform next usPacketIdentifier input done with
    ⟨-, closing⟩ | ⟨entry, packet, -, -, built, sent⟩
  · exact inOrder_closed _ next _ closing removed
  · exact sendAndQueue_inOrder config _ next packet 2 _ input
      (fun _ => Client.pubRel_queueable input.memory packet usPacketIdentifier built) sent removed

theorem respondPubRel_inOrder (platform : Platform) (client next : Client)
    (usPacketIdentifier : UInt16) (input : SendInput)
    (done : client.respondPubRel platform usPacketIdentifier input = .ok next)
    (ordered : InOrder client) : InOrder next := by
  rcases client.respondPubRel_cases platform next usPacketIdentifier input done with
    ⟨-, closing⟩ | ⟨-, sent, middle, answering, outcome⟩
  · exact inOrder_closed client next _ closing ordered
  · have kept := inOrder_calm client middle
      (answer_calm platform client middle _ _ input sent answering) ordered
    rcases outcome with ⟨-, closing⟩ | ⟨-, rfl⟩
    · exact inOrder_closed middle next _ closing kept
    · refine inOrder_calm middle _ (calm_same middle _ rfl rfl ?_) kept
      intro empty
      change middle.packetIdentifierStore.erase usPacketIdentifier = []
      rw [empty]
      rfl

theorem established_inOrder (client : Client) (sessionPresent : Bool)
    (pending : client.status = .connectPending) (ordered : InOrder client) :
    InOrder (client.established sessionPresent) := by
  have before : client.isConnected = false := by simp [Client.isConnected, pending]
  constructor
  · have silent : greeting client.log = some false := ordered.greeted.trans (by rw [before])
    unfold Greeted
    rw [show (client.established sessionPresent).log = client.log ++ [.onConnect sessionPresent]
      from rfl, greeting_append, silent]
    rfl
  · intro offline
    cases offline

theorem respond_inOrder (config : Config) (client next : Client) (first : Packet)
    (input : SendInput) (linked : client.Linked) (online : client.status ≠ .disconnected)
    (timely : ¬ Early config client first input)
    (done : client.respond config first input = .ok next) (ordered : InOrder client) :
    InOrder next := by
  have pending : client.isConnected = true ∨ client.status = .connectPending := by
    cases status : client.status <;> simp_all [Client.isConnected]
  unfold Client.respond at done
  split at done
  · rcases client.respondConnAck_cases next _ _ done with
      ⟨-, closing⟩ | ⟨waiting, ⟨-, rfl⟩ | ⟨-, closing⟩⟩
    · exact inOrder_closed client next _ closing ordered
    · exact established_inOrder client _ waiting ordered
    · exact inOrder_closed client next _ closing ordered
  · rename_i type
    rcases client.respondPublish_cases config next first input done with
      ⟨reason, -, closing⟩ | ⟨usPacketIdentifier, message, read, told⟩
    · exact inOrder_closed client next reason closing ordered
    · refine respondMessage_inOrder config.toPlatform client next first.qos usPacketIdentifier
        message input linked online ?_ told ordered
      refine pending.imp_right fun waiting => ?_
      constructor
      · exact fun zero => timely ⟨waiting, Or.inr ⟨type, _, _, read, Or.inl zero⟩⟩
      · exact fun takes => timely ⟨waiting, Or.inr ⟨type, _, _, read, Or.inr takes⟩⟩
  · exact release_inOrder client next _ 1 done ordered
  · exact respondPubRec_inOrder config client next _ input done ordered
  · exact respondPubRel_inOrder config.toPlatform client next _ input done ordered
  · exact release_inOrder client next _ 2 done ordered
  · rcases client.respondSubAck_cases next _ _ done with ⟨-, closing⟩ | ⟨-, released⟩
    · exact inOrder_closed client next _ closing ordered
    · exact release_inOrder client next _ 1 released ordered
  · exact release_inOrder client next _ 1 done ordered
  · rename_i type
    cases done
    have connected : client.isConnected = true :=
      pending.resolve_right fun waiting => timely ⟨waiting, Or.inl type⟩
    have same : (client.respondPingResp config.toPlatform input.timerTicks).isConnected = true := by
      unfold Client.respondPingResp
      split <;> rfl
    have log : (client.respondPingResp config.toPlatform input.timerTicks).log = client.log := by
      unfold Client.respondPingResp
      split <;> rfl
    refine ⟨?_, fun offline => absurd (same.symm.trans offline) (by decide)⟩
    unfold Greeted
    rw [log, same, ← connected]
    exact ordered.greeted
  · cases done

def Unheralded (events : List Event) : Prop :=
  ∀ event ∈ events, ∀ sessionPresent, event ≠ .onConnect sessionPresent

def Continues (client next : Client) : Prop :=
  ∃ events, Unheralded events ∧ next.log = client.log ++ events

theorem silent_unheralded (events : List Event) (silent : Silent events) :
    Unheralded events := by
  intro event member sessionPresent same
  rcases silent event member with ⟨bytes, accepted, rfl⟩
  cases same

theorem continues_same (client next : Client) (log : next.log = client.log) :
    Continues client next :=
  ⟨[], by simp [Unheralded], by simp [log]⟩

theorem continues_trans {client middle next : Client} (left : Continues client middle)
    (right : Continues middle next) : Continues client next := by
  rcases left with ⟨former, before, first⟩
  rcases right with ⟨latter, after, second⟩
  refine ⟨former ++ latter, ?_, by rw [second, first, List.append_assoc]⟩
  intro event member
  exact (List.mem_append.mp member).elim (before event) (after event)

theorem continues_one (client next : Client) (event : Event)
    (other : ∀ sessionPresent, event ≠ .onConnect sessionPresent)
    (log : next.log = client.log ++ [event]) : Continues client next := by
  refine ⟨[event], ?_, log⟩
  intro candidate member
  rw [List.mem_singleton.mp member]
  exact other

theorem continues_closed (client next : Client) (reason : DisconnectReason)
    (done : client.closeConnection reason = .ok next) : Continues client next := by
  rcases client.closeConnection_cases next reason done with ⟨-, rfl⟩ | ⟨-, -, rfl⟩
  · exact continues_same next next rfl
  · exact continues_one client _ (.onDisconnect reason) (fun _ same => (by cases same)) rfl

theorem continues_calm (client next : Client) (calm : Calm client next) :
    Continues client next := by
  rcases calm.log with ⟨events, silent, log⟩
  exact ⟨events, silent_unheralded events silent, log⟩

theorem move_continues (config : Config) (client next : Client) (move : Move config client next) :
    Continues client next := by
  rcases move with own | brought
  · cases own with
    | transmission _ packet after input sent done =>
        exact continues_calm client next
          (sendPacket_calm config.toPlatform client next packet after input sent done)
    | closing _ reason done => exact continues_closed client next reason done
    | numbering | queueing _ _ _ _ | requeueing _ _ _ =>
        exact continues_same client _ rfl
    | ping _ packet after input running type done =>
        exact continues_calm client.stopTimer next
          (sendPacket_calm config.toPlatform _ next packet after input true done)
    | expiry middle _ reason events running framed log silent closing =>
        have first : Continues client middle := ⟨events, silent_unheralded events silent, log⟩
        exact continues_trans first (continues_closed middle next reason closing)
  · cases brought with
    | pong ticks online =>
        refine continues_same client _ ?_
        unfold Client.respondPingResp
        split <;> rfl
    | message message online =>
        exact continues_one client _ (.onMessage message) (fun _ same => (by cases same)) rfl
    | dequeuing _ | storing _ _ _ | releasing _ | reading _ => exact continues_same client _ rfl

theorem moves_continue (config : Config) (client next : Client)
    (moves : Moves config client next) : Continues client next :=
  moves_invariant config (Continues client)
    (fun middle next move before => continues_trans before (move_continues config middle next move))
    client next moves (continues_same client client rfl)

theorem begins_continues (config : Config) (client next : Client)
    (begins : Begins config client next) : Continues client next := by
  rcases begins with ⟨middle, first, moves⟩
  refine continues_trans ?_ (moves_continue config middle next moves.moves)
  cases first with
  | opening usKeepAliveSeconds offline => exact continues_same client _ rfl
  | refusal reason offline =>
      exact continues_one client _ (.onDisconnect reason) (fun _ same => (by cases same)) rfl

/-- Only `OnConnect` begins the part of a connection that messages belong to. -/
theorem hear_unheralded (events : List Event) (without : Unheralded events) (greeted : Option Bool)
    (before : greeted ≠ some true) : events.foldl hear greeted ≠ some true := by
  induction events generalizing greeted with
  | nil => exact before
  | cons event rest ih =>
      apply ih fun other member => without other (by simp [member])
      rcases greeted with _ | _ | _
      · exact before
      · cases event with
        | onConnect sessionPresent => exact absurd rfl (without _ (by simp) sessionPresent)
        | sent _ _ | onMessage _ | onDisconnect _ => simp [hear]
      · exact absurd rfl before

/-- From one client in order to the next, `IsConnected` comes with the CONNACK. -/
theorem connected_by_connAck (config : Config) (client next : Client)
    (operation : Operation config.toPlatform) (kept : Kept config client)
    (greeted : Greeted client) (again : Greeted next)
    (done : perform config client operation = .ok (some next))
    (before : client.isConnected = false) (after : next.isConnected = true) :
    Accepts config client next operation := by
  have impossible : ¬ Continues client next := by
    rintro ⟨events, without, log⟩
    unfold Greeted at greeted again
    rw [log, greeting_append, greeted, before, after] at again
    exact hear_unheralded events without _ (by decide) again
  by_cases called : operation.isConnect = true
  · exact absurd (begins_continues config client next
      (connect_begins config client next operation called done)) impossible
  · rcases perform_moves config client next operation kept.sound kept.queued
      (by simpa using called) done with moves | accepts
    · exact absurd (moves_continue config client next moves) impossible
    · exact accepts

def TooEarly (config : Config) : Machine → Operation config.toPlatform → Prop
  | .running client, .receiver input =>
      ∃ first rest, client.front config input = some (first, rest) ∧ first.Accepted ∧
        Early config client first input.send
  | _, _ => False

def CallbacksInTurn : Machine → Prop
  | .running client => Greeted client
  | .failed _ _ => True

/-- When the operation makes `IsConnected` true, it processes a CONNACK with return
code 0 while one is waited for, and calls `OnConnect`. -/
def ConnectsByConnAck (config : Config) : Machine → Operation config.toPlatform → Prop
  | .running client, operation =>
      ∀ next, perform config client operation = .ok (some next) →
        client.isConnected = false → next.isConnected = true →
        Accepts config client next operation ∧
          ∃ sessionPresent, next.log = client.log ++ [.onConnect sessionPresent]
  | .failed _ _, _ => True

def Holding (config : Config) : Machine → Prop
  | .running client => Kept config client ∧ InOrder client
  | .failed _ _ => True

theorem receiver_inOrder (config : Config) (client next : Client)
    (input : ReceiveInput config.toPlatform) (more : Bool) (kept : Kept config client)
    (timely : ¬ TooEarly config (.running client) (.receiver input))
    (done : client.receiverPass config input = .ok (more, next)) (ordered : InOrder client) :
    InOrder next := by
  have read : ∀ other packet, InOrder other → InOrder (other.withPacket packet) :=
    fun other packet kept => inOrder_calm other _ (calm_same other _ rfl rfl id) kept
  rcases client.receiverPass_cases config next input more kept.sound done with
    ⟨-, packet, rfl | ⟨reason, closed, -, closing, rfl⟩⟩ |
    ⟨first, rest, packet, result, there, accepted, open_, responded, rfl⟩
  · exact read client packet ordered
  · exact read closed packet (inOrder_closed client closed reason closing ordered)
  · refine read result packet ?_
    exact respond_inOrder config client result first input.send kept.sound.linked
      (kept.sound.linked.mp open_) (fun early => timely ⟨first, rest, there, accepted, early⟩)
      responded ordered

theorem step_holding (config : Config) (state next : Machine)
    (operation : Operation config.toPlatform) (holding : Holding config state)
    (timely : ¬ TooEarly config state operation)
    (taken : step config state operation = some next) : Holding config next := by
  rcases step_cases config state next operation taken with
    ⟨client, rfl, ⟨after, done, rfl⟩ | ⟨fault, -, rfl⟩⟩
  · rcases holding with ⟨kept, ordered⟩
    refine ⟨perform_kept config client after operation kept done, ?_⟩
    by_cases called : operation.isConnect = true
    · rcases connect_begins config client after operation called done with ⟨middle, first, moves⟩
      exact localMoves_invariant config InOrder (localMove_inOrder config) middle after moves
        (connectMove_inOrder client middle first ordered)
    by_cases own : operation.isReceiver = false
    · exact localMoves_invariant config InOrder (localMove_inOrder config) client after
        (perform_local config client after operation kept.queued (by simpa using called) own done)
        ordered
    · cases perform_performs config client after operation done with
      | receiver input more _ done =>
          exact receiver_inOrder config client after input more kept timely done ordered
      | _ => exact absurd rfl own
  · exact trivial

/-- An `OnMessage` without `OnConnect` in front of it. -/
theorem message_untimely (client next : Client) (message : Message) (events : List Event)
    (silent : Silent events) (before : client.isConnected = false) (greeted : Greeted client)
    (log : next.log = client.log ++ events ++ [.onMessage message]) : ¬ Greeted next := by
  intro again
  unfold Greeted at greeted again
  rw [log, greeting_append, greeting_append, hear_silent _ events silent, greeted, before] at again
  cases again

/-- The PUBLISH is passed on although the client is not connected. -/
theorem delivered_untimely (config : Config) (client : Client) (first : Packet)
    (input : SendInput) (linked : client.Linked) (pending : client.status = .connectPending)
    (type : first.type = .publish) (delivered : Delivered config first input)
    (ordered : InOrder client) :
    ∃ next, client.respond config first input = .ok next ∧ ¬ Greeted next := by
  have before : client.isConnected = false := by simp [Client.isConnected, pending]
  have online : client.status ≠ .disconnected := by simp [pending]
  rcases delivered with ⟨usPacketIdentifier, message, read, possible⟩
  have responds : client.respond config first input =
      client.respondMessage config.toPlatform first.qos usPacketIdentifier message input := by
    simp only [Client.respond, type, Client.respondPublish, read]
  rw [responds]
  unfold Client.respondMessage
  by_cases zero : first.qos = 0
  · rw [if_pos zero]
    exact ⟨_, rfl, message_untimely client _ message [] (by simp [Silent]) before ordered.greeted
      (by simp [Client.record])⟩
  · have takes := possible.resolve_left zero
    rw [if_neg zero]
    by_cases one : first.qos = 1
    · rw [if_pos one]
      rw [answerTo, if_pos one] at takes
      rcases client.answer_outcome config.toPlatform .pubAck usPacketIdentifier input linked online
        rfl with ⟨middle, answered, -, -, log, -⟩
      rw [answered, decide_eq_true takes, ok_bind]
      refine ⟨_, rfl, message_untimely client _ message _ ?_ before ordered.greeted
        (by rw [← log takes]; rfl)⟩
      simp [Silent]
    · rw [if_neg one]
      rw [answerTo, if_neg one] at takes
      rcases client.answer_outcome config.toPlatform .pubRec usPacketIdentifier input linked online
        rfl with ⟨middle, answered, framed, -, log, -⟩
      have absent : middle.isPacketIdentifierInStore usPacketIdentifier = false := by
        rw [Client.isPacketIdentifierInStore, framed.packetIdentifierStore,
          ordered.unstored before]
        rfl
      rw [answered, decide_eq_true takes, ok_bind]
      dsimp only
      rw [if_pos rfl, if_neg (by simp [absent])]
      refine ⟨_, rfl, message_untimely client _ message _ ?_ before ordered.greeted
        (by rw [← log takes]; rfl)⟩
      simp [Silent]

theorem early_untimely (config : Config) (client : Client) (first : Packet) (input : SendInput)
    (linked : client.Linked) (early : Early config client first input)
    (ordered : InOrder client) :
    ∃ next, client.respond config first input = .ok next ∧ ¬ Greeted next := by
  rcases early with ⟨pending, type | ⟨type, delivered⟩⟩
  · refine ⟨client.respondPingResp config.toPlatform input.timerTicks, ?_, ?_⟩
    · simp only [Client.respond, type]
    · intro again
      have before : greeting client.log = some false := by
        rw [ordered.greeted]
        simp [Client.isConnected, pending]
      unfold Greeted Client.respondPingResp at again
      split at again <;> cases before.symm.trans again
  · exact delivered_untimely config client first input linked pending type delivered ordered

theorem step_untimely (config : Config) (state next : Machine)
    (operation : Operation config.toPlatform) (holding : Holding config state)
    (early : ¬ ¬ TooEarly config state operation)
    (taken : step config state operation = some next) : ¬ CallbacksInTurn next := by
  rcases step_cases config state next operation taken with ⟨client, rfl, outcome⟩
  cases operation with
  | receiver input =>
      rcases not_not.mp early with ⟨first, rest, there, accepted, early⟩
      rcases holding with ⟨kept, ordered⟩
      rcases Option.bind_eq_some_iff.mp there with ⟨stream, arrived, whole⟩
      rcases client.round_accepted config input stream rest first kept.sound arrived whole
        accepted with ⟨packet, pass, -⟩
      rcases early_untimely config client first input.send kept.sound.linked early ordered with
        ⟨result, responded, untimely⟩
      rw [responded] at pass
      simp only [perform, pass] at outcome
      rcases outcome with ⟨after, done, rfl⟩ | ⟨fault, failed, -⟩
      · cases done
        exact untimely
      · cases failed
  | _ => exact absurd id early

theorem constructed_inOrder (config : Config) (client : Client)
    (constructed : Constructed config client) : InOrder client := by
  constructor
  · unfold Greeted
    rw [constructed.log]
    simp [greeting, Client.isConnected, constructed.status]
  · exact fun _ => constructed.packetIdentifierStore

theorem holding_connects (config : Config) (state : Machine)
    (operation : Operation config.toPlatform) (holding : Holding config state)
    (timely : ¬ TooEarly config state operation) : ConnectsByConnAck config state operation := by
  cases state with
  | failed inReceiver fault => trivial
  | running client =>
      intro next done before after
      have taken : step config (.running client) operation = some (.running next) := by
        simp only [step, done]
      have kept := step_holding config (.running client) (.running next) operation holding timely
        taken
      have accepts := connected_by_connAck config client next operation holding.1
        holding.2.greeted kept.2.greeted done before after
      refine ⟨accepts, ?_⟩
      rcases accepts with ⟨_, _, _, -, -, -, -, -, -, sessionPresent, packet, rfl⟩
      exact ⟨sessionPresent, rfl⟩

/-- In every run: all callbacks come in turn and every connection is established by its
CONNACK exactly when no PINGRESP and no PUBLISH that is delivered comes in front of it. -/
theorem callbacks_in_turn_iff_nothing_early (config : Config) (client : Client)
    (operations : List (Operation config.toPlatform)) (final : Machine)
    (constructed : Constructed config client)
    (reached : run (step config) (.running client) operations = some final) :
    (Throughout (step config) CallbacksInTurn (.running client) operations ∧
      Along (step config) (ConnectsByConnAck config) (.running client) operations) ↔
    Along (step config) (fun state operation => ¬ TooEarly config state operation)
      (.running client) operations := by
  have initial : Holding config (.running client) :=
    ⟨constructed_kept config client constructed, constructed_inOrder config client constructed⟩
  have preserved := fun state operation next holding timely =>
    step_holding config state next operation holding timely
  have always := throughout_iff_along (fun state operation => ¬ TooEarly config state operation)
    (Holding config) CallbacksInTurn
    (by
      intro state holding
      cases state with
      | running client => exact holding.2.greeted
      | failed inReceiver fault => trivial)
    preserved
    (fun state operation next holding early =>
      step_untimely config state next operation holding early)
    (.running client) final operations initial reached
  constructor
  · exact fun both => always.mp both.1
  · intro steps
    exact ⟨always.mpr steps, along_weaken _ _ (Holding config) preserved
      (holding_connects config) (.running client) operations initial steps⟩

def pingRespFirst : List (Operation Config.default.toPlatform) :=
  [.connect plainRequest smoothConnect, .receiver (delivers [0xD0, 0] pingResp_short)]

def publishFirst : List (Operation Config.default.toPlatform) :=
  [.connect plainRequest smoothConnect, .receiver (delivers [0x30, 3, 0, 1, 0x61] (by decide))]

theorem callbacks_out_of_turn :
    (∃ last bytes,
      run (step Config.default) (.running (Client.fresh Config.default)) pingRespFirst =
        some (.running last) ∧ last.isConnected = true ∧ last.log = [.sent bytes true]) ∧
    ∃ last bytes, run (step Config.default) (.running (Client.fresh Config.default)) publishFirst =
        some (.running last) ∧
      last.log = [.sent bytes true, .onMessage ⟨[0x61], some [], 0, false⟩] :=
  ⟨⟨_, _, rfl, rfl, rfl⟩, ⟨_, _, rfl, rfl⟩⟩

def connAckFirst : List (Operation Config.default.toPlatform) :=
  [.connect plainRequest smoothConnect, .receiver (delivers [0x20, 2, 0, 0] connAck_short),
    .receiver (delivers [0xD0, 0] pingResp_short)]

theorem connAckFirst_in_turn :
    Throughout (step Config.default) CallbacksInTurn (.running (Client.fresh Config.default))
        connAckFirst ∧
      Along (step Config.default) (ConnectsByConnAck Config.default)
        (.running (Client.fresh Config.default)) connAckFirst := by
  refine (callbacks_in_turn_iff_nothing_early Config.default (Client.fresh Config.default)
    connAckFirst _ (fresh_constructed Config.default) rfl).mpr ?_
  refine ⟨id, ?_⟩
  intro connecting taken
  cases taken
  refine ⟨?_, ?_⟩
  · rintro ⟨first, rest, there, -, -, early⟩
    cases there
    rcases early with type | ⟨type, -⟩ <;> cases type
  · intro connected taken
    cases taken
    refine ⟨?_, fun _ _ => trivial⟩
    rintro ⟨_, _, -, -, pending, -⟩
    cases pending

end ConnectionEvents

end CircleStdlib.Mqtt
