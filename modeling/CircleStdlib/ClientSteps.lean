import CircleStdlib.MqttTask
import CircleStdlib.PacketReading
import CircleStdlib.PacketWriting

/-!
What the building blocks of `CMQTTClient` do to the client. `Framed` is the
frame of a transmission: the connection, the buffers, the queue and the store
stay, only the timer, the log and, for a PINGREQ, the kind of connected status
change. Short packets, as the handlers send them, are always built and sent
without a failed assertion.
-/

namespace CircleStdlib.Mqtt

open Checked

namespace SendPacket

/-- A packet that holds one word, as the acknowledgements do. -/
theorem wordPacket_built (type : PacketType) (usValue : UInt16) (memory : Option (Nat → UInt8)) :
    ∃ packet, (create type 128 memory).appendWord usValue = .ok packet ∧ packet.type = type ∧
      (memory = none ∧ packet.error = true ∨
        packet.Written (wordBytes usValue) ∧ packet.Ready ∧ packet.flags = initialFlags type ∧
          memory.isSome) := by
  rcases memory with _ | memory
  · exact ⟨create type 128 none, rfl, rfl, Or.inl ⟨rfl, rfl⟩⟩
  · have empty := create_written type 128 memory
    have place : (create type 128 (some memory)).bufPtr = 5 := rfl
    have room : (create type 128 (some memory)).maxPacketSize = 128 := rfl
    have two : (Field.word usValue).bytes.length = 2 := rfl
    rcases store_fits _ (.word usValue) [] empty (by omega) (by omega) with ⟨packet, stored⟩
    have built : (create type 128 (some memory)).appendWord usValue = .ok packet := by
      rw [appendWord_eq, storeUnless, if_neg (by simp [empty.clean]), if_neg (by omega)]
      exact stored
    rcases store_extends _ packet (.word usValue) [] empty (by omega) stored with ⟨written, same⟩
    have last := written.bufPtr
    refine ⟨packet, built, same.type, Or.inr
      ⟨written, ⟨written.clean, written.allocated, ?_, ?_, ?_⟩, same.flags, rfl⟩⟩
    · rw [same.sendTries]
      simp [create, mqttSendTries]
    · omega
    · rw [List.nil_append, two] at last
      omega

/-- `Send` of a packet that is in error or ready passes every assertion. -/
theorem send_total (packet : SendPacket) (socket : List UInt8 → Int)
    (fine : packet.error = true ∨ packet.Ready) :
    ∃ sending, packet.send socket = .ok sending ∧ sending.packet.type = packet.type := by
  rcases fine with failed | ready
  · exact ⟨⟨false, packet, none⟩, by simp [send, failed], rfl⟩
  · rcases send_ready packet socket ready with ⟨next, sent, type, -⟩
    exact ⟨_, sent, type⟩

end SendPacket

inductive Performs (config : Config) (client : Client) :
    Operation config.toPlatform → Client → Prop where
  | connect (request : ConnectRequest) (input : ConnectInput) (next : Client)
      (done : client.connect config request input = .ok next) :
      Performs config client (.connect request input) next
  | disconnect (bForce : Bool) (input : SendInput) (next : Client)
      (done : client.disconnect config bForce input = .ok next) :
      Performs config client (.disconnect bForce input) next
  | subscribe (pTopic : List UInt8) (uchQoS : UInt8) (input : SendInput) (next : Client)
      (done : client.subscribe config pTopic uchQoS input = .ok next) :
      Performs config client (.subscribe pTopic uchQoS input) next
  | unsubscribe (pTopic : List UInt8) (input : SendInput) (next : Client)
      (done : client.unsubscribe config pTopic input = .ok next) :
      Performs config client (.unsubscribe pTopic input) next
  | publish (pTopic payload : List UInt8) (uchQoS : UInt8) (bRetain : Bool) (input : SendInput)
      (next : Client) (done : client.publish config pTopic payload uchQoS bRetain input = .ok next) :
      Performs config client (.publish pTopic payload uchQoS bRetain input) next
  | receiver (input : ReceiveInput config.toPlatform) (more : Bool) (next : Client)
      (done : client.receiverPass config input = .ok (more, next)) :
      Performs config client (.receiver input) next
  | sender (nTicks : UInt32) (inputs : List SendInput) (next : Client)
      (done : client.sender config.toPlatform nTicks inputs = .ok (some next)) :
      Performs config client (.sender nTicks inputs) next
  | keepAliveHandler (ticks : UInt32) (input : SendInput) (next : Client)
      (done : client.keepAliveHandler config.toPlatform ticks input = .ok next) :
      Performs config client (.keepAliveHandler ticks input) next

theorem perform_performs (config : Config) (client next : Client)
    (operation : Operation config.toPlatform)
    (done : perform config client operation = .ok (some next)) :
    Performs config client operation next := by
  cases operation with
  | sender nTicks inputs => exact .sender nTicks inputs next done
  | receiver input =>
      simp only [perform, bind_ok, pure_ok, Except.ok.injEq, Option.some.injEq] at done
      rcases done with ⟨⟨more, _⟩, done, rfl⟩
      exact .receiver input more _ done
  | _ =>
      simp only [perform, bind_ok, pure_ok, Except.ok.injEq, Option.some.injEq] at done
      rcases done with ⟨_, done, rfl⟩
      constructor
      exact done

def bears (usPacketIdentifier : UInt16) (packet : SendPacket) : Bool :=
  packet.packetIdentifier = usPacketIdentifier

theorem removeByIdentifier_eq (usPacketIdentifier : UInt16) (queue : List SendPacket) :
    removeByIdentifier usPacketIdentifier queue =
      (queue.find? (bears usPacketIdentifier), queue.eraseP (bears usPacketIdentifier)) := by
  induction queue with
  | nil => rfl
  | cons packet rest ih =>
      rw [removeByIdentifier]
      by_cases same : packet.packetIdentifier = usPacketIdentifier
      · have hit : bears usPacketIdentifier packet = true := by simpa [bears] using same
        rw [if_pos same, List.find?_cons_of_pos hit, List.eraseP_cons_of_pos hit]
      · have miss : ¬ bears usPacketIdentifier packet = true := by simpa [bears] using same
        rw [if_neg same, List.find?_cons_of_neg miss, List.eraseP_cons_of_neg miss, ih]

theorem Client.removePacketFromQueue_eq (client : Client) (usPacketIdentifier : UInt16) :
    client.removePacketFromQueue usPacketIdentifier =
      (client.retransmissionQueue.find? (bears usPacketIdentifier),
        client.withQueue (client.retransmissionQueue.eraseP (bears usPacketIdentifier))) := by
  rw [removePacketFromQueue, removeByIdentifier_eq]
  rfl

def Sending.events (sending : Sending) : List Event :=
  match sending.handed with
  | none => []
  | some bytes => [.sent bytes sending.result]

structure Framed (client next : Client) : Prop where
  socket : next.socket = client.socket
  offline : next.status = .disconnected ↔ client.status = .disconnected
  receivePacket : next.receivePacket = client.receivePacket
  retransmissionQueue : next.retransmissionQueue = client.retransmissionQueue
  packetIdentifierStore : next.packetIdentifierStore = client.packetIdentifierStore
  nextPacketIdentifier : next.nextPacketIdentifier = client.nextPacketIdentifier

namespace Client

theorem framed_refl (client : Client) : Framed client client :=
  ⟨rfl, Iff.rfl, rfl, rfl, rfl, rfl⟩

theorem recordHanded_eq (client : Client) (sending : Sending) :
    client.recordHanded sending = { client with log := client.log ++ sending.events } := by
  cases handed : sending.handed with
  | none => simp [recordHanded, Sending.events, handed]
  | some bytes => simp [recordHanded, Sending.events, handed, record]

theorem keepAlive_quiet (platform : Platform) (client next : Client) (type : PacketType)
    (ticks : UInt32) (other : type ≠ .pingReq)
    (done : client.keepAlive platform type ticks = .ok next) :
    ∃ running elapses,
      next = { client with timerRunning := running, timerElapsesAt := elapses } := by
  cases type
  case pingReq => exact absurd rfl other
  case disconnect =>
      cases done
      exact ⟨_, _, rfl⟩
  case reserved | connAck | subAck | unsubAck | pingResp | unknown => cases done
  all_goals
    simp only [keepAlive] at done
    split at done <;> cases done <;> exact ⟨_, _, rfl⟩

theorem keepAlive_ping (platform : Platform) (client next : Client) (ticks : UInt32)
    (done : client.keepAlive platform .pingReq ticks = .ok next) :
    client.status = .connected ∧
      ∃ elapses, next = { client with
        status := .waitForPingResp, timerRunning := true, timerElapsesAt := elapses } := by
  simp only [keepAlive, bind_ok, require_ok, pure_ok, Except.ok.injEq] at done
  rcases done with ⟨_, -, _, connected, _, -, rfl⟩
  exact ⟨connected, _, rfl⟩

theorem keepAlive_framed (platform : Platform) (client next : Client) (type : PacketType)
    (ticks : UInt32) (done : client.keepAlive platform type ticks = .ok next) :
    Framed client next ∧ next.log = client.log := by
  by_cases ping : type = .pingReq
  · subst ping
    rcases keepAlive_ping platform client next ticks done with ⟨connected, _, rfl⟩
    exact ⟨⟨rfl, by simp [connected], rfl, rfl, rfl, rfl⟩, rfl⟩
  · rcases keepAlive_quiet platform client next type ticks ping done with ⟨_, _, rfl⟩
    exact ⟨⟨rfl, Iff.rfl, rfl, rfl, rfl, rfl⟩, rfl⟩

/-- Everything `SendPacket` can do. -/
theorem sendPacket_cases (platform : Platform) (client next : Client) (packet after : SendPacket)
    (input : SendInput) (sent : Bool)
    (done : client.sendPacket platform packet input = .ok (sent, after, next)) :
    (client.status = .disconnected ∧ sent = false ∧ after = packet ∧ next = client) ∨
    (client.status ≠ .disconnected ∧ client.socket = true ∧ ∃ sending,
      packet.send input.socket = .ok sending ∧ sent = sending.result ∧ after = sending.packet ∧
      Framed client next ∧ next.log = client.log ++ sending.events ∧
      (packet.type ≠ .pingReq → next.status = client.status)) := by
  unfold sendPacket at done
  split at done
  · rename_i offline
    cases done
    exact Or.inl ⟨offline, rfl, rfl, rfl⟩
  · rename_i online
    simp only [bind_ok, require_ok, recordHanded_eq] at done
    rcases done with ⟨_, open_, sending, send, done⟩
    refine Or.inr ⟨online, open_, sending, send, ?_⟩
    split at done
    · rename_i accepted
      simp only [bind_ok, pure_ok, Except.ok.injEq, Prod.mk.injEq] at done
      rcases done with ⟨timed, alive, rfl, rfl, rfl⟩
      rcases keepAlive_framed platform _ timed packet.type _ alive with ⟨framed, log⟩
      refine ⟨accepted.symm, rfl, ⟨framed.socket, framed.offline, framed.receivePacket,
        framed.retransmissionQueue, framed.packetIdentifierStore, framed.nextPacketIdentifier⟩,
        log, ?_⟩
      intro other
      rcases keepAlive_quiet platform _ timed packet.type _ other alive with ⟨_, _, rfl⟩
      rfl
    · rename_i refused
      cases done
      have false_ : sending.result = false := by simpa using refused
      exact ⟨false_.symm, rfl, ⟨rfl, Iff.rfl, rfl, rfl, rfl, rfl⟩, rfl, fun _ => rfl⟩

theorem sendPacket_framed (platform : Platform) (client next : Client) (packet after : SendPacket)
    (input : SendInput) (sent : Bool)
    (done : client.sendPacket platform packet input = .ok (sent, after, next)) :
    Framed client next := by
  rcases sendPacket_cases platform client next packet after input sent done with
    ⟨-, -, -, rfl⟩ | ⟨-, -, _, -, -, -, framed, -⟩
  · exact framed_refl next
  · exact framed

def restartsTimer : PacketType → Bool
  | .connect | .publish | .pubAck | .pubRec | .pubRel | .pubComp | .subscribe | .unsubscribe => true
  | _ => false

theorem keepAlive_total (platform : Platform) (client : Client) (type : PacketType)
    (ticks : UInt32) (restarts : restartsTimer type = true) :
    ∃ next, client.keepAlive platform type ticks = .ok next := by
  cases type
  case reserved | connAck | subAck | unsubAck | pingReq | pingResp | disconnect | unknown =>
      cases restarts
  all_goals
    simp only [keepAlive]
    split <;> exact ⟨_, rfl⟩

theorem sendPacket_total (platform : Platform) (client : Client) (packet : SendPacket)
    (input : SendInput) (linked : client.socket = true ↔ client.status ≠ .disconnected)
    (fine : packet.error = true ∨ packet.Ready) (restarts : restartsTimer packet.type = true) :
    ∃ sent after next, client.sendPacket platform packet input = .ok (sent, after, next) := by
  unfold sendPacket
  split
  · exact ⟨_, _, _, rfl⟩
  · rename_i online
    rcases packet.send_total input.socket fine with ⟨sending, send, -⟩
    rw [require_holds _ _ (linked.mpr online), ok_bind, send, ok_bind]
    dsimp only
    split
    · rcases keepAlive_total platform (client.recordHanded sending) packet.type input.timerTicks
        restarts with ⟨next, alive⟩
      rw [alive]
      exact ⟨_, _, _, rfl⟩
    · exact ⟨_, _, _, rfl⟩

-- A socket is there exactly while the client is not disconnected.
def Linked (client : Client) : Prop := client.socket = true ↔ client.status ≠ .disconnected

theorem linked_framed (client next : Client) (framed : Framed client next)
    (linked : client.Linked) : next.Linked := by
  unfold Linked at *
  rw [framed.socket, ne_eq, framed.offline]
  exact linked

def closed (client : Client) (reason : DisconnectReason) : Client :=
  { client with
    status := .disconnected
    timerRunning := false
    retransmissionQueue := []
    packetIdentifierStore := []
    socket := false
    log := client.log ++ [.onDisconnect reason] }

theorem closeConnection_cases (client next : Client) (reason : DisconnectReason)
    (done : client.closeConnection reason = .ok next) :
    (client.status = .disconnected ∧ next = client) ∨
      (client.status ≠ .disconnected ∧ client.socket = true ∧ next = client.closed reason) := by
  unfold closeConnection at done
  split at done
  · rename_i offline
    cases done
    exact Or.inl ⟨offline, rfl⟩
  · rename_i online
    simp only [bind_ok, require_ok, pure_ok, Except.ok.injEq] at done
    rcases done with ⟨_, open_, rfl⟩
    exact Or.inr ⟨online, open_, rfl⟩

theorem closeConnection_total (client : Client) (reason : DisconnectReason)
    (linked : client.Linked) : ∃ next, client.closeConnection reason = .ok next := by
  unfold closeConnection
  split
  · exact ⟨_, rfl⟩
  · rename_i online
    rw [require_holds _ _ (linked.mpr online), ok_bind]
    exact ⟨_, rfl⟩

theorem closeConnection_offline (client next : Client) (reason : DisconnectReason)
    (done : client.closeConnection reason = .ok next) : next.status = .disconnected := by
  rcases closeConnection_cases client next reason done with ⟨offline, rfl⟩ | ⟨-, -, rfl⟩
  · exact offline
  · rfl

theorem closeConnection_kept (client next : Client) (reason : DisconnectReason)
    (linked : client.Linked) (done : client.closeConnection reason = .ok next) :
    next.Linked ∧ next.receivePacket = client.receivePacket ∧ next.status = .disconnected := by
  rcases closeConnection_cases client next reason done with ⟨offline, rfl⟩ | ⟨-, -, rfl⟩
  · exact ⟨linked, rfl, offline⟩
  · exact ⟨by simp [Linked, closed], rfl, rfl⟩

theorem answer_framed (platform : Platform) (client next : Client) (type : PacketType)
    (usPacketIdentifier : UInt16) (input : SendInput) (sent : Bool)
    (done : client.answer platform type usPacketIdentifier input = .ok (sent, next)) :
    Framed client next := by
  simp only [answer, bind_ok, pure_ok, Except.ok.injEq, Prod.mk.injEq] at done
  rcases done with ⟨packet, -, ⟨_, after, _⟩, sending, rfl, rfl⟩
  exact sendPacket_framed platform client _ packet after input _ sending

theorem answer_total (platform : Platform) (client : Client) (type : PacketType)
    (usPacketIdentifier : UInt16) (input : SendInput) (linked : client.Linked)
    (restarts : restartsTimer type = true) :
    ∃ sent next, client.answer platform type usPacketIdentifier input = .ok (sent, next) ∧
      Framed client next := by
  rcases SendPacket.wordPacket_built type usPacketIdentifier input.memory with
    ⟨packet, built, rfl, fine⟩
  rcases sendPacket_total platform client packet input linked
    (fine.imp And.right fun good => good.2.1) restarts with ⟨sent, after, next, done⟩
  refine ⟨sent, next, ?_, sendPacket_framed platform client next packet after input sent done⟩
  rw [answer, built, ok_bind, done]
  rfl

def acknowledgement (type : PacketType) (usPacketIdentifier : UInt16) : List UInt8 :=
  [type.code <<< 4 ||| SendPacket.initialFlags type, 2] ++ SendPacket.wordBytes usPacketIdentifier

def Takes (type : PacketType) (usPacketIdentifier : UInt16) (input : SendInput) : Prop :=
  input.memory.isSome ∧
    input.socket (acknowledgement type usPacketIdentifier) =
      (acknowledgement type usPacketIdentifier).length

instance (type : PacketType) (usPacketIdentifier : UInt16) (input : SendInput) :
    Decidable (Takes type usPacketIdentifier input) :=
  inferInstanceAs (Decidable (_ ∧ _))

/-- Everything `answer` does on an open connection. -/
theorem answer_outcome (platform : Platform) (client : Client) (type : PacketType)
    (usPacketIdentifier : UInt16) (input : SendInput) (linked : client.Linked)
    (online : client.status ≠ .disconnected) (restarts : restartsTimer type = true) :
    ∃ next, client.answer platform type usPacketIdentifier input =
        .ok (decide (Takes type usPacketIdentifier input), next) ∧
      Framed client next ∧ next.status = client.status ∧
      (Takes type usPacketIdentifier input →
        next.log = client.log ++ [.sent (acknowledgement type usPacketIdentifier) true]) ∧
      (¬ Takes type usPacketIdentifier input → next.log = client.log ∨
        next.log = client.log ++ [.sent (acknowledgement type usPacketIdentifier) false]) := by
  rcases SendPacket.wordPacket_built type usPacketIdentifier input.memory with
    ⟨packet, built, sameType, fine⟩
  have plain : packet.type ≠ .pingReq := by
    intro ping
    rw [sameType] at ping
    rw [ping] at restarts
    cases restarts
  rcases sendPacket_total platform client packet input linked
    (fine.imp And.right fun good => good.2.1) (sameType ▸ restarts) with ⟨sent, after, next, done⟩
  have answered : client.answer platform type usPacketIdentifier input = .ok (sent, next) := by
    rw [answer, built, ok_bind, done]
    rfl
  rcases sendPacket_cases platform client next packet after input sent done with
    ⟨offline, -⟩ | ⟨-, -, sending, send, result, -, framed, log, status⟩
  · exact absurd offline online
  rcases fine with ⟨missing, failed⟩ | ⟨written, ready, flags, there⟩
  · -- Without memory `Send` returns at once.
    have refused : packet.send input.socket = .ok ⟨false, packet, none⟩ := by
      simp [SendPacket.send, failed]
    rw [refused] at send
    cases send
    have untaken : ¬ Takes type usPacketIdentifier input := by simp [Takes, missing]
    refine ⟨next, ?_, framed, status plain, fun takes => absurd takes untaken, fun _ => Or.inl ?_⟩
    · rw [answered, result, decide_eq_false untaken]
    · simpa [Sending.events] using log
  · rcases packet.send_ready input.socket ready with ⟨_, sends, -⟩
    rw [sends] at send
    cases send
    have wire : packet.wire = acknowledgement type usPacketIdentifier := by
      rw [packet.written_wire _ written, SendPacket.controlByte, sameType, flags]
      rfl
    simp only [wire, Sending.events] at log result
    refine ⟨next, ?_, framed, status plain, fun takes => ?_, fun refused => Or.inr ?_⟩
    · rw [answered, result]
      simp only [Takes, there, true_and]
    · rw [log, takes.2]
      simp
    · have rejected : ¬ input.socket (acknowledgement type usPacketIdentifier) =
          (acknowledgement type usPacketIdentifier).length :=
        fun accepted => refused ⟨there, accepted⟩
      rw [log]
      simp [rejected]

def Attains (client : Client) (input : ConnectInput) : Prop :=
  client.topicBuffer = true ∧ input.resolved = true ∧
    ¬ (input.useSSL = true ∧ (input.certificates < 0 ∨ input.setup ≠ 0)) ∧ input.connect = 0

-- What `Connect` reports when it does not get that far.
def connectFailures : List DisconnectReason :=
  [.insufficientResources, .dnsError, .sslSetupFailed, .connectFailed]

/-- Everything `Connect` can do: it reports a failure, or it goes on from the opened
connection with the CONNECT packet. -/
theorem connect_outcome (config : Config) (client next : Client) (request : ConnectRequest)
    (input : ConnectInput) (done : client.connect config request input = .ok next) :
    client.status = .disconnected ∧
      ((¬ Attains client input ∧ ∃ reason ∈ connectFailures,
          next = client.record (.onDisconnect reason)) ∨
        (Attains client input ∧ ∃ packet after middle sent,
          connectPacket config request input = .ok packet ∧
          (client.opened request.keepAliveSeconds).sendPacket config.toPlatform packet input.send =
            .ok (sent, after, middle) ∧
          (sent = true ∧ next = middle ∨
            sent = false ∧ middle.closeConnection .sendFailed = .ok next))) := by
  simp only [connect, bind_ok, require_ok] at done
  rcases done with ⟨_, offline, done⟩
  refine ⟨offline, ?_⟩
  split at done
  · rename_i missing
    cases done
    exact Or.inl ⟨fun attains => Bool.noConfusion (missing.symm.trans attains.1), _, by decide, rfl⟩
  · rename_i buffer
    split at done
    · rename_i unknown
      cases done
      exact Or.inl ⟨fun attains => Bool.noConfusion (unknown.symm.trans attains.2.1), _, by decide,
        rfl⟩
    · rename_i resolved
      simp only [bind_ok, require_ok] at done
      rcases done with ⟨_, -, done⟩
      split at done
      · rename_i insecure
        cases done
        exact Or.inl ⟨fun attains => attains.2.2.1 insecure, _, by decide, rfl⟩
      · rename_i secured
        split at done
        · rename_i refused
          cases done
          exact Or.inl ⟨fun attains => refused attains.2.2.2, _, by decide, rfl⟩
        · rename_i accepted
          simp only [bind_ok] at done
          rcases done with ⟨packet, built, ⟨sent, after, middle⟩, sending, done⟩
          have attains : Attains client input :=
            ⟨by simpa using buffer, by simpa using resolved, secured, not_not.mp accepted⟩
          refine Or.inr ⟨attains, packet, after, middle, sent, built, sending, ?_⟩
          split at done
          · rename_i accepted
            cases done
            exact Or.inl ⟨accepted, rfl⟩
          · rename_i refused
            exact Or.inr ⟨by simpa using refused, done⟩

theorem sendAndQueue_total (platform : Platform) (client : Client) (packet : SendPacket)
    (uchQoS : UInt8) (usPacketIdentifier : UInt16) (input : SendInput) (linked : client.Linked)
    (fine : packet.error = true ∨ packet.Ready) (restarts : restartsTimer packet.type = true) :
    ∃ next, client.sendAndQueue platform packet uchQoS usPacketIdentifier input = .ok next := by
  rcases sendPacket_total platform client packet input linked fine restarts with
    ⟨sent, after, middle, done⟩
  rw [sendAndQueue, done, ok_bind]
  dsimp only
  split
  · split <;> exact ⟨_, rfl⟩
  · have framed := sendPacket_framed platform client middle packet after input sent done
    exact closeConnection_total middle _ (linked_framed client middle framed linked)

/-- The connection stays as it is, or it is closed. -/
theorem sendAndQueue_kept (platform : Platform) (client next : Client) (packet : SendPacket)
    (uchQoS : UInt8) (usPacketIdentifier : UInt16) (input : SendInput) (linked : client.Linked)
    (done : client.sendAndQueue platform packet uchQoS usPacketIdentifier input = .ok next) :
    next.Linked ∧ next.receivePacket = client.receivePacket := by
  simp only [sendAndQueue, bind_ok] at done
  rcases done with ⟨⟨sent, after, middle⟩, sending, done⟩
  have framed := sendPacket_framed platform client middle packet after input sent sending
  have stays := linked_framed client middle framed linked
  split at done
  · split at done <;> cases done <;> exact ⟨stays, framed.receivePacket⟩
  · rcases closeConnection_kept middle next _ stays done with ⟨good, same, -⟩
    exact ⟨good, same.trans framed.receivePacket⟩

end Client

end CircleStdlib.Mqtt
