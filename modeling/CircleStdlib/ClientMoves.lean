import CircleStdlib.ReceiverRounds
import Mathlib.Logic.Relation

/-!
Every operation of the client as a chain of a few kinds of moves. `LocalMove`
has those that the application and the task bring about, `BrokerMove` those
that only a received packet does. Two steps are kept apart: `ConnectMove`, with
which `Connect` begins a connection or fails to, and `Establishes`, where a
CONNACK makes the connection an established one. What
these preserve, every operation preserves and so does every run; an invariant
that does not depend on the order of the moves is proved here once.
-/

namespace CircleStdlib.Mqtt

open Checked Execution

def Queueable (type : PacketType) (uchQoS : UInt8) : Prop :=
  match type with
  | .publish => uchQoS = 1 ∨ uchQoS = 2
  | .subscribe | .unsubscribe => uchQoS = 1
  | .pubRel => uchQoS = 2
  | _ => False

theorem queueable_restarts (type : PacketType) (uchQoS : UInt8) (fits : Queueable type uchQoS) :
    Client.restartsTimer type = true := by
  cases type <;> first | rfl | exact absurd fits id

theorem qos_cases (uchQoS : UInt8) (answered : uchQoS ≥ 1) (valid : uchQoS ≤ 2) :
    uchQoS = 1 ∨ uchQoS = 2 := by
  apply (qos_values uchQoS valid).resolve_left
  rintro rfl
  exact absurd answered (by decide)

/-- Transmissions are the only events. -/
def Silent (events : List Event) : Prop :=
  ∀ event ∈ events, ∃ bytes accepted, event = .sent bytes accepted

inductive LocalMove (config : Config) : Client → Client → Prop where
  | transmission (client next : Client) (packet after : SendPacket) (input : SendInput)
      (sent : Bool)
      (done : client.sendPacket config.toPlatform packet input = .ok (sent, after, next)) :
      LocalMove config client next
  | closing (client next : Client) (reason : DisconnectReason)
      (done : client.closeConnection reason = .ok next) : LocalMove config client next
  | numbering (client : Client) : LocalMove config client client.advanceIdentifier
  | queueing (client : Client) (packet : SendPacket) (nScheduledTime : UInt32)
      (online : client.status ≠ .disconnected) (fits : Queueable packet.type packet.qos) :
      LocalMove config client (client.insertPacketIntoQueue packet nScheduledTime)
  | requeueing (client : Client) (queue : List SendPacket)
      (fits : ∀ packet ∈ queue, Queueable packet.type packet.qos)
      (empty : client.status = .disconnected → queue = []) :
      LocalMove config client (client.withQueue queue)
  | ping (client next : Client) (packet after : SendPacket) (input : SendInput)
      (running : client.timerRunning = true) (type : packet.type = .pingReq)
      (done : client.stopTimer.sendPacket config.toPlatform packet input =
        .ok (true, after, next)) : LocalMove config client next
  | expiry (client middle next : Client) (reason : DisconnectReason) (events : List Event)
      (running : client.timerRunning = true) (framed : Framed client.stopTimer middle)
      (log : middle.log = client.log ++ events) (silent : Silent events)
      (closing : middle.closeConnection reason = .ok next) : LocalMove config client next

inductive ConnectMove : Client → Client → Prop where
  | opening (client : Client) (usKeepAliveSeconds : UInt16)
      (offline : client.status = .disconnected) :
      ConnectMove client (client.opened usKeepAliveSeconds)
  | refusal (client : Client) (reason : DisconnectReason)
      (offline : client.status = .disconnected) :
      ConnectMove client (client.record (.onDisconnect reason))

inductive BrokerMove (config : Config) : Client → Client → Prop where
  | pong (client : Client) (ticks : UInt32) (online : client.status ≠ .disconnected) :
      BrokerMove config client (client.respondPingResp config.toPlatform ticks)
  | message (client : Client) (message : Message) (online : client.status ≠ .disconnected) :
      BrokerMove config client (client.record (.onMessage message))
  | dequeuing (client : Client) (usPacketIdentifier : UInt16) :
      BrokerMove config client (client.removePacketFromQueue usPacketIdentifier).2
  | storing (client : Client) (usPacketIdentifier : UInt16)
      (online : client.status ≠ .disconnected)
      (fresh : client.isPacketIdentifierInStore usPacketIdentifier = false) :
      BrokerMove config client (client.insertPacketIdentifierIntoStore usPacketIdentifier)
  | releasing (client : Client) (usPacketIdentifier : UInt16) :
      BrokerMove config client (client.removePacketIdentifierFromStore usPacketIdentifier)
  | reading (client : Client) (packet : ReceivePacket) :
      BrokerMove config client (client.withPacket packet)

def Move (config : Config) (client next : Client) : Prop :=
  LocalMove config client next ∨ BrokerMove config client next

def Moves (config : Config) : Client → Client → Prop := Relation.ReflTransGen (Move config)

def LocalMoves (config : Config) : Client → Client → Prop :=
  Relation.ReflTransGen (LocalMove config)

def Begins (config : Config) (client next : Client) : Prop :=
  ∃ middle, ConnectMove client middle ∧ LocalMoves config middle next

def Client.established (client : Client) (sessionPresent : Bool) : Client :=
  { client with status := .connected }.record (.onConnect sessionPresent)

def Establishes (client next : Client) (first : Packet) : Prop :=
  client.status = .connectPending ∧ first.type = .connAck ∧ codeAt 1 first.body = 0 ∧
    ∃ sessionPresent packet, next = (client.established sessionPresent).withPacket packet

theorem moves_invariant (config : Config) (invariant : Client → Prop)
    (preserved : ∀ client next, Move config client next → invariant client → invariant next)
    (client next : Client) (moves : Moves config client next) (initial : invariant client) :
    invariant next := by
  induction moves with
  | refl => exact initial
  | tail _ move ih => exact preserved _ _ move ih

theorem localMoves_invariant (config : Config) (invariant : Client → Prop)
    (preserved : ∀ client next, LocalMove config client next → invariant client → invariant next)
    (client next : Client) (moves : LocalMoves config client next) (initial : invariant client) :
    invariant next := by
  induction moves with
  | refl => exact initial
  | tail _ move ih => exact preserved _ _ move ih

theorem LocalMoves.moves {config : Config} {client next : Client}
    (moves : LocalMoves config client next) : Moves config client next := by
  induction moves with
  | refl => exact .refl
  | tail _ move ih => exact ih.tail (Or.inl move)

theorem sending_silent (sending : Sending) : Silent sending.events := by
  intro event member
  cases handed : sending.handed with
  | none => simp [Sending.events, handed] at member
  | some bytes =>
      simp only [Sending.events, handed, List.mem_singleton] at member
      exact ⟨bytes, sending.result, member⟩

structure Queued (client : Client) : Prop where
  fits : ∀ packet ∈ client.retransmissionQueue, Queueable packet.type packet.qos
  empty : client.status = .disconnected → client.retransmissionQueue = []

variable (config : Config)

namespace Client

theorem sendPacket_after (platform : Platform) (client next : Client) (packet after : SendPacket)
    (input : SendInput) (sent : Bool)
    (done : client.sendPacket platform packet input = .ok (sent, after, next)) :
    after.type = packet.type ∧ after.packetIdentifier = packet.packetIdentifier ∧
      after.qos = packet.qos := by
  rcases sendPacket_cases platform client next packet after input sent done with
    ⟨-, -, rfl, -⟩ | ⟨-, -, sending, send, -, rfl, -⟩
  · exact ⟨rfl, rfl, rfl⟩
  · exact packet.send_same input.socket sending send

theorem sendPacket_sent (platform : Platform) (client next : Client) (packet after : SendPacket)
    (input : SendInput)
    (done : client.sendPacket platform packet input = .ok (true, after, next)) :
    client.status ≠ .disconnected ∧ next.status ≠ .disconnected := by
  rcases sendPacket_cases platform client next packet after input true done with
    ⟨-, refused, -⟩ | ⟨online, -, _, -, -, -, framed, -⟩
  · cases refused
  · exact ⟨online, fun offline => online (framed.offline.mp offline)⟩

theorem sendAndQueue_moves (client next : Client) (packet : SendPacket) (uchQoS : UInt8)
    (usPacketIdentifier : UInt16) (input : SendInput)
    (fits : uchQoS ≥ 1 → Queueable packet.type uchQoS)
    (done : client.sendAndQueue config.toPlatform packet uchQoS usPacketIdentifier input =
      .ok next) : LocalMoves config client next := by
  simp only [sendAndQueue, bind_ok] at done
  rcases done with ⟨⟨sent, after, middle⟩, sending, done⟩
  have first : LocalMoves config client middle :=
    .single (.transmission client middle packet after input sent sending)
  split at done
  · rename_i accepted
    subst accepted
    have online := (sendPacket_sent config.toPlatform client middle packet after input sending).2
    have same := (sendPacket_after config.toPlatform client middle packet after input true
      sending).1
    split at done
    · rename_i answered
      cases done
      have kind : Queueable after.type uchQoS := same ▸ fits answered
      exact first.tail (.queueing middle _ _ online kind)
    · cases done
      exact first
  · exact first.tail (.closing middle next _ done)

theorem answer_moves (client next : Client) (type : PacketType) (usPacketIdentifier : UInt16)
    (input : SendInput) (sent : Bool)
    (done : client.answer config.toPlatform type usPacketIdentifier input = .ok (sent, next)) :
    LocalMoves config client next ∧ (sent = true → next.status ≠ .disconnected) := by
  simp only [answer, bind_ok, pure_ok, Except.ok.injEq, Prod.mk.injEq] at done
  rcases done with ⟨packet, -, ⟨_, after, _⟩, sending, rfl, rfl⟩
  refine ⟨.single (.transmission client _ packet after input _ sending), ?_⟩
  intro accepted
  dsimp only at accepted sending
  subst accepted
  exact (sendPacket_sent config.toPlatform client _ packet after input sending).2

theorem release_moves (client next : Client) (usPacketIdentifier : UInt16) (uchQoS : UInt8)
    (done : client.release usPacketIdentifier uchQoS = .ok next) : Moves config client next := by
  have removed : Moves config client (client.removePacketFromQueue usPacketIdentifier).2 :=
    .single (Or.inr (.dequeuing client usPacketIdentifier))
  rcases client.release_cases next usPacketIdentifier uchQoS done with
    ⟨-, closing⟩ | ⟨entry, -, -, rfl⟩
  · exact removed.tail (Or.inl (.closing _ next _ closing))
  · exact removed

theorem close_moves (client next : Client) (reason : DisconnectReason)
    (done : client.closeConnection reason = .ok next) : Moves config client next :=
  .single (Or.inl (.closing client next reason done))

theorem respondMessage_moves (client next : Client) (uchQoS : UInt8) (usPacketIdentifier : UInt16)
    (message : Message) (input : SendInput) (online : client.status ≠ .disconnected)
    (done : client.respondMessage config.toPlatform uchQoS usPacketIdentifier message input =
      .ok next) : Moves config client next := by
  rcases client.respondMessage_cases config.toPlatform next uchQoS usPacketIdentifier message input
    done with ⟨-, rfl⟩ | ⟨-, sent, middle, answered, outcome⟩
  · exact .single (Or.inr (.message client message online))
  · rcases answer_moves config client middle _ _ input sent answered with ⟨first, stays⟩
    rcases outcome with
      ⟨-, closing⟩ | ⟨accepted, -, rfl⟩ | ⟨-, -, -, rfl⟩ | ⟨accepted, -, fresh, rfl⟩
    · exact first.moves.trans (close_moves config middle next _ closing)
    · exact first.moves.tail (Or.inr (.message middle message (stays accepted)))
    · exact first.moves
    · exact (first.moves.tail (Or.inr (.storing middle usPacketIdentifier (stays accepted)
        fresh))).tail (Or.inr (.message _ message (stays accepted)))

/-- The packet that answers a PUBREC waits for a PUBCOMP. -/
theorem pubRel_queueable (memory : Option (Nat → UInt8)) (packet : SendPacket)
    (usPacketIdentifier : UInt16)
    (built : (SendPacket.create .pubRel 128 memory).appendWord usPacketIdentifier = .ok packet) :
    Queueable packet.type 2 := by
  rw [(SendPacket.appendWord_same _ packet _ built).type]
  rfl

theorem respondPubRec_moves (client next : Client) (usPacketIdentifier : UInt16)
    (input : SendInput)
    (done : client.respondPubRec config.toPlatform usPacketIdentifier input = .ok next) :
    Moves config client next := by
  have removed : Moves config client (client.removePacketFromQueue usPacketIdentifier).2 :=
    .single (Or.inr (.dequeuing client usPacketIdentifier))
  rcases client.respondPubRec_cases config.toPlatform next usPacketIdentifier input done with
    ⟨-, closing⟩ | ⟨entry, packet, -, -, built, sent⟩
  · exact removed.trans (close_moves config _ next _ closing)
  · exact removed.trans (sendAndQueue_moves config _ next packet 2 usPacketIdentifier input
      (fun _ => pubRel_queueable input.memory packet usPacketIdentifier built) sent).moves

theorem respondPubRel_moves (client next : Client) (usPacketIdentifier : UInt16)
    (input : SendInput)
    (done : client.respondPubRel config.toPlatform usPacketIdentifier input = .ok next) :
    Moves config client next := by
  rcases client.respondPubRel_cases config.toPlatform next usPacketIdentifier input done with
    ⟨-, closing⟩ | ⟨-, sent, middle, answered, outcome⟩
  · exact close_moves config client next _ closing
  · rcases answer_moves config client middle _ _ input sent answered with ⟨first, -⟩
    rcases outcome with ⟨-, closing⟩ | ⟨-, rfl⟩
    · exact first.moves.trans (close_moves config middle next _ closing)
    · exact first.moves.tail (Or.inr (.releasing middle usPacketIdentifier))

theorem respond_moves (client next : Client) (first : Packet) (input : SendInput)
    (online : client.status ≠ .disconnected)
    (done : client.respond config first input = .ok next) :
    Moves config client next ∨ Establishes client next first := by
  unfold respond at done
  split at done
  · rename_i type
    rcases client.respondConnAck_cases next _ _ done with
      ⟨-, closing⟩ | ⟨pending, ⟨zero, rfl⟩ | ⟨-, closing⟩⟩
    · exact Or.inl (close_moves config client next _ closing)
    · exact Or.inr ⟨pending, type, zero, _, client.receivePacket, rfl⟩
    · exact Or.inl (close_moves config client next _ closing)
  · rcases client.respondPublish_cases config next first input done with
      ⟨reason, -, closing⟩ | ⟨usPacketIdentifier, message, -, told⟩
    · exact Or.inl (close_moves config client next reason closing)
    · exact Or.inl (respondMessage_moves config client next _ _ message input online told)
  · exact Or.inl (release_moves config client next _ 1 done)
  · exact Or.inl (respondPubRec_moves config client next _ input done)
  · exact Or.inl (respondPubRel_moves config client next _ input done)
  · exact Or.inl (release_moves config client next _ 2 done)
  · rcases client.respondSubAck_cases next _ _ done with ⟨-, closing⟩ | ⟨-, released⟩
    · exact Or.inl (close_moves config client next _ closing)
    · exact Or.inl (release_moves config client next _ 1 released)
  · exact Or.inl (release_moves config client next _ 1 done)
  · cases done
    exact Or.inl (.single (Or.inr (.pong client _ online)))
  · cases done

/-- A result with another receive buffer is reached by one move more. -/
theorem reading_moves {client next : Client} (packet : ReceivePacket)
    (moves : Moves config client next) : Moves config client (next.withPacket packet) :=
  moves.tail (Or.inr (.reading next packet))

theorem receiverPass_moves (client next : Client) (input : ReceiveInput config.toPlatform)
    (more : Bool) (sound : Sound config client)
    (done : client.receiverPass config input = .ok (more, next)) :
    Moves config client next ∨ ∃ first rest, client.front config input = some (first, rest) ∧
      first.Accepted ∧ Establishes client next first := by
  rcases client.receiverPass_cases config next input more sound done with
    ⟨-, packet, rfl | ⟨reason, closed, -, closing, rfl⟩⟩ |
    ⟨first, rest, packet, result, there, accepted, open_, responded, rfl⟩
  · exact Or.inl (reading_moves config packet .refl)
  · exact Or.inl (reading_moves config packet (close_moves config client closed reason closing))
  · rcases respond_moves config client result first input.send (sound.linked.mp open_) responded
      with moves | ⟨pending, type, zero, sessionPresent, other, same⟩
    · exact Or.inl (reading_moves config packet moves)
    · refine Or.inr ⟨first, rest, there, accepted, pending, type, zero, sessionPresent, packet, ?_⟩
      rw [same]
      rfl

theorem connect_moves (client next : Client) (request : ConnectRequest) (input : ConnectInput)
    (done : client.connect config request input = .ok next) : Begins config client next := by
  rcases client.connect_outcome config next request input done with
    ⟨offline, ⟨-, reason, -, rfl⟩ | ⟨-, packet, after, middle, sent, -, sending, outcome⟩⟩
  · exact ⟨_, .refusal client reason offline, .refl⟩
  · refine ⟨_, .opening client request.keepAliveSeconds offline, ?_⟩
    have first : LocalMoves config (client.opened request.keepAliveSeconds) middle :=
      .single (.transmission _ middle packet after input.send sent sending)
    rcases outcome with ⟨-, rfl⟩ | ⟨-, closing⟩
    · exact first
    · exact first.tail (.closing middle next _ closing)

theorem disconnect_moves (client next : Client) (bForce : Bool) (input : SendInput)
    (done : client.disconnect config bForce input = .ok next) : LocalMoves config client next := by
  unfold disconnect at done
  split at done
  · exact .single (.closing client next _ done)
  · simp only [bind_ok] at done
    rcases done with ⟨⟨sent, after, middle⟩, sending, closing⟩
    exact (Relation.ReflTransGen.single
      (LocalMove.transmission client middle _ after input sent sending)).tail
        (.closing middle next _ closing)

theorem insertByTime_perm (packet : SendPacket) (queue : List SendPacket) :
    (insertByTime packet queue).Perm (packet :: queue) := by
  induction queue with
  | nil => exact .refl _
  | cons other rest ih =>
      rw [insertByTime]
      split
      · exact .refl _
      · exact (ih.cons other).trans (.swap packet other rest)

theorem reinsert_perm (packet : SendPacket) (passed ahead : List SendPacket) :
    ((reinsert packet passed ahead).1 ++ (reinsert packet passed ahead).2).Perm
      (packet :: (passed ++ ahead)) := by
  have behind : (passed ++ [packet] ++ ahead).Perm (packet :: (passed ++ ahead)) := by
    rw [List.append_assoc]
    exact List.perm_middle
  unfold reinsert
  split
  · exact (insertByTime_perm packet passed).append_right ahead
  · cases ahead with
    | nil => exact behind
    | cons other rest =>
        dsimp only
        split
        · exact behind
        · have inner := ((insertByTime_perm packet rest).cons other).trans (.swap packet other rest)
          exact (inner.append_left passed).trans List.perm_middle

theorem markRepeated_same (packet next : SendPacket) (done : markRepeated packet = .ok next) :
    next.type = packet.type ∧ next.packetIdentifier = packet.packetIdentifier ∧
      next.qos = packet.qos := by
  unfold markRepeated at done
  split at done
  · simp only [SendPacket.setFlags, bind_ok, require_ok, pure_ok, Except.ok.injEq] at done
    rcases done with ⟨_, -, _, -, rfl⟩
    exact ⟨rfl, rfl, rfl⟩
  · cases done
    exact ⟨rfl, rfl, rfl⟩

-- What is passed and ahead together is the queue, but for the packet in hand.
theorem senderLoop_moves (nTicks : UInt32) (client next : Client) (passed ahead : List SendPacket)
    (inputs : List SendInput) (fits : ∀ packet ∈ passed ++ ahead, Queueable packet.type packet.qos)
    (empty : client.status = .disconnected → passed ++ ahead = [])
    (done : client.senderLoop config.toPlatform nTicks passed ahead inputs = .ok (some next)) :
    LocalMoves config client next := by
  have finished : LocalMoves config client (client.withQueue (passed ++ ahead)) :=
    .single (.requeueing client _ fits empty)
  induction inputs generalizing client passed ahead with
  | nil =>
      unfold senderLoop at done
      split at done
      · cases done
        simpa using finished
      · split at done
        · cases done
          exact finished
        · cases done
  | cons input inputs ih =>
      unfold senderLoop at done
      split at done
      · cases done
        simpa using finished
      · rename_i due rest
        split at done
        · cases done
          exact finished
        · simp only [bind_ok] at done
          rcases done with ⟨packet, marked, ⟨sent, after, middle⟩, sending, done⟩
          have others : ∀ packet ∈ passed ++ rest, Queueable packet.type packet.qos := by
            intro packet member
            apply fits
            simp only [List.mem_append, List.mem_cons] at member ⊢
            exact member.imp_right Or.inr
          have online : client.status ≠ .disconnected := by
            intro offline
            simpa using empty offline
          have first : LocalMoves config client middle :=
            (Relation.ReflTransGen.single
              (LocalMove.requeueing client (passed ++ rest) others
                fun offline => absurd offline online)).tail
              (.transmission _ middle packet after input sent sending)
          split at done
          · rename_i accepted
            subst accepted
            have perm := reinsert_perm
              { after with scheduledTime := input.queueTicks + config.toPlatform.resendTimeout }
              passed rest
            rcases sendPacket_after config.toPlatform _ middle packet after input true sending with
              ⟨type, -, qos⟩
            rcases markRepeated_same due packet marked with ⟨dueType, -, dueQoS⟩
            have again : ∀ packet ∈ (reinsert
                { after with scheduledTime := input.queueTicks + config.toPlatform.resendTimeout }
                passed rest).1 ++ (reinsert
                { after with scheduledTime := input.queueTicks + config.toPlatform.resendTimeout }
                passed rest).2, Queueable packet.type packet.qos := by
              intro packet member
              rcases List.mem_cons.mp (perm.mem_iff.mp member) with rfl | other
              · dsimp only
                rw [type, qos, dueType, dueQoS]
                exact fits due (by simp)
              · exact others packet other
            have still := (sendPacket_sent config.toPlatform _ middle packet after input sending).2
            exact first.trans (ih middle _ _ again (fun offline => absurd offline still) done
              (.single (.requeueing middle _ again fun offline => absurd offline still)))
          · simp only [bind_ok, pure_ok, Except.ok.injEq, Option.some.injEq] at done
            rcases done with ⟨closed, closing, rfl⟩
            exact first.tail (.closing middle closed _ closing)

theorem keepAliveHandler_moves (client next : Client) (ticks : UInt32) (input : SendInput)
    (done : client.keepAliveHandler config.toPlatform ticks input = .ok next) :
    LocalMoves config client next := by
  unfold keepAliveHandler at done
  split at done
  · rename_i elapsed
    dsimp only at done
    split at done
    · simp only [bind_ok] at done
      rcases done with ⟨⟨sent, after, middle⟩, sending, done⟩
      split at done
      · rename_i accepted
        subst accepted
        cases done
        exact .single (.ping client middle _ after input elapsed.1 rfl sending)
      · rcases sendPacket_cases config.toPlatform client.stopTimer middle _ after input sent
          sending with ⟨-, -, -, rfl⟩ | ⟨-, -, result, -, -, -, framed, log, -⟩
        · exact .single (.expiry client client.stopTimer next _ [] elapsed.1 (framed_refl _)
            (by simp [stopTimer]) (by simp [Silent]) done)
        · exact .single (.expiry client middle next _ result.events elapsed.1 framed log
            (sending_silent result) done)
    · simp only [bind_ok] at done
      rcases done with ⟨_, -, closing⟩
      exact .single (.expiry client client.stopTimer next _ [] elapsed.1 (framed_refl _)
        (by simp [stopTimer]) (by simp [Silent]) closing)
  · cases done
    exact .refl

/-! The packets that the public operations build. -/

theorem subscribePacket_type (usPacketIdentifier : UInt16) (pTopic : List UInt8) (uchQoS : UInt8)
    (memory : Option (Nat → UInt8)) (packet : SendPacket)
    (built : subscribePacket config usPacketIdentifier pTopic uchQoS memory = .ok packet) :
    packet.type = .subscribe := by
  simp only [subscribePacket, bind_ok] at built
  rcases built with ⟨numbered, first, named, second, third⟩
  exact (((SendPacket.appendWord_same _ numbered _ first).trans
    (SendPacket.appendString_same _ numbered named _ second)).trans
    (SendPacket.appendByte_same named packet _ third)).type

theorem unsubscribePacket_type (usPacketIdentifier : UInt16) (pTopic : List UInt8)
    (memory : Option (Nat → UInt8)) (packet : SendPacket)
    (built : unsubscribePacket config usPacketIdentifier pTopic memory = .ok packet) :
    packet.type = .unsubscribe := by
  simp only [unsubscribePacket, bind_ok] at built
  rcases built with ⟨numbered, first, second⟩
  exact ((SendPacket.appendWord_same _ numbered _ first).trans
    (SendPacket.appendString_same _ numbered packet _ second)).type

theorem publishPacket_type (usPacketIdentifier : UInt16) (pTopic payload : List UInt8)
    (uchQoS : UInt8) (bRetain : Bool) (memory : Option (Nat → UInt8)) (packet : SendPacket)
    (built : publishPacket config usPacketIdentifier pTopic payload uchQoS bRetain memory =
      .ok packet) : packet.type = .publish := by
  simp only [publishPacket, SendPacket.setFlags, bind_ok, require_ok, pure_ok,
    Except.ok.injEq] at built
  rcases built with ⟨_, ⟨_, -, _, -, rfl⟩, named, first, numbered, second, third⟩
  have same := (SendPacket.appendString_same _ _ named _ first).trans
    (SendPacket.appendWord_same named numbered _ second)
  split at third
  · exact (same.trans (SendPacket.appendData_same _ numbered packet _ third)).type
  · cases third
    exact same.type

end Client

def Operation.isConnect {platform : Platform} : Operation platform → Bool
  | .connect _ _ => true
  | _ => false

theorem connect_begins (client next : Client) (operation : Operation config.toPlatform)
    (called : operation.isConnect = true)
    (done : perform config client operation = .ok (some next)) : Begins config client next := by
  cases perform_performs config client next operation done with
  | connect request input _ done => exact client.connect_moves config next request input done
  | _ => cases called

/-- Every operation but `Connect` and a round of `Receiver` is a chain of local moves. -/
theorem perform_local (client next : Client) (operation : Operation config.toPlatform)
    (queued : Queued client) (other : operation.isConnect = false)
    (own : operation.isReceiver = false)
    (done : perform config client operation = .ok (some next)) : LocalMoves config client next := by
  have numbered : LocalMoves config client client.advanceIdentifier :=
    .single (.numbering client)
  cases perform_performs config client next operation done with
  | receiver input _ _ done => cases own
  | connect request input _ done => cases other
  | sender nTicks inputs _ done =>
      exact client.senderLoop_moves config nTicks next [] _ inputs queued.fits queued.empty done
  | disconnect bForce input _ done =>
      exact client.disconnect_moves config next bForce input done
  | subscribe pTopic uchQoS input _ done =>
      simp only [Client.subscribe, bind_ok] at done
      rcases done with ⟨_, -, packet, built, done⟩
      have fits : (1 : UInt8) ≥ 1 → Queueable packet.type 1 := by
        rw [Client.subscribePacket_type config _ _ _ _ packet built]
        exact fun _ => rfl
      exact numbered.trans (Client.sendAndQueue_moves config _ next packet 1 _ input fits done)
  | unsubscribe pTopic input _ done =>
      simp only [Client.unsubscribe, bind_ok] at done
      rcases done with ⟨packet, built, done⟩
      have fits : (1 : UInt8) ≥ 1 → Queueable packet.type 1 := by
        rw [Client.unsubscribePacket_type config _ _ _ packet built]
        exact fun _ => rfl
      exact numbered.trans (Client.sendAndQueue_moves config _ next packet 1 _ input fits done)
  | publish pTopic payload uchQoS bRetain input _ done =>
      simp only [Client.publish, bind_ok, require_ok] at done
      rcases done with ⟨_, valid, packet, built, done⟩
      have fits : uchQoS ≥ 1 → Queueable packet.type uchQoS := by
        rw [Client.publishPacket_type config _ _ _ _ _ _ packet built]
        exact fun answered => qos_cases uchQoS answered valid
      exact numbered.trans
        (Client.sendAndQueue_moves config _ next packet uchQoS _ input fits done)
  | keepAliveHandler ticks input _ done =>
      exact client.keepAliveHandler_moves config next ticks input done

def Accepts (client next : Client) (operation : Operation config.toPlatform) : Prop :=
  ∃ input first rest, operation = .receiver input ∧
    client.front config input = some (first, rest) ∧ first.Accepted ∧
    Establishes client next first

/-- Every operation but `Connect` is a chain of moves, or establishes the connection. -/
theorem perform_moves (client next : Client) (operation : Operation config.toPlatform)
    (sound : Sound config client) (queued : Queued client) (other : operation.isConnect = false)
    (done : perform config client operation = .ok (some next)) :
    Moves config client next ∨ Accepts config client next operation := by
  by_cases own : operation.isReceiver = false
  · exact Or.inl (perform_local config client next operation queued other own done).moves
  · cases perform_performs config client next operation done with
    | receiver input more _ done =>
        rcases client.receiverPass_moves config next input more sound done with
          moves | ⟨first, rest, there, accepted, established⟩
        · exact Or.inl moves
        · exact Or.inr ⟨input, first, rest, rfl, there, accepted, established⟩
    | _ => exact absurd rfl own

theorem localMove_queued (client next : Client) (move : LocalMove config client next)
    (queued : Queued client) : Queued next := by
  have framed_queued : ∀ client next : Client, Framed client next → Queued client →
      Queued next := by
    intro client next framed queued
    refine ⟨by rw [framed.retransmissionQueue]; exact queued.fits, ?_⟩
    rw [framed.retransmissionQueue, framed.offline]
    exact queued.empty
  have closed_queued : ∀ client next : Client, ∀ reason,
      client.closeConnection reason = .ok next → Queued client → Queued next := by
    intro client next reason done queued
    rcases client.closeConnection_cases next reason done with ⟨-, rfl⟩ | ⟨-, -, rfl⟩
    · exact queued
    · exact ⟨by simp [Client.closed], fun _ => rfl⟩
  cases move with
  | transmission _ packet after input sent done =>
      exact framed_queued _ _ (client.sendPacket_framed _ next packet after input sent done) queued
  | closing _ reason done => exact closed_queued _ _ reason done queued
  | numbering => exact ⟨queued.fits, queued.empty⟩
  | queueing packet nScheduledTime online fits =>
      refine ⟨?_, fun offline => absurd offline online⟩
      intro other member
      rcases List.mem_cons.mp ((Client.insertByTime_perm _ _).mem_iff.mp member) with rfl | old
      · exact fits
      · exact queued.fits other old
  | requeueing queue fits empty => exact ⟨fits, empty⟩
  | ping _ packet after input running type done =>
      exact framed_queued _ _ (client.stopTimer.sendPacket_framed _ next packet after input true
        done) ⟨queued.fits, queued.empty⟩
  | expiry middle _ reason events running framed log silent closing =>
      exact closed_queued middle next reason closing
        (framed_queued _ _ framed ⟨queued.fits, queued.empty⟩)

theorem connectMove_queued (client next : Client) (move : ConnectMove client next)
    (queued : Queued client) : Queued next := by
  cases move with
  | opening usKeepAliveSeconds offline =>
      refine ⟨queued.fits, ?_⟩
      intro other
      simp [Client.opened] at other
  | refusal reason offline => exact ⟨queued.fits, queued.empty⟩

theorem brokerMove_queued (client next : Client) (move : BrokerMove config client next)
    (queued : Queued client) : Queued next := by
  cases move with
  | pong ticks online =>
      unfold Client.respondPingResp
      split <;> exact ⟨queued.fits, fun other => by cases other⟩
  | message message online => exact ⟨queued.fits, queued.empty⟩
  | dequeuing usPacketIdentifier =>
      rw [client.removePacketFromQueue_eq]
      refine ⟨fun packet member => queued.fits packet (List.mem_of_mem_eraseP member), ?_⟩
      intro offline
      dsimp only at offline ⊢
      rw [queued.empty offline]
      rfl
  | storing usPacketIdentifier online fresh => exact ⟨queued.fits, queued.empty⟩
  | releasing usPacketIdentifier => exact ⟨queued.fits, queued.empty⟩
  | reading packet => exact ⟨queued.fits, queued.empty⟩

theorem move_queued (client next : Client) (move : Move config client next)
    (queued : Queued client) : Queued next := by
  rcases move with own | brought
  · exact localMove_queued config client next own queued
  · exact brokerMove_queued config client next brought queued

theorem constructed_queued (client : Client) (constructed : Constructed config client) :
    Queued client := by
  refine ⟨?_, fun _ => constructed.retransmissionQueue⟩
  rw [constructed.retransmissionQueue]
  exact fun _ member => absurd member List.not_mem_nil

structure Kept (client : Client) : Prop where
  sound : Sound config client
  queued : Queued client

theorem constructed_kept (client : Client) (constructed : Constructed config client) :
    Kept config client :=
  ⟨constructed_sound config client constructed, constructed_queued config client constructed⟩

/-- What the moves and the beginning and establishing of a connection preserve, every
operation preserves. -/
theorem perform_invariant (invariant : Client → Prop)
    (preserved : ∀ client next, Move config client next → invariant client → invariant next)
    (begun : ∀ client next, ConnectMove client next → invariant client → invariant next)
    (established : ∀ (client : Client) sessionPresent packet, client.status = .connectPending →
      invariant client → invariant ((client.established sessionPresent).withPacket packet))
    (client next : Client) (operation : Operation config.toPlatform)
    (sound : Sound config client) (queued : Queued client)
    (done : perform config client operation = .ok (some next)) (holds : invariant client) :
    invariant next := by
  by_cases called : operation.isConnect = true
  · rcases connect_begins config client next operation called done with ⟨middle, first, moves⟩
    exact moves_invariant config invariant preserved middle next moves.moves
      (begun client middle first holds)
  · rcases perform_moves config client next operation sound queued (by simpa using called) done
      with moves | ⟨input, first, rest, -, -, -, pending, -, -, sessionPresent, packet, rfl⟩
    · exact moves_invariant config invariant preserved client next moves holds
    · exact established client sessionPresent packet pending holds

theorem perform_kept (client next : Client) (operation : Operation config.toPlatform)
    (kept : Kept config client) (done : perform config client operation = .ok (some next)) :
    Kept config next :=
  ⟨perform_sound config client next operation kept.sound done,
    perform_invariant config Queued (move_queued config) connectMove_queued
      (fun _ _ _ _ queued => ⟨queued.fits, fun offline => by cases offline⟩) client next operation
      kept.sound kept.queued done kept.queued⟩

/-- An invariant of all operations holds of every client that a run reaches. -/
theorem reached_invariant (invariant : Client → Prop)
    (preserved : ∀ client next operation, Kept config client → invariant client →
      perform config client operation = .ok (some next) → invariant next)
    (client last : Client) (operations : List (Operation config.toPlatform))
    (constructed : Constructed config client) (initial : invariant client)
    (reached : run (step config) (.running client) operations = some (.running last)) :
    Kept config last ∧ invariant last := by
  have always := run_invariant
    (fun state => ∀ running, state = Machine.running running →
      Kept config running ∧ invariant running)
    (by
      intro state operation next good taken running same
      subst same
      rcases step_cases config state _ operation taken with
        ⟨before, rfl, ⟨after, done, same⟩ | ⟨fault, -, same⟩⟩
      · cases same
        rcases good before rfl with ⟨kept, holds⟩
        exact ⟨perform_kept config before running operation kept done,
          preserved before running operation kept holds done⟩
      · cases same)
    (.running client) (.running last) operations
    (by
      intro running same
      cases same
      exact ⟨constructed_kept config client constructed, initial⟩)
    reached
  exact always last rfl

/-- An invariant of the moves and of the beginning and establishing of a connection does
so too. -/
theorem reached_moves (invariant : Client → Prop)
    (preserved : ∀ client next, Move config client next → invariant client → invariant next)
    (begun : ∀ client next, ConnectMove client next → invariant client → invariant next)
    (established : ∀ (client : Client) sessionPresent packet, client.status = .connectPending →
      invariant client → invariant ((client.established sessionPresent).withPacket packet))
    (client last : Client) (operations : List (Operation config.toPlatform))
    (constructed : Constructed config client) (initial : invariant client)
    (reached : run (step config) (.running client) operations = some (.running last)) :
    invariant last :=
  (reached_invariant config invariant
    (fun client next operation kept holds done =>
      perform_invariant config invariant preserved begun established client next operation
        kept.sound kept.queued done holds)
    client last operations constructed initial reached).2

theorem reached_kept (client last : Client) (operations : List (Operation config.toPlatform))
    (constructed : Constructed config client)
    (reached : run (step config) (.running client) operations = some (.running last)) :
    Kept config last :=
  (reached_invariant config (fun _ => True) (fun _ _ _ _ _ _ => trivial) client last operations
    constructed trivial reached).1

end CircleStdlib.Mqtt
