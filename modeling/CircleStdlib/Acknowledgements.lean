import CircleStdlib.ClientMoves
import Mathlib.Data.List.Perm.Subperm

/-!
Which packets leave the retransmission queue. `signature` is what a queued
packet keeps through its retransmissions. While the connection stays open only
an acknowledgement makes an entry leave, the first one with its identifier, and
only when the entry has the QoS value that the handler asks for. The handlers
do not look at the type of the entry.
-/

namespace CircleStdlib.Mqtt.Acknowledgements

open Checked Execution

def signature (packet : SendPacket) : PacketType × UInt16 × UInt8 :=
  (packet.type, packet.packetIdentifier, packet.qos)

def outstanding (client : Client) : List (PacketType × UInt16 × UInt8) :=
  client.retransmissionQueue.map signature

def askedQoS : PacketType → Option UInt8
  | .pubAck | .subAck | .unsubAck => some 1
  | .pubRec | .pubComp => some 2
  | _ => none

def Keeps (client next : Client) : Prop :=
  next.socket = true → (outstanding client).Subperm (outstanding next)

theorem keeps_framed (client next : Client) (framed : Framed client next) : Keeps client next := by
  intro _
  rw [outstanding, outstanding, framed.retransmissionQueue]

theorem keeps_closed (client next other : Client) (reason : DisconnectReason)
    (linked : client.Linked) (done : client.closeConnection reason = .ok next) :
    Keeps other next := by
  intro open_
  rcases client.closeConnection_kept next reason linked done with ⟨good, -, offline⟩
  exact absurd offline (good.mp open_)

theorem signature_after (platform : Platform) (client next : Client) (packet after : SendPacket)
    (input : SendInput) (sent : Bool)
    (done : client.sendPacket platform packet input = .ok (sent, after, next)) :
    signature after = signature packet := by
  rcases client.sendPacket_after platform next packet after input sent done with ⟨type, id, qos⟩
  rw [signature, signature, type, id, qos]

/-- A packet that has been sent joins the queue, if it has a QoS. -/
theorem sendAndQueue_keeps (platform : Platform) (client next : Client) (packet : SendPacket)
    (uchQoS : UInt8) (usPacketIdentifier : UInt16) (input : SendInput) (linked : client.Linked)
    (done : client.sendAndQueue platform packet uchQoS usPacketIdentifier input = .ok next) :
    Keeps client next := by
  simp only [Client.sendAndQueue, bind_ok] at done
  rcases done with ⟨⟨sent, after, middle⟩, sending, done⟩
  have framed := client.sendPacket_framed platform middle packet after input sent sending
  split at done
  · split at done <;> cases done
    · intro _
      have joined := (Client.insertByTime_perm { after with
        qos := uchQoS, packetIdentifier := usPacketIdentifier
        scheduledTime := input.queueTicks + platform.resendTimeout }
        middle.retransmissionQueue).map signature
      rw [outstanding, ← framed.retransmissionQueue]
      exact ((List.sublist_cons_self _ _).subperm).trans joined.symm.subperm
    · exact keeps_framed client _ framed
  · exact keeps_closed middle next client _ (client.linked_framed middle framed linked) done

theorem connect_keeps (config : Config) (client next : Client) (request : ConnectRequest)
    (input : ConnectInput) (done : client.connect config request input = .ok next) :
    Keeps client next := by
  rcases client.connect_outcome config next request input done with
    ⟨-, ⟨-, reason, -, rfl⟩ | ⟨-, packet, after, middle, sent, -, sending, outcome⟩⟩
  · exact fun _ => List.Subperm.refl _
  · have framed := Client.sendPacket_framed config.toPlatform _ middle packet after input.send sent
      sending
    have opened : Keeps client middle :=
      keeps_framed (client.opened request.keepAliveSeconds) middle framed
    rcases outcome with ⟨-, rfl⟩ | ⟨-, closing⟩
    · exact opened
    · have linked : (client.opened request.keepAliveSeconds).Linked :=
        ⟨fun _ => by simp [Client.opened], fun _ => rfl⟩
      exact keeps_closed middle next client _ (Client.linked_framed _ middle framed linked) closing

theorem disconnect_keeps (config : Config) (client next : Client) (bForce : Bool)
    (input : SendInput) (linked : client.Linked)
    (done : client.disconnect config bForce input = .ok next) : Keeps client next := by
  unfold Client.disconnect at done
  split at done
  · exact keeps_closed client next client _ linked done
  · simp only [bind_ok] at done
    rcases done with ⟨⟨sent, after, middle⟩, sending, closing⟩
    have framed := client.sendPacket_framed config.toPlatform middle _ after input sent sending
    exact keeps_closed middle next client _ (client.linked_framed middle framed linked) closing

theorem keepAliveHandler_keeps (config : Config) (client next : Client) (ticks : UInt32)
    (input : SendInput) (linked : client.Linked)
    (done : client.keepAliveHandler config.toPlatform ticks input = .ok next) :
    Keeps client next := by
  unfold Client.keepAliveHandler at done
  split at done
  · dsimp only at done
    split at done
    · simp only [bind_ok] at done
      rcases done with ⟨⟨sent, after, middle⟩, sending, done⟩
      have framed := client.stopTimer.sendPacket_framed config.toPlatform middle _ after input sent
        sending
      split at done
      · cases done
        exact keeps_framed client.stopTimer _ framed
      · exact keeps_closed middle next client _
          (client.stopTimer.linked_framed middle framed linked) done
    · simp only [bind_ok] at done
      rcases done with ⟨_, -, closing⟩
      exact keeps_closed client.stopTimer next client _ linked closing
  · cases done
    exact fun _ => List.Subperm.refl _

-- The packet in hand is put back with its signature before the loop goes on.
theorem senderLoop_keeps (config : Config) (nTicks : UInt32) (client next : Client)
    (passed ahead : List SendPacket) (inputs : List SendInput) (linked : client.Linked)
    (done : client.senderLoop config.toPlatform nTicks passed ahead inputs = .ok (some next)) :
    next.socket = true → ((passed ++ ahead).map signature).Perm (outstanding next) := by
  induction inputs generalizing client passed ahead with
  | nil =>
      unfold Client.senderLoop at done
      split at done
      · cases done
        simp [outstanding, Client.withQueue]
      · split at done
        · cases done
          exact fun _ => .refl _
        · cases done
  | cons input inputs ih =>
      unfold Client.senderLoop at done
      split at done
      · cases done
        simp [outstanding, Client.withQueue]
      · rename_i due rest
        split at done
        · cases done
          exact fun _ => .refl _
        · simp only [bind_ok] at done
          rcases done with ⟨packet, marked, ⟨sent, after, middle⟩, sending, done⟩
          have framed := Client.sendPacket_framed config.toPlatform _ middle packet after input sent
            sending
          have stays : middle.Linked :=
            Client.linked_framed (client.withQueue (passed ++ rest)) middle framed linked
          split at done
          · intro open_
            have whole := ih middle _ _ stays done open_
            have perm := (Client.reinsert_perm
              { after with scheduledTime := input.queueTicks + config.toPlatform.resendTimeout }
              passed rest).map signature
            have same : signature { after with
                scheduledTime := input.queueTicks + config.toPlatform.resendTimeout } =
                signature due := by
              rcases Client.markRepeated_same due packet marked with ⟨type, id, qos⟩
              have kept := signature_after config.toPlatform _ middle packet after input sent
                sending
              rw [show signature { after with
                scheduledTime := input.queueTicks + config.toPlatform.resendTimeout } =
                signature after from rfl, kept, signature, signature, type, id, qos]
            rw [List.map_cons, same, ← List.map_cons] at perm
            exact ((List.perm_middle.map signature).trans perm.symm).trans whole
          · simp only [bind_ok, pure_ok, Except.ok.injEq, Option.some.injEq] at done
            rcases done with ⟨closed, closing, rfl⟩
            intro open_
            rcases middle.closeConnection_kept closed _ stays closing with ⟨good, -, offline⟩
            exact absurd offline (good.mp open_)

/-- No operation but a round of `Receiver` makes an entry leave. -/
theorem perform_keeps (config : Config) (client next : Client)
    (operation : Operation config.toPlatform) (linked : client.Linked)
    (own : operation.isReceiver = false)
    (done : perform config client operation = .ok (some next)) : Keeps client next := by
  cases perform_performs config client next operation done with
  | receiver input _ _ done => cases own
  | sender nTicks inputs _ done =>
      intro open_
      have perm := senderLoop_keeps config nTicks client next [] _ inputs linked done open_
      rw [List.nil_append] at perm
      exact perm.subperm
  | connect request input _ done => exact connect_keeps config client next request input done
  | disconnect bForce input _ done =>
      exact disconnect_keeps config client next bForce input linked done
  | subscribe pTopic uchQoS input _ done =>
      simp only [Client.subscribe, bind_ok] at done
      rcases done with ⟨_, -, packet, -, done⟩
      exact sendAndQueue_keeps config.toPlatform client.advanceIdentifier next packet 1 _ input
        linked done
  | unsubscribe pTopic input _ done =>
      simp only [Client.unsubscribe, bind_ok] at done
      rcases done with ⟨packet, -, done⟩
      exact sendAndQueue_keeps config.toPlatform client.advanceIdentifier next packet 1 _ input
        linked done
  | publish pTopic payload uchQoS bRetain input _ done =>
      simp only [Client.publish, bind_ok] at done
      rcases done with ⟨_, -, packet, -, done⟩
      exact sendAndQueue_keeps config.toPlatform client.advanceIdentifier next packet uchQoS _ input
        linked done
  | keepAliveHandler ticks input _ done =>
      exact keepAliveHandler_keeps config client next ticks input linked done

def addressed (client : Client) (usPacketIdentifier : UInt16) : Option SendPacket :=
  client.retransmissionQueue.find? (bears usPacketIdentifier)

def others (client : Client) (usPacketIdentifier : UInt16) : List SendPacket :=
  client.retransmissionQueue.eraseP (bears usPacketIdentifier)

def Completes (client next : Client) (usPacketIdentifier : UInt16) (uchQoS : UInt8) : Prop :=
  ∃ entry, addressed client usPacketIdentifier = some entry ∧ entry.qos = uchQoS ∧
    (next.socket = true →
      ((others client usPacketIdentifier).map signature).Subperm (outstanding next))

def ClosedFor (client next : Client) (reason : DisconnectReason) : Prop :=
  next.socket = false ∧ next.log = client.log ++ [.onDisconnect reason]

theorem closeConnection_closedFor (client next : Client) (reason : DisconnectReason)
    (online : client.status ≠ .disconnected) (done : client.closeConnection reason = .ok next) :
    ClosedFor client next reason := by
  rcases client.closeConnection_cases next reason done with ⟨offline, -⟩ | ⟨-, -, rfl⟩
  · exact absurd offline online
  · exact ⟨rfl, rfl⟩

/-- A wrong entry leaves the queue too, and the connection ends. -/
theorem wrong_closedFor (client next : Client) (usPacketIdentifier : UInt16)
    (online : client.status ≠ .disconnected)
    (closing : (client.removePacketFromQueue usPacketIdentifier).2.closeConnection
      .packetIdentifier = .ok next) : ClosedFor client next .packetIdentifier := by
  rw [client.removePacketFromQueue_eq] at closing
  exact closeConnection_closedFor (client.withQueue (others client usPacketIdentifier)) next _
    online closing

theorem not_addressed (client : Client) (usPacketIdentifier : UInt16) (uchQoS : UInt8)
    (other : ∀ entry, (client.removePacketFromQueue usPacketIdentifier).1 = some entry →
      entry.qos ≠ uchQoS) :
    ¬ ∃ entry, addressed client usPacketIdentifier = some entry ∧ entry.qos = uchQoS := by
  rintro ⟨entry, found, same⟩
  rw [client.removePacketFromQueue_eq] at other
  exact other entry found same

theorem release_completes (client next : Client) (usPacketIdentifier : UInt16) (uchQoS : UInt8)
    (online : client.status ≠ .disconnected)
    (done : client.release usPacketIdentifier uchQoS = .ok next) :
    if ∃ entry, addressed client usPacketIdentifier = some entry ∧ entry.qos = uchQoS then
      Completes client next usPacketIdentifier uchQoS
    else ClosedFor client next .packetIdentifier := by
  have wrong := wrong_closedFor client next usPacketIdentifier online
  rcases client.release_cases next usPacketIdentifier uchQoS done with
    ⟨other, closing⟩ | ⟨entry, found, same, rfl⟩
  · rw [if_neg (not_addressed client usPacketIdentifier uchQoS other)]
    exact wrong closing
  · rw [client.removePacketFromQueue_eq] at found ⊢
    rw [if_pos ⟨entry, found, same⟩]
    exact ⟨entry, found, same, fun _ => .refl _⟩

theorem respondPubRec_completes (platform : Platform) (client next : Client)
    (usPacketIdentifier : UInt16) (input : SendInput) (linked : client.Linked)
    (online : client.status ≠ .disconnected)
    (done : client.respondPubRec platform usPacketIdentifier input = .ok next) :
    if ∃ entry, addressed client usPacketIdentifier = some entry ∧ entry.qos = 2 then
      Completes client next usPacketIdentifier 2
    else ClosedFor client next .packetIdentifier := by
  have wrong := wrong_closedFor client next usPacketIdentifier online
  rcases client.respondPubRec_cases platform next usPacketIdentifier input done with
    ⟨other, closing⟩ | ⟨entry, packet, found, same, -, sent⟩
  · rw [if_neg (not_addressed client usPacketIdentifier 2 other)]
    exact wrong closing
  · rw [client.removePacketFromQueue_eq] at found sent
    rw [if_pos ⟨entry, found, same⟩]
    refine ⟨entry, found, same, ?_⟩
    exact sendAndQueue_keeps platform
      (client.withQueue (client.retransmissionQueue.eraseP (bears usPacketIdentifier))) next
      packet 2 usPacketIdentifier input linked sent

theorem respondMessage_keeps (platform : Platform) (client next : Client) (uchQoS : UInt8)
    (usPacketIdentifier : UInt16) (message : Message) (input : SendInput) (linked : client.Linked)
    (done : client.respondMessage platform uchQoS usPacketIdentifier message input = .ok next) :
    Keeps client next := by
  rcases client.respondMessage_cases platform next uchQoS usPacketIdentifier message input done with
    ⟨-, rfl⟩ | ⟨-, sent, middle, answered, outcome⟩
  · exact fun _ => .refl _
  · have framed := client.answer_framed platform middle _ _ input sent answered
    have kept := keeps_framed client middle framed
    rcases outcome with ⟨-, closing⟩ | ⟨-, -, rfl⟩ | ⟨-, -, -, rfl⟩ | ⟨-, -, -, rfl⟩
    · exact keeps_closed middle next client _ (client.linked_framed middle framed linked) closing
    · exact kept
    · exact kept
    · exact kept

theorem respondPubRel_keeps (platform : Platform) (client next : Client)
    (usPacketIdentifier : UInt16) (input : SendInput) (linked : client.Linked)
    (done : client.respondPubRel platform usPacketIdentifier input = .ok next) :
    Keeps client next := by
  rcases client.respondPubRel_cases platform next usPacketIdentifier input done with
    ⟨-, closing⟩ | ⟨-, sent, middle, answered, outcome⟩
  · exact keeps_closed client next client _ linked closing
  · have framed := client.answer_framed platform middle _ _ input sent answered
    rcases outcome with ⟨-, closing⟩ | ⟨-, rfl⟩
    · exact keeps_closed middle next client _ (client.linked_framed middle framed linked) closing
    · exact keeps_framed client middle framed

/-- Packets that acknowledge nothing leave the queue alone. -/
theorem respond_keeps (config : Config) (client next : Client) (first : Packet)
    (input : SendInput) (linked : client.Linked) (other : askedQoS first.type = none)
    (done : client.respond config first input = .ok next) : Keeps client next := by
  unfold Client.respond at done
  cases type : first.type <;> rw [type] at done other <;> dsimp only at done
  case pubAck | pubRec | pubComp | subAck | unsubAck => cases other
  case connAck =>
      rcases client.respondConnAck_cases next _ _ done with
        ⟨-, closing⟩ | ⟨-, ⟨-, rfl⟩ | ⟨-, closing⟩⟩
      · exact keeps_closed client next client _ linked closing
      · exact fun _ => .refl _
      · exact keeps_closed client next client _ linked closing
  case publish =>
      rcases client.respondPublish_cases config next first input done with
        ⟨reason, -, closing⟩ | ⟨usPacketIdentifier, message, -, told⟩
      · exact keeps_closed client next client reason linked closing
      · exact respondMessage_keeps config.toPlatform client next _ _ message input linked told
  case pubRel => exact respondPubRel_keeps config.toPlatform client next _ input linked done
  case pingResp =>
      cases done
      unfold Client.respondPingResp
      split <;> exact fun _ => .refl _
  all_goals cases done

def Refusal (first : Packet) : Prop := first.type = .subAck ∧ codeAt 2 first.body > 2

theorem respond_acknowledged (config : Config) (client next : Client) (first : Packet)
    (uchQoS : UInt8) (input : SendInput) (linked : client.Linked)
    (online : client.status ≠ .disconnected) (asked : askedQoS first.type = some uchQoS)
    (done : client.respond config first input = .ok next) :
    (Refusal first → ClosedFor client next .subscribeError) ∧
    (¬ Refusal first →
      if ∃ entry, addressed client (identifierOf first.body) = some entry ∧ entry.qos = uchQoS then
        Completes client next (identifierOf first.body) uchQoS
      else ClosedFor client next .packetIdentifier) := by
  unfold Client.respond at done
  unfold Refusal
  cases type : first.type <;> rw [type] at done asked <;> cases asked <;> dsimp only at done
  case subAck =>
      rcases client.respondSubAck_cases next _ _ done with ⟨bad, closing⟩ | ⟨fine, released⟩
      · refine ⟨fun _ => closeConnection_closedFor client next _ online closing, ?_⟩
        intro fine
        exact absurd ⟨rfl, bad⟩ fine
      · exact ⟨fun bad => absurd bad.2 fine,
          fun _ => release_completes client next _ 1 online released⟩
  case pubRec =>
      exact ⟨fun bad => absurd bad.1 (by decide), fun _ =>
        respondPubRec_completes config.toPlatform client next _ input linked online done⟩
  all_goals
    exact ⟨fun bad => absurd bad.1 (by decide),
      fun _ => release_completes client next _ _ online done⟩

theorem receiver_acknowledged (config : Config) (client next : Client)
    (input : ReceiveInput config.toPlatform) (more : Bool) (first : Packet) (rest : List UInt8)
    (sound : Sound config client)
    (done : client.receiverPass config input = .ok (more, next))
    (there : client.front config input = some (first, rest)) (accepted : first.Accepted) :
    client.status ≠ .disconnected ∧ ∃ packet result,
      client.respond config first input.send = .ok result ∧ next = result.withPacket packet := by
  rcases client.receiverPass_cases config next input more sound done with
    ⟨missing, -⟩ | ⟨found, tail, packet, result, again, -, open_, responded, same⟩
  · exact absurd accepted (missing first rest there)
  · cases again.symm.trans there
    exact ⟨sound.linked.mp open_, packet, result, responded, same⟩

/-- A round of `Receiver` has made an entry leave, by an acknowledgement for it. -/
def Acknowledged (config : Config) (client next : Client)
    (input : ReceiveInput config.toPlatform) : Prop :=
  ∃ first rest uchQoS entry, client.front config input = some (first, rest) ∧ first.Accepted ∧
    askedQoS first.type = some uchQoS ∧ ¬ Refusal first ∧
    addressed client (identifierOf first.body) = some entry ∧ entry.qos = uchQoS ∧
    Queueable entry.type uchQoS ∧
    ((others client (identifierOf first.body)).map signature).Subperm (outstanding next)

theorem receiver_leaves (config : Config) (client next : Client)
    (input : ReceiveInput config.toPlatform) (more : Bool) (kept : Kept config client)
    (done : client.receiverPass config input = .ok (more, next)) (open_ : next.socket = true) :
    (outstanding client).Subperm (outstanding next) ∨ Acknowledged config client next input := by
  have linked := kept.sound.linked
  rcases client.receiverPass_cases config next input more kept.sound done with
    ⟨-, packet, rfl | ⟨reason, closed, -, closing, rfl⟩⟩ |
    ⟨first, rest, packet, result, there, accepted, online, responded, rfl⟩
  · exact Or.inl (List.Subperm.refl _)
  · exact Or.inl (keeps_closed client closed client reason linked closing open_)
  · cases asked : askedQoS first.type with
    | none =>
        exact Or.inl (respond_keeps config client result first input.send linked asked responded
          open_)
    | some uchQoS =>
        rcases respond_acknowledged config client result first uchQoS input.send linked
          (linked.mp online) asked responded with ⟨refused, answered⟩
        have fine : ¬ Refusal first := by
          intro bad
          cases (refused bad).1.symm.trans open_
        have outcome := answered fine
        split at outcome
        · rcases outcome with ⟨entry, found, qos, left⟩
          have kind := kept.queued.fits entry (List.mem_of_find?_eq_some found)
          exact Or.inr ⟨first, rest, uchQoS, entry, there, accepted, asked, fine, found, qos,
            qos ▸ kind, left open_⟩
        · cases outcome.1.symm.trans open_

theorem receiver_closes (config : Config) (client next : Client)
    (input : ReceiveInput config.toPlatform) (more : Bool) (first : Packet) (rest : List UInt8)
    (uchQoS : UInt8) (sound : Sound config client)
    (done : client.receiverPass config input = .ok (more, next))
    (there : client.front config input = some (first, rest)) (accepted : first.Accepted)
    (asked : askedQoS first.type = some uchQoS) :
    (Refusal first → ClosedFor client next .subscribeError) ∧
      (¬ Refusal first →
        (∀ entry, addressed client (identifierOf first.body) = some entry → entry.qos ≠ uchQoS) →
        ClosedFor client next .packetIdentifier) := by
  rcases receiver_acknowledged config client next input more first rest sound done there accepted
    with ⟨online, packet, result, responded, rfl⟩
  rcases respond_acknowledged config client result first uchQoS input.send sound.linked online asked
    responded with ⟨refused, answered⟩
  refine ⟨refused, ?_⟩
  intro fine missing
  have outcome := answered fine
  rw [if_neg (by rintro ⟨entry, found, qos⟩; exact missing entry found qos)] at outcome
  exact outcome

/-- In every run: while the connection stays open, an entry leaves the queue only at
an acknowledgement with its identifier and for its QoS value; and an
acknowledgement that finds no such entry, or reports a failure, closes the
connection. -/
theorem entries_leave_only_acknowledged (config : Config) (client last next : Client)
    (operations : List (Operation config.toPlatform)) (operation : Operation config.toPlatform)
    (constructed : Constructed config client)
    (reached : run (step config) (.running client) operations = some (.running last))
    (done : perform config last operation = .ok (some next)) :
    (next.socket = true →
      (outstanding last).Subperm (outstanding next) ∨
      ∃ input, operation = .receiver input ∧ Acknowledged config last next input) ∧
    ∀ input first rest uchQoS, operation = .receiver input →
      last.front config input = some (first, rest) → first.Accepted →
      askedQoS first.type = some uchQoS →
      (Refusal first → ClosedFor last next .subscribeError) ∧
      (¬ Refusal first →
        (∀ entry, addressed last (identifierOf first.body) = some entry → entry.qos ≠ uchQoS) →
        ClosedFor last next .packetIdentifier) := by
  have kept := reached_kept config client last operations constructed reached
  by_cases own : operation.isReceiver = false
  · refine ⟨fun open_ => Or.inl (perform_keeps config last next operation kept.sound.linked own
      done open_), ?_⟩
    rintro input first rest uchQoS rfl
    cases own
  · cases perform_performs config last next operation done with
    | receiver input more _ done =>
        constructor
        · intro open_
          rcases receiver_leaves config last next input more kept done open_ with stays | left
          · exact Or.inl stays
          · exact Or.inr ⟨input, rfl, left⟩
        · rintro other first rest uchQoS same there accepted asked
          cases same
          exact receiver_closes config last next input more first rest uchQoS kept.sound done there
            accepted asked
    | _ => exact absurd rfl own

def subscribing : List (Operation Config.default.toPlatform) :=
  [.connect plainRequest smoothConnect, .receiver (delivers [0x20, 2, 0, 0] connAck_short),
    .subscribe [97] 1 .willing]

/-- for which a PUBACK arrives: it completes the SUBSCRIBE and the connection stays
open. A SUBACK that reports a failure closes the connection for another reason
than its identifier, which is in no entry. -/
theorem pubAck_completes_subscribe :
    ∃ last next closed,
      run (step Config.default) (.running (Client.fresh Config.default)) subscribing =
        some (.running last) ∧
      outstanding last = [(.subscribe, 1, 1)] ∧
      last.receiverPass Config.default (delivers [0x40, 2, 0, 1] (by decide)) = .ok (true, next) ∧
      outstanding next = [] ∧ next.socket = true ∧
      last.receiverPass Config.default (delivers [0x90, 3, 0, 7, 0x80] (by decide)) =
        .ok (true, closed) ∧
      closed.log = last.log ++ [.onDisconnect .subscribeError] :=
  ⟨_, _, _, rfl, rfl, rfl, rfl, rfl, rfl, rfl⟩

/-- A PUBACK for an identifier that is not in the queue. -/
theorem strayPubAck_closes :
    ∃ last next,
      run (step Config.default) (.running (Client.fresh Config.default)) subscribing =
        some (.running last) ∧
      last.receiverPass Config.default (delivers [0x40, 2, 0, 2] (by decide)) = .ok (true, next) ∧
      ClosedFor last next .packetIdentifier := by
  refine ⟨_, _, rfl, rfl, ?_⟩
  refine ((entries_leave_only_acknowledged Config.default (Client.fresh Config.default) _ _
    subscribing (.receiver (delivers [0x40, 2, 0, 2] (by decide)))
    (fresh_constructed Config.default) rfl rfl).2 (delivers [0x40, 2, 0, 2] (by decide))
    ⟨0x40, [0, 2]⟩ [] 1 rfl rfl rfl rfl).2 ?_ ?_
  · exact fun refusal => absurd refusal.1 (by decide)
  · intro entry found
    cases found

end CircleStdlib.Mqtt.Acknowledgements
