import CircleStdlib.Broker
import CircleStdlib.LifeCycle

/-!
Why the answers of the broker find their packets. Every packet in the
retransmission queue has exactly one answer to come: its request is on the way to
the broker, the broker owes the answer, or the answer is on the way back. Each
request puts one packet into the queue and each answer takes one out; a PUBREC
takes out the PUBLISH and puts the PUBREL in its place. The balance is lost as
soon as `Sender` repeats a packet: then two answers come for one entry, and the
second one finds none.
-/

namespace CircleStdlib.Mqtt.Broker

open ByteMemory Checked CText Execution Acknowledgements Tickets

def Tells (client next : Client) (bytes : List UInt8) : Prop :=
  ∃ events, next.log = client.log ++ events ∧ Event.onDisconnect .packetIdentifier ∉ events ∧
    handed events = bytes

/-- How a step goes that takes no acknowledgement off the queue. -/
inductive Turn (client next : Client) : Prop where
  | closed (bytes : List UInt8) (offline : next.status = .disconnected)
      (tells : Tells client next bytes) : Turn client next
  | plain (packets : List Packet) (online : next.status ≠ .disconnected)
      (tells : Tells client next (packets.flatMap Packet.bytes))
      (sized : ∀ packet ∈ packets, packet.Sized) (free : packets.filterMap due = [])
      (buffer : next.receivePacket = client.receivePacket)
      (queue : next.retransmissionQueue = client.retransmissionQueue) : Turn client next
  | asking (packet : Packet) (entry : SendPacket) (online : next.status ≠ .disconnected)
      (tells : Tells client next packet.bytes) (sized : packet.Sized)
      (asks : due packet = some (awaited entry))
      (fresh : ∀ other ∈ client.retransmissionQueue,
        other.packetIdentifier ≠ entry.packetIdentifier)
      (buffer : next.receivePacket = client.receivePacket)
      (queue : next.retransmissionQueue.Perm (entry :: client.retransmissionQueue)) :
      Turn client next

theorem tells_same (client next : Client) (log : next.log = client.log) : Tells client next [] :=
  ⟨[], by simp [log], by simp, rfl⟩

theorem handed_append (left right : List Event) :
    handed (left ++ right) = handed left ++ handed right :=
  List.flatMap_append

theorem tells_trans {client middle next : Client} {left right : List UInt8}
    (first : Tells client middle left) (second : Tells middle next right) :
    Tells client next (left ++ right) := by
  rcases first with ⟨before, log, clean, rfl⟩
  rcases second with ⟨after, more, other, rfl⟩
  refine ⟨before ++ after, ?_, ?_, handed_append before after⟩
  · rw [more, log, List.append_assoc]
  · simp [clean, other]

/-- A callback other than `OnDisconnect` goes unnoticed here. -/
theorem tells_record (client next : Client) (event : Event)
    (log : next.log = client.log ++ [event]) (silent : handed [event] = [])
    (other : event ≠ .onDisconnect .packetIdentifier) : Tells client next [] :=
  ⟨[event], log, by simpa using other.symm, silent⟩

theorem tells_added (client next : Client) (bytes : List UInt8) (tells : Tells client next bytes) :
    handed (added client next) = bytes := by
  rcases tells with ⟨events, log, -, given⟩
  rw [added, log, List.drop_left]
  exact given

theorem tells_undisturbed (client next : Client) (bytes : List UInt8)
    (tells : Tells client next bytes)
    (clean : Event.onDisconnect .packetIdentifier ∉ client.log) :
    Event.onDisconnect .packetIdentifier ∉ next.log := by
  rcases tells with ⟨events, log, other, -⟩
  rw [log]
  simp [clean, other]

theorem turn_tells (client next : Client) (turn : Turn client next) :
    ∃ bytes, Tells client next bytes := by
  cases turn with
  | closed bytes offline tells => exact ⟨bytes, tells⟩
  | plain packets online tells => exact ⟨_, tells⟩
  | asking packet entry online tells => exact ⟨_, tells⟩

/-- What goes out keeps the balance. -/
theorem turn_balanced (client next : Client) (flying : List (PacketType × UInt16))
    (turn : Turn client next) (online : next.status ≠ .disconnected)
    (balanced : Balanced awaited Prod.snd client.retransmissionQueue flying) :
    ∃ packets : List Packet, Tells client next (packets.flatMap Packet.bytes) ∧
      (∀ packet ∈ packets, packet.Sized) ∧
      Balanced awaited Prod.snd next.retransmissionQueue (packets.filterMap due ++ flying) := by
  cases turn with
  | closed bytes offline tells => exact absurd offline online
  | plain packets _ tells sized free _ queue =>
      refine ⟨packets, tells, sized, ?_⟩
      rw [free, queue]
      exact balanced
  | asking packet entry _ tells sized asks fresh _ queue =>
      refine ⟨[packet], by simpa using tells, by simpa using sized, ?_⟩
      have issued := balanced_issue balanced entry next.retransmissionQueue queue fresh
      simpa [asks] using issued

/-! The building blocks. -/

theorem close_turn (client middle next : Client) (bytes : List UInt8) (reason : DisconnectReason)
    (other : reason ≠ .packetIdentifier) (tells : Tells client middle bytes)
    (done : middle.closeConnection reason = .ok next) : Turn client next := by
  rcases middle.closeConnection_cases next reason done with ⟨offline, rfl⟩ | ⟨-, -, rfl⟩
  · exact .closed bytes offline tells
  · have last : Tells middle (middle.closed reason) [] :=
      tells_record middle _ (.onDisconnect reason) rfl rfl (by simpa using other)
    exact .closed _ rfl (tells_trans tells last)

theorem send_tells (platform : Platform) (client next : Client) (packet after : SendPacket)
    (input : SendInput) (sent : Bool)
    (done : client.sendPacket platform packet input = .ok (sent, after, next)) :
    (sent = true ∧ packet.Ready ∧ next.status ≠ .disconnected ∧
      Tells client next (request packet).bytes) ∨
    (sent = false ∧ ∃ bytes, Tells client next bytes) := by
  rcases client.sendPacket_cases platform next packet after input sent done with
    ⟨-, refused, -, rfl⟩ | ⟨online, -, sending, send, result, -, framed, log, -⟩
  · exact Or.inr ⟨refused, [], tells_same _ _ rfl⟩
  · have silent : Event.onDisconnect .packetIdentifier ∉ sending.events := by
      intro member
      rcases sending_silent sending _ member with ⟨_, _, same⟩
      cases same
    cases accepted : sending.result with
    | false => exact Or.inr ⟨result.trans accepted, _, sending.events, log, silent, rfl⟩
    | true =>
        refine Or.inl ⟨result.trans accepted, ?_⟩
        rcases packet.send_accepted input.socket sending send accepted with ⟨ready, out⟩
        refine ⟨ready, fun offline => online (framed.offline.mp offline), sending.events, log,
          silent, ?_⟩
        simp [Sending.events, out, accepted, handed, wire_bytes]

/-- A packet that no answer is due for. -/
theorem send_plain (platform : Platform) (client next : Client) (packet after : SendPacket)
    (input : SendInput)
    (done : client.sendPacket platform packet input = .ok (true, after, next))
    (free : due (request packet) = none) : Turn client next := by
  rcases send_tells platform client next packet after input true done with
    ⟨-, ready, online, tells⟩ | ⟨refused, -⟩
  · have framed := client.sendPacket_framed platform next packet after input true done
    exact .plain [request packet] online (by simpa using tells)
      (by simpa using request_sized packet ready) (by simp [free]) framed.receivePacket
      framed.retransmissionQueue
  · cases refused

theorem sendAndQueue_turn (platform : Platform) (client next : Client) (packet : SendPacket)
    (uchQoS : UInt8) (usPacketIdentifier : UInt16) (input : SendInput)
    (asks : uchQoS ≥ 1 → packet.Ready →
      due (request packet) = some (answerType packet.type uchQoS, usPacketIdentifier))
    (free : ¬ uchQoS ≥ 1 → due (request packet) = none)
    (fresh : uchQoS ≥ 1 → ∀ other ∈ client.retransmissionQueue,
      other.packetIdentifier ≠ usPacketIdentifier)
    (done : client.sendAndQueue platform packet uchQoS usPacketIdentifier input = .ok next) :
    Turn client next := by
  simp only [Client.sendAndQueue, bind_ok] at done
  rcases done with ⟨⟨sent, after, middle⟩, sending, done⟩
  have framed := client.sendPacket_framed platform middle packet after input sent sending
  rcases send_tells platform client middle packet after input sent sending with
    ⟨rfl, ready, online, tells⟩ | ⟨rfl, bytes, tells⟩
  · simp only [↓reduceIte] at done
    split at done
    · rename_i answered
      cases done
      have same := (client.sendPacket_after platform middle packet after input true sending).1
      refine .asking (request packet) { after with
          qos := uchQoS, packetIdentifier := usPacketIdentifier
          scheduledTime := input.queueTicks + platform.resendTimeout } online tells
        (request_sized packet ready) ?_ (fresh answered) framed.receivePacket ?_
      · rw [asks answered ready, awaited, same]
      · rw [← framed.retransmissionQueue]
        exact Client.insertByTime_perm _ _
    · rename_i plain
      cases done
      exact send_plain platform client _ packet after input sending (free plain)
  · exact close_turn client middle next bytes .sendFailed (by decide) tells done

theorem turn_refl (client : Client) : Turn client client := by
  by_cases offline : client.status = .disconnected
  · exact .closed [] offline (tells_same client client rfl)
  · exact .plain [] offline (tells_same client client rfl) (by simp) rfl rfl rfl

/-- A turn only looks at the log, the receive buffer and the queue of where it began. -/
theorem turn_from (client other next : Client) (log : other.log = client.log)
    (buffer : other.receivePacket = client.receivePacket)
    (queue : other.retransmissionQueue = client.retransmissionQueue) (turn : Turn other next) :
    Turn client next := by
  have tells : ∀ bytes, Tells other next bytes → Tells client next bytes := by
    rintro bytes ⟨events, grown, rest⟩
    exact ⟨events, log ▸ grown, rest⟩
  cases turn with
  | closed bytes offline told => exact .closed bytes offline (tells _ told)
  | plain packets online told sized free kept same =>
      exact .plain packets online (tells _ told) sized free (kept.trans buffer) (same.trans queue)
  | asking packet entry online told sized asks fresh kept joined =>
      exact .asking packet entry online (tells _ told) sized asks (queue ▸ fresh)
        (kept.trans buffer) (queue ▸ joined)

/-! What the application and the task bring about. -/

theorem publish_turn (config : Config) (client next : Client) (pTopic payload : List UInt8)
    (uchQoS : UInt8) (bRetain : Bool) (input : SendInput)
    (orderly : uchQoS ≥ 1 →
      Unused client ∧ (cstr pTopic).length < 65536 ∧ Narrow pTopic payload)
    (done : client.publish config pTopic payload uchQoS bRetain input = .ok next) :
    Turn client next := by
  simp only [Client.publish, bind_ok, require_ok] at done
  rcases done with ⟨_, valid, packet, built, done⟩
  apply turn_from client client.advanceIdentifier next rfl rfl rfl
  apply sendAndQueue_turn config.toPlatform client.advanceIdentifier next packet uchQoS
    client.nextPacketIdentifier input ?_ ?_ ?_ done
  · intro answered ready
    rw [Client.publishPacket_type config _ _ _ _ _ _ packet built]
    rcases orderly answered with ⟨-, short, narrow⟩
    exact due_publish config _ pTopic payload uchQoS bRetain _ packet short narrow valid answered
      built ready
  · intro plain
    rcases qos_values uchQoS valid with rfl | rfl | rfl
    · exact due_publish_plain config _ pTopic payload bRetain _ packet built
    · exact absurd (by decide) plain
    · exact absurd (by decide) plain
  · exact fun answered => (orderly answered).1

theorem subscribe_turn (config : Config) (client next : Client) (pTopic : List UInt8)
    (uchQoS : UInt8) (input : SendInput) (unused : Unused client)
    (narrow : Narrow pTopic [uchQoS])
    (done : client.subscribe config pTopic uchQoS input = .ok next) : Turn client next := by
  simp only [Client.subscribe, bind_ok, require_ok] at done
  rcases done with ⟨_, -, packet, built, done⟩
  apply turn_from client client.advanceIdentifier next rfl rfl rfl
  apply sendAndQueue_turn config.toPlatform client.advanceIdentifier next packet 1
    client.nextPacketIdentifier input ?_ ?_ ?_ done
  · intro _ ready
    rw [Client.subscribePacket_type config _ _ _ _ packet built]
    exact due_subscribe config _ pTopic uchQoS _ packet narrow built ready
  · exact fun plain => absurd (by decide) plain
  · exact fun _ => unused

theorem unsubscribe_turn (config : Config) (client next : Client) (pTopic : List UInt8)
    (input : SendInput) (unused : Unused client) (narrow : Narrow pTopic [])
    (done : client.unsubscribe config pTopic input = .ok next) : Turn client next := by
  simp only [Client.unsubscribe, bind_ok] at done
  rcases done with ⟨packet, built, done⟩
  apply turn_from client client.advanceIdentifier next rfl rfl rfl
  apply sendAndQueue_turn config.toPlatform client.advanceIdentifier next packet 1
    client.nextPacketIdentifier input ?_ ?_ ?_ done
  · intro _ ready
    rw [Client.unsubscribePacket_type config _ _ _ packet built]
    exact due_unsubscribe config _ pTopic _ packet narrow built ready
  · exact fun plain => absurd (by decide) plain
  · exact fun _ => unused

theorem disconnect_turn (config : Config) (client next : Client) (bForce : Bool)
    (input : SendInput) (done : client.disconnect config bForce input = .ok next) :
    Turn client next := by
  unfold Client.disconnect at done
  split at done
  · exact close_turn client client next [] _ (by decide) (tells_same client client rfl) done
  · simp only [bind_ok] at done
    rcases done with ⟨⟨sent, after, middle⟩, sending, closing⟩
    rcases send_tells config.toPlatform client middle _ after input sent sending with
      ⟨-, -, -, tells⟩ | ⟨-, bytes, tells⟩
    · exact close_turn client middle next _ _ (by decide) tells closing
    · exact close_turn client middle next _ _ (by decide) tells closing

theorem keepAliveHandler_turn (platform : Platform) (client next : Client) (ticks : UInt32)
    (input : SendInput) (done : client.keepAliveHandler platform ticks input = .ok next) :
    Turn client next := by
  unfold Client.keepAliveHandler at done
  split at done
  · apply turn_from client client.stopTimer next rfl rfl rfl
    dsimp only at done
    split at done
    · simp only [bind_ok] at done
      rcases done with ⟨⟨sent, after, middle⟩, sending, done⟩
      rcases send_tells platform client.stopTimer middle _ after input sent sending with
        ⟨rfl, -⟩ | ⟨rfl, bytes, tells⟩
      · cases done
        exact send_plain platform client.stopTimer _ _ after input sending
          (due_unanswered _ (SendPacket.create_flags ..) rfl)
      · exact close_turn client.stopTimer middle next _ _ (by decide) tells done
    · simp only [bind_ok] at done
      rcases done with ⟨_, -, closing⟩
      exact close_turn client.stopTimer client.stopTimer next [] _ (by decide)
        (tells_same _ _ rfl) closing
  · cases done
    exact turn_refl client

/-- `Sender` does nothing as long as the first packet in the queue is not due. -/
theorem sender_turn (platform : Platform) (client next : Client) (nTicks : UInt32)
    (inputs : List SendInput)
    (early : ∀ packet, client.retransmissionQueue.head? = some packet →
      later packet.scheduledTime nTicks = true)
    (done : client.sender platform nTicks inputs = .ok (some next)) : Turn client next := by
  unfold Client.sender Client.senderLoop at done
  split at done
  · rename_i empty
    cases done
    exact turn_from client (client.withQueue []) _ rfl rfl empty.symm (turn_refl _)
  · rename_i packet rest queue
    rw [if_pos (early packet (by simp [queue]))] at done
    cases done
    exact turn_refl client

/-! What the packets of the broker bring about. -/

/-- A turn that ends with a callback, or with something that is not looked at here. -/
theorem turn_on (client middle next : Client) (turn : Turn client middle)
    (tells : Tells middle next []) (status : next.status = middle.status)
    (buffer : next.receivePacket = middle.receivePacket)
    (queue : next.retransmissionQueue = middle.retransmissionQueue) : Turn client next := by
  have longer : ∀ bytes, Tells client middle bytes → Tells client next bytes := by
    intro bytes told
    rw [← List.append_nil bytes]
    exact tells_trans told tells
  cases turn with
  | closed bytes offline told => exact .closed bytes (status.trans offline) (longer _ told)
  | plain packets online told sized free kept same =>
      exact .plain packets (status ▸ online) (longer _ told) sized free (buffer.trans kept)
        (queue.trans same)
  | asking packet entry online told sized asks fresh kept joined =>
      exact .asking packet entry (status ▸ online) (longer _ told) sized asks fresh
        (buffer.trans kept) (queue ▸ joined)

theorem answer_turn (platform : Platform) (client next : Client) (type : PacketType)
    (usPacketIdentifier : UInt16) (input : SendInput) (sent : Bool)
    (free : unanswered type = true)
    (done : client.answer platform type usPacketIdentifier input = .ok (sent, next)) :
    (sent = true ∧ Turn client next) ∨ (sent = false ∧ ∃ bytes, Tells client next bytes) := by
  simp only [Client.answer, bind_ok, pure_ok, Except.ok.injEq, Prod.mk.injEq] at done
  rcases done with ⟨packet, built, ⟨_, after, _⟩, sending, rfl, rfl⟩
  have same := SendPacket.appendWord_same _ packet _ built
  rcases send_tells platform client _ packet after input _ sending with ⟨accepted, -⟩ | refused
  · dsimp only at accepted sending ⊢
    subst accepted
    refine Or.inl ⟨rfl, send_plain platform client _ packet after input sending ?_⟩
    exact due_unanswered packet (same.flags ▸ SendPacket.create_flags ..) (same.type ▸ free)
  · exact Or.inr refused

theorem respondMessage_turn (platform : Platform) (client next : Client) (uchQoS : UInt8)
    (usPacketIdentifier : UInt16) (message : Message) (input : SendInput)
    (done : client.respondMessage platform uchQoS usPacketIdentifier message input = .ok next) :
    Turn client next := by
  have told : ∀ middle : Client, Tells middle (middle.record (.onMessage message)) [] :=
    fun middle => tells_record middle _ (.onMessage message) rfl rfl (by simp)
  rcases client.respondMessage_cases platform next uchQoS usPacketIdentifier message input done with
    ⟨-, rfl⟩ | ⟨-, sent, middle, answered, outcome⟩
  · exact turn_on client client _ (turn_refl client) (told client) rfl rfl rfl
  · have free : unanswered (if uchQoS = 1 then .pubAck else .pubRec) = true := by
      split <;> rfl
    rcases answer_turn platform client middle _ _ input sent free answered with
      ⟨accepted, turn⟩ | ⟨refused, bytes, tells⟩
    · rcases outcome with ⟨refused, -⟩ | ⟨-, -, rfl⟩ | ⟨-, -, -, rfl⟩ | ⟨-, -, -, rfl⟩
      · rw [accepted] at refused
        cases refused
      · exact turn_on client middle _ turn (told middle) rfl rfl rfl
      · exact turn
      · exact turn_on client middle _ turn (told middle) rfl rfl rfl
    · rcases outcome with ⟨-, closing⟩ | ⟨accepted, -⟩ | ⟨accepted, -⟩ | ⟨accepted, -⟩
      · exact close_turn client middle next bytes .sendFailed (by decide) tells closing
      all_goals
        rw [refused] at accepted
        cases accepted

theorem respondPubRel_turn (platform : Platform) (client next : Client)
    (usPacketIdentifier : UInt16) (input : SendInput)
    (done : client.respondPubRel platform usPacketIdentifier input = .ok next) :
    Turn client next := by
  rcases client.respondPubRel_cases platform next usPacketIdentifier input done with
    ⟨-, closing⟩ | ⟨-, sent, middle, answered, outcome⟩
  · exact close_turn client client next [] _ (by decide) (tells_same client client rfl) closing
  · rcases answer_turn platform client middle .pubComp _ input sent rfl answered with
      ⟨rfl, turn⟩ | ⟨rfl, bytes, tells⟩
    · rcases outcome with ⟨refused, -⟩ | ⟨-, rfl⟩
      · cases refused
      · exact turn_on client middle _ turn (tells_same middle _ rfl) rfl rfl rfl
    · rcases outcome with ⟨-, closing⟩ | ⟨accepted, -⟩
      · exact close_turn client middle next bytes .sendFailed (by decide) tells closing
      · cases accepted

theorem ofReturnCode_other (code : UInt8) :
    DisconnectReason.ofReturnCode code ≠ .packetIdentifier := by
  unfold DisconnectReason.ofReturnCode
  split <;> decide

theorem publishRead_reason (limit : Nat) (flags : UInt8) (body : List UInt8)
    (reason : DisconnectReason) (refused : publishRead limit flags body = some (.refused reason)) :
    reason ≠ .packetIdentifier := by
  unfold publishRead at refused
  split at refused
  · cases refused
    decide
  · split at refused
    · split at refused
      · split at refused <;> cases refused
        decide
      · cases refused
    · cases refused

/-- A packet that acknowledges nothing. -/
theorem respond_turn (config : Config) (client next : Client) (first : Packet)
    (input : SendInput) (other : askedQoS first.type = none)
    (done : client.respond config first input = .ok next) : Turn client next := by
  have closes : ∀ reason, reason ≠ .packetIdentifier →
      client.closeConnection reason = .ok next → Turn client next :=
    fun reason other => close_turn client client next [] reason other (tells_same client client rfl)
  unfold Client.respond at done
  cases type : first.type <;> rw [type] at done other <;> dsimp only at done
  case pubAck | pubRec | pubComp | subAck | unsubAck => cases other
  case connAck =>
      rcases client.respondConnAck_cases next _ _ done with
        ⟨-, closing⟩ | ⟨-, ⟨-, rfl⟩ | ⟨-, closing⟩⟩
      · exact closes _ (by decide) closing
      · refine .plain [] (by simp [Client.record]) ?_ (by simp) rfl rfl rfl
        exact tells_record client _ (.onConnect _) rfl rfl (by simp)
      · exact closes _ (ofReturnCode_other _) closing
  case publish =>
      rcases client.respondPublish_cases config next first input done with
        ⟨reason, refused, closing⟩ | ⟨usPacketIdentifier, message, -, told⟩
      · exact closes reason (publishRead_reason _ _ _ reason refused) closing
      · exact respondMessage_turn config.toPlatform client next _ _ message input told
  case pubRel => exact respondPubRel_turn config.toPlatform client next _ input done
  case pingResp =>
      cases done
      unfold Client.respondPingResp
      split <;> exact .plain [] (by simp [Client.startTimer]) (tells_same _ _ rfl) (by simp) rfl rfl
        rfl
  all_goals cases done

def settles (packet : Packet) : Option (PacketType × UInt16) :=
  (askedQoS packet.type).map fun _ => (packet.type, identifierOf packet.body)

def Proper (packet : Packet) : Prop :=
  packet.Sized ∧
    (askedQoS packet.type = none ∨ ∃ code ticket, code ≤ 2 ∧ packet = answer code ticket)

theorem answer_type (code : UInt8) (ticket : PacketType × UInt16) :
    (answer code ticket).type = ticket.1 := by
  have control := (SendPacket.control_parts ticket.1 0 (by decide)).1
  rwa [UInt8.or_zero] at control

theorem answer_identifier (code : UInt8) (ticket : PacketType × UInt16) :
    identifierOf (answer code ticket).body = ticket.2 :=
  identifierOf_wordBytes ticket.2 _

theorem answer_settles (code : UInt8) (ticket : PacketType × UInt16)
    (asked : askedQoS ticket.1 ≠ none) : settles (answer code ticket) = some ticket := by
  rcases Option.ne_none_iff_exists'.mp asked with ⟨uchQoS, known⟩
  rw [settles, answer_type, answer_identifier, known]
  rfl

theorem answer_proper (code : UInt8) (ticket : PacketType × UInt16) (success : code ≤ 2) :
    Proper (answer code ticket) := by
  refine ⟨?_, Or.inr ⟨code, ticket, success, rfl⟩⟩
  simp only [Packet.Sized, answer, SendPacket.wordBytes]
  split <;> simp

/-- A queued packet waits for the answer whose handler asks for its QoS value. -/
theorem awaited_qos (packet : SendPacket) (fits : Queueable packet.type packet.qos) :
    askedQoS (awaited packet).1 = some packet.qos := by
  unfold awaited answerType
  unfold Queueable at fits
  cases type : packet.type <;> rw [type] at fits
  case publish => rcases fits with one | two <;> simp [*, askedQoS]
  case subscribe | unsubscribe | pubRel => simp [fits, askedQoS]
  all_goals exact absurd fits id

theorem awaited_asked (packet : SendPacket) : askedQoS (awaited packet).1 ≠ none := by
  unfold awaited answerType
  dsimp only
  split
  · split <;> simp [askedQoS]
  all_goals simp [askedQoS]

/-- An answer whose packet is in the queue takes it out; nothing is wrong with its
identifier. -/
theorem respond_answered (config : Config) (client next : Client) (code : UInt8)
    (entry : SendPacket) (input : SendInput) (success : code ≤ 2)
    (found : client.retransmissionQueue.find? (bears entry.packetIdentifier) = some entry)
    (fits : Queueable entry.type entry.qos)
    (others : ∀ other ∈ client.retransmissionQueue.eraseP (bears entry.packetIdentifier),
      other.packetIdentifier ≠ entry.packetIdentifier)
    (done : client.respond config (answer code (awaited entry)) input = .ok next) :
    Turn (client.withQueue
      (client.retransmissionQueue.eraseP (bears entry.packetIdentifier))) next := by
  have released : client.release entry.packetIdentifier entry.qos = .ok next →
      Turn (client.withQueue
        (client.retransmissionQueue.eraseP (bears entry.packetIdentifier))) next := by
    intro done
    simp only [Client.release, client.removePacketFromQueue_eq, found, ne_eq, not_true_eq_false,
      ↓reduceIte] at done
    cases done
    exact turn_refl _
  have asked := awaited_qos entry fits
  have identifier := answer_identifier code (awaited entry)
  unfold Client.respond at done
  rw [answer_type, identifier] at done
  cases type : (awaited entry).1 <;> rw [type] at done asked <;> dsimp only at done <;>
    simp only [askedQoS, Option.some.injEq, reduceCtorEq] at asked
  case subAck =>
      have byte : codeAt 2 (answer code (awaited entry)).body = code := by
        simp [answer, type, codeAt, SendPacket.wordBytes]
      rw [Client.respondSubAck, byte, if_neg (UInt8.not_lt.mpr success), asked] at done
      exact released done
  case pubRec =>
      have same : ¬ entry.qos ≠ 2 := not_not.mpr asked.symm
      have found : client.retransmissionQueue.find? (bears (awaited entry).2) = some entry := found
      simp only [Client.respondPubRec, client.removePacketFromQueue_eq, found, if_neg same] at done
      rcases (bind_ok _ _ _).mp done with ⟨packet, built, sent⟩
      apply sendAndQueue_turn config.toPlatform _ next packet 2 _ input ?_ ?_ ?_ sent
      · intro _ ready
        rw [(SendPacket.appendWord_same _ packet _ built).type]
        exact due_pubRel _ _ packet built ready
      · exact fun plain => absurd (by decide) plain
      · exact fun _ => others
  all_goals
    rw [asked] at done
    exact released done

/-! The invariant, and what the steps do to it. -/

structure Coming (client : Client) (toBroker : List UInt8) (owed : List (PacketType × UInt16))
    (requests answers : List Packet) : Prop where
  toBroker : toBroker = requests.flatMap Packet.bytes
  requested : ∀ packet ∈ requests, packet.Sized
  answered : ∀ packet ∈ answers, Proper packet
  balanced : Balanced awaited Prod.snd client.retransmissionQueue
    (requests.filterMap due ++ (owed ++ answers.filterMap settles))

structure Flowing (system : System) (requests answers : List Packet) : Prop extends
    Coming system.client system.toBroker system.owed requests answers where
  toClient : system.client.receivePacket.received ++ system.toClient =
    answers.flatMap Packet.bytes

structure Exchanging (config : Config) (system : System) : Prop where
  kept : Kept config system.client
  undisturbed : Undisturbed system
  flowing : system.client.status ≠ .disconnected →
    ∃ requests answers, Flowing system requests answers

theorem take_exchanging (config : Config) (system next : System)
    (holds : Exchanging config system) (taken : act config system .take = some next) :
    Exchanging config next := by
  simp only [act] at taken
  split at taken
  · rename_i packet rest front
    cases taken
    refine ⟨holds.kept, holds.undisturbed, fun online => ?_⟩
    rcases holds.flowing online with ⟨requests, answers, flowing⟩
    rcases firstPacket_stream requests system.toBroker [] rest packet flowing.requested
      (by rw [List.append_nil]; exact flowing.toBroker) front with ⟨others, rfl, left⟩
    rw [List.append_nil] at left
    refine ⟨others, answers, ⟨left, ?_, flowing.answered, ?_⟩, flowing.toClient⟩
    · exact fun packet member => flowing.requested packet (List.mem_cons_of_mem _ member)
    · apply balanced_perm flowing.balanced
      cases asked : due packet with
      | none => simp [asked]
      | some ticket =>
          rw [List.filterMap_cons_some asked, Option.toList_some, List.append_assoc,
            ← List.append_assoc, List.cons_append, ← List.append_assoc]
          exact List.perm_middle
  · cases taken

theorem answered_perm (owed settled : List (PacketType × UInt16)) (index : Nat)
    (ticket : PacketType × UInt16) (there : owed[index]? = some ticket) :
    (owed.eraseIdx index ++ (settled ++ [ticket])).Perm (owed ++ settled) := by
  rcases List.getElem?_eq_some_iff.mp there with ⟨inside, rfl⟩
  have whole := (List.getElem_cons_eraseIdx_perm inside).append_right settled
  rw [← List.append_assoc]
  exact (List.perm_append_singleton _ _).trans whole

theorem answer_exchanging (config : Config) (system next : System) (index : Nat) (code : UInt8)
    (holds : Exchanging config system)
    (taken : act config system (.answer index code) = some next) : Exchanging config next := by
  simp only [act] at taken
  split at taken
  · rename_i success
    split at taken
    · rename_i ticket owed
      cases taken
      refine ⟨holds.kept, holds.undisturbed, fun online => ?_⟩
      rcases holds.flowing online with ⟨requests, answers, flowing⟩
      have member : ticket ∈ system.owed := List.mem_of_getElem? owed
      have settled : settles (answer code ticket) = some ticket := by
        have coming := flowing.balanced.conserved.mem_iff.mp
          (List.mem_append_right _ (List.mem_append_left _ member))
        rcases List.mem_map.mp coming with ⟨entry, -, rfl⟩
        exact answer_settles code (awaited entry) (awaited_asked entry)
      refine ⟨requests, answers ++ [answer code ticket],
        ⟨flowing.toBroker, flowing.requested, ?_, ?_⟩, ?_⟩
      · intro packet member
        rcases List.mem_append.mp member with old | new
        · exact flowing.answered packet old
        · rw [List.mem_singleton.mp new]
          exact answer_proper code ticket success
      · apply balanced_perm flowing.balanced
        apply List.Perm.append_left
        simp only [List.filterMap_append, List.filterMap_cons_some settled, List.filterMap_nil]
        exact answered_perm system.owed _ index ticket owed
      · simp only [List.flatMap_append, ← flowing.toClient, List.append_assoc]
        simp
    · cases taken
  · cases taken

theorem send_exchanging (config : Config) (system next : System) (packet : Packet)
    (holds : Exchanging config system) (taken : act config system (.send packet) = some next) :
    Exchanging config next := by
  simp only [act] at taken
  split at taken
  · rename_i own
    cases taken
    refine ⟨holds.kept, holds.undisturbed, fun online => ?_⟩
    rcases holds.flowing online with ⟨requests, answers, flowing⟩
    have settled : settles packet = none := by simp [settles, own.1]
    refine ⟨requests, answers ++ [packet], ⟨flowing.toBroker, flowing.requested, ?_, ?_⟩, ?_⟩
    · intro other member
      rcases List.mem_append.mp member with old | new
      · exact flowing.answered other old
      · rw [List.mem_singleton.mp new]
        exact ⟨own.2, Or.inl own.1⟩
    · simpa [settled] using flowing.balanced
    · simp only [List.flatMap_append, ← flowing.toClient, List.append_assoc]
      simp
  · cases taken

/-- A turn of the client. `middle` is where it begins: the client, but for an entry that
an answer may have taken out of the queue. -/
theorem turn_flowing (system : System) (middle next : Client) (buffer : ReceivePacket)
    (toClient : List UInt8) (requests answers : List Packet)
    (log : middle.log = system.client.log)
    (coming : Coming middle system.toBroker system.owed requests answers)
    (stream : buffer.received ++ toClient = answers.flatMap Packet.bytes)
    (turn : Turn middle next) (online : next.status ≠ .disconnected) :
    ∃ requests answers, Flowing ⟨next.withPacket buffer,
      system.toBroker ++ handed (added system.client next), system.owed, toClient⟩
      requests answers := by
  rcases turn_balanced middle next _ turn online coming.balanced with
    ⟨packets, tells, sized, balanced⟩
  have given : handed (added system.client next) = packets.flatMap Packet.bytes := by
    rw [← tells_added middle next _ tells, added, added, log]
  rw [given]
  refine ⟨requests ++ packets, answers, ⟨?_, ?_, coming.answered, ?_⟩, stream⟩
  · simp only [List.flatMap_append, coming.toBroker]
  · intro packet member
    exact (List.mem_append.mp member).elim (coming.requested packet) (sized packet)
  · apply balanced_perm balanced
    simp only [List.filterMap_append, List.append_assoc]
    exact List.perm_append_comm_assoc _ _ _

theorem turn_buffer (client next : Client) (turn : Turn client next)
    (online : next.status ≠ .disconnected) : next.receivePacket = client.receivePacket := by
  cases turn with
  | closed bytes offline tells => exact absurd offline online
  | plain packets _ tells sized free buffer queue => exact buffer
  | asking packet entry _ tells sized asks fresh buffer queue => exact buffer

theorem act_client (config : Config) (system next : System)
    (operation : Operation config.toPlatform)
    (taken : act config system (.client operation) = some next) :
    consumed operation <+: system.toClient ∧
      perform config system.client operation = .ok (some next.client) ∧
      (next.client.status ≠ .disconnected → next =
        if operation.isConnect then ⟨next.client, handed (added system.client next.client), [], []⟩
        else ⟨next.client, system.toBroker ++ handed (added system.client next.client),
          system.owed, system.toClient.drop (consumed operation).length⟩) := by
  simp only [act] at taken
  split at taken
  · rename_i ahead
    split at taken
    · rename_i client done
      split at taken
      · rename_i offline
        cases taken
        exact ⟨ahead, done, fun online => absurd offline online⟩
      · rename_i online
        split at taken <;> rename_i kind <;> cases taken
        · exact ⟨ahead, done, fun _ => by rw [if_pos kind]⟩
        · exact ⟨ahead, done, fun _ => by rw [if_neg kind]⟩
    · cases taken
  · cases taken

/-- Every operation but `Connect` and a round of `Receiver`. -/
theorem own_turn (config : Config) (system : System) (next : Client)
    (operation : Operation config.toPlatform) (orderly : Orderly system (.client operation))
    (other : operation.isConnect = false) (own : operation.isReceiver = false)
    (done : perform config system.client operation = .ok (some next)) :
    Turn system.client next := by
  cases perform_performs config system.client next operation done with
  | connect request input _ done => cases other
  | receiver input _ _ done => cases own
  | sender nTicks inputs _ done =>
      exact sender_turn config.toPlatform system.client next nTicks inputs orderly done
  | disconnect bForce input _ done =>
      exact disconnect_turn config system.client next bForce input done
  | subscribe pTopic uchQoS input _ done =>
      exact subscribe_turn config system.client next pTopic uchQoS input orderly.1 orderly.2 done
  | unsubscribe pTopic input _ done =>
      exact unsubscribe_turn config system.client next pTopic input orderly.1 orderly.2 done
  | publish pTopic payload uchQoS bRetain input _ done =>
      exact publish_turn config system.client next pTopic payload uchQoS bRetain input orderly done
  | keepAliveHandler ticks input _ done =>
      exact keepAliveHandler_turn config.toPlatform system.client next ticks input done

theorem turn_undisturbed (client next : Client) (turn : Turn client next)
    (clean : Event.onDisconnect .packetIdentifier ∉ client.log) :
    Event.onDisconnect .packetIdentifier ∉ next.log := by
  rcases turn_tells client next turn with ⟨bytes, tells⟩
  exact tells_undisturbed client next bytes tells clean

theorem own_exchanging (config : Config) (system next : System)
    (operation : Operation config.toPlatform) (holds : Exchanging config system)
    (orderly : Orderly system (.client operation)) (other : operation.isConnect = false)
    (own : operation.isReceiver = false)
    (taken : act config system (.client operation) = some next) : Exchanging config next := by
  rcases act_client config system next operation taken with ⟨-, done, shape⟩
  have turn := own_turn config system next.client operation orderly other own done
  refine ⟨perform_kept config system.client next.client operation holds.kept done,
    turn_undisturbed _ _ turn holds.undisturbed, fun online => ?_⟩
  have before : system.client.status ≠ .disconnected := fun offline => online
    ((LifeCycle.perform_continued config system.client next.client operation holds.kept other
      done).offline offline)
  rcases holds.flowing before with ⟨requests, answers, flowing⟩
  have nothing : consumed operation = [] := by
    cases operation with
    | receiver input => cases own
    | _ => rfl
  rw [shape online, if_neg (by simp [other]), nothing]
  refine turn_flowing system system.client next.client next.client.receivePacket _ requests answers
    rfl flowing.toComing ?_ turn online
  rw [turn_buffer _ _ turn online]
  exact flowing.toClient

theorem connect_exchanging (config : Config) (system next : System) (request : ConnectRequest)
    (input : ConnectInput) (holds : Exchanging config system)
    (taken : act config system (.client (.connect request input)) = some next) :
    Exchanging config next := by
  rcases act_client config system next _ taken with ⟨-, done, shape⟩
  have kept := perform_kept config system.client next.client _ holds.kept done
  simp only [perform, bind_ok, pure_ok, Except.ok.injEq, Option.some.injEq] at done
  rcases done with ⟨_, done, rfl⟩
  rcases system.client.connect_outcome config _ request input done with
    ⟨offline, ⟨-, reason, failure, same⟩ |
      ⟨-, packet, after, middle, sent, built, sending, outcome⟩⟩
  · have other : ∀ reason ∈ Client.connectFailures, reason ≠ .packetIdentifier := by decide
    have tells : Tells system.client next.client [] :=
      tells_record _ _ (.onDisconnect reason) (by rw [same]; rfl) rfl
        (by simpa using other reason failure)
    refine ⟨kept, tells_undisturbed _ _ [] tells holds.undisturbed, fun online => ?_⟩
    rw [same] at online
    exact absurd offline online
  · have start : Turn (system.client.opened request.keepAliveSeconds) next.client := by
      rcases outcome with ⟨rfl, same⟩ | ⟨rfl, closing⟩
      · rw [same]
        have header := Client.connectPacket_same config request input packet built
        refine send_plain config.toPlatform _ middle packet after input.send sending ?_
        exact due_unanswered packet (header.flags ▸ SendPacket.create_flags ..) (header.type ▸ rfl)
      · rcases send_tells config.toPlatform _ middle packet after input.send false sending with
          ⟨accepted, -⟩ | ⟨-, bytes, tells⟩
        · cases accepted
        · exact close_turn _ middle next.client bytes .sendFailed (by decide) tells closing
    refine ⟨kept, turn_undisturbed _ _ start holds.undisturbed, fun online => ?_⟩
    have empty : Balanced awaited Prod.snd
        (system.client.opened request.keepAliveSeconds).retransmissionQueue [] := by
      rw [show (system.client.opened request.keepAliveSeconds).retransmissionQueue = [] from
        holds.kept.queued.empty offline]
      exact balanced_nil
    rw [shape online, if_pos (show (Operation.connect request input).isConnect = true from rfl)]
    refine turn_flowing (begun system.client) (system.client.opened request.keepAliveSeconds)
      next.client next.client.receivePacket [] [] [] rfl ⟨rfl, by simp, by simp, empty⟩ ?_ start
      online
    rw [turn_buffer _ _ start online]
    simp [Client.opened, ReceivePacket.reset, ReceivePacket.received]

/-- A read adds a part of the stream to the buffer. -/
theorem arrival_stream (config : Config) (client : Client) (input : ReceiveInput config.toPlatform)
    (stream toClient : List UInt8) (sound : Sound config client)
    (narrow : config.fillLimit < 2 ^ 32) (ahead : consumed (.receiver input) <+: toClient)
    (arrived : client.arrival config input = some stream) :
    stream ++ toClient.drop (consumed (.receiver input)).length =
      client.receivePacket.received ++ toClient := by
  unfold Client.arrival at arrived
  split at arrived
  · rename_i ready
    rcases input with ⟨_ | read, send⟩
    · cases arrived
    · simp only [ReceiveInput.bytes, Option.map_some, Option.some.injEq] at arrived
      have short := read.property
      have room : client.receivePacket.inPtr + read.val.length < 2 ^ 32 := by
        have space := ready.2.2
        rw [sound.bounded.bufferSize, config.sizeSub_bufferSize] at space
        rw [Config.fillLimit] at narrow
        omega
      rcases ahead with ⟨later, rfl⟩
      rw [← arrived, client.receivePacket.accept_received read.val room]
      simp [consumed, ReceiveInput.bytes]
  · cases arrived

theorem settles_own (packet : Packet) (own : askedQoS packet.type = none) :
    settles packet = none := by
  simp [settles, own]

/-- A round leaves nothing of the packet behind. -/
theorem proper_leftover (first : Packet) (rest : List UInt8) (proper : Proper first) :
    leftover first rest = rest := by
  unfold leftover
  split
  · rename_i acknowledges
    rcases proper.2 with own | ⟨code, ticket, -, rfl⟩
    · rw [acknowledges] at own
      cases own
    · rw [answer_type] at acknowledges
      simp [answer, acknowledges, SendPacket.wordBytes]
  · rfl

/-- When a packet of the broker is dispatched, what has to come for the rest of the queue
is still coming. -/
theorem dispatch_coming (config : Config) (client next : Client) (toBroker : List UInt8)
    (owed : List (PacketType × UInt16)) (requests others : List Packet) (first : Packet)
    (input : SendInput) (queued : Queued client)
    (coming : Coming client toBroker owed requests (first :: others))
    (done : client.respond config first input = .ok next) :
    ∃ middle : Client, middle.log = client.log ∧ Coming middle toBroker owed requests others ∧
      Turn middle next := by
  have behind : ∀ packet ∈ others, Proper packet := fun packet member =>
    coming.answered packet (List.mem_cons_of_mem _ member)
  by_cases own : askedQoS first.type = none
  · refine ⟨client, rfl, ⟨coming.toBroker, coming.requested, behind, ?_⟩,
      respond_turn config client next first input own done⟩
    simpa [settles_own first own] using coming.balanced
  · rcases (coming.answered first List.mem_cons_self).2 with other | ⟨code, ticket, success, rfl⟩
    · exact absurd other own
    rw [answer_type] at own
    -- The ticket that comes back leads to the entry it was issued for.
    have flying : Balanced awaited Prod.snd client.retransmissionQueue
        (ticket :: (requests.filterMap due ++ (owed ++ others.filterMap settles))) := by
      apply balanced_perm coming.balanced
      rw [List.filterMap_cons_some (answer_settles code ticket own), ← List.append_assoc,
        ← List.append_assoc]
      exact List.perm_middle.symm
    rcases balanced_settle ticket flying with ⟨entry, found, rfl, balanced, apart⟩
    have fits := queued.fits entry (List.mem_of_find?_eq_some found)
    exact ⟨client.withQueue (client.retransmissionQueue.eraseP (bears entry.packetIdentifier)), rfl,
      ⟨coming.toBroker, coming.requested, behind, balanced⟩,
      respond_answered config client next code entry input success found fits apart done⟩

/-- A round that dispatches the packet at the front of the stream. -/
theorem dispatch_flowing (config : Config) (system : System) (last : Client)
    (buffer : ReceivePacket) (first : Packet) (stream rest toClient : List UInt8)
    (input : SendInput) (holds : Exchanging config system)
    (online : system.client.status ≠ .disconnected)
    (arrived : stream ++ toClient = system.client.receivePacket.received ++ system.toClient)
    (whole : firstPacket stream = some (first, rest))
    (responded : system.client.respond config first input = .ok last)
    (left : last.status ≠ .disconnected → buffer.received = leftover first rest) :
    Event.onDisconnect .packetIdentifier ∉ last.log ∧
      (last.status ≠ .disconnected → ∃ requests answers, Flowing ⟨last.withPacket buffer,
        system.toBroker ++ handed (added system.client last), system.owed, toClient⟩
        requests answers) := by
  rcases holds.flowing online with ⟨requests, answers, flowing⟩
  rw [flowing.toClient] at arrived
  have sized : ∀ packet ∈ answers, packet.Sized := fun packet member =>
    (flowing.answered packet member).1
  rcases firstPacket_stream answers stream toClient rest first sized arrived whole with
    ⟨others, rfl, behind⟩
  rcases dispatch_coming config system.client last _ _ requests others first input
    holds.kept.queued flowing.toComing responded with ⟨middle, log, coming, turn⟩
  refine ⟨turn_undisturbed middle last turn (log ▸ holds.undisturbed), fun still => ?_⟩
  refine turn_flowing system middle last buffer _ requests others log coming ?_ turn still
  rw [left still, proper_leftover first rest (flowing.answered first List.mem_cons_self)]
  exact behind

theorem receiver_exchanging (config : Config) (system next : System)
    (input : ReceiveInput config.toPlatform) (narrow : config.fillLimit < 2 ^ 32)
    (holds : Exchanging config system)
    (taken : act config system (.client (.receiver input)) = some next) :
    Exchanging config next := by
  rcases act_client config system next _ taken with ⟨ahead, done, shape⟩
  have kept := perform_kept config system.client next.client _ holds.kept done
  have linked := holds.kept.sound.linked
  simp only [perform, bind_ok, pure_ok, Except.ok.injEq, Option.some.injEq] at done
  rcases done with ⟨⟨more, client⟩, done, same⟩
  dsimp only at same
  rw [← same] at kept shape
  -- What is left to show, for the client that the round leaves.
  suffices goal : Event.onDisconnect .packetIdentifier ∉ client.log ∧
      (client.status ≠ .disconnected → ∃ requests answers, Flowing ⟨client, system.toBroker ++
        handed (added system.client client), system.owed,
        system.toClient.drop (consumed (.receiver input)).length⟩ requests answers) by
    refine ⟨same ▸ kept, by rw [Undisturbed, ← same]; exact goal.1, fun online => ?_⟩
    rw [← same] at online
    rw [shape online]
    exact goal.2 online
  -- A connection that is closed for another reason owes nothing.
  have stopped : ∀ reason last, reason ≠ .packetIdentifier →
      system.client.closeConnection reason = .ok last →
      Event.onDisconnect .packetIdentifier ∉ last.log ∧ last.status = .disconnected := by
    intro reason last other closing
    refine ⟨turn_undisturbed system.client last (close_turn _ _ last [] reason other
      (tells_same _ _ rfl) closing) holds.undisturbed, ?_⟩
    exact (system.client.closeConnection_kept last reason linked closing).2.2
  have round := system.client.receiverPass_round config input holds.kept.sound
  rw [done] at round
  generalize outcome : (Except.ok (more, client) : Except Fault (Bool × Client)) = result at round
  cases round with
  | idle unopened =>
      cases outcome
      exact ⟨holds.undisturbed, fun online => absurd (linked.mpr online) (by simp [unopened])⟩
  | unread open_ nothing =>
      rcases Client.map_ok _ _ _ outcome.symm with ⟨last, closing, same⟩
      cases same
      have other : system.client.unreadReason config ≠ .packetIdentifier := by
        unfold Client.unreadReason
        split <;> decide
      rcases stopped _ client other closing with ⟨clean, offline⟩
      exact ⟨clean, fun online => absurd offline online⟩
  | waiting stream packet open_ arrived unfinished fine received bounded allocated =>
      cases outcome
      refine ⟨holds.undisturbed, fun online => ?_⟩
      rcases holds.flowing online with ⟨requests, answers, flowing⟩
      refine turn_flowing system system.client system.client packet _ requests answers rfl
        flowing.toComing ?_ (turn_refl _) online
      rw [received, arrival_stream config system.client input stream _ holds.kept.sound narrow ahead
        arrived]
      exact flowing.toClient
  | rejected stream packet open_ arrived invalid bounded allocated =>
      rcases Client.map_ok _ _ _ outcome.symm with ⟨last, closing, same⟩
      cases same
      rcases stopped _ last (by decide) closing with ⟨clean, offline⟩
      exact ⟨clean, fun online => absurd offline online⟩
  | dispatched stream first rest packet open_ arrived whole accepted bounded allocated left =>
      rcases Client.map_ok _ _ _ outcome.symm with ⟨last, responded, same⟩
      cases same
      rcases left last responded with ⟨good, remaining⟩
      have read := arrival_stream config system.client input stream _ holds.kept.sound narrow ahead
        arrived
      exact dispatch_flowing config system last packet first stream rest _ input.send holds
        (linked.mp open_) read whole responded fun online => remaining (good.mpr online)

/-- Every step of an orderly run keeps the answers coming. -/
theorem act_exchanging (config : Config) (narrow : config.fillLimit < 2 ^ 32)
    (system : System) (action : Action config.toPlatform) (next : System)
    (holds : Exchanging config system) (orderly : Orderly system action)
    (taken : act config system action = some next) : Exchanging config next := by
  cases action with
  | take => exact take_exchanging config system next holds taken
  | answer index code => exact answer_exchanging config system next index code holds taken
  | send packet => exact send_exchanging config system next packet holds taken
  | client operation =>
      by_cases called : operation.isConnect = true
      · cases operation with
        | connect request input =>
            exact connect_exchanging config system next request input holds taken
        | _ => cases called
      · by_cases own : operation.isReceiver = true
        · cases operation with
          | receiver input =>
              exact receiver_exchanging config system next input narrow holds taken
          | _ => cases own
        · exact own_exchanging config system next operation holds orderly (by simpa using called)
            (by simpa using own) taken

/-- In every orderly run the answers of the broker find their packets. -/
theorem orderly_undisturbed (config : Config) (client : Client)
    (actions : List (Action config.toPlatform)) (constructed : Constructed config client)
    (narrow : config.fillLimit < 2 ^ 32)
    (orderly : Along (act config) Orderly (begun client) actions) :
    Throughout (act config) Undisturbed (begun client) actions := by
  apply throughout_of_along Orderly (Exchanging config) Undisturbed
    (fun system holds => holds.undisturbed) (act_exchanging config narrow) _ _ _ orderly
  refine ⟨constructed_kept config client constructed, ?_, fun online => ?_⟩
  · rw [Undisturbed, begun, constructed.log]
    simp
  · exact absurd constructed.status online

def greeted : List (Action Config.default.toPlatform) :=
  [.client (.connect plainRequest smoothConnect), .take, .send ⟨0x20, [0, 0]⟩,
    .client (.receiver (delivers [0x20, 2, 0, 0] connAck_short))]

/-- The PUBACK for a PUBLISH comes after `Sender` has sent it once more, and then the PUBACK
for the duplicate. -/
def resent : List (Action Config.default.toPlatform) :=
  greeted ++
    [.client (.publish [97] [98] 1 false .willing), .client (.sender 600 [.willing]),
      .take, .take, .answer 0 0, .answer 0 0,
      .client (.receiver (delivers [0x40, 2, 0, 1] (by decide))),
      .client (.receiver (delivers [0x40, 2, 0, 1] (by decide)))]

theorem resent_disturbs :
    ∃ final, run (act Config.default) (begun (Client.fresh Config.default)) resent = some final ∧
      ¬ Undisturbed final := by
  have last : (run (act Config.default) (begun (Client.fresh Config.default)) resent).map
      (fun system => system.client.log.getLast?) =
        some (some (.onDisconnect .packetIdentifier)) := by decide +kernel
  rcases Option.map_eq_some_iff.mp last with ⟨final, reached, there⟩
  exact ⟨final, reached, fun undisturbed => undisturbed (List.mem_of_getLast? there)⟩

def unrepeated : List (Action Config.default.toPlatform) :=
  greeted ++
    [.client (.subscribe [97] 1 .willing), .client (.publish [97] [98] 2 false .willing),
      .client (.sender 400 []), .take, .take, .answer 1 0, .answer 0 1,
      .client (.receiver (delivers [0x50, 2, 0, 2] (by decide))), .take, .answer 0 0,
      .client (.receiver (delivers [0x90, 3, 0, 1, 1, 0x70, 2, 0, 2] (by decide))),
      .client (.receiver (delivers [] nothing_short))]

/-- The run goes all its way, and the queue is empty behind it. -/
theorem unrepeated_undisturbed :
    (run (act Config.default) (begun (Client.fresh Config.default)) unrepeated).map
        (fun system => system.client.retransmissionQueue.length) = some 0 ∧
      Throughout (act Config.default) Undisturbed (begun (Client.fresh Config.default))
        unrepeated :=
  ⟨by decide +kernel, orderly_undisturbed Config.default (Client.fresh Config.default) unrepeated
    (fresh_constructed Config.default) (by decide) (by decide +kernel)⟩

end CircleStdlib.Mqtt.Broker
