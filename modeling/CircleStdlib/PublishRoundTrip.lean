import CircleStdlib.ClientMoves

/-!
Whether a message that `Publish` hands to the socket is the message that the
PUBLISH branch of a receiving client takes out of those bytes. The sender
appends the packet identifier whatever the QoS is, the receiver expects it only
above QoS 0; and the sender keeps 16 bits of the length of the topic and 32
bits of the length of the packet.
-/

namespace CircleStdlib.Mqtt.PublishRoundTrip

open ByteMemory Checked Execution CText

def Numbered (client : Client) : Prop :=
  client.status ≠ .disconnected → client.nextPacketIdentifier ≠ 0

theorem advanceIdentifier_nonzero (client : Client) :
    client.advanceIdentifier.nextPacketIdentifier ≠ 0 := by
  simp only [Client.advanceIdentifier]
  split
  · rename_i wrapped
    rw [wrapped]
    decide
  · assumption

theorem localMove_numbered (config : Config) (client next : Client)
    (move : LocalMove config client next) (numbered : Numbered client) : Numbered next := by
  have framed_numbered : ∀ client next : Client, Framed client next → Numbered client →
      Numbered next := by
    intro client next framed numbered online
    rw [framed.nextPacketIdentifier]
    exact numbered fun offline => online (framed.offline.mpr offline)
  have closed_numbered : ∀ client next : Client, ∀ reason,
      client.closeConnection reason = .ok next → Numbered client → Numbered next := by
    intro client next reason done numbered
    rcases client.closeConnection_cases next reason done with ⟨-, rfl⟩ | ⟨-, -, rfl⟩
    · exact numbered
    · exact fun online => absurd rfl online
  cases move with
  | transmission _ packet after input sent done =>
      exact framed_numbered _ _ (client.sendPacket_framed _ next packet after input sent done)
        numbered
  | closing _ reason done => exact closed_numbered _ _ reason done numbered
  | numbering => exact fun _ => advanceIdentifier_nonzero client
  | queueing packet nScheduledTime online fits => exact numbered
  | requeueing queue fits empty => exact numbered
  | ping _ packet after input running type done =>
      exact framed_numbered client.stopTimer _ (client.stopTimer.sendPacket_framed _ next packet
        after input true done) numbered
  | expiry middle _ reason events running framed log silent closing =>
      exact closed_numbered middle next reason closing
        (framed_numbered client.stopTimer middle framed numbered)

theorem brokerMove_numbered (config : Config) (client next : Client)
    (move : BrokerMove config client next) (numbered : Numbered client) : Numbered next := by
  cases move with
  | pong ticks online =>
      unfold Client.respondPingResp
      split <;> exact fun _ => numbered online
  | message message online => exact numbered
  | dequeuing usPacketIdentifier => exact numbered
  | storing usPacketIdentifier online fresh => exact numbered
  | releasing usPacketIdentifier => exact numbered
  | reading packet => exact numbered

theorem connectMove_numbered (client next : Client) (move : ConnectMove client next)
    (numbered : Numbered client) : Numbered next := by
  cases move with
  | opening usKeepAliveSeconds offline => exact fun _ => by simp [Client.opened]
  | refusal reason offline => exact numbered

theorem move_numbered (config : Config) (client next : Client) (move : Move config client next)
    (numbered : Numbered client) : Numbered next :=
  move.elim (fun own => localMove_numbered config client next own numbered)
    (fun brought => brokerMove_numbered config client next brought numbered)

theorem established_numbered (client : Client) (sessionPresent : Bool) (packet : ReceivePacket)
    (pending : client.status = .connectPending) (numbered : Numbered client) :
    Numbered ((client.established sessionPresent).withPacket packet) :=
  fun _ => numbered (by rw [pending]; decide)

theorem perform_numbered (config : Config) (client next : Client)
    (operation : Operation config.toPlatform) (kept : Kept config client)
    (done : perform config client operation = .ok (some next)) (numbered : Numbered client) :
    Numbered next :=
  perform_invariant config Numbered (move_numbered config) connectMove_numbered
    established_numbered client next operation kept.sound kept.queued done numbered

theorem reached_numbered (config : Config) (client last : Client)
    (operations : List (Operation config.toPlatform)) (constructed : Constructed config client)
    (reached : run (step config) (.running client) operations = some (.running last)) :
    Numbered last :=
  reached_moves config Numbered (move_numbered config) connectMove_numbered established_numbered
    client last operations constructed (fun online => absurd constructed.status online) reached

def publishFields (usPacketIdentifier : UInt16) (pTopic payload : List UInt8) : List UInt8 :=
  SendPacket.stringLength pTopic.length ++ pTopic ++
    (SendPacket.wordBytes usPacketIdentifier ++ payload)

/-- The topic and the identifier behind the header. -/
theorem named_written (platform : Platform) (start topical identified : SendPacket)
    (usPacketIdentifier : UInt16) (pTopic : List UInt8) (empty : start.Written [])
    (text : ∀ char ∈ pTopic, char ≠ 0) (narrow : pTopic.length + 9 < 2 ^ 32)
    (appended : start.appendString platform pTopic = .ok topical)
    (numbered : topical.appendWord usPacketIdentifier = .ok identified)
    (clean : identified.error = false) :
    identified.Written (SendPacket.stringLength pTopic.length ++ pTopic ++
      SendPacket.wordBytes usPacketIdentifier) ∧ start.SameHeader identified := by
  have header : maxLengthFixedHeader = 5 := rfl
  have bufPtr := empty.bufPtr
  simp only [List.length_nil, Nat.add_zero, header] at bufPtr
  rcases SendPacket.appendString_extends platform start topical [] pTopic empty text
    (by rw [bufPtr]; omega) appended
    (SendPacket.appendWord_clean topical identified _ numbered clean) with ⟨withTopic, first⟩
  have position := withTopic.bufPtr
  simp only [List.nil_append, List.length_append, SendPacket.stringLength, List.length_cons,
    List.length_nil, header] at position
  rcases SendPacket.appendWord_extends topical identified _ usPacketIdentifier withTopic
    (by omega) numbered clean with ⟨withIdentifier, second⟩
  exact ⟨by simpa using withIdentifier, first.trans second⟩

theorem publishPacket_written (config : Config) (usPacketIdentifier : UInt16)
    (pTopic payload : List UInt8) (uchQoS : UInt8) (bRetain : Bool)
    (memory : Option (Nat → UInt8)) (packet : SendPacket) (text : ∀ char ∈ pTopic, char ≠ 0)
    (narrow : pTopic.length + payload.length + 9 < 2 ^ 32)
    (built : Client.publishPacket config usPacketIdentifier pTopic payload uchQoS bRetain memory =
      .ok packet) (clean : packet.error = false) :
    packet.Written (publishFields usPacketIdentifier pTopic payload) ∧ packet.type = .publish ∧
      packet.flags = Client.publishFlags uchQoS bRetain := by
  simp only [Client.publishPacket, SendPacket.setFlags, bind_ok, require_ok, pure_ok,
    Except.ok.injEq] at built
  rcases built with ⟨_, ⟨_, -, _, -, rfl⟩, topical, appended, identified, numbered, filled⟩
  have identifiedClean : identified.error = false := by
    split at filled
    · exact SendPacket.appendData_clean config.toPlatform identified packet payload filled clean
    · cases filled
      exact clean
  have topicalClean := SendPacket.appendWord_clean topical identified usPacketIdentifier numbered
    identifiedClean
  have startClean := SendPacket.appendString_clean config.toPlatform _ topical pTopic appended
    topicalClean
  rcases memory with _ | memory
  · cases startClean
  · have empty := SendPacket.create_written .publish config.maxPacketSize memory
    have start : SendPacket.Written { SendPacket.create .publish config.maxPacketSize (some memory)
        with flags := Client.publishFlags uchQoS bRetain } [] :=
      ⟨empty.clean, empty.allocated, empty.bufPtr, empty.cells, empty.narrow⟩
    rcases named_written config.toPlatform _ topical identified usPacketIdentifier pTopic start text
      (by omega) appended numbered identifiedClean with ⟨withIdentifier, same⟩
    have place := withIdentifier.bufPtr
    simp only [List.length_append, SendPacket.stringLength, SendPacket.wordBytes,
      List.length_cons, List.length_nil, maxLengthFixedHeader] at place
    split at filled
    · rcases SendPacket.appendData_extends config.toPlatform identified packet _ payload
        withIdentifier (by omega) filled clean with ⟨whole, third⟩
      refine ⟨?_, (same.trans third).type, (same.trans third).flags⟩
      simpa [publishFields] using whole
    · rename_i empty
      cases filled
      have none : payload = [] := List.length_eq_zero_iff.mp (by omega)
      refine ⟨?_, same.type, same.flags⟩
      simpa [publishFields, none] using withIdentifier

/-- Bytes in the log of a transmission are the wire form of its packet. -/
theorem sendAndQueue_handed (platform : Platform) (client next : Client) (packet : SendPacket)
    (uchQoS : UInt8) (usPacketIdentifier : UInt16) (input : SendInput) (bytes : List UInt8)
    (accepted : Bool) (more : List Event)
    (done : client.sendAndQueue platform packet uchQoS usPacketIdentifier input = .ok next)
    (handed : next.log = client.log ++ .sent bytes accepted :: more) :
    client.status ≠ .disconnected ∧ packet.Ready ∧ bytes = packet.wire := by
  simp only [Client.sendAndQueue, bind_ok] at done
  rcases done with ⟨⟨sent, after, middle⟩, sending, done⟩
  have log : ∃ tail, next.log = middle.log ++ tail ∧ ∀ bytes accepted rest,
      tail ≠ .sent bytes accepted :: rest := by
    split at done
    · split at done <;> cases done <;> exact ⟨[], by simp [Client.insertPacketIntoQueue], by simp⟩
    · rcases middle.closeConnection_cases next _ done with ⟨-, rfl⟩ | ⟨-, -, rfl⟩
      · exact ⟨[], by simp, by simp⟩
      · exact ⟨[_], rfl, by simp⟩
  rcases log with ⟨tail, tailed, silent⟩
  rcases client.sendPacket_cases platform middle packet after input sent sending with
    ⟨-, -, -, rfl⟩ | ⟨online, -, result, send, -, -, -, grown, -⟩
  · rw [tailed] at handed
    exact absurd (List.append_cancel_left handed) (silent bytes accepted more)
  · rw [tailed, grown, List.append_assoc] at handed
    have events := List.append_cancel_left handed
    cases given : result.handed with
    | none =>
        simp only [Sending.events, given, List.nil_append] at events
        exact absurd events (silent bytes accepted more)
    | some found =>
        simp only [Sending.events, given, List.cons_append, List.nil_append, List.cons.injEq,
          Event.sent.injEq] at events
        rcases events with ⟨⟨rfl, -⟩, -⟩
        rcases packet.send_handed input.socket result found send given with ⟨ready, same⟩
        exact ⟨online, ready, same⟩

/-- A client that holds exactly these bytes finds one PUBLISH in them, which is all
of them, and its PUBLISH branch reads this message with this QoS. -/
def Arrives (limit : Nat) (bytes topic payload : List UInt8) (uchQoS : UInt8) (bRetain : Bool) :
    Prop :=
  ∀ packet : ReceivePacket, packet.received = bytes →
    ∃ next usPacketIdentifier final, packet.parse = .ok (.packetOK, next) ∧
      next.type = .publish ∧ qosOfFlags next.flags = uchQoS ∧
      next.readPublish (limit + 1) =
        .ok (.arrived usPacketIdentifier ⟨topic, some payload, payload.length, bRetain⟩, final) ∧
      final.outPtr = final.inPtr

/-- Some buffer holds the bytes. -/
theorem received_exists (bytes : List UInt8) :
    ∃ packet : ReceivePacket, packet.received = bytes := by
  refine ⟨{ bufferSize := bytes.length, allocated := true, buffer := write (fun _ => 0) 0 bytes
            inPtr := bytes.length, outPtr := 0, type := .reserved, flags := 0
            remainingLength := 0, bytesConsumed := 0 }, ?_⟩
  exact slice_write_same _ 0 bytes

theorem arrives_of_meaning (limit : Nat) (bytes topic payload : List UInt8) (uchQoS : UInt8)
    (bRetain : Bool) (first : Packet) (usPacketIdentifier : UInt16)
    (whole : firstPacket bytes = some (first, [])) (accepted : first.Accepted)
    (type : first.type = .publish) (qos : first.qos = uchQoS)
    (meaning : publishRead limit first.flags first.body =
      some (.arrived usPacketIdentifier ⟨topic, some payload, payload.length, bRetain⟩)) :
    Arrives limit bytes topic payload uchQoS bRetain := by
  intro packet received
  rcases packet.parse_packet first [] (received ▸ whole) with
    ⟨next, parsed, reading, sameType, sameFlags, length, -⟩
  have consumed := reading.consumed
  have position := reading.position
  have read := next.readPublish_meaning (limit + 1) first.body [] reading (by omega)
    (accepted_publish first accepted type).2
  rw [sameFlags, Nat.add_sub_cancel, meaning] at read
  rw [if_pos (show ReceivePacket.wellFormed _ _ _ = true from accepted)] at parsed
  refine ⟨next, usPacketIdentifier, _, parsed, sameType.trans type, ?_, read, ?_⟩
  · rw [sameFlags]
    exact qos
  · simpa [ReceivePacket.advance] using position

/-- The body of a PUBLISH that is read as a message. -/
theorem body_of_arrived (limit : Nat) (flags : UInt8) (body topic payload : List UInt8)
    (usPacketIdentifier : UInt16) (bRetain : Bool) (length : Nat)
    (meaning : publishRead limit flags body =
      some (.arrived usPacketIdentifier ⟨topic, some payload, length, bRetain⟩)) :
    ∃ text : List UInt8, topic = cstr text ∧ text.length < 65536 ∧
      body.length =
        2 + text.length + (if qosOfFlags flags > 0 then 2 else 0) + payload.length := by
  unfold publishRead at meaning
  split at meaning
  · cases meaning
  · rename_i text tail taken
    rcases ReceivePacket.takeTopic_split limit body text tail taken with
      ⟨high, low, split, size, -⟩
    have bound : (word high low).toNat < 65536 := (word high low).toNat_lt
    refine ⟨text, ?_⟩
    by_cases answered : qosOfFlags flags > 0
    · rw [if_pos answered] at meaning ⊢
      split at meaning
      · split at meaning
        · cases meaning
        · cases meaning
          refine ⟨rfl, by omega, ?_⟩
          rw [split]
          simp only [List.length_cons, List.length_append]
          omega
      · cases meaning
    · rw [if_neg answered] at meaning ⊢
      cases meaning
      refine ⟨rfl, by omega, ?_⟩
      rw [split]
      simp only [List.length_cons, List.length_append]
      omega

theorem meaning_of_arrives (limit : Nat) (bytes rest topic payload : List UInt8) (uchQoS : UInt8)
    (bRetain : Bool) (first : Packet) (whole : firstPacket bytes = some (first, rest))
    (arrives : Arrives limit bytes topic payload uchQoS bRetain) :
    first.qos = uchQoS ∧ ∃ usPacketIdentifier,
      publishRead limit first.flags first.body =
        some (.arrived usPacketIdentifier ⟨topic, some payload, payload.length, bRetain⟩) := by
  rcases received_exists bytes with ⟨packet, received⟩
  rcases arrives packet received with ⟨next, usPacketIdentifier, final, parsed, type, qos, read, -⟩
  rcases packet.parse_packet first rest (received ▸ whole) with
    ⟨found, again, reading, sameType, sameFlags, length, -⟩
  rw [parsed] at again
  simp only [Except.ok.injEq, Prod.mk.injEq] at again
  rcases again with ⟨status, rfl⟩
  have accepted : first.Accepted := by
    by_contra refused
    rw [if_neg (show ¬ ReceivePacket.wellFormed _ _ _ = true from refused)] at status
    cases status
  have consumed := reading.consumed
  have meaning := next.readPublish_meaning (limit + 1) first.body rest reading (by omega)
    (accepted_publish first accepted (sameType.symm.trans type)).2
  rw [sameFlags] at meaning qos
  rw [Nat.add_sub_cancel] at meaning
  refine ⟨qos, usPacketIdentifier, ?_⟩
  rw [read] at meaning
  split at meaning
  · cases meaning
  · rcases meaning with ⟨_, refused, -⟩
    cases refused
  · rename_i result
    cases meaning
    exact result

/-- The bits of the control byte of a PUBLISH. -/
theorem publish_control (uchQoS : UInt8) (bRetain : Bool) (valid : uchQoS ≤ 2) :
    PacketType.ofControl (PacketType.publish.code <<< 4 ||| Client.publishFlags uchQoS bRetain) =
        .publish ∧
      qosOfFlags ((PacketType.publish.code <<< 4 ||| Client.publishFlags uchQoS bRetain) &&& 0x0F) =
        uchQoS ∧
      retainOfFlags
          ((PacketType.publish.code <<< 4 ||| Client.publishFlags uchQoS bRetain) &&& 0x0F) =
        bRetain := by
  have bound : uchQoS.toNat ≤ 2 := UInt8.le_iff_toNat_le.mp valid
  have table : ∀ index : Fin 3, ∀ bRetain : Bool,
      PacketType.ofControl (PacketType.publish.code <<< 4 |||
          Client.publishFlags (UInt8.ofNat index) bRetain) = .publish ∧
        qosOfFlags ((PacketType.publish.code <<< 4 |||
          Client.publishFlags (UInt8.ofNat index) bRetain) &&& 0x0F) = UInt8.ofNat index ∧
        retainOfFlags ((PacketType.publish.code <<< 4 |||
          Client.publishFlags (UInt8.ofNat index) bRetain) &&& 0x0F) = bRetain := by
    decide
  have entry := table ⟨uchQoS.toNat, by omega⟩ bRetain
  simpa using entry

theorem takeTopic_fields (limit : Nat) (usPacketIdentifier : UInt16)
    (pTopic payload : List UInt8) (nonempty : pTopic ≠ [])
    (text : ∀ char ∈ pTopic, char ≠ 0 ∧ char.toNat < 128) (fits : pTopic.length ≤ limit)
    (short : pTopic.length < 65536) :
    takeTopic limit (publishFields usPacketIdentifier pTopic payload) =
      some (pTopic, SendPacket.wordBytes usPacketIdentifier ++ payload) := by
  have size := SendPacket.word_stringLength pTopic.length short
  have some : 0 < pTopic.length := List.length_pos_iff.mpr nonempty
  simp only [publishFields, SendPacket.stringLength, List.cons_append, List.nil_append,
    takeTopic, size, List.take_left, List.drop_left, List.length_append]
  rw [if_pos ⟨some, fits, by omega, fun char member => (text char member).2⟩]

/-- What the receiver makes of these fields: above QoS 0 the message that was sent,
and at QoS 0 one with the identifier in front of the payload. -/
theorem publishRead_fields (limit : Nat) (flags : UInt8) (usPacketIdentifier : UInt16)
    (pTopic payload : List UInt8) (nonempty : pTopic ≠ [])
    (text : ∀ char ∈ pTopic, char ≠ 0 ∧ char.toNat < 128) (fits : pTopic.length ≤ limit)
    (short : pTopic.length < 65536) (numbered : usPacketIdentifier ≠ 0) :
    publishRead limit flags (publishFields usPacketIdentifier pTopic payload) =
      if qosOfFlags flags > 0 then
        some (.arrived usPacketIdentifier
          ⟨pTopic, some payload, payload.length, retainOfFlags flags⟩)
      else
        some (.arrived 0 ⟨pTopic, some (SendPacket.wordBytes usPacketIdentifier ++ payload),
          payload.length + 2, retainOfFlags flags⟩) := by
  have chars : cstr pTopic = pTopic := by
    simpa [cstr] using fun char member => (text char member).1
  have taken := takeTopic_fields limit usPacketIdentifier pTopic payload nonempty text fits short
  simp only [publishRead, taken, chars]
  split
  · simp only [SendPacket.wordBytes, List.cons_append, List.nil_append,
      SendPacket.word_wordBytes, numbered, ↓reduceIte]
  · simp [SendPacket.wordBytes]

/-- The packet that `Publish` hands to the socket. -/
theorem firstPacket_publish (config : Config) (usPacketIdentifier : UInt16)
    (pTopic payload : List UInt8) (uchQoS : UInt8) (bRetain : Bool)
    (memory : Option (Nat → UInt8)) (packet : SendPacket) (text : ∀ char ∈ pTopic, char ≠ 0)
    (narrow : pTopic.length + payload.length + 9 < 2 ^ 32)
    (built : Client.publishPacket config usPacketIdentifier pTopic payload uchQoS bRetain memory =
      .ok packet) (ready : packet.Ready) :
    firstPacket packet.wire =
      some (⟨PacketType.publish.code <<< 4 ||| Client.publishFlags uchQoS bRetain,
        publishFields usPacketIdentifier pTopic payload⟩, []) := by
  rcases publishPacket_written config usPacketIdentifier pTopic payload uchQoS bRetain memory packet
    text narrow built ready.clean with ⟨written, type, flags⟩
  have count : packet.bufPtr - maxLengthFixedHeader =
      (publishFields usPacketIdentifier pTopic payload).length := by
    rw [written.bufPtr]
    omega
  rw [packet.firstPacket_wire ready, count, written.cells, SendPacket.controlByte, type, flags]

/-- The packet's length fits what the sender keeps of it when the message arrives. -/
theorem arrives_narrow (limit : Nat) (packet : SendPacket) (pTopic payload : List UInt8)
    (uchQoS : UInt8) (bRetain : Bool) (ready : packet.Ready)
    (arrives : Arrives limit packet.wire pTopic payload uchQoS bRetain) :
    pTopic.length < 65536 ∧ pTopic.length + payload.length + 9 < 2 ^ 32 := by
  rcases meaning_of_arrives limit packet.wire [] pTopic payload uchQoS bRetain _
    (packet.firstPacket_wire ready) arrives with ⟨-, usPacketIdentifier, meaning⟩
  rcases body_of_arrived limit _ _ pTopic payload usPacketIdentifier bRetain _ meaning with
    ⟨topic, same, bound, length⟩
  have shorter : pTopic.length ≤ topic.length := by
    rw [same]
    exact (List.takeWhile_sublist _).length_le
  have short := ready.short
  simp only [slice_length] at length
  exact ⟨by omega, by omega⟩

/-- For every reachable client and every message that `Publish` hands to the socket:
the message arrives exactly when the packet identifier is expected, the topic's
length fits its 16 bits, and the packet's length fits 32 bits. -/
theorem publish_arrives_iff (config : Config) (client last next : Client)
    (operations : List (Operation config.toPlatform)) (pTopic payload : List UInt8)
    (uchQoS : UInt8) (bRetain : Bool) (input : SendInput) (bytes : List UInt8) (accepted : Bool)
    (more : List Event) (limit : Nat) (constructed : Constructed config client)
    (reached : run (step config) (.running client) operations = some (.running last))
    (nonempty : pTopic ≠ []) (text : ∀ char ∈ pTopic, char ≠ 0 ∧ char.toNat < 128)
    (roomy : pTopic.length ≤ limit)
    (done : last.publish config pTopic payload uchQoS bRetain input = .ok next)
    (handed : next.log = last.log ++ .sent bytes accepted :: more) :
    Arrives limit bytes pTopic payload uchQoS bRetain ↔
      1 ≤ uchQoS ∧ pTopic.length < 65536 ∧ pTopic.length + payload.length + 9 < 2 ^ 32 := by
  have numbered := reached_numbered config client last operations constructed reached
  simp only [Client.publish, bind_ok, require_ok] at done
  rcases done with ⟨_, valid, packet, built, done⟩
  rcases sendAndQueue_handed config.toPlatform last.advanceIdentifier next packet uchQoS _ input
    bytes accepted more done handed with ⟨online, ready, rfl⟩
  have chars : ∀ char ∈ pTopic, char ≠ 0 := fun char member => (text char member).1
  have positive : 1 ≤ uchQoS ↔ uchQoS > 0 := by
    simp only [UInt8.le_iff_toNat_le, gt_iff_lt, UInt8.lt_iff_toNat_lt]
    exact Iff.rfl
  rcases publish_control uchQoS bRetain valid with ⟨control, qos, retain⟩
  constructor
  · intro arrives
    rcases arrives_narrow limit packet pTopic payload uchQoS bRetain ready arrives with
      ⟨fits, narrow⟩
    refine ⟨?_, fits, narrow⟩
    by_contra zero
    have whole := firstPacket_publish config _ pTopic payload uchQoS bRetain input.memory packet
      chars narrow built ready
    rcases meaning_of_arrives limit packet.wire [] pTopic payload uchQoS bRetain _ whole arrives
      with ⟨-, usPacketIdentifier, meaning⟩
    -- The receiver takes the identifier for the first two bytes of the payload.
    rw [publishRead_fields limit _ _ pTopic payload nonempty text roomy fits (numbered online),
      if_neg (by rw [Packet.flags, qos, ← positive]; exact zero)] at meaning
    simp at meaning
  · rintro ⟨answered, fits, narrow⟩
    have whole := firstPacket_publish config _ pTopic payload uchQoS bRetain input.memory packet
      chars narrow built ready
    have meaning := publishRead_fields limit
      ((PacketType.publish.code <<< 4 ||| Client.publishFlags uchQoS bRetain) &&& 0x0F)
      last.nextPacketIdentifier pTopic payload nonempty text roomy fits (numbered online)
    rw [if_pos (by rw [qos, ← positive]; exact answered), retain] at meaning
    refine arrives_of_meaning limit packet.wire pTopic payload uchQoS bRetain _ _ whole ?_ control
      qos meaning
    have some : 0 < pTopic.length := List.length_pos_iff.mpr nonempty
    unfold Packet.Accepted Packet.type ReceivePacket.wellFormed
    simp only [control, Packet.flags, qos, Bool.decide_and, Bool.and_eq_true, decide_eq_true_eq]
    refine ⟨valid, ?_⟩
    simp only [publishFields, SendPacket.stringLength, SendPacket.wordBytes, List.length_append,
      List.length_cons, List.length_nil]
    split <;> omega

def connected : List (Operation Config.default.toPlatform) :=
  [.connect plainRequest smoothConnect, .receiver (delivers [0x20, 2, 0, 0] connAck_short)]

/-- A QoS 0 message `c` on the topic `ab`: the identifier arrives as payload. -/
theorem publishAtMostOnce_altered :
    ∃ last next bytes,
      run (step Config.default) (.running (Client.fresh Config.default)) connected =
        some (.running last) ∧
      last.publish Config.default [97, 98] [99] 0 false .willing = .ok next ∧
      next.log = last.log ++ [.sent bytes true] ∧
      bytes = [0x30, 7, 0, 2, 97, 98, 0, 1, 99] ∧
      ¬ Arrives 256 bytes [97, 98] [99] 0 false := by
  refine ⟨_, _, _, rfl, rfl, rfl, rfl, ?_⟩
  intro arrives
  rcases meaning_of_arrives 256 _ [] [97, 98] [99] 0 false ⟨0x30, [0, 2, 97, 98, 0, 1, 99]⟩ rfl
    arrives with ⟨-, usPacketIdentifier, meaning⟩
  have read : publishRead 256 (Packet.flags ⟨0x30, [0, 2, 97, 98, 0, 1, 99]⟩)
      [0, 2, 97, 98, 0, 1, 99] = some (.arrived 0 ⟨[97, 98], some [0, 1, 99], 3, false⟩) := by
    decide +kernel
  rw [read] at meaning
  cases meaning

/-- The same message at QoS 1. -/
theorem publishAtLeastOnce_arrives :
    ∃ bytes, bytes = [0x32, 7, 0, 2, 97, 98, 0, 1, 99] ∧
      Arrives 256 bytes [97, 98] [99] 1 false :=
  ⟨_, rfl, (publish_arrives_iff Config.default (Client.fresh Config.default) _ _ connected
    [97, 98] [99] 1 false .willing [0x32, 7, 0, 2, 97, 98, 0, 1, 99] true [] 256
    (fresh_constructed Config.default) rfl (by decide) (by decide +kernel) (by decide) rfl rfl).mpr
    (by decide)⟩

end CircleStdlib.Mqtt.PublishRoundTrip
