import CircleStdlib.Acknowledgements
import CircleStdlib.GuardedAssertions
import CircleStdlib.PublishRoundTrip
import CircleStdlib.Tickets

/-!
A client and its broker on one connection. The connection keeps the order and
loses nothing; what is under way in either direction is a stream of bytes. The
broker takes the packets off its stream one by one and owes every PUBLISH with
a QoS, PUBREL, SUBSCRIBE and UNSUBSCRIBE the one packet that the standard asks
for, duplicates included. It answers when it likes and in the order it likes. Of
its own accord it may send any packet that is not such an answer.
-/

namespace CircleStdlib.Mqtt

open ByteMemory Checked CText

def Packet.bytes (packet : Packet) : List UInt8 :=
  packet.control :: (lengthField 4 packet.body.length ++ packet.body)

def Packet.Sized (packet : Packet) : Prop := packet.body.length < 2 ^ 28

theorem firstPacket_bytes (packet : Packet) (tail : List UInt8) (sized : packet.Sized) :
    firstPacket (packet.bytes ++ tail) = some (packet, tail) := by
  have field := takeLength_lengthField false 4 packet.body.length (packet.body ++ tail) sized
    (by simp) (by decide)
  have whole : packet.bytes ++ tail =
      packet.control :: (lengthField 4 packet.body.length ++ (packet.body ++ tail)) := by
    simp [Packet.bytes]
  simp only [whole, firstPacket, field]
  rw [if_pos (by simp), List.take_left, List.drop_left]

/-- The packet at the front of a stream that began with these packets. -/
theorem firstPacket_stream (packets : List Packet) (stream more rest : List UInt8) (first : Packet)
    (sized : ∀ packet ∈ packets, packet.Sized)
    (whole : stream ++ more = packets.flatMap Packet.bytes)
    (found : firstPacket stream = some (first, rest)) :
    ∃ others, packets = first :: others ∧ rest ++ more = others.flatMap Packet.bytes := by
  have longer := firstPacket_append stream rest more first found
  cases packets with
  | nil =>
      rw [whole] at longer
      cases longer
  | cons packet others =>
      rw [whole, List.flatMap_cons,
        firstPacket_bytes packet _ (sized packet List.mem_cons_self)] at longer
      simp only [Option.some.injEq, Prod.mk.injEq] at longer
      rcases longer with ⟨rfl, same⟩
      exact ⟨others, rfl, same.symm⟩

namespace Broker

open Acknowledgements

def publishedIdentifier : List UInt8 → UInt16
  | high :: low :: rest => identifierOf (rest.drop (word high low).toNat)
  | _ => 0

-- The answer that a packet from the client asks for: its type and identifier.
def due (packet : Packet) : Option (PacketType × UInt16) :=
  match packet.type with
  | .publish =>
      if packet.qos = 1 then some (.pubAck, publishedIdentifier packet.body)
      else if packet.qos = 2 then some (.pubRec, publishedIdentifier packet.body)
      else none
  | .pubRel => some (.pubComp, identifierOf packet.body)
  | .subscribe => some (.subAck, identifierOf packet.body)
  | .unsubscribe => some (.unsubAck, identifierOf packet.body)
  | _ => none

def answer (code : UInt8) (ticket : PacketType × UInt16) : Packet :=
  ⟨ticket.1.code <<< 4,
    SendPacket.wordBytes ticket.2 ++ if ticket.1 = .subAck then [code] else []⟩

/-- `owed` are the answers that the broker still has to send. -/
structure System where
  client : Client
  toBroker : List UInt8
  owed : List (PacketType × UInt16)
  toClient : List UInt8

inductive Action (platform : Platform) where
  | client (operation : Operation platform)
  | take
  | answer (index : Nat) (code : UInt8)
  | send (packet : Packet)

def consumed {platform : Platform} : Operation platform → List UInt8
  | .receiver input => input.bytes.getD []
  | _ => []

def handed (events : List Event) : List UInt8 :=
  events.flatMap fun event => match event with
    | .sent bytes true => bytes
    | _ => []

def added (client next : Client) : List Event := next.log.drop client.log.length

-- `none` when the step is not possible. A failed assertion ends the run, and a
-- connection that is closed takes with it what was under way.
def act (config : Config) (system : System) : Action config.toPlatform → Option System
  | .client operation =>
      if consumed operation <+: system.toClient then
        match perform config system.client operation with
        | .ok (some next) =>
            if next.status = .disconnected then some ⟨next, [], [], []⟩
            else if operation.isConnect then
              some ⟨next, handed (added system.client next), [], []⟩
            else
              some ⟨next, system.toBroker ++ handed (added system.client next), system.owed,
                system.toClient.drop (consumed operation).length⟩
        | _ => none
      else none
  | .take =>
      match firstPacket system.toBroker with
      | some (packet, rest) =>
          some { system with toBroker := rest, owed := system.owed ++ (due packet).toList }
      | none => none
  | .answer index code =>
      if code ≤ 2 then
        match system.owed[index]? with
        | some ticket =>
            some { system with
              owed := system.owed.eraseIdx index
              toClient := system.toClient ++ (answer code ticket).bytes }
        | none => none
      else none
  | .send packet =>
      if askedQoS packet.type = none ∧ packet.body.length < 2 ^ 28 then
        some { system with toClient := system.toClient ++ packet.bytes }
      else none

def begun (client : Client) : System := ⟨client, [], [], []⟩

-- The client has not closed a connection over a packet identifier.
def Undisturbed (system : System) : Prop :=
  Event.onDisconnect .packetIdentifier ∉ system.client.log

def Narrow (pTopic payload : List UInt8) : Prop :=
  (cstr pTopic).length + payload.length + 9 < 2 ^ 32

def Unused (client : Client) : Prop :=
  ∀ packet ∈ client.retransmissionQueue, packet.packetIdentifier ≠ client.nextPacketIdentifier

-- No retransmission, and no request with an identifier that still waits for its
-- answer or with lengths that do not fit.
def Orderly {platform : Platform} (system : System) : Action platform → Prop
  | .client (.sender nTicks _) =>
      ∀ packet, system.client.retransmissionQueue.head? = some packet →
        later packet.scheduledTime nTicks = true
  | .client (.publish pTopic payload uchQoS _ _) =>
      uchQoS ≥ 1 → Unused system.client ∧ (cstr pTopic).length < 65536 ∧ Narrow pTopic payload
  | .client (.subscribe pTopic uchQoS _) => Unused system.client ∧ Narrow pTopic [uchQoS]
  | .client (.unsubscribe pTopic _) => Unused system.client ∧ Narrow pTopic []
  | _ => True

instance (client : Client) : Decidable (Unused client) :=
  inferInstanceAs (Decidable (∀ packet ∈ _, _))

instance (pTopic payload : List UInt8) : Decidable (Narrow pTopic payload) :=
  inferInstanceAs (Decidable (_ < _))

instance decidableOrderly {platform : Platform} (system : System) :
    ∀ action : Action platform, Decidable (Orderly system action)
  | .client (.sender nTicks _) =>
      inferInstanceAs (Decidable (∀ packet ∈ system.client.retransmissionQueue.head?,
        later packet.scheduledTime nTicks = true))
  | .client (.publish _ _ _ _ _) => inferInstanceAs (Decidable (_ → _ ∧ _ ∧ _))
  | .client (.subscribe _ _ _) => inferInstanceAs (Decidable (_ ∧ _))
  | .client (.unsubscribe _ _) => inferInstanceAs (Decidable (_ ∧ _))
  | .client (.connect _ _) | .client (.disconnect _ _) | .client (.receiver _)
  | .client (.keepAliveHandler _ _) | .take | .answer _ _ | .send _ => .isTrue trivial

/-! What the packets of the client ask for. -/

def request (packet : SendPacket) : Packet :=
  ⟨packet.controlByte,
    slice packet.buffer maxLengthFixedHeader (packet.bufPtr - maxLengthFixedHeader)⟩

theorem wire_bytes (packet : SendPacket) : packet.wire = (request packet).bytes := by
  simp [SendPacket.wire, request, Packet.bytes]

theorem request_sized (packet : SendPacket) (ready : packet.Ready) : (request packet).Sized := by
  have short := ready.short
  simp only [Packet.Sized, request, slice_length]
  omega

theorem request_body (packet : SendPacket) (fields : List UInt8) (written : packet.Written fields) :
    (request packet).body = fields := by
  have count : packet.bufPtr - maxLengthFixedHeader = fields.length := by
    rw [written.bufPtr]
    omega
  simp only [request, count, written.cells]

theorem request_type (packet : SendPacket) (low : packet.flags ≤ 0x0F) :
    (request packet).type = packet.type :=
  (SendPacket.control_parts packet.type packet.flags low).1

def unanswered : PacketType → Bool
  | .publish | .pubRel | .subscribe | .unsubscribe => false
  | _ => true

theorem due_unanswered (packet : SendPacket) (low : packet.flags ≤ 0x0F)
    (plain : unanswered packet.type = true) : due (request packet) = none := by
  unfold due
  rw [request_type packet low]
  cases type : packet.type <;> rw [type] at plain <;> first | rfl | cases plain

theorem identifierOf_wordBytes (usPacketIdentifier : UInt16) (rest : List UInt8) :
    identifierOf (SendPacket.wordBytes usPacketIdentifier ++ rest) = usPacketIdentifier :=
  SendPacket.word_wordBytes usPacketIdentifier

/-- A packet that begins with its identifier and a topic, as those of `Subscribe` and
`Unsubscribe` do. -/
theorem titled_written (config : Config) (type : PacketType) (usPacketIdentifier : UInt16)
    (pTopic : List UInt8) (memory : Option (Nat → UInt8)) (numbered titled : SendPacket)
    (narrow : Narrow pTopic [])
    (first : (SendPacket.create type config.maxPacketSize memory).appendWord usPacketIdentifier =
      .ok numbered)
    (second : numbered.appendString config.toPlatform pTopic = .ok titled)
    (clean : titled.error = false) :
    titled.Written (SendPacket.wordBytes usPacketIdentifier ++
      (SendPacket.stringLength (cstr pTopic).length ++ cstr pTopic)) := by
  have numberedClean := SendPacket.appendString_clean config.toPlatform numbered titled pTopic
    second clean
  have startClean := SendPacket.appendWord_clean _ numbered usPacketIdentifier first
    numberedClean
  rw [SendPacket.appendString_cstr] at second
  rcases memory with _ | memory
  · cases startClean
  · have start := SendPacket.create_written type config.maxPacketSize memory
    have bufPtr := start.bufPtr
    simp only [List.length_nil, Nat.add_zero, maxLengthFixedHeader] at bufPtr
    have identified := (SendPacket.appendWord_extends _ numbered [] usPacketIdentifier start
      (by omega) first numberedClean).1
    have position := identified.bufPtr
    simp only [List.nil_append, SendPacket.wordBytes, List.length_cons, List.length_nil,
      maxLengthFixedHeader] at position
    have room : (cstr pTopic).length + 0 + 9 < 2 ^ 32 := narrow
    exact (SendPacket.appendString_extends config.toPlatform numbered titled _ (cstr pTopic)
      identified (cstr_text pTopic) (by omega) second clean).1

theorem due_subscribe (config : Config) (usPacketIdentifier : UInt16) (pTopic : List UInt8)
    (uchQoS : UInt8) (memory : Option (Nat → UInt8)) (packet : SendPacket)
    (narrow : Narrow pTopic [uchQoS])
    (built : Client.subscribePacket config usPacketIdentifier pTopic uchQoS memory = .ok packet)
    (ready : packet.Ready) : due (request packet) = some (.subAck, usPacketIdentifier) := by
  have type := Client.subscribePacket_type config usPacketIdentifier pTopic uchQoS memory packet
    built
  simp only [Client.subscribePacket, bind_ok] at built
  rcases built with ⟨numbered, first, titled, second, third⟩
  have titledClean := SendPacket.appendByte_clean titled packet uchQoS third ready.clean
  have room : (cstr pTopic).length + 1 + 9 < 2 ^ 32 := narrow
  have written := titled_written config .subscribe usPacketIdentifier pTopic memory numbered titled
    (show (cstr pTopic).length + 0 + 9 < 2 ^ 32 by omega) first second titledClean
  have position := written.bufPtr
  have fits : titled.bufPtr + 1 < 2 ^ 32 := by
    rw [position]
    simp only [SendPacket.wordBytes, SendPacket.stringLength, List.length_append, List.length_cons,
      List.length_nil, maxLengthFixedHeader]
    omega
  have whole := (SendPacket.appendByte_extends titled packet _ uchQoS written fits third
    ready.clean).1
  have same := ((SendPacket.appendWord_same _ numbered _ first).trans
    (SendPacket.appendString_same _ numbered titled _ second)).trans
    (SendPacket.appendByte_same titled packet _ third)
  have low : packet.flags ≤ 0x0F := same.flags ▸ SendPacket.create_flags ..
  unfold due
  rw [request_type packet low, type, request_body packet _ whole, List.append_assoc]
  exact congrArg (fun identifier => some (PacketType.subAck, identifier))
    (identifierOf_wordBytes usPacketIdentifier _)

theorem due_unsubscribe (config : Config) (usPacketIdentifier : UInt16) (pTopic : List UInt8)
    (memory : Option (Nat → UInt8)) (packet : SendPacket) (narrow : Narrow pTopic [])
    (built : Client.unsubscribePacket config usPacketIdentifier pTopic memory = .ok packet)
    (ready : packet.Ready) : due (request packet) = some (.unsubAck, usPacketIdentifier) := by
  have type := Client.unsubscribePacket_type config usPacketIdentifier pTopic memory packet built
  simp only [Client.unsubscribePacket, bind_ok] at built
  rcases built with ⟨numbered, first, second⟩
  have whole := titled_written config .unsubscribe usPacketIdentifier pTopic memory numbered packet
    narrow first second ready.clean
  have same := (SendPacket.appendWord_same _ numbered _ first).trans
    (SendPacket.appendString_same _ numbered packet _ second)
  have low : packet.flags ≤ 0x0F := same.flags ▸ SendPacket.create_flags ..
  unfold due
  rw [request_type packet low, type, request_body packet _ whole]
  exact congrArg (fun identifier => some (PacketType.unsubAck, identifier))
    (identifierOf_wordBytes usPacketIdentifier _)

def answerType (type : PacketType) (uchQoS : UInt8) : PacketType :=
  match type with
  | .publish => if uchQoS = 1 then .pubAck else .pubRec
  | .pubRel => .pubComp
  | .subscribe => .subAck
  | _ => .unsubAck

def awaited (packet : SendPacket) : PacketType × UInt16 :=
  (answerType packet.type packet.qos, packet.packetIdentifier)

theorem publishedIdentifier_fields (usPacketIdentifier : UInt16) (pTopic payload : List UInt8)
    (short : pTopic.length < 65536) :
    publishedIdentifier (PublishRoundTrip.publishFields usPacketIdentifier pTopic payload) =
      usPacketIdentifier := by
  have size := SendPacket.word_stringLength pTopic.length short
  simp only [PublishRoundTrip.publishFields, SendPacket.stringLength, List.cons_append,
    List.nil_append, publishedIdentifier, size, List.drop_left]
  exact identifierOf_wordBytes usPacketIdentifier payload

theorem publishPacket_cstr (config : Config) (usPacketIdentifier : UInt16)
    (pTopic payload : List UInt8) (uchQoS : UInt8) (bRetain : Bool)
    (memory : Option (Nat → UInt8)) :
    Client.publishPacket config usPacketIdentifier pTopic payload uchQoS bRetain memory =
      Client.publishPacket config usPacketIdentifier (cstr pTopic) payload uchQoS bRetain
        memory := by
  simp only [Client.publishPacket, SendPacket.appendString_cstr config.toPlatform _ pTopic]

/-- A PUBLISH with a QoS asks for the answer that the queued packet waits for. -/
theorem due_publish (config : Config) (usPacketIdentifier : UInt16) (pTopic payload : List UInt8)
    (uchQoS : UInt8) (bRetain : Bool) (memory : Option (Nat → UInt8)) (packet : SendPacket)
    (short : (cstr pTopic).length < 65536) (narrow : Narrow pTopic payload) (valid : uchQoS ≤ 2)
    (answered : uchQoS ≥ 1)
    (built : Client.publishPacket config usPacketIdentifier pTopic payload uchQoS bRetain memory =
      .ok packet) (ready : packet.Ready) :
    due (request packet) = some (answerType .publish uchQoS, usPacketIdentifier) := by
  rw [publishPacket_cstr] at built
  rcases PublishRoundTrip.publishPacket_written config usPacketIdentifier (cstr pTopic) payload
    uchQoS bRetain memory packet (cstr_text pTopic) narrow built ready.clean with
    ⟨written, type, flags⟩
  rcases PublishRoundTrip.publish_control uchQoS bRetain valid with ⟨control, qos, -⟩
  have sameType : (request packet).type = .publish := by
    simp only [request, SendPacket.controlByte, type, flags, Packet.type]
    exact control
  have sameQoS : (request packet).qos = uchQoS := by
    simp only [request, SendPacket.controlByte, type, flags, Packet.qos, Packet.flags]
    exact qos
  unfold due
  rw [sameType, sameQoS, request_body packet _ written,
    publishedIdentifier_fields usPacketIdentifier (cstr pTopic) payload short]
  rcases qos_cases uchQoS answered valid with rfl | rfl
  · rfl
  · rfl

/-- One without a QoS asks for none. -/
theorem due_publish_plain (config : Config) (usPacketIdentifier : UInt16)
    (pTopic payload : List UInt8) (bRetain : Bool) (memory : Option (Nat → UInt8))
    (packet : SendPacket)
    (built : Client.publishPacket config usPacketIdentifier pTopic payload 0 bRetain memory =
      .ok packet) : due (request packet) = none := by
  rcases PublishRoundTrip.publish_control 0 bRetain (by decide) with ⟨control, qos, -⟩
  have header : packet.type = .publish ∧ packet.flags = Client.publishFlags 0 bRetain := by
    simp only [Client.publishPacket, SendPacket.setFlags, bind_ok, require_ok, pure_ok,
      Except.ok.injEq] at built
    rcases built with ⟨_, ⟨_, -, _, -, rfl⟩, titled, first, numbered, second, third⟩
    have same := (SendPacket.appendString_same _ _ titled _ first).trans
      (SendPacket.appendWord_same titled numbered _ second)
    split at third
    · have all := same.trans (SendPacket.appendData_same _ numbered packet _ third)
      exact ⟨all.type, all.flags⟩
    · cases third
      exact ⟨same.type, same.flags⟩
  have sameType : (request packet).type = .publish := by
    simp only [request, SendPacket.controlByte, header.1, header.2, Packet.type]
    exact control
  have sameQoS : (request packet).qos = 0 := by
    simp only [request, SendPacket.controlByte, header.1, header.2, Packet.qos, Packet.flags]
    exact qos
  unfold due
  rw [sameType, sameQoS]
  rfl

theorem due_pubRel (usPacketIdentifier : UInt16) (memory : Option (Nat → UInt8))
    (packet : SendPacket)
    (built : (SendPacket.create .pubRel 128 memory).appendWord usPacketIdentifier = .ok packet)
    (ready : packet.Ready) : due (request packet) = some (.pubComp, usPacketIdentifier) := by
  rcases SendPacket.wordPacket_built .pubRel usPacketIdentifier memory with
    ⟨other, again, type, failed | ⟨written, -, flags, -⟩⟩
  · cases built.symm.trans again
    cases ready.clean.symm.trans failed.2
  · cases built.symm.trans again
    have low : packet.flags ≤ 0x0F := flags ▸ SendPacket.initialFlags_low .pubRel
    unfold due
    rw [request_type packet low, type, request_body packet _ written,
      ← List.append_nil (SendPacket.wordBytes usPacketIdentifier)]
    exact congrArg (fun identifier => some (PacketType.pubComp, identifier))
      (identifierOf_wordBytes usPacketIdentifier [])

end Broker

end CircleStdlib.Mqtt
