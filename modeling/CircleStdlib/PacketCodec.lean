import CircleStdlib.PublishRoundTrip

/-!
`CMQTTSendPacket` against `CMQTTReceivePacket`: a packet is built, sent, cut into
reads in any way and taken apart again by the readers, in the order in which it
was put together. What is sent is the packet unless `m_nBufPtr`, which has 32
bits, wraps while a payload is appended. The size of the receive buffer is
taken not to wrap, so that a packet of the maximum size stays within its limit.
-/

namespace CircleStdlib.Mqtt.PacketCodec

open ByteMemory Checked CText PublishRoundTrip

inductive Acknowledgement where
  | pubAck
  | pubRec
  | pubRel
  | pubComp
  deriving DecidableEq, Repr

def Acknowledgement.type : Acknowledgement → PacketType
  | .pubAck => .pubAck
  | .pubRec => .pubRec
  | .pubRel => .pubRel
  | .pubComp => .pubComp

inductive Content where
  | publish (uchFlags : UInt8) (pTopic : List UInt8) (usPacketIdentifier : UInt16)
      (payload : List UInt8)
  | acknowledgement (kind : Acknowledgement) (usPacketIdentifier : UInt16)
  deriving DecidableEq, Repr

namespace Content

def type : Content → PacketType
  | .publish .. => .publish
  | .acknowledgement kind _ => kind.type

def flags : Content → UInt8
  | .publish uchFlags .. => uchFlags
  | .acknowledgement kind _ => SendPacket.initialFlags kind.type

def bodyLength : Content → Nat
  | .publish _ pTopic _ payload => pTopic.length + payload.length + 4
  | .acknowledgement .. => 2

def build (config : Config) (memory : Option (Nat → UInt8)) : Content → Except Fault SendPacket
  | .publish uchFlags pTopic usPacketIdentifier payload => do
      let packet ← (SendPacket.create .publish config.maxPacketSize memory).setFlags uchFlags
      let packet ← packet.appendString config.toPlatform pTopic
      let packet ← packet.appendWord usPacketIdentifier
      packet.appendData config.toPlatform payload
  | .acknowledgement kind usPacketIdentifier =>
      (SendPacket.create kind.type config.maxPacketSize memory).appendWord usPacketIdentifier

def WellFormed : Content → Prop
  | .publish uchFlags pTopic _ _ =>
      qosOfFlags uchFlags ≤ 2 ∧ pTopic ≠ [] ∧ pTopic.length < 65536 ∧
        ∀ char ∈ pTopic, char ≠ 0 ∧ char.toNat < 128
  | .acknowledgement .. => True

/-- The packet, with the five bytes kept for its header, is below 2^32 bytes long. -/
def Narrow : Content → Prop
  | .publish _ pTopic _ payload => pTopic.length + payload.length + 9 < 2 ^ 32
  | .acknowledgement .. => True

def TopicFits (nBufferSize : Nat) : Content → Prop
  | .publish _ pTopic _ _ => pTopic.length < nBufferSize
  | .acknowledgement .. => True

/-- The readers in the order of the appends; `next` is the packet behind the last one. -/
def ReadsBack (nBufferSize : Nat) (packet next : ReceivePacket) : Content → Prop
  | .publish _ pTopic usPacketIdentifier payload =>
      ∃ topical identified, packet.getString nBufferSize = .ok (pTopic, topical) ∧
        topical.getWord = .ok (usPacketIdentifier, identified) ∧
        identified.getData payload.length = .ok (some payload, next)
  | .acknowledgement _ usPacketIdentifier => packet.getWord = .ok (usPacketIdentifier, next)

end Content

/-- `Receive` is called, one read each time, until it does not ask for more. The reads
that are left come last. -/
def receiveFrom (platform : Platform) :
    ReceivePacket → List (List UInt8) →
      Except Fault (ReceiveStatus × ReceivePacket × List (List UInt8))
  | packet, [] => .ok (.continue, packet, [])
  | packet, read :: reads => do
      let (status, packet) ← packet.receive platform (some read)
      if status = .continue then receiveFrom platform packet reads
      else return (status, packet, reads)

structure Empty (config : Config) (packet : ReceivePacket) : Prop where
  allocated : packet.allocated = true
  bufferSize : packet.bufferSize = config.bufferSize
  inPtr : packet.inPtr = 0

/-- The bytes, whatever follows them and however they are cut, are received as this
content, and `Complete` leaves what followed. -/
def Decodes (config : Config) (content : Content) (bytes : List UInt8) : Prop :=
  ∀ (packet : ReceivePacket) (further : List UInt8) (reads : List (List UInt8)) (nBufferSize : Nat),
    Empty config packet → (∀ read ∈ reads, read.length ≤ config.frameBufferSize) →
    reads.flatten = bytes ++ further → content.TopicFits nBufferSize →
    ∃ whole behind next left,
      receiveFrom config.toPlatform packet reads = .ok (.packetOK, whole, left) ∧
      whole.type = content.type ∧ whole.flags = content.flags ∧
      whole.remainingLength = content.bodyLength ∧ content.ReadsBack nBufferSize whole behind ∧
      behind.complete = .ok next ∧ next.received ++ left.flatten = further

/-- Reads up to the end of the packet and beyond. -/
theorem receiveFrom_packet (config : Config) (small : config.frameBufferSize < 2 ^ 31)
    (packet : ReceivePacket) (reads : List (List UInt8)) (bytes further : List UInt8)
    (first : Packet) (whole : firstPacket bytes = some (first, []))
    (allocated : packet.allocated = true) (bufferSize : packet.bufferSize = config.bufferSize)
    (stays : bytes.length + config.frameBufferSize ≤ config.bufferSize)
    (short : bytes.length ≤ 2 ^ 31) (cut : ∀ read ∈ reads, read.length ≤ config.frameBufferSize)
    (stream : packet.received ++ reads.flatten = bytes ++ further)
    (unfinished : packet.inPtr < bytes.length) :
    ∃ next rest left,
      receiveFrom config.toPlatform packet reads =
        .ok (if ReceivePacket.wellFormed first.type first.flags first.body.length then .packetOK
          else .packetInvalid, next, left) ∧
      next.Reading first.body rest ∧ next.type = first.type ∧ next.flags = first.flags ∧
      next.remainingLength = first.body.length ∧ rest ++ left.flatten = further := by
  induction reads generalizing packet with
  | nil =>
      have lengths := congrArg List.length stream
      simp only [List.flatten_nil, List.append_nil, ReceivePacket.received_length,
        List.length_append] at lengths
      omega
  | cons read reads ih =>
      have brief := cut read (List.mem_cons_self ..)
      have room : ¬ packet.inPtr > config.sizeSub packet.bufferSize config.frameBufferSize := by
        have bounded : config.bufferSize < 2 ^ config.sizeBits :=
          Nat.mod_lt _ (Nat.two_pow_pos config.sizeBits)
        rw [bufferSize, Platform.sizeSub_within _ _ _ (by omega) bounded]
        omega
      have held := packet.accept_received read (by omega)
      have grown := (packet.accept read).received_length
      rw [held, List.length_append, packet.received_length] at grown
      simp only [List.flatten_cons, ← List.append_assoc] at stream
      rw [← held] at stream
      have received : packet.receive config.toPlatform (some read) =
          (packet.accept read).parse := by
        simp only [ReceivePacket.receive, allocated, room, Bool.true_eq_false, ↓reduceIte]
      rcases Nat.lt_or_ge (packet.accept read).inPtr bytes.length with less | enough
      · -- The buffer still holds a proper part of the packet.
        have part : (packet.accept read).received = bytes.take (packet.accept read).inPtr := by
          have front := congrArg (List.take (packet.accept read).inPtr) stream
          rw [List.take_append_of_le_length (by rw [ReceivePacket.received_length]),
            List.take_append_of_le_length (by omega), List.take_of_length_le
              (by rw [ReceivePacket.received_length])] at front
          exact front
        have unready := part_unfinished bytes first _ whole less
        rw [← part] at unready
        rcases ReceivePacket.parse_partial (packet.accept read) unready.1 with ⟨next, parsed, kept⟩
        rw [unready.2] at parsed
        have same : next.received = (packet.accept read).received := by
          rw [ReceivePacket.received, ReceivePacket.received, kept.buffer, kept.inPtr]
        rcases ih next (kept.allocated.trans allocated) (kept.bufferSize.trans bufferSize)
          (fun other member => cut other (List.mem_cons_of_mem read member))
          (by rw [same]; exact stream) (by rw [kept.inPtr]; exact less) with
          ⟨final, rest, left, result, found⟩
        refine ⟨final, rest, left, ?_, found⟩
        rw [receiveFrom, received, parsed]
        exact result
      · -- The packet is there, with the beginning of what follows it.
        have split : (packet.accept read).received =
            bytes ++ (packet.accept read).received.drop bytes.length := by
          have front := congrArg (List.take bytes.length) stream
          rw [List.take_append_of_le_length (by rw [ReceivePacket.received_length]; exact enough),
            List.take_left] at front
          conv_lhs => rw [← List.take_append_drop bytes.length (packet.accept read).received, front]
        generalize (packet.accept read).received.drop bytes.length = rest at split
        rw [split, List.append_assoc] at stream
        have after := firstPacket_append bytes [] rest first whole
        rw [← split, List.nil_append] at after
        rcases (packet.accept read).parse_packet first rest after with
          ⟨next, parsed, reading, type, flags, length, -⟩
        refine ⟨next, rest, reads, ?_, reading, type, flags, length,
          List.append_cancel_left stream⟩
        rw [receiveFrom, received, parsed]
        split <;> rfl

def Within (packet : SendPacket) : Prop := packet.bufPtr ≤ packet.maxPacketSize

theorem copyIn_within (packet next : SendPacket) (bytes : List UInt8)
    (done : packet.copyIn bytes = .ok next) : Within next := by
  simp only [SendPacket.copyIn, bind_ok, require_ok, pure_ok, Except.ok.injEq] at done
  rcases done with ⟨_, -, _, fits, rfl⟩
  exact le_trans (Nat.mod_le ..) fits

theorem storeUnless_within (packet next : SendPacket) (refused : Prop) [Decidable refused]
    (field : SendPacket.Field) (within : Within packet)
    (done : packet.storeUnless refused field = .ok next) : Within next :=
  packet.storeUnless_keeps next field refused Within
    (fun before after bytes _ copied => copyIn_within before after bytes copied) within within done

theorem appendWord_within (packet next : SendPacket) (usValue : UInt16) (within : Within packet)
    (done : packet.appendWord usValue = .ok next) : Within next :=
  storeUnless_within packet next _ (.word usValue) within done

theorem appendString_within (platform : Platform) (packet next : SendPacket) (pString : List UInt8)
    (within : Within packet) (done : packet.appendString platform pString = .ok next) :
    Within next :=
  storeUnless_within packet next _ (.string pString) within done

theorem appendData_within (platform : Platform) (packet next : SendPacket) (data : List UInt8)
    (within : Within packet) (done : packet.appendData platform data = .ok next) :
    Within next :=
  storeUnless_within packet next _ (.data data) within done

def Content.fields : Content → List UInt8
  | .publish _ pTopic usPacketIdentifier payload => publishFields usPacketIdentifier pTopic payload
  | .acknowledgement _ usPacketIdentifier => SendPacket.wordBytes usPacketIdentifier

theorem fields_length (content : Content) : content.fields.length = content.bodyLength := by
  cases content with
  | publish uchFlags pTopic usPacketIdentifier payload =>
      simp only [Content.fields, Content.bodyLength, publishFields, SendPacket.stringLength,
        SendPacket.wordBytes, List.length_append, List.length_cons, List.length_nil]
      omega
  | acknowledgement kind usPacketIdentifier => rfl

section Building
variable (config : Config) (content : Content) (memory : Option (Nat → UInt8)) (packet : SendPacket)
  (built : content.build config memory = .ok packet)

include built

theorem build_within : Within packet ∧ packet.maxPacketSize = config.maxPacketSize := by
  have size := config.packetSize
  have start : ∀ type, Within (SendPacket.create type config.maxPacketSize memory) :=
    fun type => show 5 ≤ config.maxPacketSize by omega
  cases content with
  | publish uchFlags pTopic usPacketIdentifier payload =>
      simp only [Content.build, SendPacket.setFlags, bind_ok, require_ok, pure_ok,
        Except.ok.injEq] at built
      rcases built with ⟨flagged, ⟨_, -, _, -, rfl⟩, topical, appended, identified, numbered, filled⟩
      refine ⟨appendData_within _ identified packet payload
        (appendWord_within topical identified _
          (appendString_within _ _ topical pTopic (by exact start .publish) appended) numbered)
        filled, ?_⟩
      exact (((SendPacket.appendString_same _ _ topical pTopic appended).trans
        (SendPacket.appendWord_same topical identified _ numbered)).trans
        (SendPacket.appendData_same _ identified packet payload filled)).maxPacketSize
  | acknowledgement kind usPacketIdentifier =>
      exact ⟨appendWord_within _ packet _ (start kind.type) built,
        (SendPacket.appendWord_same _ packet _ built).maxPacketSize⟩

/-- A packet that was filled without an error holds the fields. -/
theorem build_written (wellFormed : content.WellFormed) (narrow : content.Narrow)
    (clean : packet.error = false) :
    packet.Written content.fields ∧ packet.type = content.type ∧ packet.flags = content.flags := by
  cases content with
  | publish uchFlags pTopic usPacketIdentifier payload =>
      obtain ⟨-, -, -, text⟩ := wellFormed
      change pTopic.length + payload.length + 9 < 2 ^ 32 at narrow
      simp only [Content.build, SendPacket.setFlags, bind_ok, require_ok, pure_ok,
        Except.ok.injEq] at built
      rcases built with ⟨flagged, ⟨_, -, _, -, rfl⟩, topical, appended, identified, numbered, filled⟩
      have identifiedClean := SendPacket.appendData_clean _ identified packet payload filled clean
      have startClean := SendPacket.appendString_clean _ _ topical pTopic appended
        (SendPacket.appendWord_clean topical identified _ numbered identifiedClean)
      rcases memory with _ | memory
      · cases startClean
      · have empty := SendPacket.create_written .publish config.maxPacketSize memory
        have start : SendPacket.Written { SendPacket.create .publish config.maxPacketSize
            (some memory) with flags := uchFlags } [] :=
          ⟨empty.clean, empty.allocated, empty.bufPtr, empty.cells, empty.narrow⟩
        rcases named_written _ _ topical identified usPacketIdentifier pTopic start
          (fun char member => (text char member).1) (by omega) appended numbered identifiedClean
          with ⟨named, same⟩
        have place := named.bufPtr
        simp only [List.length_append, SendPacket.stringLength, SendPacket.wordBytes,
          List.length_cons, List.length_nil, maxLengthFixedHeader] at place
        rcases SendPacket.appendData_extends _ identified packet _ payload named (by omega) filled
          clean with ⟨written, third⟩
        refine ⟨?_, (same.trans third).type, (same.trans third).flags⟩
        simpa [Content.fields, publishFields] using written
  | acknowledgement kind usPacketIdentifier =>
      have startClean := SendPacket.appendWord_clean _ packet _ built clean
      rcases memory with _ | memory
      · cases startClean
      · have empty := SendPacket.create_written kind.type config.maxPacketSize memory
        have bufPtr := empty.bufPtr
        simp only [List.length_nil, Nat.add_zero, maxLengthFixedHeader] at bufPtr
        rcases SendPacket.appendWord_extends _ packet [] usPacketIdentifier empty
          (by rw [bufPtr]; omega) built clean with ⟨written, same⟩
        exact ⟨by simpa [Content.fields] using written, same.type, same.flags⟩

/-- The flags fit their four bits. -/
theorem build_flags : content.flags ≤ 0x0F := by
  cases content with
  | publish uchFlags pTopic usPacketIdentifier payload =>
      simp only [Content.build, SendPacket.setFlags, bind_ok, require_ok, pure_ok,
        Except.ok.injEq] at built
      rcases built with ⟨flagged, ⟨_, -, _, small, -⟩, -⟩
      exact small
  | acknowledgement kind usPacketIdentifier =>
      change SendPacket.initialFlags kind.type ≤ 0x0F
      cases kind <;> decide

/-- The packet on the wire. -/
theorem firstPacket_build (wellFormed : content.WellFormed) (narrow : content.Narrow)
    (ready : packet.Ready) :
    ∃ first : Packet, firstPacket packet.wire = some (first, []) ∧ first.type = content.type ∧
      first.flags = content.flags ∧ first.body = content.fields := by
  rcases build_written config content memory packet built wellFormed narrow ready.clean with
    ⟨written, type, flags⟩
  rcases SendPacket.control_parts content.type content.flags
    (build_flags config content memory packet built) with ⟨sameType, sameFlags⟩
  have count : packet.bufPtr - maxLengthFixedHeader = content.fields.length := by
    rw [written.bufPtr]
    omega
  refine ⟨_, packet.firstPacket_wire ready, ?_, ?_, ?_⟩
  · rw [Packet.type, SendPacket.controlByte, type, flags, sameType]
  · rw [Packet.flags, SendPacket.controlByte, type, flags, sameFlags]
  · rw [count, written.cells]

theorem wire_length (ready : packet.Ready) :
    packet.wire.length ≤ config.maxPacketSize ∧ packet.wire.length ≤ 2 ^ 31 := by
  rcases build_within config content memory packet built with ⟨within, size⟩
  have short := ready.short
  have header := ready.header
  have few : (lengthField 4 (packet.bufPtr - maxLengthFixedHeader)).length ≤ 3 := by
    rw [lengthField_spare 3 _ short (by decide)]
    exact lengthField_length 3 _ short
  have fits : packet.bufPtr ≤ config.maxPacketSize := size ▸ within
  simp only [SendPacket.wire, List.length_cons, List.length_append, slice_length]
  simp only [maxLengthFixedHeader] at *
  omega

end Building

/-- The checks of `Receive` let the content pass. -/
theorem wellFormed_content (content : Content) (wellFormed : content.WellFormed) :
    ReceivePacket.wellFormed content.type content.flags content.bodyLength = true := by
  cases content with
  | publish uchFlags pTopic usPacketIdentifier payload =>
      obtain ⟨valid, nonempty, -, -⟩ := wellFormed
      have some : 0 < pTopic.length := List.length_pos_iff.mpr nonempty
      change ReceivePacket.wellFormed .publish uchFlags (pTopic.length + payload.length + 4) = true
      simp only [ReceivePacket.wellFormed, Bool.decide_and, Bool.and_eq_true, decide_eq_true_eq]
      refine ⟨valid, ?_⟩
      split <;> omega
  | acknowledgement kind usPacketIdentifier =>
      change ReceivePacket.wellFormed kind.type (SendPacket.initialFlags kind.type) 2 = true
      cases kind <;> decide

theorem reading_back (content : Content) (wellFormed : content.WellFormed) (nBufferSize : Nat)
    (fits : content.TopicFits nBufferSize) (packet : ReceivePacket) (rest : List UInt8)
    (reading : packet.Reading content.fields rest) :
    ∃ behind, content.ReadsBack nBufferSize packet behind ∧ behind.Reading [] rest := by
  cases content with
  | publish uchFlags pTopic usPacketIdentifier payload =>
      obtain ⟨-, nonempty, short, text⟩ := wellFormed
      change pTopic.length < nBufferSize at fits
      obtain ⟨limit, rfl⟩ : ∃ limit, nBufferSize = limit + 1 := ⟨nBufferSize - 1, by omega⟩
      have taken := takeTopic_fields limit usPacketIdentifier pTopic payload nonempty text
        (by omega) short
      have topical := packet.getString_reading (limit + 1) _ rest pTopic _ reading taken
      have split : (Content.publish uchFlags pTopic usPacketIdentifier payload).fields =
          (SendPacket.stringLength pTopic.length ++ pTopic) ++
            (SendPacket.wordBytes usPacketIdentifier ++ payload) := rfl
      rw [split] at reading
      have first := packet.reading_advance _ _ rest reading
      rw [show (SendPacket.stringLength pTopic.length ++ pTopic).length = pTopic.length + 2 by
        simp [SendPacket.stringLength]] at first
      have identified := ReceivePacket.getWord_reading _ _ _ payload rest first
      rw [SendPacket.word_wordBytes] at identified
      have second := ReceivePacket.reading_advance _ _ payload rest first
      rw [← List.append_nil payload] at second
      refine ⟨_, ⟨_, _, topical, identified, ReceivePacket.getData_reading _ payload [] rest second⟩,
        ReceivePacket.reading_advance _ payload [] rest second⟩
  | acknowledgement kind usPacketIdentifier =>
      have identified := ReceivePacket.getWord_reading packet _ _ [] rest reading
      rw [SendPacket.word_wordBytes] at identified
      exact ⟨_, identified, packet.reading_advance (SendPacket.wordBytes usPacketIdentifier) [] rest
        reading⟩

section RoundTrip
variable (config : Config) (content : Content) (memory : Option (Nat → UInt8)) (packet : SendPacket)
  (small : config.frameBufferSize < 2 ^ 31)
  (stays : packet.wire.length + config.frameBufferSize ≤ config.bufferSize)
  (built : content.build config memory = .ok packet) (ready : packet.Ready)

include small stays built ready

theorem decodes_of_narrow (wellFormed : content.WellFormed) (narrow : content.Narrow) :
    Decodes config content packet.wire := by
  intro start further reads nBufferSize empty cut stream fits
  rcases firstPacket_build config content memory packet built wellFormed narrow ready with
    ⟨first, whole, type, flags, body⟩
  have short := (wire_length config content memory packet built ready).2
  have nothing : start.received = [] := List.length_eq_zero_iff.mp
    (start.received_length.trans empty.inPtr)
  have some : 0 < packet.wire.length := by simp [SendPacket.wire]
  rcases receiveFrom_packet config small start reads packet.wire further first whole
    empty.allocated empty.bufferSize stays short cut (by rw [nothing]; exact stream)
    (by rw [empty.inPtr]; exact some) with
    ⟨next, rest, left, received, reading, sameType, sameFlags, length, behind⟩
  rw [type, flags, body, fields_length, wellFormed_content content wellFormed, if_pos rfl]
    at received
  rw [body] at reading length
  rcases reading_back content wellFormed nBufferSize fits next rest reading with
    ⟨read, readsBack, finished⟩
  rcases read.complete_reading [] rest finished with ⟨final, completed, kept, -⟩
  exact ⟨next, read, final, left, received, sameType.trans type, sameFlags.trans flags,
    length.trans (fields_length content), readsBack, completed, by rw [kept]; exact behind⟩

/-- A packet that is received with its whole body was never too long for its sender. -/
theorem narrow_of_decodes (frame : 0 < config.frameBufferSize)
    (decodes : Decodes config content packet.wire) : content.Narrow := by
  have short := (wire_length config content memory packet built ready).2
  have first := packet.firstPacket_wire ready
  have some : 0 < packet.wire.length := by simp [SendPacket.wire]
  let start : ReceivePacket :=
    { bufferSize := config.bufferSize, allocated := true, buffer := fun _ => 0, inPtr := 0
      outPtr := 0, type := .reserved, flags := 0, remainingLength := 0, bytesConsumed := 0 }
  have empty : Empty config start := ⟨rfl, rfl, rfl⟩
  have flat : (packet.wire.map fun byte => [byte]).flatten = packet.wire ++ [] := by
    induction packet.wire with
    | nil => rfl
    | cons byte rest ih => simpa using ih
  have cut : ∀ read ∈ packet.wire.map fun byte => [byte],
      read.length ≤ config.frameBufferSize := by
    intro read member
    obtain ⟨byte, -, rfl⟩ := List.mem_map.mp member
    exact frame
  have topicFits : ∃ nBufferSize, content.TopicFits nBufferSize := by
    cases content with
    | publish uchFlags pTopic usPacketIdentifier payload =>
        exact ⟨pTopic.length + 1, Nat.lt_succ_self _⟩
    | acknowledgement kind usPacketIdentifier => exact ⟨0, trivial⟩
  obtain ⟨nBufferSize, fits⟩ := topicFits
  rcases decodes start [] _ nBufferSize empty cut flat fits with
    ⟨whole, -, -, left, received, -, -, length, -⟩
  rcases receiveFrom_packet config small start _ packet.wire [] _ first rfl rfl stays short
    cut (by rw [← flat]; rfl) some with ⟨next, rest, others, again, -, -, -, same, -⟩
  rw [received] at again
  simp only [Except.ok.injEq, Prod.mk.injEq] at again
  rw [again.2.1, same, slice_length] at length
  have bound := ready.short
  cases content with
  | publish uchFlags pTopic usPacketIdentifier payload =>
      change packet.bufPtr - maxLengthFixedHeader = pTopic.length + payload.length + 4 at length
      show pTopic.length + payload.length + 9 < 2 ^ 32
      omega
  | acknowledgement kind usPacketIdentifier => trivial

end RoundTrip

/-- For every content and every packet built of it for which `Send` hands bytes to the
socket: a receiver whose buffer has room for the bytes and one read decodes the content from
them exactly when the packet is narrow. -/
theorem sent_decodes_iff_narrow (config : Config) (content : Content)
    (memory : Option (Nat → UInt8)) (packet : SendPacket) (socket : List UInt8 → Int)
    (sending : Sending) (bytes : List UInt8) (frame : 0 < config.frameBufferSize)
    (small : config.frameBufferSize < 2 ^ 31)
    (stays : bytes.length + config.frameBufferSize ≤ config.bufferSize)
    (wellFormed : content.WellFormed)
    (built : content.build config memory = .ok packet) (sent : packet.send socket = .ok sending)
    (handed : sending.handed = some bytes) :
    Decodes config content bytes ↔ content.Narrow := by
  rcases packet.send_handed socket sending bytes sent handed with ⟨ready, rfl⟩
  exact ⟨narrow_of_decodes config content memory packet small stays built ready frame,
    decodes_of_narrow config content memory packet small stays built ready wellFormed⟩

/-- The message `b` on the topic `a`. -/
theorem shortMessage_decodes :
    Decodes Config.default (.publish 2 [97] 1 [98]) [0x32, 6, 0, 1, 97, 0, 1, 98] :=
  (sent_decodes_iff_narrow Config.default (.publish 2 [97] 1 [98]) (some fun _ => 0) _
    (fun bytes => bytes.length) _ [0x32, 6, 0, 1, 97, 0, 1, 98] (by decide) (by decide)
    (by decide) (by unfold Content.WellFormed; decide +kernel) rfl rfl rfl).mpr
    (by unfold Content.Narrow; decide)

def wideConfig : Config :=
  { Config.default with maxPacketSize := 2 ^ 32 + 128, packetSize := by decide }

def wrapping : Content := .publish 0 [97] 1 (List.replicate (2 ^ 32) 0)

/-- A payload that takes `m_nBufPtr` once around. -/
theorem appendData_around (platform : Platform) (packet : SendPacket) (data : List UInt8)
    (clean : packet.error = false) (allocated : packet.allocated = true)
    (fits : packet.bufPtr + data.length ≤ packet.maxPacketSize)
    (wide : packet.bufPtr + data.length < 2 ^ platform.sizeBits) (around : data.length = 2 ^ 32)
    (start : packet.bufPtr < 2 ^ 32) :
    ∃ next, packet.appendData platform data = .ok next ∧ next.error = false ∧
      next.allocated = true ∧ next.bufPtr = packet.bufPtr ∧ next.sendTries = packet.sendTries := by
  have wrapped : (packet.bufPtr + data.length) % 2 ^ 32 = packet.bufPtr := by omega
  simp only [SendPacket.appendData, clean, Bool.false_eq_true, ↓reduceIte, Nat.mod_eq_of_lt wide]
  rw [if_neg (by omega), if_pos (by omega), SendPacket.copyIn, require_holds _ _ allocated, ok_bind,
    require_holds _ _ fits, ok_bind]
  exact ⟨_, rfl, clean, allocated, wrapped, rfl⟩

theorem wrapping_not_decoded :
    ∃ packet sending bytes,
      wrapping.WellFormed ∧ wrapping.build wideConfig (some fun _ => 0) = .ok packet ∧
      packet.send (fun bytes => bytes.length) = .ok sending ∧ sending.handed = some bytes ∧
      ¬ Decodes wideConfig wrapping bytes := by
  have wellFormed : wrapping.WellFormed := by
    change qosOfFlags 0 ≤ 2 ∧ ([97] : List UInt8) ≠ [] ∧ ([97] : List UInt8).length < 65536 ∧
      ∀ char ∈ ([97] : List UInt8), char ≠ 0 ∧ char.toNat < 128
    decide +kernel
  have length : (List.replicate (2 ^ 32) (0 : UInt8)).length = 2 ^ 32 := List.length_replicate
  obtain ⟨named, naming, clean, allocated, bufPtr, size, tries⟩ : ∃ named : SendPacket,
      (do
        let packet ← (SendPacket.create .publish wideConfig.maxPacketSize
          (some fun _ => 0)).setFlags 0
        let packet ← packet.appendString wideConfig.toPlatform [97]
        packet.appendWord 1) = .ok named ∧ named.error = false ∧ named.allocated = true ∧
        named.bufPtr = 10 ∧ named.maxPacketSize = 2 ^ 32 + 128 ∧ named.sendTries = 5 :=
    ⟨_, rfl, rfl, rfl, rfl, rfl, rfl⟩
  rcases appendData_around wideConfig.toPlatform named (List.replicate (2 ^ 32) 0) clean allocated
    (by rw [length]; omega) (by rw [length, bufPtr]; decide) length (by omega) with
    ⟨packet, filled, filledClean, filledAllocated, filledPtr, filledTries⟩
  have built : wrapping.build wideConfig (some fun _ => 0) = .ok packet := by
    rw [← filled, ← ok_bind named fun packet => packet.appendData wideConfig.toPlatform
      (List.replicate (2 ^ 32) 0), ← naming]
    simp only [wrapping, Content.build, bind_assoc]
  have ready : packet.Ready :=
    ⟨filledClean, filledAllocated, by omega, by rw [filledPtr, bufPtr]; decide,
      by rw [filledPtr, bufPtr]; decide⟩
  rcases packet.send_ready (fun bytes => bytes.length) ready with ⟨next, sent, -⟩
  refine ⟨packet, _, packet.wire, wellFormed, built, sent, rfl, fun decodes => ?_⟩
  have short := (wire_length wideConfig wrapping (some fun _ => 0) packet built ready).1
  have size : wideConfig.maxPacketSize + wideConfig.frameBufferSize ≤ wideConfig.bufferSize := by
    decide
  have narrow := narrow_of_decodes wideConfig wrapping (some fun _ => 0) packet (by decide)
    (by omega) built ready (by decide) decodes
  simp only [wrapping, Content.Narrow, length] at narrow
  omega

end CircleStdlib.Mqtt.PacketCodec
