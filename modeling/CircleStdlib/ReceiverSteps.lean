import CircleStdlib.ClientSteps

/-!
One round of `Receiver`. `front` is the packet that the round finds at the
start of the buffer. `Handled` is what a handler owes: the connection and its
socket agree, the buffer keeps its bounds, and while the connection is open the
buffer holds `left`. Each handler is shown to pay it without a failed
assertion, except where a PUBLISH is too short for its identifier.
-/

namespace CircleStdlib.Mqtt

open Checked CText

-- What a PUBLISH body means to this client; `none` when the topic leaves no room
-- for the identifier that the QoS calls for.
def publishRead (limit : Nat) (flags : UInt8) (body : List UInt8) : Option PublishRead :=
  match takeTopic limit body with
  | none => some (.refused .notSupported)
  | some (topic, tail) =>
      if qosOfFlags flags > 0 then
        match tail with
        | high :: low :: payload =>
            if word high low = 0 then some (.refused .invalidPacket)
            else some (.arrived (word high low)
              ⟨cstr topic, some payload, payload.length, retainOfFlags flags⟩)
        | _ => none
      else some (.arrived 0 ⟨cstr topic, some tail, tail.length, retainOfFlags flags⟩)

namespace ReceivePacket

theorem readPublish_refused (packet : ReceivePacket) (size : Nat) (body rest : List UInt8)
    (reading : packet.Reading body rest) (two : 2 ≤ body.length)
    (topicless : takeTopic (size - 1) body = none) :
    ∃ next, packet.readPublish size = .ok (.refused .notSupported, next) ∧ packet.Kept next := by
  rcases packet.getString_refused size body rest reading two topicless with ⟨next, read, kept⟩
  refine ⟨next, ?_, kept⟩
  simp only [readPublish, read, ok_bind]
  rfl

/-- The packet behind the topic. -/
theorem topic_advance (packet : ReceivePacket) (limit : Nat) (body rest topic tail : List UInt8)
    (reading : packet.Reading body rest) (start : packet.bytesConsumed = 0)
    (taken : takeTopic limit body = some (topic, tail)) :
    (packet.advance (topic.length + 2)).Reading tail rest ∧ topic ≠ [] ∧
      body.length = topic.length + 2 + tail.length ∧
      packet.remainingLength - (topic.length + 2) = tail.length := by
  rcases takeTopic_split limit body topic tail taken with ⟨high, low, split, -, nonempty, -⟩
  have consumed := reading.consumed
  rw [split] at reading consumed
  have after := packet.reading_advance (high :: low :: topic) tail rest reading
  simp only [List.length_cons, List.length_append] at consumed
  refine ⟨after, nonempty, ?_, by omega⟩
  rw [split]
  simp only [List.length_cons, List.length_append]
  omega

/-- The PUBLISH branch reads what the body means. -/
theorem readPublish_meaning (packet : ReceivePacket) (size : Nat) (body rest : List UInt8)
    (reading : packet.Reading body rest) (start : packet.bytesConsumed = 0)
    (two : 2 ≤ body.length) :
    match publishRead (size - 1) packet.flags body with
    | none => packet.readPublish size = .error .consumedBeyondPacket
    | some (.refused reason) => ∃ next,
        packet.readPublish size = .ok (.refused reason, next) ∧ packet.Kept next
    | some (.arrived usPacketIdentifier message) =>
        packet.readPublish size =
          .ok (.arrived usPacketIdentifier message, packet.advance body.length) := by
  unfold publishRead
  cases taken : takeTopic (size - 1) body with
  | none => exact packet.readPublish_refused size body rest reading two taken
  | some found =>
      rcases found with ⟨topic, tail⟩
      have read := packet.getString_reading size body rest topic tail reading taken
      rcases packet.topic_advance (size - 1) body rest topic tail reading start taken with
        ⟨after, nonempty, length, count⟩
      have flags : (packet.advance (topic.length + 2)).flags = packet.flags := rfl
      have remaining : (packet.advance (topic.length + 2)).remainingLength =
          packet.remainingLength := rfl
      -- With a QoS the identifier stands in front of the payload.
      by_cases answered : qosOfFlags packet.flags > 0
      · match tail with
        | [] =>
            have short := getWord_short _ [] rest after (by simp)
            simp [readPublish, read, nonempty, flags, answered, short]
        | [byte] =>
            have short := getWord_short _ [byte] rest after (by simp)
            simp [readPublish, read, nonempty, flags, answered, short]
        | high :: low :: payload =>
            have identifier := getWord_reading _ high low payload rest after
            have behind := reading_advance _ [high, low] payload rest after
            have data := getData_reading _ payload [] rest (by simpa using behind)
            have advanced : ((packet.advance (topic.length + 2)).advance 2).advance payload.length =
                packet.advance body.length := by
              rw [length]
              simp [advance]
              omega
            simp only [List.length_cons] at count
            change getData ((packet.advance (topic.length + 2)).advance 2) _ = _ at data
            by_cases zero : word high low = 0
            · simp only [answered, zero, ↓reduceIte]
              refine ⟨(packet.advance (topic.length + 2)).advance 2, ?_, ⟨rfl, rfl, rfl, rfl⟩⟩
              simp [readPublish, read, nonempty, flags, answered, identifier, zero]
            · have enough : ¬ (word high low = 0 ∨ payload.length + 1 + 1 < 2) := by
                simp [zero]
              have less : payload.length + 1 + 1 - 2 = payload.length := by omega
              simp only [answered, zero, ↓reduceIte]
              simp only [readPublish, read, ok_bind, nonempty, ↓reduceIte, flags, answered,
                identifier, remaining, count, enough, less, data, advanced]
              rfl
      · -- Without one the payload is all that is left.
        have data := getData_reading _ tail [] rest (by simpa using after)
        have advanced : (packet.advance (topic.length + 2)).advance tail.length =
            packet.advance body.length := by
          rw [length]
          simp [advance]
          omega
        simp only [answered, ↓reduceIte]
        simp only [readPublish, read, ok_bind, nonempty, ↓reduceIte, flags, answered, remaining,
          count, data, advanced]
        rfl

end ReceivePacket

structure Handled (packet : ReceivePacket) (next : Client) (left : List UInt8) : Prop where
  linked : next.Linked
  bufferSize : next.receivePacket.bufferSize = packet.bufferSize
  allocated : next.receivePacket.allocated = packet.allocated
  inPtr : next.receivePacket.inPtr ≤ packet.inPtr
  framed : next.socket = true → next.receivePacket.received = left

namespace Client

theorem handled_framed (packet : ReceivePacket) (client next : Client) (left : List UInt8)
    (handled : Handled packet client left) (framed : Framed client next) :
    Handled packet next left := by
  refine ⟨linked_framed client next framed handled.linked, ?_, ?_, ?_, ?_⟩
  · rw [framed.receivePacket]
    exact handled.bufferSize
  · rw [framed.receivePacket]
    exact handled.allocated
  · rw [framed.receivePacket]
    exact handled.inPtr
  · rw [framed.receivePacket, framed.socket]
    exact handled.framed

/-- A client that has been closed owes nothing about the buffer's contents. -/
theorem close_handled (client : Client) (reason : DisconnectReason) (left : List UInt8)
    (linked : client.Linked) :
    ∃ next, client.closeConnection reason = .ok next ∧ Handled client.receivePacket next left := by
  rcases closeConnection_total client reason linked with ⟨next, done⟩
  rcases closeConnection_kept client next reason linked done with ⟨good, same, offline⟩
  refine ⟨next, done, good, by rw [same], by rw [same], by rw [same], ?_⟩
  intro open_
  exact absurd offline (good.mp open_)

theorem handled_close (packet : ReceivePacket) (client : Client) (reason : DisconnectReason)
    (left : List UInt8) (handled : Handled packet client left) :
    ∃ next, client.closeConnection reason = .ok next ∧ Handled packet next left := by
  rcases close_handled client reason left handled.linked with ⟨next, done, closed⟩
  exact ⟨next, done, closed.linked, closed.bufferSize.trans handled.bufferSize,
    closed.allocated.trans handled.allocated, closed.inPtr.trans handled.inPtr, closed.framed⟩

theorem handled_kept (packet read : ReceivePacket) (next : Client) (left : List UInt8)
    (kept : packet.Kept read) (handled : Handled read next left) : Handled packet next left :=
  ⟨handled.linked, handled.bufferSize.trans kept.bufferSize,
    handled.allocated.trans kept.allocated, kept.inPtr ▸ handled.inPtr, handled.framed⟩

/-- A packet of which `body` has not been read is completed. -/
theorem complete_handled (client : Client) (read : ReceivePacket) (body rest : List UInt8)
    (linked : client.Linked) (kept : client.receivePacket.Kept read)
    (reading : read.Reading body rest) :
    ∃ packet, (client.withPacket read).completePacket = .ok (client.withPacket packet) ∧
      Handled client.receivePacket (client.withPacket packet) (body ++ rest) := by
  rcases read.complete_reading body rest reading with
    ⟨packet, done, received, bufferSize, allocated, inPtr⟩
  refine ⟨packet, ?_, linked, bufferSize.trans kept.bufferSize, allocated.trans kept.allocated,
    kept.inPtr ▸ inPtr, fun _ => received⟩
  rw [completePacket, show (client.withPacket read).receivePacket = read from rfl, done]
  rfl

/-- The same for a packet that has been read as far as the handler reads it. -/
theorem finish_handled (client : Client) (rest : List UInt8) (linked : client.Linked)
    (reading : client.receivePacket.Reading [] rest) :
    ∃ packet, client.completePacket = .ok (client.withPacket packet) ∧
      Handled client.receivePacket (client.withPacket packet) rest :=
  complete_handled client client.receivePacket [] rest linked ⟨rfl, rfl, rfl, rfl⟩ reading

theorem takeIdentifier_handled (client : Client) (high low : UInt8) (rest : List UInt8)
    (linked : client.Linked) (reading : client.receivePacket.Reading [high, low] rest) :
    ∃ packet, client.takeIdentifier = .ok (word high low, client.withPacket packet) ∧
      Handled client.receivePacket (client.withPacket packet) rest := by
  have read := client.receivePacket.getWord_reading high low [] rest reading
  have after := client.receivePacket.reading_advance [high, low] [] rest reading
  rcases complete_handled client _ [] rest linked (client.receivePacket.kept_advance 2) after with
    ⟨packet, done, handled⟩
  refine ⟨packet, ?_, handled⟩
  change (client.withPacket (client.receivePacket.advance 2)).completePacket = _ at done
  simp only [takeIdentifier, read, ok_bind, done]
  rfl

theorem sendAndQueue_handled (packet : ReceivePacket) (platform : Platform)
    (client next : Client) (queued : SendPacket) (uchQoS : UInt8) (usPacketIdentifier : UInt16)
    (input : SendInput) (left : List UInt8) (handled : Handled packet client left)
    (done : client.sendAndQueue platform queued uchQoS usPacketIdentifier input = .ok next) :
    Handled packet next left := by
  simp only [sendAndQueue, bind_ok] at done
  rcases done with ⟨⟨sent, after, middle⟩, sending, done⟩
  have framed := sendPacket_framed platform client middle queued after input sent sending
  have good := handled_framed packet client middle left handled framed
  split at done
  · split at done <;> cases done <;>
      exact ⟨good.linked, good.bufferSize, good.allocated, good.inPtr, good.framed⟩
  · rcases handled_close packet middle .sendFailed left good with ⟨closed, closing, result⟩
    rw [closing] at done
    cases done
    exact result

/-- The handlers that end in `release`. -/
theorem release_handled (packet : ReceivePacket) (client : Client) (usPacketIdentifier : UInt16)
    (uchQoS : UInt8) (left : List UInt8) (handled : Handled packet client left) :
    ∃ next, client.release usPacketIdentifier uchQoS = .ok next ∧ Handled packet next left := by
  have removed : Handled packet (client.removePacketFromQueue usPacketIdentifier).2 left :=
    ⟨handled.linked, handled.bufferSize, handled.allocated, handled.inPtr, handled.framed⟩
  simp only [release]
  split
  · exact handled_close packet _ _ left removed
  · split
    · exact handled_close packet _ _ left removed
    · exact ⟨_, rfl, removed⟩

theorem handleConnAck_handled (client : Client) (flags code : UInt8) (rest : List UInt8)
    (linked : client.Linked) (reading : client.receivePacket.Reading [flags, code] rest) :
    ∃ next, client.handleConnAck = .ok next ∧ Handled client.receivePacket next rest := by
  have first := client.receivePacket.getByte_reading flags [code] rest reading
  have halfway := client.receivePacket.reading_advance [flags] [code] rest reading
  have second := ReceivePacket.getByte_reading _ code [] rest halfway
  have after := ReceivePacket.reading_advance _ [code] [] rest halfway
  rcases complete_handled client ((client.receivePacket.advance 1).advance 1) [] rest linked
    ⟨rfl, rfl, rfl, rfl⟩ after with ⟨packet, done, handled⟩
  simp only [List.length_cons, List.length_nil, Nat.zero_add] at second
  simp only [handleConnAck, first, ok_bind, second, done]
  split
  · exact handled_close _ _ _ rest handled
  · rename_i pending
    split
    · refine ⟨_, rfl, ⟨?_, handled.bufferSize, handled.allocated, handled.inPtr, handled.framed⟩⟩
      have open_ : client.status ≠ .disconnected := by
        rw [show client.status = .connectPending from not_not.mp pending]
        decide
      exact ⟨fun _ => by simp [record], fun _ => linked.mpr open_⟩
    · exact handled_close _ _ _ rest handled

theorem acknowledged_handled (client : Client) (uchQoS high low : UInt8) (rest : List UInt8)
    (linked : client.Linked) (reading : client.receivePacket.Reading [high, low] rest) :
    ∃ next, client.acknowledged uchQoS = .ok next ∧ Handled client.receivePacket next rest := by
  rcases takeIdentifier_handled client high low rest linked reading with ⟨packet, done, handled⟩
  simp only [acknowledged, done, ok_bind]
  exact release_handled _ _ _ uchQoS rest handled

theorem handlePubRec_handled (platform : Platform) (client : Client) (input : SendInput)
    (high low : UInt8) (rest : List UInt8) (linked : client.Linked)
    (reading : client.receivePacket.Reading [high, low] rest) :
    ∃ next, client.handlePubRec platform input = .ok next ∧
      Handled client.receivePacket next rest := by
  rcases takeIdentifier_handled client high low rest linked reading with ⟨packet, done, handled⟩
  have removed : Handled client.receivePacket
      ((client.withPacket packet).removePacketFromQueue (word high low)).2 rest :=
    ⟨handled.linked, handled.bufferSize, handled.allocated, handled.inPtr, handled.framed⟩
  simp only [handlePubRec, done, ok_bind]
  split
  · exact handled_close _ _ _ rest removed
  · split
    · exact handled_close _ _ _ rest removed
    · rcases SendPacket.wordPacket_built .pubRel (word high low) input.memory with
        ⟨release, built, type, fine⟩
      rw [built, ok_bind]
      rcases sendAndQueue_total platform _ release 2 (word high low) input removed.linked
        (fine.imp And.right fun good => good.2.1) (by rw [type]; rfl) with ⟨next, sent⟩
      refine ⟨next, sent, ?_⟩
      exact sendAndQueue_handled _ platform _ next release 2 _ input rest removed sent

theorem handlePubRel_handled (platform : Platform) (client : Client) (input : SendInput)
    (high low : UInt8) (rest : List UInt8) (linked : client.Linked)
    (reading : client.receivePacket.Reading [high, low] rest) :
    ∃ next, client.handlePubRel platform input = .ok next ∧
      Handled client.receivePacket next rest := by
  rcases takeIdentifier_handled client high low rest linked reading with ⟨packet, done, handled⟩
  simp only [handlePubRel, done, ok_bind]
  split
  · exact handled_close _ _ _ rest handled
  · rcases answer_total platform _ .pubComp (word high low) input handled.linked rfl with
      ⟨sent, answered, sending, framed⟩
    have after := handled_framed _ _ _ rest handled framed
    simp only [sending, ok_bind]
    split
    · exact ⟨_, rfl, after.linked, after.bufferSize, after.allocated, after.inPtr, after.framed⟩
    · exact handled_close _ _ _ rest after

/-- What is behind the first return code of a SUBACK is left in the buffer. -/
theorem handleSubAck_handled (client : Client) (high low code : UInt8) (more rest : List UInt8)
    (linked : client.Linked)
    (reading : client.receivePacket.Reading (high :: low :: code :: more) rest) :
    ∃ next, client.handleSubAck = .ok next ∧
      Handled client.receivePacket next (more ++ rest) := by
  have first := client.receivePacket.getWord_reading high low (code :: more) rest reading
  have halfway := client.receivePacket.reading_advance [high, low] (code :: more) rest reading
  have second := ReceivePacket.getByte_reading _ code more rest halfway
  have after := ReceivePacket.reading_advance _ [code] more rest halfway
  rcases complete_handled client ((client.receivePacket.advance 2).advance 1) more rest linked
    ⟨rfl, rfl, rfl, rfl⟩ after with ⟨packet, done, handled⟩
  simp only [List.length_cons, List.length_nil, Nat.zero_add] at second
  simp only [handleSubAck, first, ok_bind, second, done]
  split
  · exact handled_close _ _ _ _ handled
  · exact release_handled _ _ _ 1 _ handled

theorem handlePingResp_handled (platform : Platform) (client : Client) (ticks : UInt32)
    (rest : List UInt8) (open_ : client.socket = true) (linked : client.Linked)
    (reading : client.receivePacket.Reading [] rest) :
    ∃ next, client.handlePingResp platform ticks = .ok next ∧
      Handled client.receivePacket next rest := by
  rcases finish_handled client rest linked reading with ⟨packet, done, handled⟩
  simp only [handlePingResp, done, ok_bind]
  have good : Linked { client.withPacket packet with status := .connected } :=
    ⟨fun _ => by simp, fun _ => open_⟩
  split <;> exact ⟨_, rfl, good, handled.bufferSize, handled.allocated, handled.inPtr,
    handled.framed⟩

/-- The end of the two QoS branches when the acknowledgement was not sent. -/
theorem unsent_handled (client : Client) (rest : List UInt8) (linked : client.Linked)
    (reading : client.receivePacket.Reading [] rest) :
    ∃ next, (do
        let client ← client.completePacket
        client.closeConnection .sendFailed) = .ok next ∧
      Handled client.receivePacket next rest := by
  rcases finish_handled client rest linked reading with ⟨packet, done, handled⟩
  rw [done, ok_bind]
  exact handled_close _ _ _ rest handled

theorem message_handled (client : Client) (message : Message) (rest : List UInt8)
    (linked : client.Linked) (reading : client.receivePacket.Reading [] rest) :
    ∃ next, (client.record (.onMessage message)).completePacket = .ok next ∧
      Handled client.receivePacket next rest := by
  rcases finish_handled (client.record (.onMessage message)) rest linked reading with
    ⟨packet, done, handled⟩
  exact ⟨_, done, handled⟩

theorem deliver_handled (platform : Platform) (client : Client) (uchQoS : UInt8)
    (usPacketIdentifier : UInt16) (message : Message) (input : SendInput) (rest : List UInt8)
    (linked : client.Linked) (reading : client.receivePacket.Reading [] rest)
    (valid : uchQoS ≤ 2) :
    ∃ next, client.deliver platform uchQoS usPacketIdentifier message input = .ok next ∧
      Handled client.receivePacket next rest := by
  simp only [deliver]
  split
  · exact message_handled client message rest linked reading
  · rename_i answered
    split
    · rcases answer_total platform client .pubAck usPacketIdentifier input linked rfl with
        ⟨sent, acknowledged, sending, framed⟩
      have stays := linked_framed client acknowledged framed linked
      rw [← framed.receivePacket] at reading ⊢
      simp only [sending, ok_bind]
      split
      · exact message_handled acknowledged message rest stays reading
      · exact unsent_handled acknowledged rest stays reading
    · rename_i notOnce
      have twice : uchQoS = 2 :=
        ((qos_values uchQoS valid).resolve_left answered).resolve_left notOnce
      rcases answer_total platform client .pubRec usPacketIdentifier input linked rfl with
        ⟨sent, acknowledged, sending, framed⟩
      have stays := linked_framed client acknowledged framed linked
      rw [← framed.receivePacket] at reading ⊢
      simp only [twice, ↓reduceIte, sending, ok_bind]
      split
      · split
        · rcases finish_handled acknowledged rest stays reading with ⟨packet, done, handled⟩
          exact ⟨_, done, handled⟩
        · exact message_handled
            (acknowledged.insertPacketIdentifierIntoStore usPacketIdentifier) message rest stays
            reading
      · exact unsent_handled acknowledged rest stays reading

theorem handlePublish_handled (config : Config) (client : Client) (input : SendInput)
    (body rest : List UInt8) (linked : client.Linked)
    (reading : client.receivePacket.Reading body rest)
    (start : client.receivePacket.bytesConsumed = 0) (two : 2 ≤ body.length)
    (valid : qosOfFlags client.receivePacket.flags ≤ 2)
    (whole : publishRead config.topicLimit client.receivePacket.flags body ≠ none) :
    ∃ next, client.handlePublish config input = .ok next ∧
      Handled client.receivePacket next rest := by
  have meaning := client.receivePacket.readPublish_meaning config.topicBufferSize body rest reading
    start two
  cases read : publishRead config.topicLimit client.receivePacket.flags body with
  | none => exact absurd read whole
  | some result =>
      cases result with
      | refused reason =>
          rw [read] at meaning
          rcases meaning with ⟨packet, done, kept⟩
          simp only [handlePublish, done, ok_bind]
          rcases close_handled (client.withPacket packet) reason rest linked with
            ⟨next, closing, closed⟩
          exact ⟨next, closing, handled_kept _ packet next rest kept closed⟩
      | arrived usPacketIdentifier message =>
          rw [read] at meaning
          have after := client.receivePacket.reading_advance body [] rest (by simpa using reading)
          simp only [handlePublish, meaning, ok_bind]
          rcases deliver_handled config.toPlatform
            (client.withPacket (client.receivePacket.advance body.length)) _ usPacketIdentifier
            message input rest linked after valid with ⟨next, done, handled⟩
          exact ⟨next, done, handled_kept _ _ next rest (client.receivePacket.kept_advance _)
            handled⟩

theorem handlePublish_cut (config : Config) (client : Client) (input : SendInput)
    (body rest : List UInt8) (reading : client.receivePacket.Reading body rest)
    (start : client.receivePacket.bytesConsumed = 0) (two : 2 ≤ body.length)
    (cut : publishRead config.topicLimit client.receivePacket.flags body = none) :
    client.handlePublish config input = .error .consumedBeyondPacket := by
  have meaning := client.receivePacket.readPublish_meaning config.topicBufferSize body rest reading
    start two
  rw [cut] at meaning
  simp only [handlePublish, meaning, error_bind]

end Client

-- What the handler of a packet leaves in the buffer: all but the first return
-- code of a SUBACK, and what followed the packet.
def leftover (first : Packet) (rest : List UInt8) : List UInt8 :=
  (if first.type = .subAck then first.body.drop 3 else []) ++ rest

def Packet.Accepted (first : Packet) : Prop :=
  ReceivePacket.wellFormed first.type first.flags first.body.length = true

instance (first : Packet) : Decidable first.Accepted := inferInstanceAs (Decidable (_ = true))

theorem accepted_publish (first : Packet) (accepted : first.Accepted)
    (publish : first.type = .publish) : first.qos ≤ 2 ∧ 2 ≤ first.body.length := by
  unfold Packet.Accepted ReceivePacket.wellFormed at accepted
  rw [publish] at accepted
  simp only [Bool.decide_and, Bool.and_eq_true, decide_eq_true_eq] at accepted
  refine ⟨accepted.1, ?_⟩
  have enough := accepted.2
  split at enough <;> omega

-- A PUBLISH whose topic is accepted and leaves less than the two bytes of the
-- identifier that its QoS calls for.
def CutIdentifier (limit : Nat) (first : Packet) : Prop :=
  first.type = .publish ∧ first.Accepted ∧ first.qos > 0 ∧
    ∃ topic tail, takeTopic limit first.body = some (topic, tail) ∧ tail.length < 2

theorem cutIdentifier_iff (limit : Nat) (first : Packet) (accepted : first.Accepted)
    (publish : first.type = .publish) :
    CutIdentifier limit first ↔ publishRead limit first.flags first.body = none := by
  unfold publishRead CutIdentifier
  cases taken : takeTopic limit first.body with
  | none => simp
  | some found =>
      rcases found with ⟨topic, tail⟩
      by_cases answered : qosOfFlags first.flags > 0
      · have asked : first.qos > 0 := answered
        match tail with
        | [] => simp [answered, asked, accepted, publish]
        | [byte] => simp [answered, asked, accepted, publish]
        | high :: low :: payload =>
            by_cases zero : word high low = 0 <;> simp [answered, zero]
      · have asked : ¬ first.qos > 0 := answered
        simp [answered, asked]

structure Found (packet : ReceivePacket) (first : Packet) (rest : List UInt8) : Prop where
  reading : packet.Reading first.body rest
  type : packet.type = first.type
  flags : packet.flags = first.flags
  start : packet.bytesConsumed = 0

namespace Client

theorem two_bytes (body : List UInt8) (length : body.length = 2) :
    ∃ high low, body = [high, low] := by
  match body, length with
  | [high, low], _ => exact ⟨high, low, rfl⟩

/-- Every accepted packet is handled, a PUBLISH with a cut identifier apart. -/
theorem handlePacket_handled (config : Config) (client : Client) (input : SendInput)
    (first : Packet) (rest : List UInt8) (open_ : client.socket = true) (linked : client.Linked)
    (found : Found client.receivePacket first rest) (accepted : first.Accepted)
    (whole : ¬ CutIdentifier config.topicLimit first) :
    ∃ next, client.handlePacket config input = .ok next ∧
      Handled client.receivePacket next (leftover first rest) := by
  have reading := found.reading
  have form := accepted
  unfold Packet.Accepted ReceivePacket.wellFormed at form
  unfold handlePacket leftover
  rw [found.type]
  cases type : first.type <;> rw [type] at form <;>
    simp only [Bool.decide_and, Bool.and_eq_true, decide_eq_true_eq, Bool.false_eq_true] at form
  case connAck =>
      rcases two_bytes first.body form.2 with ⟨flags, code, body⟩
      rw [body] at reading
      simpa using handleConnAck_handled client flags code rest linked reading
  case publish =>
      have cut := (cutIdentifier_iff config.topicLimit first accepted type).not.mp whole
      rw [← found.flags] at form cut
      have two : 2 ≤ first.body.length := by
        have enough := form.2
        split at enough <;> omega
      simpa using handlePublish_handled config client input first.body rest linked reading
        found.start two form.1 cut
  case pubAck =>
      rcases two_bytes first.body form.2 with ⟨high, low, body⟩
      rw [body] at reading
      exact acknowledged_handled client 1 high low rest linked reading
  case pubRec =>
      rcases two_bytes first.body form.2 with ⟨high, low, body⟩
      rw [body] at reading
      simpa using handlePubRec_handled config.toPlatform client input high low rest linked reading
  case pubRel =>
      rcases two_bytes first.body form.2 with ⟨high, low, body⟩
      rw [body] at reading
      simpa using handlePubRel_handled config.toPlatform client input high low rest linked reading
  case pubComp =>
      rcases two_bytes first.body form.2 with ⟨high, low, body⟩
      rw [body] at reading
      exact acknowledged_handled client 2 high low rest linked reading
  -- A SUBACK keeps what stands behind its first return code.
  case subAck =>
      match body : first.body, form.2 with
      | high :: low :: code :: more, _ =>
          rw [body] at reading
          simpa using handleSubAck_handled client high low code more rest linked reading
  case unsubAck =>
      rcases two_bytes first.body form.2 with ⟨high, low, body⟩
      rw [body] at reading
      exact acknowledged_handled client 1 high low rest linked reading
  case pingResp =>
      rw [List.length_eq_zero_iff.mp form.2] at reading
      simpa using handlePingResp_handled config.toPlatform client input.timerTicks rest open_ linked
        reading

-- What a round of `Receiver` finds in the buffer once the read is in it; `none`
-- when it does not get to parse anything.
def arrival (config : Config) (client : Client) (input : ReceiveInput config.toPlatform) :
    Option (List UInt8) :=
  if client.socket = true ∧ client.receivePacket.allocated = true ∧
      client.receivePacket.inPtr ≤
        config.sizeSub client.receivePacket.bufferSize config.frameBufferSize then
    input.bytes.map fun bytes => (client.receivePacket.accept bytes).received
  else none

def front (config : Config) (client : Client) (input : ReceiveInput config.toPlatform) :
    Option (Packet × List UInt8) :=
  (client.arrival config input).bind firstPacket

theorem handlePacket_cut (config : Config) (client : Client) (input : SendInput)
    (first : Packet) (rest : List UInt8) (found : Found client.receivePacket first rest)
    (cut : CutIdentifier config.topicLimit first) :
    client.handlePacket config input = .error .consumedBeyondPacket := by
  rcases cut with ⟨type, accepted, answered, topic, tail, taken, short⟩
  have unread := (cutIdentifier_iff config.topicLimit first accepted type).mp
    ⟨type, accepted, answered, topic, tail, taken, short⟩
  rcases ReceivePacket.takeTopic_split config.topicLimit first.body topic tail taken with
    ⟨high, low, split, -⟩
  rw [← found.flags] at unread
  unfold handlePacket
  rw [found.type, type]
  exact handlePublish_cut config client input first.body rest found.reading found.start
    (by rw [split]; simp) unread

/-- The buffer has its size and holds at most one read more than may be queued. -/
structure Bounded (config : Config) (packet : ReceivePacket) : Prop where
  bufferSize : packet.bufferSize = config.bufferSize
  inPtr : packet.inPtr ≤ config.fillLimit

theorem accept_bounded (config : Config) (packet : ReceivePacket) (bytes : List UInt8)
    (bounded : Bounded config packet) (short : bytes.length ≤ config.frameBufferSize)
    (room : packet.inPtr ≤ config.sizeSub packet.bufferSize config.frameBufferSize) :
    Bounded config (packet.accept bytes) := by
  have below : (packet.accept bytes).inPtr ≤ packet.inPtr + bytes.length := Nat.mod_le ..
  rw [bounded.bufferSize, config.sizeSub_bufferSize] at room
  exact ⟨bounded.bufferSize, by rw [Config.fillLimit]; omega⟩

/-- A round that gets as far as parsing calls `Receive` with a read. -/
theorem receive_arrival (config : Config) (client : Client)
    (input : ReceiveInput config.toPlatform) (stream : List UInt8)
    (bounded : Bounded config client.receivePacket)
    (arrived : client.arrival config input = some stream) :
    client.socket = true ∧ ∃ packet : ReceivePacket,
      packet.received = stream ∧ Bounded config packet ∧
      packet.allocated = client.receivePacket.allocated ∧
      client.receivePacket.receive config.toPlatform input.bytes = packet.parse := by
  unfold arrival at arrived
  split at arrived
  · rename_i ready
    rcases ready with ⟨open_, allocated, room⟩
    rcases read : input.read with _ | ⟨bytes, short⟩
    · simp [ReceiveInput.bytes, read] at arrived
    · have delivered : input.bytes = some bytes := by simp [ReceiveInput.bytes, read]
      rw [delivered, Option.map_some, Option.some.injEq] at arrived
      refine ⟨open_, client.receivePacket.accept bytes, arrived,
        accept_bounded config client.receivePacket bytes bounded short room, rfl, ?_⟩
      have filled : ¬ client.receivePacket.inPtr >
          config.sizeSub client.receivePacket.bufferSize config.frameBufferSize := by omega
      simp only [ReceivePacket.receive, allocated, Bool.true_eq_false, filled, ↓reduceIte,
        delivered]
  · cases arrived

/-- One that does not leaves without touching the buffer. -/
theorem receive_nothing (config : Config) (client : Client)
    (input : ReceiveInput config.toPlatform) (open_ : client.socket = true)
    (nothing : client.arrival config input = none) :
    ∃ status, client.receivePacket.receive config.toPlatform input.bytes =
        .ok (status, client.receivePacket) ∧ status ≠ .packetOK := by
  unfold ReceivePacket.receive
  split
  · exact ⟨_, rfl, by decide⟩
  · rename_i allocated
    split
    · exact ⟨_, rfl, by decide⟩
    · rename_i filled
      cases read : input.bytes with
      | none => exact ⟨_, rfl, by decide⟩
      | some bytes =>
          have ready : client.socket = true ∧ client.receivePacket.allocated = true ∧
              client.receivePacket.inPtr ≤
                config.sizeSub client.receivePacket.bufferSize config.frameBufferSize :=
            ⟨open_, by simpa using allocated, by omega⟩
          simp [arrival, ready, read] at nothing

/-- `Receive` answers `MQTTReceivePacketOK` for a packet that is accepted. -/
theorem receive_found (config : Config) (client : Client)
    (input : ReceiveInput config.toPlatform) (first : Packet) (rest : List UInt8)
    (bounded : Bounded config client.receivePacket)
    (whole : client.front config input = some (first, rest)) (accepted : first.Accepted) :
    client.socket = true ∧ ∃ packet, Found packet first rest ∧ Bounded config packet ∧
      packet.allocated = client.receivePacket.allocated ∧
      client.receivePacket.receive config.toPlatform input.bytes = .ok (.packetOK, packet) := by
  rcases Option.bind_eq_some_iff.mp whole with ⟨stream, arrived, start⟩
  rcases receive_arrival config client input stream bounded arrived with
    ⟨open_, filled, received, size, allocated, receive⟩
  rcases filled.parse_packet first rest (received ▸ start) with
    ⟨packet, parsed, reading, type, flags, length, kept⟩
  have consumed := reading.consumed
  refine ⟨open_, packet, ⟨reading, type, flags, by omega⟩,
    ⟨kept.bufferSize.trans size.bufferSize, kept.inPtr ▸ size.inPtr⟩,
    kept.allocated.trans allocated, ?_⟩
  have status : (if ReceivePacket.wellFormed first.type first.flags first.body.length then
      ReceiveStatus.packetOK else .packetInvalid) = .packetOK := if_pos accepted
  rw [status] at parsed
  exact receive.trans parsed

/-- A round that finds a packet hands it to the handlers. -/
theorem receiverPass_found (config : Config) (client : Client)
    (input : ReceiveInput config.toPlatform) (first : Packet) (rest : List UInt8)
    (bounded : Bounded config client.receivePacket)
    (whole : client.front config input = some (first, rest)) (accepted : first.Accepted) :
    client.socket = true ∧ ∃ packet, Found packet first rest ∧ Bounded config packet ∧
      packet.allocated = client.receivePacket.allocated ∧
      client.receiverPass config input = (do
        let next ← (client.withPacket packet).handlePacket config input.send
        return (true, next)) := by
  rcases receive_found config client input first rest bounded whole accepted with
    ⟨open_, packet, found, size, allocated, received⟩
  refine ⟨open_, packet, found, size, allocated, ?_⟩
  simp only [receiverPass, open_, Bool.true_eq_false, ↓reduceIte, received, ok_bind]

def Invalid (stream : List UInt8) : Prop :=
  overlong stream = true ∨ ∃ first rest, firstPacket stream = some (first, rest) ∧ ¬ first.Accepted

theorem parse_invalid (packet : ReceivePacket) (invalid : Invalid packet.received) :
    ∃ next, packet.parse = .ok (.packetInvalid, next) ∧ packet.Kept next := by
  rcases invalid with bad | ⟨first, rest, whole, refused⟩
  · have unfinished : firstPacket packet.received = none := by
      unfold overlong at bad
      split at bad
      · cases bad
      · rename_i control tail stream
        rw [stream, firstPacket]
        cases taken : takeLength false 4 tail with
        | none => rfl
        | some result =>
            rw [badLength_of_taken false 4 result.1 tail result.2 taken] at bad
            cases bad
    rcases packet.parse_partial unfinished with ⟨next, parsed, kept⟩
    rw [if_pos bad] at parsed
    exact ⟨next, parsed, kept⟩
  · rcases packet.parse_packet first rest whole with ⟨next, parsed, -, -, -, -, kept⟩
    have refused : ¬ ReceivePacket.wellFormed first.type first.flags first.body.length = true :=
      refused
    rw [if_neg refused] at parsed
    exact ⟨next, parsed, kept⟩

theorem receive_unfound (config : Config) (client : Client)
    (input : ReceiveInput config.toPlatform) (open_ : client.socket = true)
    (bounded : Bounded config client.receivePacket)
    (missing : ∀ first rest, client.front config input = some (first, rest) → ¬ first.Accepted) :
    ∃ status packet, client.receivePacket.receive config.toPlatform input.bytes =
        .ok (status, packet) ∧ status ≠ .packetOK ∧ Bounded config packet := by
  cases arrived : client.arrival config input with
  | none =>
      rcases receive_nothing config client input open_ arrived with ⟨status, receive, bad⟩
      exact ⟨status, _, receive, bad, bounded⟩
  | some stream =>
      rcases receive_arrival config client input stream bounded arrived with
        ⟨-, filled, received, size, -, receive⟩
      cases whole : firstPacket stream with
      | none =>
          rcases filled.parse_partial (received ▸ whole) with ⟨packet, parsed, kept⟩
          exact ⟨_, packet, receive.trans parsed, by split <;> decide,
            ⟨kept.bufferSize.trans size.bufferSize, kept.inPtr ▸ size.inPtr⟩⟩
      | some found =>
          have refused := missing found.1 found.2 (by rw [front, arrived]; exact whole)
          rcases parse_invalid filled (Or.inr ⟨found.1, found.2, received ▸ whole, refused⟩) with
            ⟨packet, parsed, kept⟩
          exact ⟨_, packet, receive.trans parsed, by decide,
            ⟨kept.bufferSize.trans size.bufferSize, kept.inPtr ▸ size.inPtr⟩⟩

/-- A round that finds none only waits for more or closes the connection. -/
theorem receiverPass_unfound (config : Config) (client : Client)
    (input : ReceiveInput config.toPlatform) (linked : client.Linked)
    (bounded : Bounded config client.receivePacket)
    (missing : ∀ first rest, client.front config input = some (first, rest) → ¬ first.Accepted) :
    ∃ packet next, client.receiverPass config input = .ok (false, next) ∧
      Bounded config packet ∧
      (next = client.withPacket packet ∨ ∃ reason, reason ≠ .packetIdentifier ∧
        (client.withPacket packet).closeConnection reason = .ok next) := by
  unfold receiverPass
  split
  · exact ⟨client.receivePacket, client, rfl, bounded, Or.inl rfl⟩
  · rename_i closed
    have open_ : client.socket = true := by simpa using closed
    rcases receive_unfound config client input open_ bounded missing with
      ⟨status, packet, received, bad, size⟩
    rw [received, ok_bind]
    have closing : ∀ reason, ∃ next,
        (client.withPacket packet).closeConnection reason = .ok next :=
      fun reason => closeConnection_total (client.withPacket packet) reason linked
    cases status with
    | packetOK => exact absurd rfl bad
    | «continue» => exact ⟨packet, _, rfl, size, Or.inl rfl⟩
    | packetInvalid =>
        rcases closing .invalidPacket with ⟨next, done⟩
        simp only [done, ok_bind]
        exact ⟨packet, next, rfl, size, Or.inr ⟨_, by decide, done⟩⟩
    | disconnect =>
        rcases closing .fromPeer with ⟨next, done⟩
        simp only [done, ok_bind]
        exact ⟨packet, next, rfl, size, Or.inr ⟨_, by decide, done⟩⟩
    | notEnoughMemory =>
        rcases closing .insufficientResources with ⟨next, done⟩
        simp only [done, ok_bind]
        exact ⟨packet, next, rfl, size, Or.inr ⟨_, by decide, done⟩⟩

end Client

end CircleStdlib.Mqtt
