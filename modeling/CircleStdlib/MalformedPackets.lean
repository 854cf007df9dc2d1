import CircleStdlib.BrokerPackets
import CircleStdlib.PacketIdentifiers
import CircleStdlib.PublishAcceptance

/-!
What becomes of a packet that a broker must not send. Most of them `Receive`
refuses, and the handlers close the connection for most of the others. Three
kinds are treated like well-formed ones: `Overlooked` says which, and is shown
to be exact.
-/

namespace CircleStdlib.Mqtt.MalformedPackets

open Acknowledgements BrokerPackets Checked Execution PacketIdentifiers PublishAcceptance

/-- What every run keeps of a client, as far as the rounds of `Receiver` depend on it. -/
structure Standing (config : Config) (client : Client) : Prop where
  kept : Kept config client
  numbered : PublishRoundTrip.Numbered client
  nonzero : 0 ∉ identifiers client

/-- A packet that is not well-formed and that a handler lets pass. -/
inductive Overlooked (config : Config) (client : Client) (send : SendInput) : Packet → Prop where
  -- A CONNACK that was waited for, with a reserved bit of its flags set.
  | connAck (flags : UInt8) (pending : client.status = .connectPending)
      (reserved : 1 < flags.toNat) : Overlooked config client send ⟨0x20, [flags, 0]⟩
  -- A PUBLISH that is taken, repeated without a QoS or with a name that may not be used.
  | publish (first : Packet) (topic tail : List UInt8) (type : first.type = .publish)
      (accepted : first.Accepted)
      (taken : takeTopic config.topicLimit first.body = some (topic, tail))
      (numbered : 0 < first.qos →
        ∃ high low payload, tail = high :: low :: payload ∧ word high low ≠ 0)
      (acknowledged : Acknowledged config.topicLimit first send)
      (wrong : first.qos = 0 ∧ first.control.toNat / 8 % 2 = 1 ∨ ∃ byte ∈ topic, ¬ Plain byte) :
      Overlooked config client send first
  -- A SUBACK that is waited for, with an unknown code behind the one that is read.
  | subAck (high low code : UInt8) (codes : List UInt8) (entry : SendPacket) (granted : code ≤ 2)
      (asked : addressed client (word high low) = some entry) (qos : entry.qos = 1)
      (unknown : ∃ other ∈ codes, other ∉ ([0, 1, 2, 0x80] : List UInt8)) :
      Overlooked config client send ⟨0x90, high :: low :: code :: codes⟩

/-! The fields of a control byte. -/

theorem control_fields (control : UInt8) :
    (PacketType.ofControl control).code.toNat = control.toNat / 16 ∧
      (control &&& 0x0F).toNat = control.toNat % 16 ∧
      (qosOfFlags (control &&& 0x0F)).toNat = control.toNat / 2 % 4 := by
  have table : ∀ index : Fin 256,
      (PacketType.ofControl (UInt8.ofNat index)).code.toNat = (index : Nat) / 16 ∧
        (UInt8.ofNat index &&& 0x0F).toNat = (index : Nat) % 16 ∧
        (qosOfFlags (UInt8.ofNat index &&& 0x0F)).toNat = (index : Nat) / 2 % 4 := by
    decide +kernel
  simpa using table ⟨control.toNat, control.toNat_lt⟩

theorem type_code (first : Packet) : first.type.code.toNat = first.control.toNat / 16 :=
  (control_fields first.control).1

theorem flags_eq (first : Packet) : first.flags.toNat = first.control.toNat % 16 :=
  (control_fields first.control).2.1

theorem qos_eq (first : Packet) : first.qos.toNat = first.control.toNat / 2 % 4 :=
  (control_fields first.control).2.2

theorem type_connAck : PacketType.ofControl 0x20 = .connAck := by decide

theorem type_subAck : PacketType.ofControl 0x90 = .subAck := by decide

/-- A control byte is told by the type and the flags. -/
theorem control_eq (first : Packet) (control : UInt8)
    (type : first.type.code.toNat = control.toNat / 16)
    (flags : first.flags.toNat = control.toNat % 16) : first.control = control := by
  rw [type_code] at type
  rw [flags_eq] at flags
  exact UInt8.toNat_inj.mp (by omega)

theorem word_eq_zero (high low : UInt8) : word high low = 0 ↔ high = 0 ∧ low = 0 := by
  constructor
  · intro zero
    have value := word_toNat high low
    rw [zero] at value
    have none : (0 : UInt16).toNat = 0 := rfl
    exact ⟨UInt8.toNat_inj.mp (by simp; omega), UInt8.toNat_inj.mp (by simp; omega)⟩
  · rintro ⟨rfl, rfl⟩
    decide

section Publish
variable (first : Packet)

/-- A PUBLISH that is read as a message is well-formed, if its name and its flags are. -/
theorem publish_wellFormed (limit : Nat) (topic tail : List UInt8)
    (type : first.type = .publish) (valid : first.qos ≤ 2)
    (taken : takeTopic limit first.body = some (topic, tail))
    (numbered : 0 < first.qos →
      ∃ high low payload, tail = high :: low :: payload ∧ word high low ≠ 0)
    (single : first.qos = 0 → first.control.toNat / 8 % 2 = 0)
    (plain : ∀ byte ∈ topic, Plain byte) : WellFormed first := by
  obtain ⟨high, low, body, size, nonempty, -, narrow⟩ :=
    ReceivePacket.takeTopic_split limit first.body topic tail taken
  have kind : first.control.toNat / 16 = 3 := by
    rw [← type_code, type]
    rfl
  have length : high.toNat * 256 + low.toNat = topic.length := by rw [size, word_toNat]
  have name := topicName_plain topic nonempty narrow plain
  have bits := qos_eq first
  cases first with
  | mk control content =>
      cases body
      by_cases none : Packet.qos ⟨control, high :: low :: (topic ++ tail)⟩ = 0
      · rw [none] at bits
        have marked : Marked (control.toNat / 2 % 4) (control.toNat / 8 % 2) [] := by
          rw [← bits, single none]
          exact .atMostOnce
        exact .publish control high low topic [] tail kind length name marked
      · obtain ⟨idHigh, idLow, payload, rfl, some⟩ := numbered (UInt8.pos_iff_ne_zero.mpr none)
        rw [ne_eq, word_eq_zero] at some
        have known : control.toNat / 2 % 4 = 1 ∨ control.toNat / 2 % 4 = 2 := by
          rcases qos_values _ valid with zero | once | twice
          · exact absurd zero none
          · exact Or.inl (by rw [← bits, once]; rfl)
          · exact Or.inr (by rw [← bits, twice]; rfl)
        exact .publish control high low topic [idHigh, idLow] payload kind length name
          (.acknowledged _ _ idHigh idLow known some)

theorem publish_refused (limit : Nat) (topic tail : List UInt8) (type : first.type = .publish)
    (taken : takeTopic limit first.body = some (topic, tail))
    (wrong : first.qos = 0 ∧ first.control.toNat / 8 % 2 = 1 ∨ ∃ byte ∈ topic, ¬ Plain byte) :
    ¬ WellFormed first := by
  obtain ⟨high, low, body, size, -, -, narrow⟩ :=
    ReceivePacket.takeTopic_split limit first.body topic tail taken
  have kind := type_code first
  have bits := qos_eq first
  rw [type] at kind
  intro wellFormed
  cases wellFormed with
  | connAck | subAck | pingResp => simp [PacketType.code] at kind
  | acknowledgement control _ _ listed =>
      simp only [List.mem_cons, List.not_mem_nil, or_false] at listed
      rcases listed with rfl | rfl | rfl | rfl | rfl <;> simp [PacketType.code] at kind
  | publish control _ _ other identifier payload _ length name marked =>
      simp only [List.cons.injEq] at body
      obtain ⟨rfl, rfl, same⟩ := body
      have equal : other.length = topic.length := by rw [← length, size, word_toNat]
      cases (List.append_inj same equal).1
      rcases wrong with ⟨none, repeated⟩ | ⟨byte, member, bad⟩
      · dsimp only at repeated
        rw [none] at bits
        rw [← bits, repeated] at marked
        cases marked with
        | acknowledged _ _ _ _ known => exact absurd known (by decide)
      · exact bad (plain_of_topicName topic name narrow byte member)

end Publish

section Rounds
variable (config : Config) (client : Client) (send : SendInput)

/-- No entry of the queue has the identifier 0. -/
theorem unaddressed (standing : Standing config client) (entry : SendPacket)
    (found : (client.removePacketFromQueue 0).1 = some entry) : False := by
  rw [client.removePacketFromQueue_eq] at found
  have bearing := List.find?_some found
  have zero : entry.packetIdentifier = 0 := by simpa [bears] using bearing
  exact standing.nonzero
    (zero ▸ List.mem_map_of_mem (List.mem_of_find?_eq_some found))

theorem release_shut (next : Client) (uchQoS : UInt8) (standing : Standing config client)
    (done : client.release 0 uchQoS = .ok next) : next.socket = false := by
  rcases client.release_cases next 0 uchQoS done with ⟨-, closing⟩ | ⟨entry, found, -⟩
  · exact (client.removePacketFromQueue 0).2.closed_shut next _ standing.kept.sound.linked closing
  · exact (unaddressed config client standing entry found).elim

/-- A message whose acknowledgement cannot be sent closes the connection. -/
theorem respondMessage_shut (next : Client) (uchQoS : UInt8) (usPacketIdentifier : UInt16)
    (message : Message) (linked : client.Linked) (online : client.status ≠ .disconnected)
    (unsent : uchQoS = 1 ∧ ¬ Client.Takes .pubAck usPacketIdentifier send ∨
      uchQoS = 2 ∧ ¬ Client.Takes .pubRec usPacketIdentifier send)
    (done : client.respondMessage config.toPlatform uchQoS usPacketIdentifier message send =
      .ok next) : next.socket = false := by
  rcases client.respondMessage_cases config.toPlatform next uchQoS usPacketIdentifier message send
    done with ⟨none, -⟩ | ⟨-, sent, middle, answered, outcome⟩
  · rcases unsent with ⟨some, -⟩ | ⟨some, -⟩ <;> exact absurd (none.symm.trans some) (by decide)
  · have silent : sent = false ∧ middle.Linked := by
      rcases unsent with ⟨rfl, refused⟩ | ⟨rfl, refused⟩
      · obtain ⟨after, answer, framed, -⟩ := client.answer_outcome config.toPlatform .pubAck
          usPacketIdentifier send linked online rfl
        cases answer.symm.trans answered
        exact ⟨by simpa using refused, Client.linked_framed client middle framed linked⟩
      · obtain ⟨after, answer, framed, -⟩ := client.answer_outcome config.toPlatform .pubRec
          usPacketIdentifier send linked online rfl
        cases answer.symm.trans answered
        exact ⟨by simpa using refused, Client.linked_framed client middle framed linked⟩
    obtain ⟨rfl, good⟩ := silent
    rcases outcome with ⟨-, closing⟩ | ⟨accepted, -⟩ | ⟨accepted, -⟩ | ⟨accepted, -⟩
    · exact middle.closed_shut next _ good closing
    all_goals cases accepted

theorem publish_shut (next : Client) (first : Packet) (standing : Standing config client)
    (online : client.status ≠ .disconnected) (type : first.type = .publish)
    (accepted : first.Accepted) (refused : ¬ WellFormed first)
    (seen : ¬ Overlooked config client send first)
    (done : client.respondPublish config first send = .ok next) : next.socket = false := by
  have linked := standing.kept.sound.linked
  have valid := (accepted_publish first accepted type).1
  rcases client.respondPublish_cases config next first send done with
    ⟨reason, -, closing⟩ | ⟨usPacketIdentifier, message, read, told⟩
  · exact client.closed_shut next reason linked closing
  · obtain ⟨topic, tail, taken, numbered⟩ :=
      (arrived_iff config.topicLimit first).mp ⟨usPacketIdentifier, message, read⟩
    have wrong : first.qos = 0 ∧ first.control.toNat / 8 % 2 = 1 ∨
        ∃ byte ∈ topic, ¬ Plain byte := by
      by_contra fine
      rw [not_or, not_exists] at fine
      refine refused (publish_wellFormed first config.topicLimit topic tail type valid taken
        numbered ?_ ?_)
      · intro none
        have bit : ¬ first.control.toNat / 8 % 2 = 1 := fun repeated => fine.1 ⟨none, repeated⟩
        omega
      · intro byte member
        by_contra bad
        exact fine.2 byte ⟨member, bad⟩
    refine respondMessage_shut config client send next first.qos usPacketIdentifier message linked
      online ?_ told
    by_contra sent
    refine seen (.publish first topic tail type accepted taken numbered ?_ wrong)
    intro other again found
    cases Option.some.inj (read.symm.trans found)
    rw [not_or, not_and_not_right, not_and_not_right] at sent
    exact sent

theorem connAck_shut (next : Client) (flags code : UInt8) (linked : client.Linked)
    (refused : ¬ WellFormed ⟨0x20, [flags, code]⟩)
    (seen : ¬ Overlooked config client send ⟨0x20, [flags, code]⟩)
    (done : client.respondConnAck flags code = .ok next) : next.socket = false := by
  rcases client.respondConnAck_cases next flags code done with
    ⟨-, closing⟩ | ⟨pending, ⟨rfl, -⟩ | ⟨-, closing⟩⟩
  · exact client.closed_shut next _ linked closing
  · by_cases reserved : flags.toNat ≤ 1
    · exact absurd (.connAck flags 0 reserved (by decide) fun some => absurd rfl some) refused
    · exact absurd (.connAck flags pending (by omega)) seen
  · exact client.closed_shut next _ linked closing

theorem subAck_shut (next : Client) (high low code : UInt8) (codes : List UInt8)
    (standing : Standing config client) (refused : ¬ WellFormed ⟨0x90, high :: low :: code :: codes⟩)
    (seen : ¬ Overlooked config client send ⟨0x90, high :: low :: code :: codes⟩)
    (done : client.respondSubAck (word high low) code = .ok next) : next.socket = false := by
  have linked := standing.kept.sound.linked
  rcases client.respondSubAck_cases next (word high low) code done with
    ⟨-, closing⟩ | ⟨granted, released⟩
  · exact client.closed_shut next _ linked closing
  rcases client.release_cases next (word high low) 1 released with
    ⟨-, closing⟩ | ⟨entry, found, qos, -⟩
  · exact (client.removePacketFromQueue (word high low)).2.closed_shut next _ linked closing
  have some : ¬ (high = 0 ∧ low = 0) := by
    intro none
    rw [(word_eq_zero high low).mpr none] at found
    exact unaddressed config client standing entry found
  rw [client.removePacketFromQueue_eq] at found
  have first : code ≤ 2 := UInt8.not_lt.mp granted
  -- the first code is one that there is, so that a later one must be wrong
  have unknown : ∃ other ∈ codes, other ∉ ([0, 1, 2, 0x80] : List UInt8) := by
    by_contra known
    simp only [not_exists, not_and, not_not] at known
    refine refused (.subAck high low (code :: codes) some (by simp) ?_)
    intro other member
    rcases List.mem_cons.mp member with rfl | later
    · rcases qos_values other first with rfl | rfl | rfl <;> decide
    · exact known other later
  exact absurd (.subAck high low code codes entry first found qos unknown) seen

/-- A packet that is not well-formed and not overlooked closes the connection. -/
theorem respond_shut (next : Client) (first : Packet) (standing : Standing config client)
    (online : client.status ≠ .disconnected) (accepted : first.Accepted)
    (refused : ¬ WellFormed first) (seen : ¬ Overlooked config client send first)
    (done : client.respond config first send = .ok next) : next.socket = false := by
  have linked := standing.kept.sound.linked
  have form := accepted
  unfold Packet.Accepted ReceivePacket.wellFormed at form
  -- the control byte of a type whose flags are fixed
  have controlled : ∀ control : UInt8, first.type.code.toNat = control.toNat / 16 →
      first.flags.toNat = control.toNat % 16 → first = ⟨control, first.body⟩ := by
    intro control type flags
    rw [← control_eq first control type flags]
  -- the acknowledgements, whose only fault can be the identifier 0
  have zero : ∀ control : UInt8, control ∈ ([0x40, 0x50, 0x62, 0x70, 0xB0] : List UInt8) →
      first = ⟨control, first.body⟩ → first.body.length = 2 → identifierOf first.body = 0 := by
    intro control kind same length
    obtain ⟨high, low, body⟩ := Client.two_bytes first.body length
    rw [body] at same ⊢
    change word high low = 0
    by_contra some
    rw [word_eq_zero] at some
    exact refused (same ▸ .acknowledgement control high low kind some)
  unfold Client.respond at done
  cases type : first.type <;> rw [type] at form done controlled <;>
    simp only [Bool.decide_and, Bool.and_eq_true, decide_eq_true_eq, Bool.false_eq_true] at form
  case connAck =>
      obtain ⟨flags, code, body⟩ := Client.two_bytes first.body form.2
      have same := controlled 0x20 rfl (by rw [form.1]; rfl)
      rw [body] at same done
      exact connAck_shut config client send next flags code linked (same ▸ refused) (same ▸ seen)
        done
  case publish =>
      exact publish_shut config client send next first standing online type accepted refused seen
        done
  case pubAck =>
      rw [zero 0x40 (by decide) (controlled 0x40 rfl (by rw [form.1]; rfl)) form.2] at done
      exact release_shut config client next 1 standing done
  case pubRec =>
      rw [zero 0x50 (by decide) (controlled 0x50 rfl (by rw [form.1]; rfl)) form.2] at done
      rcases client.respondPubRec_cases config.toPlatform next 0 send done with
        ⟨-, closing⟩ | ⟨entry, packet, found, -⟩
      · exact (client.removePacketFromQueue 0).2.closed_shut next _ linked closing
      · exact (unaddressed config client standing entry found).elim
  case pubRel =>
      rw [zero 0x62 (by decide) (controlled 0x62 rfl (by rw [form.1]; rfl)) form.2] at done
      rcases client.respondPubRel_cases config.toPlatform next 0 send done with
        ⟨-, closing⟩ | ⟨some, -⟩
      · exact client.closed_shut next _ linked closing
      · exact absurd rfl some
  case pubComp =>
      rw [zero 0x70 (by decide) (controlled 0x70 rfl (by rw [form.1]; rfl)) form.2] at done
      exact release_shut config client next 2 standing done
  case unsubAck =>
      rw [zero 0xB0 (by decide) (controlled 0xB0 rfl (by rw [form.1]; rfl)) form.2] at done
      exact release_shut config client next 1 standing done
  case subAck =>
      have same := controlled 0x90 rfl (by rw [form.1]; rfl)
      match body : first.body, form.2 with
      | high :: low :: code :: codes, _ =>
          rw [body] at same done
          exact subAck_shut config client send next high low code codes standing (same ▸ refused)
            (same ▸ seen) done
  case pingResp =>
      have same := controlled 0xD0 rfl (by rw [form.1]; rfl)
      rw [List.length_eq_zero_iff.mp form.2] at same
      exact absurd (same ▸ .pingResp) refused

/-! The three kinds are not well-formed, and they leave the connection open. -/

theorem overlooked_refused (first : Packet) (seen : Overlooked config client send first) :
    ¬ WellFormed first := by
  cases seen with
  | connAck flags pending reserved =>
      intro wellFormed
      have unset := connAck_reserved flags 0 wellFormed
      omega
  | publish _ topic tail type accepted taken numbered acknowledged wrong =>
      exact publish_refused first config.topicLimit topic tail type taken wrong
  | subAck high low code codes entry granted asked qos unknown =>
      obtain ⟨other, member, strange⟩ := unknown
      intro wellFormed
      exact strange (subAck_known high low (code :: codes) wellFormed other
        (List.mem_cons_of_mem code member))

theorem overlooked_accepted (first : Packet) (seen : Overlooked config client send first) :
    first.Accepted := by
  cases seen with
  | connAck flags =>
      have unset : (0x20 : UInt8) &&& 0x0F = 0 := by decide
      simp [Packet.Accepted, ReceivePacket.wellFormed, Packet.type, Packet.flags, type_connAck,
        unset]
  | publish _ _ _ _ accepted => exact accepted
  | subAck high low code codes =>
      have unset : (0x90 : UInt8) &&& 0x0F = 0 := by decide
      simp [Packet.Accepted, ReceivePacket.wellFormed, Packet.type, Packet.flags, type_subAck,
        unset]

theorem overlooked_open (first : Packet) (linked : client.Linked)
    (online : client.status ≠ .disconnected) (seen : Overlooked config client send first) :
    ∃ next, client.respond config first send = .ok next ∧ next.status ≠ .disconnected := by
  cases seen with
  | connAck flags pending reserved =>
      refine ⟨{ client with status := .connected }.record
        (.onConnect (flags &&& connackFlagSP != 0)), ?_, by simp [Client.record]⟩
      simp [Client.respond, Packet.type, type_connAck, codeAt, Client.respondConnAck, pending]
  | publish _ topic tail type accepted taken numbered acknowledged wrong =>
      obtain ⟨usPacketIdentifier, message, read⟩ :=
        (arrived_iff config.topicLimit first).mpr ⟨topic, tail, taken, numbered⟩
      obtain ⟨once, twice⟩ := acknowledged usPacketIdentifier message read
      obtain ⟨next, done, status, -⟩ := respondMessage_delivers config client first.qos
        usPacketIdentifier message send linked online (accepted_publish first accepted type).1 once
        twice
      refine ⟨next, ?_, status ▸ online⟩
      simp only [Client.respond, type, Client.respondPublish, read, done]
  | subAck high low code codes entry granted asked qos unknown =>
      refine ⟨(client.removePacketFromQueue (word high low)).2, ?_, online⟩
      have found : (client.removePacketFromQueue (word high low)).1 = some entry := by
        rw [client.removePacketFromQueue_eq]
        exact asked
      have read : ¬ code > 2 := UInt8.not_lt.mpr granted
      simp only [Client.respond, Packet.type, type_subAck, codeAt, List.getD_cons_succ,
        List.getD_cons_zero, Client.respondSubAck, read, ↓reduceIte, identifierOf, Client.release,
        found, qos, ne_eq, not_true_eq_false]

end Rounds

end CircleStdlib.Mqtt.MalformedPackets
