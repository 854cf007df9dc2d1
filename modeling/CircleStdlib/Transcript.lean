import CircleStdlib.ClientDeeds

/-!
The log of a client as a conversation. `transcript` reads the log from the front: the bytes of
each call of `Send` are taken apart as MQTT packets, without a look at the client. It has a
value only while the log keeps to the rules of a connection: CONNECT comes first and only once,
the packets behind it are of the kinds a client sends and have the flags of the standard, and
behind DISCONNECT and behind a packet that the socket has refused there is nothing but
`OnDisconnect`.
-/

namespace CircleStdlib.Mqtt

open Checked ByteMemory

namespace Transcript

inductive Phase where
  | offline
  | online
  | parted
  deriving DecidableEq, Repr

def spoken (bytes : List UInt8) : Option PacketType :=
  match firstPacket bytes with
  | some (packet, []) => if Headed packet.type packet.flags then some packet.type else none
  | _ => none

def send (phase : Phase) (type : PacketType) (accepted : Bool) : Option Phase :=
  match phase with
  | .offline =>
      if type = .connect then some (if accepted then .online else .parted) else none
  | .online =>
      if type.inSession then
        some (if accepted ∧ type ≠ .disconnect then .online else .parted)
      else none
  | .parted => none

def follow (phase : Phase) : Event → Option Phase
  | .sent bytes accepted => (spoken bytes).bind fun type => send phase type accepted
  | .onConnect _ | .onMessage _ => if phase = .online then some .online else none
  | .onDisconnect _ => some .offline

def hear (phase : Option Phase) (event : Event) : Option Phase :=
  phase.bind fun phase => follow phase event

def transcript (log : List Event) : Option Phase := log.foldl hear (some .offline)

def phaseOf (client : Client) : Phase :=
  if client.status = .disconnected then .offline else .online

def InTurn (client : Client) : Prop := transcript client.log = some (phaseOf client)

theorem transcript_append (log events : List Event) :
    transcript (log ++ events) = events.foldl hear (transcript log) :=
  List.foldl_append

theorem spoken_wire (packet : SendPacket) (outgoing : Outgoing packet) :
    spoken packet.wire = some packet.type := by
  have small := headed_small packet.type packet.flags outgoing.headed
  rcases SendPacket.control_parts packet.type packet.flags small with ⟨type, low⟩
  have whole := packet.firstPacket_wire outgoing.ready
  have kind : (Packet.mk packet.controlByte (slice packet.buffer maxLengthFixedHeader
      (packet.bufPtr - maxLengthFixedHeader))).type = packet.type := type
  have flags : (Packet.mk packet.controlByte (slice packet.buffer maxLengthFixedHeader
      (packet.bufPtr - maxLengthFixedHeader))).flags = packet.flags := low
  simp only [spoken, whole, kind, flags, if_pos outgoing.headed]

theorem phaseOf_online (client : Client) (online : client.status ≠ .disconnected) :
    phaseOf client = .online :=
  if_neg online

theorem phaseOf_offline (client : Client) (offline : client.status = .disconnected) :
    phaseOf client = .offline :=
  if_pos offline

/-- The events that a deed adds to the log lead from the one phase to the other. -/
theorem inTurn_after (client next : Client) (events : List Event)
    (log : next.log = client.log ++ events)
    (leads : events.foldl hear (some (phaseOf client)) = some (phaseOf next))
    (turn : InTurn client) : InTurn next := by
  rw [InTurn, log, transcript_append, turn]
  exact leads

theorem inTurn_same (client next : Client) (log : next.log = client.log)
    (status : next.status = client.status) (turn : InTurn client) : InTurn next := by
  apply inTurn_after client next [] (by rw [log, List.append_nil]) _ turn
  simp only [List.foldl_nil, phaseOf, status]

/-- A packet of the session that the socket takes and that does not end it. -/
theorem spoken_turn (client next : Client) (packet : SendPacket) (outgoing : Outgoing packet)
    (online : client.status ≠ .disconnected) (kind : packet.type.inSession = true)
    (stays : packet.type ≠ .disconnect)
    (log : next.log = client.log ++ [.sent packet.wire true])
    (still : next.status ≠ .disconnected) (turn : InTurn client) : InTurn next := by
  apply inTurn_after client next _ log _ turn
  rw [phaseOf_online client online, phaseOf_online next still]
  simp [hear, follow, spoken_wire packet outgoing, send, kind, stays]

theorem parting_leads (events : List Event) (parting : Parting events) (reason : DisconnectReason) :
    (events ++ [Event.onDisconnect reason]).foldl hear (some .online) = some .offline := by
  cases parting with
  | silent => rfl
  | refused packet outgoing kind =>
      simp [hear, follow, spoken_wire packet outgoing, send, kind]
  | farewell packet outgoing type =>
      simp [hear, follow, spoken_wire packet outgoing, send, type, PacketType.inSession]

theorem incidental_kind (packet : SendPacket) (incidental : Incidental packet) :
    packet.type.inSession = true ∧ packet.type ≠ .disconnect := by
  rcases incidental with type | type | type | ⟨type, -⟩ <;> rw [type] <;> decide

theorem queueable_kind (type : PacketType) (uchQoS : UInt8) (fits : Queueable type uchQoS) :
    type.inSession = true ∧ type ≠ .disconnect := by
  cases type <;> first | exact ⟨rfl, by decide⟩ | exact absurd fits id

theorem requested_kind (config : Config) (usPacketIdentifier : UInt16)
    (operation : Operation config.toPlatform) (packet : SendPacket) (uchQoS : UInt8)
    (requested : Requested config usPacketIdentifier operation packet uchQoS) :
    packet.type.inSession = true ∧ packet.type ≠ .disconnect := by
  cases requested with
  | publish pTopic payload _ bRetain input _ valid answered built =>
      rw [(Client.publishPacket_header config _ pTopic payload uchQoS bRetain input.memory packet
        built).1]
      decide
  | subscribe pTopic uchQoS input _ built =>
      rw [Client.subscribePacket_type config _ _ _ _ packet built]
      decide
  | unsubscribe pTopic input _ built =>
      rw [Client.unsubscribePacket_type config _ _ _ packet built]
      decide

theorem deed_turn (config : Config) (heard : Option Packet) (client next : Client)
    (tidy : Tidy client) (deed : Deed config heard client next) (turn : InTurn client) :
    InTurn next := by
  cases deed with
  | aside packet store => exact inTurn_same client _ rfl rfl turn
  | numbering => exact inTurn_same client _ rfl rfl turn
  | sending packet ticks online outgoing incidental =>
      rcases incidental_kind packet incidental with ⟨kind, stays⟩
      exact spoken_turn client _ packet outgoing online kind stays (spoken_log _ _ _ _)
        (by rw [spoken_status]; exact online) turn
  | pinging packet now ticks connected period running elapsed outgoing type =>
      exact spoken_turn client _ packet outgoing (by rw [connected]; decide)
        (by rw [type]; rfl) (by rw [type]; decide) rfl (fun offline => nomatch offline) turn
  | repeating before behind packet entry nTicks ticks online queue due outgoing queues =>
      have fits : Queueable packet.type packet.qos := (tidy packet (by rw [queue]; simp)).1
      have kinds := queueable_kind packet.type packet.qos fits
      rw [← Client.repeated_type packet] at kinds
      exact spoken_turn client _ _ outgoing online kinds.1 kinds.2
        (spoken_log config.toPlatform client ticks _)
        (fun offline => online ((spoken_status config.toPlatform client ticks _) ▸ offline)) turn
  | settling first entry dispatched asked other found => exact inTurn_same client _ rfl rfl turn
  | releasing first entry packet release ticks memory dispatched type qos found online outgoing
      built queues =>
      have kind : packet.type = .pubRel := (SendPacket.appendWord_same _ packet _ built).type
      exact spoken_turn client _ packet outgoing online (by rw [kind]; rfl) (by rw [kind]; decide)
        (spoken_log config.toPlatform client ticks packet)
        (fun offline => online ((spoken_status config.toPlatform client ticks _) ▸ offline)) turn
  | hearing message online =>
      apply inTurn_after client _ [.onMessage message] rfl _ turn
      rw [phaseOf_online client online, phaseOf_online (client.record (.onMessage message)) online]
      rfl
  | ponging first ticks dispatched type online =>
      unfold Client.respondPingResp
      split <;> apply inTurn_after client _ [] (by simp [Client.startTimer]) _ turn
      all_goals
        rw [phaseOf_online client online, phaseOf_online _ (by simp [Client.startTimer])]
        rfl
  | establishing first sessionPresent dispatched type pending =>
      have online : client.status ≠ .disconnected := by rw [pending]; decide
      apply inTurn_after client _ [.onConnect sessionPresent] rfl _ turn
      rw [phaseOf_online client online,
        phaseOf_online _ (by simp [Client.established, Client.record])]
      rfl
  | closing reason events online parting =>
      apply inTurn_after client _ (events ++ [.onDisconnect reason]) _ _ turn
      · simp [Client.closed, Client.logged]
      · rw [phaseOf_online client online, phaseOf_offline _ rfl]
        exact parting_leads events parting reason

theorem asking_turn (config : Config) (client next : Client)
    (operation : Operation config.toPlatform) (asking : Asking config client operation next)
    (turn : InTurn client) : InTurn next := by
  cases asking with
  | asked packet entry uchQoS ticks online outgoing requested queues =>
      rcases requested_kind config _ operation packet uchQoS requested with ⟨kind, stays⟩
      exact spoken_turn client _ packet outgoing online kind stays
        (spoken_log config.toPlatform client.advanceIdentifier ticks packet)
        (fun offline => online
          ((spoken_status config.toPlatform client.advanceIdentifier ticks packet) ▸ offline)) turn

theorem opening_turn (client next : Client) (opening : Opening client next)
    (turn : InTurn client) : InTurn next := by
  cases opening with
  | opened packet usKeepAliveSeconds offline outgoing type =>
      apply inTurn_after client _ [.sent packet.wire true] rfl _ turn
      rw [phaseOf_offline client offline,
        phaseOf_online _ (by simp [Client.record, Client.opened])]
      simp [hear, follow, spoken_wire packet outgoing, send, type]
  | refused reason offline =>
      apply inTurn_after client _ [.onDisconnect reason] rfl _ turn
      rw [phaseOf_offline client offline,
        phaseOf_offline (client.record (.onDisconnect reason)) offline]
      rfl
  | failed usKeepAliveSeconds events offline unsent =>
      apply inTurn_after client _ (events ++ [.onDisconnect .sendFailed]) _ _ turn
      · simp [Client.closed, Client.logged, Client.opened]
      · rw [phaseOf_offline client offline, phaseOf_offline _ rfl]
        rcases unsent with rfl | ⟨packet, outgoing, type, rfl⟩
        · rfl
        · simp [hear, follow, spoken_wire packet outgoing, send, type]

theorem course_turn (config : Config) (client next : Client)
    (operation : Operation config.toPlatform) (settled : Settled config client)
    (course : Course config client operation next) (turn : InTurn client) : InTurn next := by
  cases course with
  | opening called opening => exact opening_turn client next opening turn
  | asking other asking => exact asking_turn config client next operation asking turn
  | deeds other heard unasked hears deeds =>
      exact (deeds_invariant (fun client => Tidy client ∧ InTurn client)
        (fun client next deed holds => ⟨deed_tidy client next deed holds.1,
          deed_turn config heard client next holds.1 deed holds.2⟩)
        client next deeds ⟨settled.tidy, turn⟩).2

/-- In every run the log is a conversation in turn, and it stands where the status says. -/
theorem run_transcript (config : Config) (client last : Client)
    (operations : List (Operation config.toPlatform)) (constructed : Constructed config client)
    (reached : Execution.run (step config) (.running client) operations = some (.running last)) :
    transcript last.log = some (phaseOf last) := by
  have initial : InTurn client := by
    rw [InTurn, constructed.log, phaseOf_offline client constructed.status]
    rfl
  exact (reached_courses config InTurn (course_turn config) client last operations constructed
    initial reached).2

def publishing : List (Operation Config.default.toPlatform) :=
  [.connect plainRequest smoothConnect, .receiver (delivers [0x20, 2, 0, 0] connAck_short),
    .publish [0x61] [0x62] 1 false .willing, .disconnect false .willing]

theorem publishing_transcript :
    ∃ last, Execution.run (step Config.default) (.running (Client.fresh Config.default))
        publishing = some (.running last) ∧ transcript last.log = some (phaseOf last) :=
  ⟨_, rfl, run_transcript Config.default (Client.fresh Config.default) _ publishing
    (fresh_constructed Config.default) rfl⟩

end Transcript

end CircleStdlib.Mqtt
