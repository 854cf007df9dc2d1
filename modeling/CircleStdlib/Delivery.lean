import CircleStdlib.Broker
import CircleStdlib.ClientDeeds
import CircleStdlib.Relay

/-!
What becomes of the messages that are published with a QoS. The broker takes the packets of all
connections in the order in which the socket has taken them, and is a relay for them: a PUBLISH
with QoS 2 is passed on unless its identifier is held, PUBREL gives the identifier free, and a
PUBLISH with another QoS is passed on each time. What the broker holds outlives a connection
unless the next CONNECT asks for a clean session. `note` is what a packet says to the relay,
taken from its bytes only. A `Courier` keeps, beside the client, the messages that have been
published with a QoS above 0.
-/

namespace CircleStdlib.Mqtt

open ByteMemory Checked CText Execution Acknowledgements RetransmissionQueue Broker Relay

namespace Delivery

structure Publication where
  topic : List UInt8
  payload : List UInt8
  retain : Bool
  deriving DecidableEq, Repr

def publication (packet : Packet) : Option (UInt16 × Publication) :=
  match packet.body with
  | high :: low :: rest =>
      let length := (word high low).toNat
      if length + 2 ≤ rest.length then
        some (identifierOf (rest.drop length),
          ⟨rest.take length, rest.drop (length + 2), retainOfFlags packet.flags⟩)
      else none
  | _ => none

def plainPublication (packet : Packet) : Option Publication :=
  match packet.body with
  | high :: low :: rest =>
      let length := (word high low).toNat
      if length ≤ rest.length then
        some ⟨rest.take length, rest.drop length, retainOfFlags packet.flags⟩
      else none
  | _ => none

def told (packet : Packet) : Note UInt16 Publication :=
  if packet.qos = 0 then
    match plainPublication packet with
    | some message => .atMostOnce message
    | none => .other
  else
    match publication packet with
    | some (usPacketIdentifier, message) =>
        if packet.qos = 2 then .once usPacketIdentifier message
        else .atLeastOnce (packet.flags &&& flagDup != 0) message
    | none => .other

/-- The bit of a CONNECT for a clean session: the flags stand behind the name of the protocol,
with its length, and its level. -/
def asksCleanSession (packet : Packet) : Bool := packet.body.getD 7 0 &&& 2 != 0

def noteOf (packet : Packet) : Note UInt16 Publication :=
  match packet.type with
  | .connect => .begin (!asksCleanSession packet)
  | .publish => told packet
  | .pubRel => .release (identifierOf packet.body)
  | _ => .other

def note : Event → Note UInt16 Publication
  | .sent bytes true =>
      match firstPacket bytes with
      | some (packet, []) => noteOf packet
      | _ => .other
  | _ => .other

def levelOf (uchQoS : UInt8) : Level :=
  if uchQoS = 0 then .atMostOnce else if uchQoS = 1 then .atLeastOnce else .exactlyOnce

def message {platform : Platform} : Operation platform → Option (Level × Publication)
  | .publish pTopic payload uchQoS bRetain _ =>
      if uchQoS ≥ 1 then some (levelOf uchQoS, ⟨cstr pTopic, payload, bRetain⟩) else none
  | _ => none

structure Courier where
  machine : Machine
  asked : List (Level × Publication)

/-- A `Publish` counts when the connection is still open behind it. -/
def booked {platform : Platform} (before : List (Level × Publication))
    (operation : Operation platform) : Machine → List (Level × Publication)
  | .failed _ _ => before
  | .running next =>
      if next.status = .disconnected then before else before ++ (message operation).toList

def Courier.step (config : Config) (courier : Courier) (operation : Operation config.toPlatform) :
    Option Courier :=
  (Mqtt.step config courier.machine operation).map fun next =>
    ⟨next, booked courier.asked operation next⟩

def begin (client : Client) : Courier := ⟨.running client, []⟩

def Fits {platform : Platform} : Operation platform → Prop
  | .publish pTopic payload _ _ _ => (cstr pTopic).length < 65536 ∧ Narrow pTopic payload
  | _ => True

def heldBy (client : Client) : List UInt16 := (relayed (client.log.map note)).held

/-- An identifier is not taken while it waits in the queue or is held by the broker. -/
def Fair (config : Config) (courier : Courier) (operation : Operation config.toPlatform) : Prop :=
  Fits operation ∧ ∀ client, courier.machine = .running client → operation.asks = true →
    Unused client ∧ client.nextPacketIdentifier ∉ heldBy client

/-! What the packets of the client say. -/

section Notes

variable (packet : SendPacket)

theorem note_sent (ready : packet.Ready) :
    note (.sent packet.wire true) = noteOf (request packet) := by
  simp only [note, packet.firstPacket_wire ready, request]

theorem request_flags (small : packet.flags ≤ 0x0F) : (request packet).flags = packet.flags :=
  (SendPacket.control_parts packet.type packet.flags small).2

def aside : PacketType → Bool
  | .connect | .publish | .pubRel => false
  | _ => true

theorem note_aside (outgoing : Outgoing packet) (plain : aside packet.type = true) :
    note (.sent packet.wire true) = .other := by
  have small := headed_small packet.type packet.flags outgoing.headed
  rw [note_sent packet outgoing.ready, noteOf, request_type packet small]
  generalize packet.type = type at plain
  cases type <;> first | rfl | cases plain

/-- A packet that nothing waits for changes nothing between the sender and the relay. -/
theorem note_incidental (sender : Sender UInt16 Publication) (outgoing : Outgoing packet)
    (incidental : Incidental packet) :
    Tells sender (note (.sent packet.wire true)) sender := by
  have aside_tells : aside packet.type = true →
      Tells sender (note (.sent packet.wire true)) sender := by
    intro plain
    rw [note_aside packet outgoing plain]
    exact .silent
  rcases incidental with type | type | type | ⟨type, plain⟩
  · exact aside_tells (by rw [type]; rfl)
  · exact aside_tells (by rw [type]; rfl)
  · exact aside_tells (by rw [type]; rfl)
  · have small := headed_small packet.type packet.flags outgoing.headed
    have level : (request packet).qos = 0 := by
      rw [Packet.qos, request_flags packet small, plain]
    rw [note_sent packet outgoing.ready, noteOf, request_type packet small, type]
    dsimp only
    rw [told, if_pos level]
    cases plainPublication (request packet) with
    | none => exact .silent
    | some message => exact .mentions message

end Notes

structure Carries (asked : List (Level × Publication)) (entry : SendPacket) : Prop where
  published : entry.type = .publish → ∃ message,
    publication (request entry) = some (entry.packetIdentifier, message) ∧
      (levelOf entry.qos, message) ∈ asked
  released : entry.type = .pubRel → identifierOf (request entry).body = entry.packetIdentifier

theorem publication_same (packet other : Packet) (body : other.body = packet.body)
    (retain : retainOfFlags other.flags = retainOfFlags packet.flags) :
    publication other = publication packet := by
  rw [publication, publication, body, retain]

theorem queues_body (packet entry : SendPacket) (uchQoS : UInt8) (usPacketIdentifier : UInt16)
    (queues : Queues packet uchQoS usPacketIdentifier entry) : request entry = request packet := by
  rw [request, request, SendPacket.controlByte, SendPacket.controlByte, queues.type, queues.flags,
    queues.body]

theorem repeated_body (packet : SendPacket) :
    (request (repeated packet)).body = (request packet).body := by
  unfold repeated
  split <;> rfl

-- The DUP bit is neither a bit of the QoS nor the RETAIN bit.
theorem dup_flags (flags : UInt8) (small : flags ≤ 0x0F) :
    retainOfFlags (flags ||| flagDup) = retainOfFlags flags ∧
      ((flags ||| flagDup) &&& flagDup != 0) = true := by
  have bound : flags.toNat ≤ 15 := UInt8.le_iff_toNat_le.mp small
  have table : ∀ index : Fin 16,
      retainOfFlags (UInt8.ofNat index ||| flagDup) = retainOfFlags (UInt8.ofNat index) ∧
        ((UInt8.ofNat index ||| flagDup) &&& flagDup != 0) = true := by
    decide
  have entry := table ⟨flags.toNat, by omega⟩
  simpa using entry

theorem repeated_publication (packet : SendPacket) (small : packet.flags ≤ 0x0F)
    (publish : packet.type = .publish) :
    publication (request (repeated packet)) = publication (request packet) := by
  have flags : (repeated packet).flags = packet.flags ||| flagDup := by
    rw [Retransmissions.repeated_flags, if_pos publish]
  have low := dup_small packet.flags small
  apply publication_same _ _ (repeated_body packet)
  rw [request_flags _ (flags ▸ low), request_flags _ small, flags]
  exact (dup_flags packet.flags small).1

theorem presentable_small (packet : SendPacket) (presentable : Client.Presentable packet) :
    packet.flags ≤ 0x0F :=
  headed_small packet.type packet.flags presentable.2.1

theorem carries_repeated (asked : List (Level × Publication)) (packet entry : SendPacket)
    (presentable : Client.Presentable packet)
    (queues : Queues (repeated packet) packet.qos packet.packetIdentifier entry)
    (carries : Carries asked packet) : Carries asked entry := by
  have body := queues_body _ entry _ _ queues
  have type : entry.type = packet.type := queues.type.trans (Client.repeated_type packet)
  refine ⟨fun publish => ?_, fun release => ?_⟩
  · rw [type] at publish
    rw [body, repeated_publication packet (presentable_small packet presentable) publish,
      queues.packetIdentifier, queues.qos]
    exact carries.published publish
  · rw [body, repeated_body, queues.packetIdentifier]
    exact carries.released (type ▸ release)

theorem carries_more (asked more : List (Level × Publication)) (entry : SendPacket)
    (carries : Carries asked entry) : Carries (asked ++ more) entry := by
  refine ⟨fun publish => ?_, carries.released⟩
  rcases carries.published publish with ⟨message, same, told⟩
  exact ⟨message, same, List.mem_append_left _ told⟩

/-- An entry that is sent again repeats what has been said. -/
theorem repeated_note (asked : List (Level × Publication)) (waiting : Set UInt16)
    (lasting : Bool) (packet : SendPacket) (presentable : Client.Presentable packet)
    (outgoing : Outgoing (repeated packet)) (carries : Carries asked packet)
    (waits : packet.type = .publish → packet.qos = 2 → packet.packetIdentifier ∈ waiting)
    (free : packet.type = .pubRel → packet.packetIdentifier ∉ waiting) :
    Tells ⟨waiting, asked, lasting⟩ (note (.sent (repeated packet).wire true))
      ⟨waiting, asked, lasting⟩ := by
  rcases presentable with ⟨fits, stamped⟩
  have again := Client.repeated_stamped packet fits stamped
  have small := headed_small packet.type packet.flags stamped.1
  have low := headed_small _ _ outgoing.headed
  have type := Client.repeated_type packet
  cases kind : packet.type
  case publish =>
    rcases carries.published kind with ⟨message, same, told⟩
    have level : (request (repeated packet)).qos = packet.qos := by
      rw [Packet.qos, request_flags _ low]
      exact again.2 (type.trans kind)
    rw [note_sent _ outgoing.ready, noteOf, request_type _ low, type, kind]
    dsimp only
    rw [Delivery.told, repeated_publication packet small kind, same, level]
    dsimp only
    rw [kind] at fits
    rcases fits with one | two
    · rw [one] at told ⊢
      have marked : ((request (repeated packet)).flags &&& flagDup != 0) = true := by
        rw [request_flags _ low, Retransmissions.repeated_flags, if_pos kind]
        exact (dup_flags packet.flags small).2
      rw [marked]
      exact .repeats message told
    · rw [two]
      exact .repeatsOnce _ message (waits kind two)
  -- The relay has released the identifier already, so that nothing changes.
  case pubRel =>
    have apart : waiting \ {packet.packetIdentifier} = waiting :=
      Set.sdiff_singleton_eq_self (free kind)
    have released : Tells ⟨waiting, asked, lasting⟩ (.release packet.packetIdentifier)
        ⟨waiting \ {packet.packetIdentifier}, asked, lasting⟩ := .releases packet.packetIdentifier
    rw [apart] at released
    rw [note_sent _ outgoing.ready, noteOf, request_type _ low, type, kind]
    dsimp only
    rw [repeated_body, carries.released kind]
    exact released
  case subscribe | unsubscribe =>
    rw [note_aside _ outgoing (by rw [type, kind]; rfl)]
    exact .silent
  all_goals
    rw [kind] at fits
    exact absurd fits id

def key (entry : SendPacket) : UInt16 × PacketType × UInt8 :=
  (entry.packetIdentifier, entry.type, entry.qos)

/-- The identifiers in the queue are told apart, the relay holds that of a PUBLISH with QoS 2
in it, and does not hold that of a PUBREL. -/
structure Waits (waiting : Set UInt16) (asked : List (Level × Publication))
    (queue : List SendPacket) : Prop where
  distinct : ((queue.map key).map (·.1)).Nodup
  held : ∀ usPacketIdentifier, (usPacketIdentifier, PacketType.publish, (2 : UInt8)) ∈
    queue.map key → usPacketIdentifier ∈ waiting
  free : ∀ usPacketIdentifier uchQoS, (usPacketIdentifier, PacketType.pubRel, uchQoS) ∈
    queue.map key → usPacketIdentifier ∉ waiting
  carries : ∀ entry ∈ queue, Carries asked entry

section Waits

variable {waiting : Set UInt16} {asked : List (Level × Publication)}

theorem waits_empty : Waits waiting asked [] :=
  ⟨List.nodup_nil, by simp, by simp, fun _ member => nomatch member⟩

/-- Only the keys and the contents of the entries count. -/
theorem waits_perm (left right : List SendPacket)
    (perm : (right.map key).Perm (left.map key)) (carries : ∀ entry ∈ right, Carries asked entry)
    (waits : Waits waiting asked left) : Waits waiting asked right :=
  ⟨(perm.map _).nodup_iff.mpr waits.distinct,
    fun identifier member => waits.held identifier (perm.mem_iff.mp member),
    fun identifier uchQoS member => waits.free identifier uchQoS (perm.mem_iff.mp member),
    carries⟩

theorem find_split (usPacketIdentifier : UInt16) (queue : List SendPacket) (entry : SendPacket)
    (found : queue.find? (bears usPacketIdentifier) = some entry) :
    bears usPacketIdentifier entry = true ∧ ∃ before behind,
      queue = before ++ entry :: behind ∧
      queue.eraseP (bears usPacketIdentifier) = before ++ behind := by
  induction queue with
  | nil => cases found
  | cons packet rest ih =>
      by_cases own : bears usPacketIdentifier packet = true
      · rw [List.find?_cons_of_pos own] at found
        cases found
        exact ⟨own, [], rest, rfl, List.eraseP_cons_of_pos own⟩
      · rw [List.find?_cons_of_neg own] at found
        rcases ih found with ⟨mine, before, behind, rfl, left⟩
        exact ⟨mine, packet :: before, behind, rfl, by rw [List.eraseP_cons_of_neg own, left]; rfl⟩

/-- The identifier of an entry that is taken out is not in the queue any more. -/
theorem distinct_apart (before behind : List SendPacket) (entry : SendPacket)
    (distinct : (((before ++ entry :: behind).map key).map (·.1)).Nodup) :
    (((before ++ behind).map key).map (·.1)).Nodup ∧
      ∀ type uchQoS, (entry.packetIdentifier, type, uchQoS) ∉ (before ++ behind).map key := by
  have perm : ((before ++ entry :: behind).map key).Perm
      (key entry :: (before ++ behind).map key) := by
    rw [← List.map_cons]
    exact List.perm_middle.map key
  have apart := (perm.map (·.1)).nodup_iff.mp distinct
  rw [List.map_cons, List.nodup_cons] at apart
  refine ⟨apart.2, fun type uchQoS member => ?_⟩
  exact apart.1 (List.mem_map_of_mem (f := fun key => key.1) member)

theorem mem_without (before behind : List SendPacket) (entry : SendPacket)
    (item : UInt16 × PacketType × UInt8) (member : item ∈ (before ++ behind).map key) :
    item ∈ (before ++ entry :: behind).map key := by
  simp only [List.map_append, List.map_cons, List.mem_append, List.mem_cons] at member ⊢
  exact member.imp_right Or.inr

/-- An entry has left the queue. -/
theorem waits_settled (usPacketIdentifier : UInt16) (queue : List SendPacket) (entry : SendPacket)
    (found : queue.find? (bears usPacketIdentifier) = some entry)
    (waits : Waits waiting asked queue) :
    Waits waiting asked (queue.eraseP (bears usPacketIdentifier)) := by
  rcases find_split usPacketIdentifier queue entry found with ⟨-, before, behind, rfl, left⟩
  rw [left]
  refine ⟨(distinct_apart before behind entry waits.distinct).1, fun identifier member => ?_,
    fun identifier uchQoS member => ?_, fun packet member => waits.carries packet ?_⟩
  · exact waits.held identifier (mem_without before behind entry _ member)
  · exact waits.free identifier uchQoS (mem_without before behind entry _ member)
  · simp only [List.mem_append, List.mem_cons] at member ⊢
    exact member.imp_right Or.inr

/-- A PUBREL has taken the place of an entry. -/
theorem waits_released (usPacketIdentifier : UInt16) (queue : List SendPacket)
    (entry release : SendPacket)
    (found : queue.find? (bears usPacketIdentifier) = some entry) (type : release.type = .pubRel)
    (number : release.packetIdentifier = usPacketIdentifier) (carries : Carries asked release)
    (waits : Waits waiting asked queue) :
    Waits (waiting \ {usPacketIdentifier}) asked
      (insertByTime release (queue.eraseP (bears usPacketIdentifier))) := by
  rcases find_split usPacketIdentifier queue entry found with ⟨own, before, behind, rfl, left⟩
  have own : entry.packetIdentifier = usPacketIdentifier := of_decide_eq_true own
  rw [left]
  rcases distinct_apart before behind entry waits.distinct with ⟨distinct, apart⟩
  rw [own] at apart
  have perm := (Client.insertByTime_perm release (before ++ behind)).map key
  refine ⟨(perm.map _).nodup_iff.mpr ?_, fun identifier member => ?_,
    fun identifier uchQoS member => ?_, fun packet member => ?_⟩
  · rw [List.map_cons, List.map_cons, List.nodup_cons]
    refine ⟨fun member => ?_, distinct⟩
    rcases List.mem_map.mp member with ⟨⟨identifier, kind, level⟩, there, same⟩
    have same : identifier = release.packetIdentifier := same
    rw [same, number] at there
    exact apart kind level there
  · rw [perm.mem_iff, List.map_cons, List.mem_cons] at member
    rcases member with mine | other
    · have kind := (Prod.mk.inj (Prod.mk.inj mine).2).1
      rw [type] at kind
      cases kind
    · refine ⟨waits.held identifier (mem_without before behind entry _ other), ?_⟩
      rintro rfl
      exact apart _ _ other
  · rw [perm.mem_iff, List.map_cons, List.mem_cons] at member
    rcases member with mine | other
    · rintro ⟨-, differs⟩
      exact differs ((Prod.mk.inj mine).1.trans number)
    · exact fun kept => waits.free identifier uchQoS (mem_without before behind entry _ other) kept.1
  · rcases List.mem_cons.mp ((Client.insertByTime_perm _ _).mem_iff.mp member) with rfl | old
    · exact carries
    · apply waits.carries
      simp only [List.mem_append, List.mem_cons] at old ⊢
      exact old.imp_right Or.inr

end Waits

def Serves (asked : List (Level × Publication)) (client : Client) : Prop :=
  ∃ waiting lasting, TellsAll .empty (client.log.map note) ⟨waiting, asked, lasting⟩ ∧
    (client.status ≠ .disconnected → Waits waiting asked client.retransmissionQueue)

variable {config : Config} {heard : Option Packet} {asked : List (Level × Publication)}

theorem told_more (sender last : Sender UInt16 Publication) (client next : Client)
    (events : List Event) (log : next.log = client.log ++ events)
    (before : TellsAll .empty (client.log.map note) sender)
    (more : TellsAll sender (events.map note) last) :
    TellsAll .empty (next.log.map note) last := by
  rw [log, List.map_append]
  exact tellsAll_append before more

theorem tells_one {sender last : Sender UInt16 Publication} {event : Event}
    (tells : Tells sender (note event) last) : TellsAll sender ([event].map note) last :=
  .cons tells (.nil last)

theorem tells_unmoved (sender : Sender UInt16 Publication) (events : List Event)
    (unmoved : ∀ event ∈ events, Tells sender (note event) sender) :
    TellsAll sender (events.map note) sender := by
  induction events with
  | nil => exact .nil sender
  | cons event rest ih =>
      exact .cons (unmoved event List.mem_cons_self)
        (ih fun other member => unmoved other (List.mem_cons_of_mem _ member))

/-- Nothing has been said that counts, and the queue is the same. -/
theorem serves_same (client next : Client) (events : List Event)
    (log : next.log = client.log ++ events)
    (unmoved : ∀ event ∈ events, ∀ sender, Tells sender (note event) sender)
    (online : next.status ≠ .disconnected → client.status ≠ .disconnected)
    (queue : next.retransmissionQueue = client.retransmissionQueue)
    (serves : Serves asked client) : Serves asked next := by
  rcases serves with ⟨waiting, lasting, told, waits⟩
  refine ⟨waiting, lasting, told_more _ _ client next events log told
    (tells_unmoved _ events fun event member => unmoved event member _), ?_⟩
  intro still
  rw [queue]
  exact waits (online still)

theorem silent_unmoved (event : Event) (silent : note event = .other)
    (sender : Sender UInt16 Publication) : Tells sender (note event) sender := by
  rw [silent]
  exact .silent

theorem parting_silent (events : List Event) (parting : Parting events) :
    ∀ event ∈ events, note event = .other := by
  intro event member
  cases parting with
  | silent => cases member
  | refused packet outgoing kind =>
      rw [List.mem_singleton.mp member]
      rfl
  | farewell packet outgoing type =>
      rw [List.mem_singleton.mp member]
      exact note_aside packet outgoing (by rw [type]; rfl)

theorem repeated_keys (before behind : List SendPacket) (packet entry : SendPacket)
    (queues : Queues (repeated packet) packet.qos packet.packetIdentifier entry) :
    ((insertByTime entry (before ++ behind)).map key).Perm
      ((before ++ packet :: behind).map key) := by
  have same : key entry = key packet := by
    rw [key, key, queues.packetIdentifier, queues.type, queues.qos, Client.repeated_type]
  have inserted := (Client.insertByTime_perm entry (before ++ behind)).map key
  have taken : ((before ++ packet :: behind).map key).Perm
      ((packet :: (before ++ behind)).map key) := List.perm_middle.map key
  rw [List.map_cons, same] at inserted
  exact inserted.trans taken.symm

theorem released_request (usPacketIdentifier : UInt16) (memory : Option (Nat → UInt8))
    (packet : SendPacket) (outgoing : Outgoing packet)
    (built : (SendPacket.create .pubRel 128 memory).appendWord usPacketIdentifier = .ok packet) :
    packet.type = .pubRel ∧ identifierOf (request packet).body = usPacketIdentifier := by
  have asks := due_pubRel usPacketIdentifier memory packet built outgoing.ready
  have type : packet.type = .pubRel := (SendPacket.appendWord_same _ packet _ built).type
  have small := headed_small packet.type packet.flags outgoing.headed
  refine ⟨type, ?_⟩
  unfold Broker.due at asks
  rw [request_type packet small, type] at asks
  exact (Prod.mk.inj (Option.some.inj asks)).2

/-- An entry that is sent again is told once more, and waits as before. -/
theorem repeating_serves (client : Client) (before behind : List SendPacket)
    (packet entry : SendPacket) (ticks : UInt32) (online : client.status ≠ .disconnected)
    (queue : client.retransmissionQueue = before ++ packet :: behind)
    (outgoing : Outgoing (repeated packet))
    (queues : Queues (repeated packet) packet.qos packet.packetIdentifier entry)
    (tidy : Tidy client) (serves : Serves asked client) :
    Serves asked ((client.spoken config.toPlatform (repeated packet) ticks).withQueue
      (insertByTime entry (before ++ behind))) := by
  rcases serves with ⟨waiting, lasting, told, waits⟩
  have whole := waits online
  rw [queue] at whole
  rw [Tidy, queue] at tidy
  have own : Client.Presentable packet := tidy packet (by simp)
  have here : key packet ∈ (before ++ packet :: behind).map key :=
    List.mem_map_of_mem (f := key) (by simp)
  have holds : packet.type = .publish → packet.qos = 2 →
      packet.packetIdentifier ∈ waiting := by
    intro publish two
    rw [key, publish, two] at here
    exact whole.held _ here
  have free : packet.type = .pubRel → packet.packetIdentifier ∉ waiting := by
    intro release
    rw [key, release] at here
    exact whole.free _ _ here
  have again := repeated_note asked waiting lasting packet own outgoing
    (whole.carries packet (by simp)) holds free
  refine ⟨waiting, lasting, told_more _ _ client _ _
    (spoken_log config.toPlatform client ticks _) told (tells_one again), fun _ => ?_⟩
  refine waits_perm _ _ (repeated_keys before behind packet entry queues) ?_ whole
  intro other member
  rcases List.mem_cons.mp ((Client.insertByTime_perm _ _).mem_iff.mp member) with rfl | old
  · exact carries_repeated asked packet other own queues (whole.carries packet (by simp))
  · apply whole.carries
    simp only [List.mem_append, List.mem_cons] at old ⊢
    exact old.imp_right Or.inr

/-- PUBREC is answered with PUBREL, which takes the place of the PUBLISH. -/
theorem releasing_serves (client : Client) (first : Packet) (entry packet release : SendPacket)
    (ticks : UInt32) (memory : Option (Nat → UInt8))
    (found : client.retransmissionQueue.find? (bears (identifierOf first.body)) = some entry)
    (online : client.status ≠ .disconnected) (outgoing : Outgoing packet)
    (built : (SendPacket.create .pubRel 128 memory).appendWord (identifierOf first.body) =
      .ok packet)
    (queues : Queues packet 2 (identifierOf first.body) release) (serves : Serves asked client) :
    Serves asked ((client.spoken config.toPlatform packet ticks).withQueue
      (insertByTime release
        (client.retransmissionQueue.eraseP (bears (identifierOf first.body))))) := by
  rcases serves with ⟨waiting, lasting, told, waits⟩
  rcases released_request _ memory packet outgoing built with ⟨kind, body⟩
  have small := headed_small packet.type packet.flags outgoing.headed
  have released : Tells ⟨waiting, asked, lasting⟩ (note (.sent packet.wire true))
      ⟨waiting \ {identifierOf first.body}, asked, lasting⟩ := by
    rw [note_sent packet outgoing.ready, noteOf, request_type packet small, kind]
    dsimp only
    rw [body]
    exact .releases _
  refine ⟨_, lasting, told_more _ _ client _ _ (spoken_log config.toPlatform client ticks packet) told
    (tells_one released), fun _ => ?_⟩
  have carries : Carries asked release := by
    refine ⟨fun publish => ?_, fun _ => ?_⟩
    · rw [queues.type, kind] at publish
      cases publish
    · rw [queues_body packet release _ _ queues, body, queues.packetIdentifier]
  exact waits_released _ _ entry release found (queues.type.trans kind)
    queues.packetIdentifier carries (waits online)

theorem deed_serves (client next : Client) (deed : Deed config heard client next)
    (tidy : Tidy client) (serves : Serves asked client) : Serves asked next := by
  cases deed with
  | aside packet store =>
      exact serves_same client _ [] (by simp) (by simp) id rfl serves
  | numbering =>
      exact serves_same client _ [] (by simp [Client.advanceIdentifier]) (by simp) id rfl serves
  | sending packet ticks online outgoing incidental =>
      refine serves_same client _ [.sent packet.wire true] (spoken_log _ _ _ _) ?_ (fun _ => online)
        (spoken_queue _ _ _ _) serves
      intro event member sender
      rw [List.mem_singleton.mp member]
      exact note_incidental packet sender outgoing incidental
  | pinging packet now ticks connected period running elapsed outgoing type =>
      refine serves_same client _ [.sent packet.wire true] rfl ?_
        (fun _ => by rw [connected]; decide) rfl serves
      intro event member
      rw [List.mem_singleton.mp member]
      exact silent_unmoved _ (note_aside packet outgoing (by rw [type]; rfl))
  | repeating before behind packet entry nTicks ticks online queue due outgoing queues =>
      exact repeating_serves client before behind packet entry ticks online queue outgoing queues
        tidy serves
  | settling first entry dispatched asks other found =>
      rcases serves with ⟨waiting, lasting, told, waits⟩
      exact ⟨waiting, lasting, told, fun online => waits_settled _ _ entry found (waits online)⟩
  | releasing first entry packet release ticks memory dispatched type qos found online outgoing
      built queues =>
      exact releasing_serves client first entry packet release ticks memory found online outgoing
        built queues serves
  | hearing message online =>
      refine serves_same client _ [.onMessage message] rfl ?_ (fun _ => online) rfl serves
      intro event member
      rw [List.mem_singleton.mp member]
      exact silent_unmoved _ rfl
  | ponging first ticks dispatched type online =>
      have same : (client.respondPingResp config.toPlatform ticks).log = client.log ++ [] ∧
          (client.respondPingResp config.toPlatform ticks).retransmissionQueue =
            client.retransmissionQueue := by
        unfold Client.respondPingResp
        split <;> exact ⟨(List.append_nil _).symm, rfl⟩
      exact serves_same client _ [] same.1 (by simp) (fun _ => online) same.2 serves
  | establishing first sessionPresent dispatched type pending =>
      refine serves_same client _ [.onConnect sessionPresent] rfl ?_
        (fun _ => by rw [pending]; decide) rfl serves
      intro event member
      rw [List.mem_singleton.mp member]
      exact silent_unmoved _ rfl
  -- What is left of the queue does not matter: the sender begins again.
  | closing reason events online parting =>
      rcases serves with ⟨waiting, lasting, told, -⟩
      refine ⟨waiting, lasting, told_more _ _ client _ (events ++ [.onDisconnect reason])
        (by simp [Client.closed, Client.logged]) told (tells_unmoved _ _ ?_),
        fun still => absurd rfl still⟩
      intro event member
      rcases List.mem_append.mp member with last | own
      · exact silent_unmoved event (parting_silent events parting event last) _
      · rw [List.mem_singleton.mp own]
        exact silent_unmoved _ rfl _

theorem deeds_serves (client next : Client) (deeds : Deeds config heard client next)
    (tidy : Tidy client) (serves : Serves asked client) : Serves asked next :=
  (deeds_invariant (fun client => Tidy client ∧ Serves asked client)
    (fun client next deed holds => ⟨deed_tidy client next deed holds.1,
      deed_serves client next deed holds.1 holds.2⟩)
    client next deeds ⟨tidy, serves⟩).2

/-- A connection begins with CONNECT and an empty queue. -/
theorem opening_serves (client next : Client) (opening : Opening client next)
    (kept : Kept config client) (serves : Serves asked client) : Serves asked next := by
  rcases serves with ⟨waiting, lasting, told, -⟩
  cases opening with
  | opened packet usKeepAliveSeconds offline outgoing type =>
      have small := headed_small packet.type packet.flags outgoing.headed
      let lasts := !asksCleanSession (request packet)
      have anew : Tells ⟨waiting, asked, lasting⟩ (note (.sent packet.wire true))
          ⟨if lasts && lasting then waiting else ∅, asked, lasts⟩ := by
        rw [note_sent packet outgoing.ready, noteOf, request_type packet small, type]
        exact .begins lasts
      refine ⟨_, lasts, told_more _ _ client _ _ rfl told (tells_one anew), fun _ => ?_⟩
      change Waits _ asked client.retransmissionQueue
      rw [kept.queued.empty offline]
      exact waits_empty
  | refused reason offline =>
      exact ⟨waiting, lasting, told_more _ _ client _ [.onDisconnect reason] rfl told
        (tells_one (silent_unmoved _ rfl _)), fun still => absurd offline still⟩
  | failed usKeepAliveSeconds events offline unsent =>
      refine ⟨waiting, lasting, told_more _ _ client _ (events ++ [.onDisconnect .sendFailed])
        (by simp [Client.closed, Client.logged, Client.opened]) told (tells_unmoved _ _ ?_),
        fun still => absurd rfl still⟩
      intro event member
      rcases List.mem_append.mp member with sent | own
      · rcases unsent with rfl | ⟨packet, outgoing, type, rfl⟩
        · cases sent
        · rw [List.mem_singleton.mp sent]
          exact silent_unmoved _ rfl _
      · rw [List.mem_singleton.mp own]
        exact silent_unmoved _ rfl _

/-- An entry with a new identifier has come into the queue. -/
theorem waits_asked (waiting after : Set UInt16) (more : List (Level × Publication))
    (queue : List SendPacket) (entry : SendPacket)
    (fresh : ∀ packet ∈ queue, packet.packetIdentifier ≠ entry.packetIdentifier)
    (held : ∀ usPacketIdentifier, usPacketIdentifier ∈ after ↔
      key entry = (usPacketIdentifier, PacketType.publish, (2 : UInt8)) ∨
        usPacketIdentifier ∈ waiting)
    (kind : entry.type ≠ .pubRel)
    (carries : Carries (asked ++ more) entry) (waits : Waits waiting asked queue) :
    Waits after (asked ++ more) (insertByTime entry queue) := by
  have perm := (Client.insertByTime_perm entry queue).map key
  refine ⟨(perm.map _).nodup_iff.mpr ?_, fun identifier member => ?_,
    fun identifier uchQoS member => ?_, fun packet member => ?_⟩
  · rw [List.map_cons, List.map_cons, List.nodup_cons]
    refine ⟨fun member => ?_, waits.distinct⟩
    rw [List.map_map] at member
    rcases List.mem_map.mp member with ⟨packet, there, same⟩
    exact fresh packet there same
  · rw [perm.mem_iff, List.map_cons, List.mem_cons] at member
    rw [held]
    exact member.imp Eq.symm (waits.held identifier)
  · rw [perm.mem_iff, List.map_cons, List.mem_cons] at member
    rcases member with mine | other
    · exact absurd (Prod.mk.inj (Prod.mk.inj mine).2).1.symm kind
    · rw [held]
      rintro (mine | waits')
      · rcases List.mem_map.mp other with ⟨packet, there, same⟩
        exact fresh packet there ((Prod.mk.inj same).1.trans (Prod.mk.inj mine).1.symm)
      · exact waits.free identifier uchQoS other waits'
  · rcases List.mem_cons.mp ((Client.insertByTime_perm _ _).mem_iff.mp member) with rfl | old
    · exact carries
    · exact carries_more asked more packet (waits.carries packet old)

/-- What a new PUBLISH says. -/
theorem publish_note (usPacketIdentifier : UInt16) (pTopic payload : List UInt8)
    (uchQoS : UInt8) (bRetain : Bool) (memory : Option (Nat → UInt8)) (packet : SendPacket)
    (short : (cstr pTopic).length < 65536) (narrow : Narrow pTopic payload) (valid : uchQoS ≤ 2)
    (built : Client.publishPacket config usPacketIdentifier pTopic payload uchQoS bRetain memory =
      .ok packet) (ready : packet.Ready) :
    packet.type = .publish ∧ (request packet).qos = uchQoS ∧
      (request packet).flags &&& flagDup = 0 ∧
      publication (request packet) =
        some (usPacketIdentifier, ⟨cstr pTopic, payload, bRetain⟩) := by
  rw [publishPacket_cstr] at built
  rcases PublishRoundTrip.publishPacket_written config usPacketIdentifier (cstr pTopic) payload
    uchQoS bRetain memory packet (cstr_text pTopic) narrow built ready.clean with
    ⟨written, type, flags⟩
  rcases PublishRoundTrip.publish_control uchQoS bRetain valid with ⟨-, qos, retain⟩
  have control : (request packet).flags =
      (PacketType.publish.code <<< 4 ||| Client.publishFlags uchQoS bRetain) &&& 0x0F := by
    rw [Packet.flags, request, SendPacket.controlByte, type, flags]
  have small := (Retransmissions.publishPacket_original config _ _ _ uchQoS bRetain memory packet
    valid built).small
  refine ⟨type, ?_, ?_, ?_⟩
  · rw [Packet.qos, control, qos]
  · rw [request_flags packet small, flags]
    exact Retransmissions.publishFlags_unmarked uchQoS bRetain valid
  · have size := SendPacket.word_stringLength (cstr pTopic).length short
    have payload_behind : (cstr pTopic ++ (SendPacket.wordBytes usPacketIdentifier ++ payload)).drop
        ((cstr pTopic).length + 2) = payload := by
      rw [← List.drop_drop, List.drop_left]
      rfl
    rw [publication, request_body packet _ written, control, retain]
    simp only [PublishRoundTrip.publishFields, SendPacket.stringLength, List.cons_append,
      List.nil_append, size, List.take_left, List.drop_left, List.length_append]
    rw [if_pos (by simp [SendPacket.wordBytes]), identifierOf_wordBytes, payload_behind]

theorem requested_aside (usPacketIdentifier : UInt16) (operation : Operation config.toPlatform)
    (packet : SendPacket) (uchQoS : UInt8)
    (requested : Requested config usPacketIdentifier operation packet uchQoS) :
    (∃ pTopic payload bRetain input, operation = .publish pTopic payload uchQoS bRetain input ∧
      uchQoS ≤ 2 ∧ uchQoS ≥ 1 ∧ Client.publishPacket config usPacketIdentifier pTopic payload
        uchQoS bRetain input.memory = .ok packet) ∨
    (aside packet.type = true ∧ message operation = none) := by
  cases requested with
  | publish pTopic payload _ bRetain input _ valid answered built =>
      exact Or.inl ⟨pTopic, payload, bRetain, input, rfl, valid, answered, built⟩
  | subscribe pTopic uchQoS input _ built =>
      rw [Client.subscribePacket_type config _ _ _ _ packet built]
      exact Or.inr ⟨rfl, rfl⟩
  | unsubscribe pTopic input _ built =>
      rw [Client.unsubscribePacket_type config _ _ _ packet built]
      exact Or.inr ⟨rfl, rfl⟩

section Asking

variable (client : Client) (packet entry : SendPacket) (uchQoS : UInt8) (ticks : UInt32)

/-- The client behind a request. -/
theorem asked_log :
    ((client.advanceIdentifier.spoken config.toPlatform packet ticks).withQueue
      (insertByTime entry client.retransmissionQueue)).log =
        client.log ++ [.sent packet.wire true] :=
  spoken_log config.toPlatform client.advanceIdentifier ticks packet

theorem queued_fresh (queues : Queues packet uchQoS client.nextPacketIdentifier entry)
    (unused : Unused client) :
    ∀ other ∈ client.retransmissionQueue, other.packetIdentifier ≠ entry.packetIdentifier := by
  rw [queues.packetIdentifier]
  exact unused

theorem queued_key (queues : Queues packet uchQoS client.nextPacketIdentifier entry) :
    key entry = (client.nextPacketIdentifier, packet.type, uchQoS) := by
  rw [key, queues.packetIdentifier, queues.type, queues.qos]

/-- A new message is told to the relay, and waits under its identifier. -/
theorem publishing_serves (pTopic payload : List UInt8) (bRetain : Bool)
    (memory : Option (Nat → UInt8)) (online : client.status ≠ .disconnected)
    (outgoing : Outgoing packet) (short : (cstr pTopic).length < 65536)
    (narrow : Narrow pTopic payload) (valid : uchQoS ≤ 2) (answered : uchQoS ≥ 1)
    (built : Client.publishPacket config client.nextPacketIdentifier pTopic payload uchQoS bRetain
      memory = .ok packet)
    (queues : Queues packet uchQoS client.nextPacketIdentifier entry) (unused : Unused client)
    (free : client.nextPacketIdentifier ∉ heldBy client) (serves : Serves asked client) :
    Serves (asked ++ [(levelOf uchQoS, ⟨cstr pTopic, payload, bRetain⟩)])
      ((client.advanceIdentifier.spoken config.toPlatform packet ticks).withQueue
        (insertByTime entry client.retransmissionQueue)) := by
  rcases serves with ⟨waiting, lasting, told, waits⟩
  rcases publish_note _ pTopic payload uchQoS bRetain memory packet short narrow valid built
    outgoing.ready with ⟨type, qos, unmarked, same⟩
  have small := headed_small packet.type packet.flags outgoing.headed
  have fresh := queued_fresh client packet entry uchQoS queues unused
  have place := queued_key client packet entry uchQoS queues
  have agrees := tellsAll_agrees _ _ _ Relay.fresh told agrees_empty
  have unheld : client.nextPacketIdentifier ∉ waiting :=
    fun member => free ((agrees.held _).mpr member)
  have kind : entry.type ≠ .pubRel := by
    rw [queues.type, type]
    decide
  have carries : Carries (asked ++
      [(levelOf uchQoS, ⟨cstr pTopic, payload, bRetain⟩)]) entry := by
    refine ⟨fun _ => ⟨⟨cstr pTopic, payload, bRetain⟩, ?_, ?_⟩, fun release => absurd release kind⟩
    · rw [queues_body packet entry _ _ queues, queues.packetIdentifier]
      exact same
    · rw [queues.qos]
      simp
  have spoken : note (.sent packet.wire true) = Delivery.told (request packet) := by
    rw [note_sent packet outgoing.ready, noteOf, request_type packet small, type]
  rw [Delivery.told, same, qos] at spoken
  dsimp only at spoken
  -- With QoS 1 the relay holds nothing; with QoS 2 it holds the identifier.
  rcases qos_cases uchQoS answered valid with rfl | rfl
  · have asks : Tells ⟨waiting, asked, lasting⟩ (note (.sent packet.wire true))
        ⟨waiting, asked ++ [(.atLeastOnce, ⟨cstr pTopic, payload, bRetain⟩)], lasting⟩ := by
      rw [spoken, unmarked]
      exact .asks _
    refine ⟨waiting, lasting, told_more _ _ client _ _ (asked_log client packet entry ticks) told
      (tells_one asks), fun _ => ?_⟩
    refine waits_asked waiting waiting _ _ entry fresh (fun identifier => ?_) kind carries
      (waits online)
    rw [place]
    simp
  · have asks : Tells ⟨waiting, asked, lasting⟩ (note (.sent packet.wire true))
        ⟨insert client.nextPacketIdentifier waiting,
          asked ++ [(.exactlyOnce, ⟨cstr pTopic, payload, bRetain⟩)], lasting⟩ := by
      rw [spoken]
      exact .asksOnce _ _ unheld
    refine ⟨_, lasting, told_more _ _ client _ _ (asked_log client packet entry ticks) told
      (tells_one asks), fun _ => ?_⟩
    refine waits_asked waiting _ _ _ entry fresh (fun identifier => ?_) kind carries
      (waits online)
    rw [place, type]
    simp [eq_comm]

/-- A subscription is nothing to the relay. -/
theorem subscribing_serves (online : client.status ≠ .disconnected) (outgoing : Outgoing packet)
    (plain : aside packet.type = true)
    (queues : Queues packet uchQoS client.nextPacketIdentifier entry) (unused : Unused client)
    (serves : Serves asked client) :
    Serves (asked ++ []) ((client.advanceIdentifier.spoken config.toPlatform packet ticks).withQueue
      (insertByTime entry client.retransmissionQueue)) := by
  rcases serves with ⟨waiting, lasting, told, waits⟩
  have nothing_told : Tells ⟨waiting, asked, lasting⟩ (note (.sent packet.wire true))
      ⟨waiting, asked ++ [], lasting⟩ := by
    rw [note_aside packet outgoing plain, List.append_nil]
    exact .silent
  have apart : packet.type ≠ .publish ∧ packet.type ≠ .pubRel := by
    constructor
    · intro type
      rw [type] at plain
      cases plain
    · intro type
      rw [type] at plain
      cases plain
  refine ⟨waiting, lasting, told_more _ _ client _ _ (asked_log client packet entry ticks) told
    (tells_one nothing_told), fun _ => ?_⟩
  refine waits_asked waiting waiting [] _ entry
    (queued_fresh client packet entry uchQoS queues unused) (fun identifier => ?_)
    (queues.type ▸ apart.2) ?_ (waits online)
  · rw [queued_key client packet entry uchQoS queues]
    refine (or_iff_right ?_).symm
    intro mine
    exact apart.1 (Prod.mk.inj (Prod.mk.inj mine).2).1
  · refine ⟨fun publish => ?_, fun release => ?_⟩
    · exact absurd (queues.type.symm.trans publish) apart.1
    · exact absurd (queues.type.symm.trans release) apart.2

end Asking

/-- A request is told to the relay when it is a message. -/
theorem asking_serves (client next : Client) (operation : Operation config.toPlatform)
    (asking : Asking config client operation next) (fits : Fits operation)
    (unused : Unused client) (free : client.nextPacketIdentifier ∉ heldBy client)
    (serves : Serves asked client) : Serves (asked ++ (message operation).toList) next := by
  cases asking with
  | asked packet entry uchQoS ticks online outgoing requested queues =>
      rcases requested_aside _ operation packet uchQoS requested with
        ⟨pTopic, payload, bRetain, input, rfl, valid, answered, built⟩ | ⟨plain, nothing⟩
      · have content : message (.publish pTopic payload uchQoS bRetain input :
            Operation config.toPlatform) =
              some (levelOf uchQoS, ⟨cstr pTopic, payload, bRetain⟩) := if_pos answered
        rw [content]
        exact publishing_serves client packet entry uchQoS ticks pTopic payload bRetain
          input.memory online outgoing fits.1 fits.2 valid answered built queues unused free serves
      · rw [nothing]
        exact subscribing_serves client packet entry uchQoS ticks online outgoing plain queues
          unused serves

theorem message_asks {platform : Platform} (operation : Operation platform)
    (plain : operation.asks = false) : message operation = none := by
  cases operation with
  | publish pTopic payload uchQoS bRetain input =>
      exact if_neg (of_decide_eq_false plain)
  | _ => rfl

theorem course_serves (client next : Client) (operation : Operation config.toPlatform)
    (settled : Settled config client) (fair : Fair config ⟨.running client, asked⟩ operation)
    (course : Course config client operation next) (serves : Serves asked client) :
    Serves (booked asked operation (.running next)) next := by
  rcases fair with ⟨fits, fair⟩
  cases course with
  | opening called opening =>
      have plain : message operation = none := by
        cases operation <;> first | rfl | cases called
      have kept := opening_serves client next opening settled.kept serves
      unfold booked
      split
      · exact kept
      · simpa [plain] using kept
  | asking other asking =>
      rcases asking_asks client next operation asking with ⟨asks, online⟩
      rcases fair client rfl asks with ⟨unused, free⟩
      rw [booked, if_neg online]
      exact asking_serves client next operation asking fits unused free serves
  | deeds other heard unasked hears deeds =>
      have kept := deeds_serves client next deeds settled.tidy serves
      by_cases offline : next.status = .disconnected
      · rw [booked, if_pos offline]
        exact kept
      · have plain : operation.asks = false := Bool.eq_false_iff.mpr fun asks =>
          offline (unasked asks)
        rw [booked, if_neg offline, message_asks operation plain]
        simpa using kept

def Holds (config : Config) (courier : Courier) : Prop :=
  ∀ client, courier.machine = .running client →
    Settled config client ∧ Serves courier.asked client

theorem courier_holds (config : Config) (courier : Courier)
    (operation : Operation config.toPlatform) (next : Courier) (holds : Holds config courier)
    (fair : Fair config courier operation)
    (taken : Courier.step config courier operation = some next) : Holds config next := by
  rintro last running
  rcases Option.map_eq_some_iff.mp taken with ⟨machine, stepped, rfl⟩
  obtain rfl : machine = .running last := running
  rcases courier with ⟨before, asked⟩
  rcases step_cases config before _ operation stepped with
    ⟨client, rfl, ⟨after, done, ⟨⟩⟩ | ⟨fault, -, failed⟩⟩
  · rcases holds client rfl with ⟨settled, serves⟩
    have course := perform_course config client last operation settled.kept settled.tidy done
    exact ⟨perform_settled config client last operation settled done,
      course_serves client last operation settled fair course serves⟩
  · cases failed

theorem fair_first (config : Config) (client : Client) (operation : Operation config.toPlatform)
    (asked : List (Level × Publication)) (fits : Fits operation)
    (empty : client.retransmissionQueue = []) (unheld : heldBy client = []) :
    Fair config ⟨.running client, asked⟩ operation := by
  refine ⟨fits, ?_⟩
  rintro _ ⟨⟩ -
  simp [Unused, empty, unheld]

theorem fair_sender (config : Config) (courier : Courier) (nTicks : UInt32)
    (inputs : List SendInput) : Fair config courier (.sender nTicks inputs) :=
  ⟨trivial, fun _ _ => nofun⟩

def repeating : List (Operation Config.default.toPlatform) :=
  [.connect plainRequest smoothConnect, .receiver (delivers [0x20, 2, 0, 0] connAck_short),
    .publish [0x61] [0x62] 2 false .willing, .sender 600 [.willing],
    .publish [0x63] [] 0 false .willing]

end Delivery

end CircleStdlib.Mqtt
