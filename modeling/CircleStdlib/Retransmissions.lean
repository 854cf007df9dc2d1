import CircleStdlib.ReceiverRounds
import CircleStdlib.RetransmissionQueue

/-!
The packet objects behind the retransmission queue. The queue of the model holds
the packets by value, so a run is followed here with a second account beside the
client: one object for each packet in the queue, with what the log has gained in
each attempt to send it, and the objects that have left the queue. The account
moves its objects exactly as the code moves the packets, and it takes the client
from the code; that its packets stay those of the queue is proved.
-/

namespace CircleStdlib.Mqtt.Retransmissions

open ByteMemory Checked Execution RetransmissionQueue

/-- One call of `SendPacket` for an object, to the end of what its caller does when
it fails: what is handed to the socket and reported meanwhile, and the status then. -/
structure Attempt where
  events : List Event
  status : ConnectStatus
  deriving DecidableEq

structure Object where
  packet : SendPacket
  attempts : List Attempt

/-- `waiting` is the queue, `retired` are the objects that were in it before. -/
structure Tracked where
  client : Client
  waiting : List Object
  retired : List Object

def attempt (before after : Client) : Attempt :=
  ⟨after.log.drop before.log.length, after.status⟩

def packets (objects : List Object) : List SendPacket := objects.map Object.packet

def insertObject (object : Object) : List Object → List Object
  | [] => [object]
  | other :: rest =>
      if later other.packet.scheduledTime object.packet.scheduledTime then object :: other :: rest
      else other :: insertObject object rest

def reinsertObject (object : Object) (passed ahead : List Object) : List Object × List Object :=
  if passed.any fun other => later other.packet.scheduledTime object.packet.scheduledTime then
    (insertObject object passed, ahead)
  else
    match ahead with
    | [] => (passed ++ [object], [])
    | other :: rest =>
        if later other.packet.scheduledTime object.packet.scheduledTime then
          (passed ++ [object], ahead)
        else (passed, other :: insertObject object rest)

def answers (usPacketIdentifier : UInt16) (object : Object) : Bool :=
  bears usPacketIdentifier object.packet

def senderLoop (platform : Platform) (nTicks : UInt32) (client : Client)
    (passed ahead retired : List Object) (inputs : List SendInput) :
    Except Fault (Option Tracked) :=
  match ahead with
  | [] => .ok (some ⟨client.withQueue (packets passed), passed, retired⟩)
  | object :: rest =>
      if later object.packet.scheduledTime nTicks then
        .ok (some ⟨client.withQueue (packets (passed ++ object :: rest)), passed ++ object :: rest,
          retired⟩)
      else
        match inputs with
        | [] => .ok none
        | input :: inputs => do
            let client := client.withQueue (packets (passed ++ rest))
            let packet ← Client.markRepeated object.packet
            let (sent, packet, after) ← client.sendPacket platform packet input
            if sent then
              let object : Object :=
                { packet :=
                    { packet with scheduledTime := input.queueTicks + platform.resendTimeout }
                  attempts := object.attempts ++ [attempt client after] }
              let (passed, ahead) := reinsertObject object passed rest
              senderLoop platform nTicks after passed ahead retired inputs
            else
              let closed ← after.closeConnection .sendFailed
              let object : Object :=
                ⟨packet, object.attempts ++ [attempt client closed]⟩
              return some ⟨closed, [], retired ++ (passed ++ rest) ++ [object]⟩

namespace Tracked

-- No single packet has come or gone; `CloseConnection` clears the whole queue.
def settle (tracked : Tracked) (next : Client) : Tracked :=
  if next.status = .disconnected then ⟨next, [], tracked.retired ++ tracked.waiting⟩
  else { tracked with client := next }

def forget (tracked : Tracked) (usPacketIdentifier : UInt16) : Tracked where
  client := (tracked.client.removePacketFromQueue usPacketIdentifier).2
  waiting := tracked.waiting.eraseP (answers usPacketIdentifier)
  retired := tracked.retired ++ (tracked.waiting.find? (answers usPacketIdentifier)).toList

-- `client.sendAndQueue` has led to `next`: where `SendPacket` succeeded, a new object
-- begins with this as its first attempt.
def place (platform : Platform) (tracked : Tracked) (client next : Client)
    (built : Except Fault SendPacket) (uchQoS : UInt8) (usPacketIdentifier : UInt16)
    (input : SendInput) : Tracked :=
  match built with
  | .error _ => tracked.settle next
  | .ok packet =>
      match client.sendPacket platform packet input with
      | .ok (true, after, _) =>
          let object : Object :=
            { packet := { after with
                qos := uchQoS
                packetIdentifier := usPacketIdentifier
                scheduledTime := input.queueTicks + platform.resendTimeout }
              attempts := [attempt client next] }
          ⟨next, insertObject object tracked.waiting, tracked.retired⟩
      | _ => tracked.settle next

-- One round of `Receiver`. An acknowledgement takes its packet from the queue, and a
-- PUBREC puts a PUBREL there.
def receive (config : Config) (tracked : Tracked) (next : Client)
    (input : ReceiveInput config.toPlatform) : Tracked :=
  match tracked.client.front config input with
  | none => tracked.settle next
  | some (first, _) =>
      let usPacketIdentifier := identifierOf first.body
      if first.Accepted then
        match first.type with
        | .pubAck | .pubComp | .subAck | .unsubAck =>
            (tracked.forget usPacketIdentifier).settle next
        | .pubRec =>
            let left := tracked.forget usPacketIdentifier
            match tracked.waiting.find? (answers usPacketIdentifier) with
            | none => left.settle next
            | some object =>
                if object.packet.qos ≠ 2 then left.settle next
                else
                  left.place config.toPlatform left.client next
                    ((SendPacket.create .pubRel 128 input.send.memory).appendWord
                      usPacketIdentifier) 2 usPacketIdentifier input.send
        | _ => tracked.settle next
      else tracked.settle next

def follow (config : Config) (tracked : Tracked) (next : Client) :
    Operation config.toPlatform → Tracked
  | .connect _ _ => tracked.settle next
  | .disconnect _ _ => tracked.settle next
  | .subscribe pTopic uchQoS input =>
      tracked.place config.toPlatform tracked.client.advanceIdentifier next
        (Client.subscribePacket config tracked.client.nextPacketIdentifier pTopic uchQoS
          input.memory) 1 tracked.client.nextPacketIdentifier input
  | .unsubscribe pTopic input =>
      tracked.place config.toPlatform tracked.client.advanceIdentifier next
        (Client.unsubscribePacket config tracked.client.nextPacketIdentifier pTopic input.memory) 1
        tracked.client.nextPacketIdentifier input
  | .publish pTopic payload uchQoS bRetain input =>
      if uchQoS ≥ 1 then
        tracked.place config.toPlatform tracked.client.advanceIdentifier next
          (Client.publishPacket config tracked.client.nextPacketIdentifier pTopic payload uchQoS
            bRetain input.memory) uchQoS tracked.client.nextPacketIdentifier input
      else tracked.settle next
  | .receiver input => tracked.receive config next input
  | .sender nTicks inputs =>
      match senderLoop config.toPlatform nTicks tracked.client [] tracked.waiting tracked.retired
        inputs with
      | .ok (some after) => after
      | _ => tracked.settle next
  | .keepAliveHandler _ _ => tracked.settle next

def step (config : Config) (tracked : Tracked) (operation : Operation config.toPlatform) :
    Option Tracked :=
  match perform config tracked.client operation with
  | .ok (some next) => some (tracked.follow config next operation)
  | _ => none

end Tracked

def begin (client : Client) : Tracked := ⟨client, [], []⟩

/-! What is claimed of an object. -/

def handedBytes : Event → Option (List UInt8)
  | .sent bytes _ => some bytes
  | _ => none

def transmissions (attempts : List Attempt) : List (List UInt8) :=
  attempts.flatMap fun attempt => attempt.events.filterMap handedBytes

-- The bytes with the DUP bit of the first one set, where they are a PUBLISH.
def again : List UInt8 → List UInt8
  | [] => []
  | control :: rest =>
      (if PacketType.ofControl control = .publish then control ||| 0x08 else control) :: rest

def Unmarked : List UInt8 → Prop
  | [] => True
  | control :: _ => PacketType.ofControl control = .publish → control &&& 0x08 = 0

/-- The first transmission is repeated by all later ones, there are at most
`MQTT_SEND_TRIES` of them, and an attempt after as many closes the connection. -/
structure Repeats (attempts : List Attempt) : Prop where
  same : ∃ first later, transmissions attempts = first :: later ∧ Unmarked first ∧
    ∀ bytes ∈ later, bytes = again first
  few : (transmissions attempts).length ≤ mqttSendTries
  last : ∀ before attempt after, attempts = before ++ attempt :: after →
    (transmissions before).length = mqttSendTries →
    attempt.events = [.onDisconnect .sendFailed] ∧ attempt.status = .disconnected

/-! The attempts of one object. -/

def Succeeded (first : List UInt8) (attempts : List Attempt) : Prop :=
  ∃ head tail, attempts = head :: tail ∧ head.events = [.sent first true] ∧
    ∀ attempt ∈ tail, attempt.events = [.sent (again first) true]

theorem transmissions_append (left right : List Attempt) :
    transmissions (left ++ right) = transmissions left ++ transmissions right :=
  List.flatMap_append

theorem transmissions_repeated (bytes : List UInt8) (attempts : List Attempt)
    (each : ∀ attempt ∈ attempts, attempt.events = [.sent bytes true]) :
    transmissions attempts = List.replicate attempts.length bytes := by
  induction attempts with
  | nil => rfl
  | cons attempt rest ih =>
      have head := each attempt (List.mem_cons_self ..)
      have tail := ih fun other member => each other (List.mem_cons_of_mem _ member)
      rw [transmissions, List.flatMap_cons, head]
      change [bytes] ++ transmissions rest = _
      rw [tail, List.length_cons, List.replicate_succ]
      rfl

theorem succeeded_transmissions (first : List UInt8) (attempts : List Attempt)
    (succeeded : Succeeded first attempts) :
    transmissions attempts = first :: List.replicate (attempts.length - 1) (again first) := by
  rcases succeeded with ⟨head, tail, rfl, begun, repeated⟩
  rw [transmissions, List.flatMap_cons, begun]
  change [first] ++ transmissions tail = _
  rw [transmissions_repeated (again first) tail repeated, List.length_cons, Nat.add_sub_cancel]
  rfl

theorem succeeded_grows (first : List UInt8) (attempts : List Attempt) (attempt : Attempt)
    (succeeded : Succeeded first attempts) (sent : attempt.events = [.sent (again first) true]) :
    Succeeded first (attempts ++ [attempt]) := by
  rcases succeeded with ⟨head, tail, rfl, begun, repeated⟩
  refine ⟨head, tail ++ [attempt], rfl, begun, ?_⟩
  intro other member
  rcases List.mem_append.mp member with old | new
  · exact repeated other old
  · rw [List.mem_singleton.mp new]
    exact sent

/-- Each of the attempts up to any point has one transmission. -/
theorem succeeded_before (first : List UInt8) (attempts before after : List Attempt)
    (succeeded : Succeeded first attempts) (split : attempts = before ++ after) :
    (transmissions before).length = before.length := by
  rcases succeeded with ⟨head, tail, rfl, begun, repeated⟩
  cases before with
  | nil => rfl
  | cons begin rest =>
      rw [List.cons_append, List.cons.injEq] at split
      rcases split with ⟨rfl, rfl⟩
      have whole : Succeeded first (head :: rest) :=
        ⟨head, rest, rfl, begun, fun other member => repeated other (List.mem_append_left _ member)⟩
      rw [succeeded_transmissions first _ whole]
      simp

-- Every attempt that succeeds is one transmission, so fewer attempts than tries have
-- never used them up and the last clause is about nothing yet.
theorem succeeded_repeats (first : List UInt8) (attempts : List Attempt)
    (succeeded : Succeeded first attempts) (unmarked : Unmarked first)
    (few : attempts.length ≤ mqttSendTries) : Repeats attempts := by
  constructor
  · exact ⟨first, _, succeeded_transmissions first attempts succeeded, unmarked,
      fun bytes member => List.eq_of_mem_replicate member⟩
  · rw [succeeded_before first attempts attempts [] succeeded (by simp)]
    exact few
  · intro before attempt after split many
    rw [succeeded_before first attempts before (attempt :: after) succeeded split] at many
    rw [split, List.length_append, List.length_cons] at few
    omega

-- How the last attempt fails: the socket does not take the bytes, or there is no try
-- left.
def Fails (first : List UInt8) (count : Nat) (attempt : Attempt) : Prop :=
  attempt.status = .disconnected ∧
    ((count < mqttSendTries ∧
        attempt.events = [.sent (again first) false, .onDisconnect .sendFailed]) ∨
      (count = mqttSendTries ∧ attempt.events = [.onDisconnect .sendFailed]))

theorem failed_repeats (first : List UInt8) (attempts : List Attempt) (last : Attempt)
    (succeeded : Succeeded first attempts) (unmarked : Unmarked first)
    (few : attempts.length ≤ mqttSendTries) (fails : Fails first attempts.length last) :
    Repeats (attempts ++ [last]) := by
  rcases fails with ⟨offline, ending⟩
  have count := succeeded_before first attempts attempts [] succeeded (by simp)
  have single : transmissions [last] = last.events.filterMap handedBytes := by
    simp [transmissions]
  constructor
  · rw [transmissions_append, succeeded_transmissions first attempts succeeded, single]
    refine ⟨first, _, rfl, unmarked, ?_⟩
    intro bytes member
    rcases List.mem_append.mp member with old | new
    · exact List.eq_of_mem_replicate old
    · rcases ending with ⟨-, sent⟩ | ⟨-, none⟩
      · rw [sent] at new
        exact List.mem_singleton.mp new
      · rw [none] at new
        cases new
  · rw [transmissions_append, List.length_append, count, single]
    rcases ending with ⟨less, sent⟩ | ⟨all, none⟩
    · rw [sent]
      exact less
    · rw [none, all]
      exact Nat.le_refl _
  · intro before attempt after split many
    rcases List.eq_nil_or_concat after with rfl | ⟨init, final, rfl⟩
    · rcases List.append_inj' split rfl with ⟨rfl, same⟩
      cases same
      rcases ending with ⟨less, -⟩ | ⟨-, none⟩
      · omega
      · exact ⟨none, offline⟩
    · -- An attempt before the last one has succeeded.
      rw [List.concat_eq_append, ← List.cons_append, ← List.append_assoc] at split
      have inner := (List.append_inj' split rfl).1
      rw [succeeded_before first attempts before (attempt :: init) succeeded inner] at many
      rw [inner, List.length_append, List.length_cons] at few
      omega

/-! The bytes of a packet that is sent again. -/

-- `Send` writes the header anew each time, in front of the body and of the same length,
-- so the bytes depend on nothing that an attempt changes.
theorem wire_congr (packet after : SendPacket) (same : SamePacket packet after)
    (flags : after.flags = packet.flags) : after.wire = packet.wire := by
  rw [SendPacket.wire, SendPacket.wire, SendPacket.controlByte, SendPacket.controlByte, same.type,
    flags, same.body, same.bufPtr]

theorem repeated_flags (packet : SendPacket) :
    (repeated packet).flags =
      if packet.type = .publish then packet.flags ||| flagDup else packet.flags := by
  unfold repeated
  split <;> rfl

theorem repeated_wire (packet : SendPacket) (small : packet.flags ≤ 0x0F) :
    (repeated packet).wire = again packet.wire := by
  have type := (SendPacket.control_parts packet.type packet.flags small).1
  have same := repeated_same packet
  rw [SendPacket.wire, SendPacket.wire, again, SendPacket.controlByte, SendPacket.controlByte, type,
    same.type, same.body, same.bufPtr, repeated_flags]
  split
  · rw [UInt8.or_assoc]
    rfl
  · rfl

/-- Marking a packet once more changes nothing. -/
theorem repeated_again (packet after : SendPacket) (same : SamePacket (repeated packet) after)
    (flags : after.flags = (repeated packet).flags) :
    (repeated after).wire = (repeated packet).wire := by
  have marked := repeated_same after
  apply wire_congr
  · exact ⟨marked.type.trans same.type, marked.packetIdentifier.trans same.packetIdentifier,
      marked.qos.trans same.qos, marked.bufPtr.trans same.bufPtr, marked.body.trans same.body⟩
  · have type : after.type = packet.type := same.type.trans (repeated_same packet).type
    rw [repeated_flags after, flags, repeated_flags packet, type]
    split
    · rw [UInt8.or_assoc, UInt8.or_self]
    · rfl

theorem send_error (packet : SendPacket) (socket : List UInt8 → Int) (sending : Sending)
    (done : packet.send socket = .ok sending) : sending.packet.error = packet.error := by
  unfold SendPacket.send at done
  split at done
  · cases done
    rfl
  · split at done
    · cases done
      rfl
    · simp only [bind_ok, require_ok, pure_ok, Except.ok.injEq] at done
      rcases done with ⟨_, -, _, -, _, -, _, -, _, -, rfl⟩
      rfl

/-- What a transmission that gets to the socket uses up. -/
theorem send_spends (packet : SendPacket) (socket : List UInt8 → Int) (sending : Sending)
    (ready : packet.Ready) (done : packet.send socket = .ok sending) :
    sending.handed = some packet.wire ∧ sending.packet.sendTries = packet.sendTries - 1 := by
  rcases packet.send_ready socket ready with ⟨next, sent, -, -, -, tries, -⟩
  rw [done] at sent
  cases sent
  exact ⟨rfl, tries⟩

/-! One attempt. -/

/-- What is known of an object in the queue: what it will send is what it has sent. -/
structure Waits (first : List UInt8) (object : Object) : Prop where
  succeeded : Succeeded first object.attempts
  unmarked : Unmarked first
  insertable : Insertable object.packet
  small : object.packet.flags ≤ 0x0F
  clean : object.packet.error = false
  tries : object.packet.sendTries + object.attempts.length = mqttSendTries
  wire : (repeated object.packet).wire = again first

theorem waits_repeats (first : List UInt8) (object : Object) (waits : Waits first object) :
    Repeats object.attempts :=
  succeeded_repeats first object.attempts waits.succeeded waits.unmarked
    (by have tries := waits.tries; omega)

theorem repeated_fields (packet : SendPacket) :
    (repeated packet).error = packet.error ∧ (repeated packet).sendTries = packet.sendTries := by
  unfold repeated
  split <;> exact ⟨rfl, rfl⟩

theorem attempt_gained (before after : Client) (events : List Event)
    (log : after.log = before.log ++ events) : attempt before after = ⟨events, after.status⟩ := by
  rw [attempt, log, List.drop_left]

section Attempting

variable (platform : Platform) (client middle : Client) (first : List UInt8) (object : Object)
  (after : SendPacket) (input : SendInput) (waits : Waits first object)
include waits

-- A packet that has been sent once can fail again only at the socket or for its tries.
theorem waits_ready (left : object.packet.sendTries ≠ 0) : (repeated object.packet).Ready := by
  have marked := repeated_insertable object.packet waits.insertable
  rcases repeated_fields object.packet with ⟨error, tries⟩
  exact ⟨error.trans waits.clean, marked.allocated, by rw [tries]; exact left, marked.header,
    marked.short⟩

theorem repeated_small : (repeated object.packet).flags ≤ 0x0F := by
  rw [repeated_flags]
  split
  · exact dup_small object.packet.flags waits.small
  · exact waits.small

/-- A retransmission that the socket takes leaves an object of the same kind. -/
theorem attempt_waits (nScheduledTime : UInt32)
    (sending : client.sendPacket platform (repeated object.packet) input =
      .ok (true, after, middle)) :
    Waits first ⟨{ after with scheduledTime := nScheduledTime },
      object.attempts ++ [attempt client middle]⟩ := by
  rcases client.sendPacket_cases platform middle _ after input true sending with
    ⟨-, refused, -⟩ | ⟨-, -, result, send, taken, rfl, -, log, -⟩
  · cases refused
  · rcases (repeated object.packet).send_accepted input.socket result send taken.symm with
      ⟨ready, handed⟩
    rcases send_unchanged _ input.socket result send with ⟨same, flags, allocated⟩
    have spent := (send_spends _ input.socket result ready send).2
    rcases repeated_fields object.packet with ⟨error, tries⟩
    have events : result.events = [.sent (again first) true] := by
      rw [Sending.events, handed, ← taken, waits.wire]
    have gained := attempt_gained client middle result.events log
    have insertable := insertable_same _ _ same flags allocated
      (repeated_insertable object.packet waits.insertable)
    refine ⟨?_, waits.unmarked, ?_, ?_, ?_, ?_, ?_⟩
    · exact succeeded_grows first object.attempts _ waits.succeeded (by rw [gained]; exact events)
    · exact insertable_noted _ _ _ _ insertable
    · change result.packet.flags ≤ 0x0F
      rw [flags]
      exact repeated_small first object waits
    · exact ((send_error _ input.socket result send).trans error).trans waits.clean
    · have left := ready.tries
      have before := waits.tries
      rw [tries] at spent left
      change result.packet.sendTries + (object.attempts ++ [_]).length = mqttSendTries
      rw [List.length_append, List.length_singleton, spent]
      omega
    · have timed : SamePacket (repeated object.packet)
          { result.packet with scheduledTime := nScheduledTime } :=
        ⟨same.type, same.packetIdentifier, same.qos, same.bufPtr, same.body⟩
      exact (repeated_again object.packet _ timed flags).trans waits.wire

/-- A failed attempt: the bytes are the same, or all tries have been used up. -/
theorem attempt_fails (online : client.status ≠ .disconnected) (closed : Client)
    (sending : client.sendPacket platform (repeated object.packet) input =
      .ok (false, after, middle))
    (closing : middle.closeConnection .sendFailed = .ok closed) :
    closed.retransmissionQueue = [] ∧ Repeats (object.attempts ++ [attempt client closed]) := by
  have tries := waits.tries
  rcases client.sendPacket_cases platform middle _ after input false sending with
    ⟨offline, -⟩ | ⟨-, -, result, send, taken, rfl, framed, log, -⟩
  · exact absurd offline online
  · rcases middle.closeConnection_cases closed _ closing with ⟨offline, -⟩ | ⟨-, -, rfl⟩
    · exact absurd (framed.offline.mp offline) online
    · have gained := attempt_gained client (middle.closed .sendFailed)
        (result.events ++ [.onDisconnect .sendFailed]) (by simp [Client.closed, log])
      refine ⟨rfl, failed_repeats first object.attempts _ waits.succeeded waits.unmarked (by omega)
        ?_⟩
      rw [gained]
      refine ⟨rfl, ?_⟩
      by_cases left : object.packet.sendTries = 0
      · have none : result.events = [] := by
          rcases repeated_fields object.packet with ⟨error, count⟩
          rw [SendPacket.send, error, waits.clean, if_neg (by decide), count, if_pos left] at send
          cases send
          rfl
        exact Or.inr ⟨by omega, by simp only [none, List.nil_append]⟩
      · have ready := waits_ready first object waits left
        have handed := (send_spends _ input.socket result ready send).1
        have events : result.events = [.sent (again first) false] := by
          rw [Sending.events, handed, ← taken, waits.wire]
        exact Or.inl ⟨by omega, by simp only [events, List.cons_append, List.nil_append]⟩

end Attempting

/-! The loop of `Sender`. -/

-- The order of the queue is decided by the scheduled times alone, which an object shares
-- with its packet.
theorem packets_insertObject (object : Object) (objects : List Object) :
    packets (insertObject object objects) = insertByTime object.packet (packets objects) := by
  induction objects with
  | nil => rfl
  | cons other rest ih =>
      simp only [insertObject, packets, List.map_cons, insertByTime] at ih ⊢
      split
      · rfl
      · rw [List.map_cons, ih]

theorem mem_insertObject (object : Object) (objects : List Object) :
    ∀ other ∈ insertObject object objects, other = object ∨ other ∈ objects := by
  intro found member
  induction objects with
  | nil => exact Or.inl (List.mem_singleton.mp member)
  | cons other rest ih =>
      rw [insertObject] at member
      split at member
      · exact List.mem_cons.mp member
      · rcases List.mem_cons.mp member with rfl | behind
        · exact Or.inr (List.mem_cons_self ..)
        · exact (ih behind).imp_right (List.mem_cons_of_mem _)

theorem packets_reinsertObject (object : Object) (passed ahead : List Object) :
    (packets (reinsertObject object passed ahead).1,
        packets (reinsertObject object passed ahead).2) =
      Client.reinsert object.packet (packets passed) (packets ahead) := by
  have any : ((packets passed).any fun other =>
      later other.scheduledTime object.packet.scheduledTime) =
      passed.any fun other => later other.packet.scheduledTime object.packet.scheduledTime := by
    simp [packets, List.any_map, Function.comp_def]
  unfold reinsertObject Client.reinsert
  rw [any]
  split
  · rw [← packets_insertObject]
  · cases ahead with
    | nil => simp [packets]
    | cons other rest =>
        simp only [packets, List.map_cons]
        split
        · simp
        · simp only [List.map_cons, Prod.mk.injEq, List.cons.injEq, true_and]
          exact packets_insertObject object rest

theorem mem_reinsertObject (object : Object) (passed ahead : List Object) :
    ∀ other ∈ (reinsertObject object passed ahead).1 ++ (reinsertObject object passed ahead).2,
      other = object ∨ other ∈ passed ++ ahead := by
  intro found member
  unfold reinsertObject at member
  split at member
  · rcases List.mem_append.mp member with front | back
    · exact (mem_insertObject object passed found front).imp_right (List.mem_append_left _)
    · exact Or.inr (List.mem_append_right _ back)
  · cases ahead with
    | nil => simpa [or_comm] using member
    | cons other rest =>
        simp only at member
        split at member
        · simp only [List.append_assoc, List.mem_append, List.mem_cons] at member ⊢
          tauto
        · simp only [List.mem_append, List.mem_cons] at member ⊢
          rcases member with front | rfl | back
          · exact Or.inr (Or.inl front)
          · exact Or.inr (Or.inr (Or.inl rfl))
          · rcases mem_insertObject object rest found back with same | behind
            · exact Or.inl same
            · exact Or.inr (Or.inr (Or.inr behind))

structure Tracked.Holds (tracked : Tracked) : Prop where
  aligned : packets tracked.waiting = tracked.client.retransmissionQueue
  waits : ∀ object ∈ tracked.waiting, ∃ first, Waits first object
  repeats : ∀ object ∈ tracked.retired, Repeats object.attempts

theorem retire_repeats (retired waiting : List Object)
    (repeats : ∀ object ∈ retired, Repeats object.attempts)
    (waits : ∀ object ∈ waiting, ∃ first, Waits first object) :
    ∀ object ∈ retired ++ waiting, Repeats object.attempts := by
  intro object member
  rcases List.mem_append.mp member with old | left
  · exact repeats object old
  · rcases waits object left with ⟨first, known⟩
    exact waits_repeats first object known

theorem packets_cons (object : Object) (rest : List Object) :
    packets (object :: rest) = object.packet :: packets rest := rfl

theorem packets_append (left right : List Object) :
    packets (left ++ right) = packets left ++ packets right := List.map_append

/-- Without its objects the loop is that of the code. -/
theorem senderLoop_erases (platform : Platform) (nTicks : UInt32) (client : Client)
    (passed ahead retired : List Object) (inputs : List SendInput) :
    (senderLoop platform nTicks client passed ahead retired inputs).map
        (Option.map Tracked.client) =
      client.senderLoop platform nTicks (packets passed) (packets ahead) inputs := by
  induction inputs generalizing client passed ahead with
  | nil =>
      unfold senderLoop Client.senderLoop
      cases ahead with
      | nil => rfl
      | cons object rest =>
          simp only [packets_cons, packets_append]
          split <;> rfl
  | cons input inputs ih =>
      unfold senderLoop Client.senderLoop
      cases ahead with
      | nil => rfl
      | cons object rest =>
          simp only [packets_cons, packets_append]
          split
          · rfl
          · cases Client.markRepeated object.packet with
            | error fault => rfl
            | ok packet =>
                simp only [ok_bind]
                cases (client.withQueue (packets passed ++ packets rest)).sendPacket platform packet
                  input with
                | error fault => rfl
                | ok result =>
                    rcases result with ⟨sent, after, middle⟩
                    cases sent with
                    | true =>
                        have back := Prod.ext_iff.mp (packets_reinsertObject
                          ⟨{ after with
                              scheduledTime := input.queueTicks + platform.resendTimeout },
                            object.attempts ++ [attempt (client.withQueue
                              (packets passed ++ packets rest)) middle]⟩ passed rest)
                        simp only [ok_bind, ↓reduceIte]
                        rw [ih]
                        exact congrArg₂ (fun passed ahead =>
                          middle.senderLoop platform nTicks passed ahead inputs) back.1 back.2
                    | false =>
                        simp only [ok_bind, Bool.false_eq_true, ↓reduceIte]
                        cases middle.closeConnection .sendFailed with
                        | error fault => rfl
                        | ok closed => rfl

-- By induction on the inputs, one for each attempt. The loop is left with the queue in
-- order, or with all objects retired behind a failed attempt.
theorem senderLoop_holds (platform : Platform) (nTicks : UInt32) (client : Client)
    (passed ahead retired : List Object) (inputs : List SendInput) (tracked : Tracked)
    (online : client.status ≠ .disconnected)
    (waits : ∀ object ∈ passed ++ ahead, ∃ first, Waits first object)
    (repeats : ∀ object ∈ retired, Repeats object.attempts)
    (done : senderLoop platform nTicks client passed ahead retired inputs = .ok (some tracked)) :
    tracked.Holds := by
  induction inputs generalizing client passed ahead with
  | nil =>
      unfold senderLoop at done
      split at done
      · cases done
        exact ⟨rfl, by simpa using waits, repeats⟩
      · split at done <;> cases done
        exact ⟨rfl, waits, repeats⟩
  | cons input inputs ih =>
      unfold senderLoop at done
      split at done
      · cases done
        exact ⟨rfl, by simpa using waits, repeats⟩
      · rename_i object rest
        split at done
        · cases done
          exact ⟨rfl, waits, repeats⟩
        · rcases waits object (by simp) with ⟨first, known⟩
          have others : ∀ other ∈ passed ++ rest, ∃ first, Waits first other := by
            intro other member
            apply waits
            simp only [List.mem_append, List.mem_cons] at member ⊢
            tauto
          simp only [markRepeated_eq object.packet known.insertable, bind_ok, Except.ok.injEq]
            at done
          rcases done with ⟨_, rfl, ⟨sent, after, middle⟩, sending, done⟩
          have framed := Client.sendPacket_framed platform _ middle _ after input sent sending
          cases sent with
          | true =>
              -- The object goes back into the queue with one more success.
              have after := attempt_waits platform _ middle first object after input known
                (input.queueTicks + platform.resendTimeout) sending
              simp only [↓reduceIte] at done
              refine ih middle _ _ (fun offline => online (framed.offline.mp offline)) ?_ done
              intro other member
              rcases mem_reinsertObject _ passed rest other member with rfl | old
              · exact ⟨first, after⟩
              · exact others other old
          | false =>
              simp only [Bool.false_eq_true, ↓reduceIte, bind_ok, pure_ok, Except.ok.injEq,
                Option.some.injEq] at done
              rcases done with ⟨closed, closing, rfl⟩
              rcases attempt_fails platform (client.withQueue (packets (passed ++ rest))) middle
                first object after input known online closed sending closing with ⟨empty, failed⟩
              refine ⟨empty.symm, by simp, ?_⟩
              intro other member
              rcases List.mem_append.mp member with old | new
              · exact retire_repeats retired _ repeats others other old
              · rw [List.mem_singleton.mp new]
                exact failed

/-! A new object. -/

structure Original (packet : SendPacket) : Prop where
  restarts : Client.restartsTimer packet.type = true
  small : packet.flags ≤ 0x0F
  unmarked : packet.type = .publish → packet.flags &&& flagDup = 0
  tries : packet.sendTries = mqttSendTries

theorem original_same (packet next : SendPacket) (same : packet.SameHeader next)
    (original : Original packet) : Original next :=
  ⟨by rw [same.type]; exact original.restarts, by rw [same.flags]; exact original.small,
    by rw [same.type, same.flags]; exact original.unmarked,
    same.sendTries.trans original.tries⟩

theorem create_original (type : PacketType) (nMaxPacketSize : Nat)
    (memory : Option (Nat → UInt8)) (restarts : Client.restartsTimer type = true)
    (other : type ≠ .publish) : Original (SendPacket.create type nMaxPacketSize memory) :=
  ⟨restarts, SendPacket.create_flags type nMaxPacketSize memory,
    fun publish => absurd publish other, rfl⟩

theorem subscribePacket_original (config : Config) (usPacketIdentifier : UInt16)
    (pTopic : List UInt8) (uchQoS : UInt8) (memory : Option (Nat → UInt8)) (packet : SendPacket)
    (built : Client.subscribePacket config usPacketIdentifier pTopic uchQoS memory = .ok packet) :
    Original packet := by
  simp only [Client.subscribePacket, bind_ok] at built
  rcases built with ⟨numbered, number, named, name, level⟩
  exact original_same _ packet (((SendPacket.appendWord_same _ numbered _ number).trans
    (SendPacket.appendString_same _ numbered named _ name)).trans
    (SendPacket.appendByte_same named packet _ level)) (create_original _ _ _ rfl (by decide))

theorem unsubscribePacket_original (config : Config) (usPacketIdentifier : UInt16)
    (pTopic : List UInt8) (memory : Option (Nat → UInt8)) (packet : SendPacket)
    (built : Client.unsubscribePacket config usPacketIdentifier pTopic memory = .ok packet) :
    Original packet := by
  simp only [Client.unsubscribePacket, bind_ok] at built
  rcases built with ⟨numbered, number, name⟩
  exact original_same _ packet ((SendPacket.appendWord_same _ numbered _ number).trans
    (SendPacket.appendString_same _ numbered packet _ name)) (create_original _ _ _ rfl (by decide))

-- The QoS is shifted to the bits next to the DUP bit and does not reach it.
theorem publishFlags_unmarked (uchQoS : UInt8) (bRetain : Bool) (valid : uchQoS ≤ 2) :
    Client.publishFlags uchQoS bRetain &&& flagDup = 0 := by
  have bound : uchQoS.toNat ≤ 2 := UInt8.le_iff_toNat_le.mp valid
  have table : ∀ level : Fin 3, ∀ retain : Bool,
      Client.publishFlags (UInt8.ofNat level) retain &&& flagDup = 0 := by decide
  have entry := table ⟨uchQoS.toNat, by omega⟩ bRetain
  simpa using entry

theorem publishPacket_original (config : Config) (usPacketIdentifier : UInt16)
    (pTopic payload : List UInt8) (uchQoS : UInt8) (bRetain : Bool)
    (memory : Option (Nat → UInt8)) (packet : SendPacket) (valid : uchQoS ≤ 2)
    (built : Client.publishPacket config usPacketIdentifier pTopic payload uchQoS bRetain memory =
      .ok packet) : Original packet := by
  simp only [Client.publishPacket, SendPacket.setFlags, bind_ok, require_ok, pure_ok,
    Except.ok.injEq] at built
  rcases built with ⟨_, ⟨_, -, _, small, rfl⟩, named, name, numbered, number, filled⟩
  have topical := original_same _ named (SendPacket.appendString_same _ _ named _ name)
    ⟨rfl, small, fun _ => publishFlags_unmarked uchQoS bRetain valid, rfl⟩
  have identified := original_same named numbered
    (SendPacket.appendWord_same named numbered _ number) topical
  split at filled
  · exact original_same numbered packet (SendPacket.appendData_same _ numbered packet _ filled)
      identified
  · cases filled
    exact identified

theorem original_wire (packet : SendPacket) (original : Original packet) :
    Unmarked packet.wire := by
  rw [SendPacket.wire, Unmarked, SendPacket.controlByte,
    (SendPacket.control_parts packet.type packet.flags original.small).1]
  intro publish
  have bound : packet.flags.toNat ≤ 15 := UInt8.le_iff_toNat_le.mp original.small
  have table : ∀ index : Fin 16, UInt8.ofNat index &&& flagDup = 0 →
      (PacketType.publish.code <<< 4 ||| UInt8.ofNat index) &&& 0x08 = 0 := by
    decide
  have entry := table ⟨packet.flags.toNat, by omega⟩
  rw [publish]
  simp only [UInt8.ofNat_toNat] at entry
  exact entry (original.unmarked publish)

/-! What the operations do to the account. -/

def Undisturbed (client next : Client) : Prop :=
  next.status = .disconnected ∨ next.retransmissionQueue = client.retransmissionQueue

theorem close_undisturbed (client middle next : Client) (reason : DisconnectReason)
    (done : middle.closeConnection reason = .ok next) : Undisturbed client next :=
  Or.inl (middle.closeConnection_offline next reason done)

theorem framed_undisturbed (client next : Client) (framed : Framed client next) :
    Undisturbed client next := Or.inr framed.retransmissionQueue

namespace Tracked

variable {tracked : Tracked} (holds : tracked.Holds)
include holds

-- `next` need not follow from the client of the account itself: an operation may have
-- advanced the identifier or taken a packet out of the queue before.
theorem settle_holds (client next : Client)
    (queue : client.retransmissionQueue = tracked.client.retransmissionQueue)
    (undisturbed : Undisturbed client next)
    (empty : next.status = .disconnected → next.retransmissionQueue = []) :
    (tracked.settle next).Holds ∧ (tracked.settle next).client = next := by
  unfold settle
  split
  · rename_i offline
    exact ⟨⟨(empty offline).symm, by simp,
      retire_repeats tracked.retired tracked.waiting holds.repeats holds.waits⟩, rfl⟩
  · rename_i online
    refine ⟨⟨?_, holds.waits, holds.repeats⟩, rfl⟩
    rw [undisturbed.resolve_left online, queue]
    exact holds.aligned

omit holds in
theorem packets_answers (usPacketIdentifier : UInt16) (objects : List Object) :
    packets (objects.eraseP (answers usPacketIdentifier)) =
        (packets objects).eraseP (bears usPacketIdentifier) ∧
      (objects.find? (answers usPacketIdentifier)).map Object.packet =
        (packets objects).find? (bears usPacketIdentifier) := by
  constructor
  · simp only [packets, List.eraseP_map]
    rfl
  · simp only [packets, List.find?_map]
    rfl

theorem forget_holds (usPacketIdentifier : UInt16) :
    (tracked.forget usPacketIdentifier).Holds := by
  constructor
  · rw [forget, Client.removePacketFromQueue_eq]
    change packets (tracked.waiting.eraseP _) = tracked.client.retransmissionQueue.eraseP _
    rw [← holds.aligned, (packets_answers usPacketIdentifier tracked.waiting).1]
  · intro object member
    exact holds.waits object (List.mem_of_mem_eraseP member)
  · refine retire_repeats tracked.retired _ holds.repeats ?_
    intro object member
    exact holds.waits object (List.mem_of_find?_eq_some (Option.mem_toList.mp member))

omit holds in
/-- The object that begins with a transmission that the socket takes. -/
theorem placed_waits (platform : Platform) (client middle next : Client)
    (packet after : SendPacket) (uchQoS : UInt8) (usPacketIdentifier : UInt16)
    (nScheduledTime : UInt32) (input : SendInput) (original : Original packet)
    (sending : client.sendPacket platform packet input = .ok (true, after, middle))
    (log : next.log = middle.log) :
    Waits packet.wire
      ⟨{ after with
          qos := uchQoS
          packetIdentifier := usPacketIdentifier
          scheduledTime := nScheduledTime }, [attempt client next]⟩ := by
  rcases client.sendPacket_cases platform middle packet after input true sending with
    ⟨-, refused, -⟩ | ⟨-, -, result, send, taken, rfl, -, grown, -⟩
  · cases refused
  · rcases packet.send_accepted input.socket result send taken.symm with ⟨ready, handed⟩
    rcases send_unchanged packet input.socket result send with ⟨same, flags, allocated⟩
    have spent := (send_spends packet input.socket result ready send).2
    have events : result.events = [.sent packet.wire true] := by
      rw [Sending.events, handed, ← taken]
    have gained := attempt_gained client next result.events (log.trans grown)
    have insertable := insertable_same packet _ same flags allocated
      ⟨original.restarts, fun _ => original.small, ready.allocated, ready.header, ready.short⟩
    have small : result.packet.flags ≤ 0x0F := by
      rw [flags]
      exact original.small
    refine ⟨⟨_, [], rfl, by rw [gained]; exact events, by simp⟩, original_wire packet original,
      insertable_noted _ _ _ _ insertable, small,
      (send_error packet input.socket result send).trans ready.clean, ?_, ?_⟩
    · change result.packet.sendTries + 1 = mqttSendTries
      have tries := original.tries
      have left := ready.tries
      omega
    · refine (repeated_wire { result.packet with
          qos := uchQoS
          packetIdentifier := usPacketIdentifier
          scheduledTime := nScheduledTime } small).trans ?_
      exact congrArg again (wire_congr packet result.packet same flags)

/-- The end that the four places share; `next` may differ from its result in what the
account does not look at. -/
theorem place_holds (platform : Platform) (client result next : Client) (packet : SendPacket)
    (uchQoS : UInt8) (usPacketIdentifier : UInt16) (input : SendInput)
    (queue : client.retransmissionQueue = tracked.client.retransmissionQueue)
    (original : Original packet) (answered : uchQoS ≥ 1)
    (done : client.sendAndQueue platform packet uchQoS usPacketIdentifier input = .ok result)
    (log : next.log = result.log) (status : next.status = result.status)
    (kept : next.retransmissionQueue = result.retransmissionQueue)
    (empty : next.status = .disconnected → next.retransmissionQueue = []) :
    (tracked.place platform client next (.ok packet) uchQoS usPacketIdentifier input).Holds ∧
      (tracked.place platform client next (.ok packet) uchQoS usPacketIdentifier input).client =
        next := by
  simp only [Client.sendAndQueue, bind_ok] at done
  rcases done with ⟨⟨sent, after, middle⟩, sending, done⟩
  have framed := client.sendPacket_framed platform middle packet after input sent sending
  unfold place
  simp only [sending]
  cases sent with
  | true =>
      simp only [↓reduceIte, if_pos answered, pure_ok, Except.ok.injEq] at done
      subst done
      refine ⟨⟨?_, ?_, holds.repeats⟩, rfl⟩
      · rw [packets_insertObject, holds.aligned, ← queue, ← framed.retransmissionQueue]
        exact kept.symm
      · intro object member
        rcases mem_insertObject _ tracked.waiting object member with rfl | old
        · exact ⟨_, placed_waits platform client middle next packet after uchQoS _ _ input original
            sending log⟩
        · exact holds.waits object old
  | false =>
      simp only [Bool.false_eq_true, ↓reduceIte] at done
      have offline : next.status = .disconnected := by
        rw [status]
        exact middle.closeConnection_offline result _ done
      exact settle_holds holds client next queue (Or.inl offline) empty

end Tracked

/-! What the receiver does to the account. -/

theorem respondMessage_undisturbed (platform : Platform) (client next : Client) (uchQoS : UInt8)
    (usPacketIdentifier : UInt16) (message : Message) (input : SendInput)
    (done : client.respondMessage platform uchQoS usPacketIdentifier message input = .ok next) :
    Undisturbed client next := by
  rcases client.respondMessage_cases platform next uchQoS usPacketIdentifier message input done with
    ⟨-, rfl⟩ | ⟨-, sent, middle, answering, outcome⟩
  · exact Or.inr rfl
  · have same := (client.answer_framed platform middle _ _ input sent
      answering).retransmissionQueue
    rcases outcome with ⟨-, closing⟩ | ⟨-, -, rfl⟩ | ⟨-, -, -, rfl⟩ | ⟨-, -, -, rfl⟩
    · exact close_undisturbed client middle next _ closing
    · exact Or.inr same
    · exact Or.inr same
    · exact Or.inr same

theorem respondPubRel_undisturbed (platform : Platform) (client next : Client)
    (usPacketIdentifier : UInt16) (input : SendInput)
    (done : client.respondPubRel platform usPacketIdentifier input = .ok next) :
    Undisturbed client next := by
  rcases client.respondPubRel_cases platform next usPacketIdentifier input done with
    ⟨-, closing⟩ | ⟨-, sent, middle, answering, outcome⟩
  · exact close_undisturbed client client next _ closing
  · rcases outcome with ⟨-, closing⟩ | ⟨-, rfl⟩
    · exact close_undisturbed client middle next _ closing
    · exact Or.inr (client.answer_framed platform middle _ _ input sent
        answering).retransmissionQueue

/-- `RemovePacketFromQueue`, with or without the end of the connection. -/
theorem release_undisturbed (client next : Client) (usPacketIdentifier : UInt16) (uchQoS : UInt8)
    (done : client.release usPacketIdentifier uchQoS = .ok next) :
    Undisturbed (client.removePacketFromQueue usPacketIdentifier).2 next := by
  rcases client.release_cases next usPacketIdentifier uchQoS done with
    ⟨-, closing⟩ | ⟨entry, -, -, rfl⟩
  · exact close_undisturbed _ _ next _ closing
  · exact Or.inr rfl

namespace Tracked

variable {tracked : Tracked} (holds : tracked.Holds)
include holds

theorem pubRec_holds (platform : Platform) (result next : Client) (usPacketIdentifier : UInt16)
    (input : SendInput)
    (done : tracked.client.respondPubRec platform usPacketIdentifier input = .ok result)
    (log : next.log = result.log) (status : next.status = result.status)
    (kept : next.retransmissionQueue = result.retransmissionQueue)
    (empty : next.status = .disconnected → next.retransmissionQueue = []) :
    let left := tracked.forget usPacketIdentifier
    let after :=
      match tracked.waiting.find? (answers usPacketIdentifier) with
      | none => left.settle next
      | some object =>
          if object.packet.qos ≠ 2 then left.settle next
          else
            left.place platform left.client next
              ((SendPacket.create .pubRel 128 input.memory).appendWord usPacketIdentifier) 2
              usPacketIdentifier input
    after.Holds ∧ after.client = next := by
  intro left after
  have remains := forget_holds holds usPacketIdentifier
  have found := (packets_answers usPacketIdentifier tracked.waiting).2
  rw [holds.aligned] at found
  have closes : ∀ middle reason, Client.closeConnection middle reason = .ok result →
      (left.settle next).Holds ∧ (left.settle next).client = next := by
    intro middle reason closing
    refine settle_holds remains left.client next rfl (Or.inl ?_) empty
    rw [status]
    exact middle.closeConnection_offline result reason closing
  simp only [Client.respondPubRec, Client.removePacketFromQueue_eq, ← found] at done
  simp only [after]
  cases object : tracked.waiting.find? (answers usPacketIdentifier) with
  | none =>
      rw [object] at done
      exact closes _ _ done
  | some object =>
      simp only [object, Option.map_some] at done ⊢
      split at done
      · rename_i other
        rw [if_pos other]
        exact closes _ _ done
      · rename_i twice
        rw [if_neg twice]
        rcases (bind_ok _ _ _).mp done with ⟨packet, built, done⟩
        have original := original_same _ packet (SendPacket.appendWord_same _ packet _ built)
          (create_original .pubRel 128 input.memory rfl (by decide))
        rw [built]
        refine place_holds remains platform left.client result next packet 2 usPacketIdentifier
          input rfl original (by decide) ?_ log status kept empty
        simp only [left, forget, Client.removePacketFromQueue_eq]
        exact done

-- The packet in the buffer decides what has happened to the queue; the handlers are known
-- through `respond`.
theorem receive_holds (config : Config) (next : Client) (input : ReceiveInput config.toPlatform)
    (more : Bool) (sound : Sound config tracked.client)
    (empty : next.status = .disconnected → next.retransmissionQueue = [])
    (done : tracked.client.receiverPass config input = .ok (more, next)) :
    (tracked.receive config next input).Holds ∧
      (tracked.receive config next input).client = next := by
  rcases tracked.client.receiverPass_cases config next input more sound done with
    ⟨refused, packet, same⟩ | ⟨first, rest, packet, result, there, accepted, -, responded, rfl⟩
  · have undisturbed : Undisturbed tracked.client next := by
      rcases same with rfl | ⟨reason, closed, -, closing, rfl⟩
      · exact Or.inr rfl
      · exact close_undisturbed tracked.client tracked.client closed reason closing
    have settled := settle_holds holds tracked.client next rfl undisturbed empty
    unfold receive
    split
    · exact settled
    · rename_i first rest there
      rw [if_neg (refused first rest there)]
      exact settled
  · have settled : ∀ client, client.retransmissionQueue = tracked.client.retransmissionQueue →
        Undisturbed client result → _ :=
      fun client queue undisturbed =>
        settle_holds holds client (result.withPacket packet) queue undisturbed empty
    have forgotten : ∀ usPacketIdentifier,
        Undisturbed (tracked.client.removePacketFromQueue usPacketIdentifier).2 result → _ :=
      fun usPacketIdentifier undisturbed =>
        settle_holds (forget_holds holds usPacketIdentifier) _ (result.withPacket packet) rfl
          undisturbed empty
    simp only [receive, there, if_pos accepted]
    unfold Client.respond at responded
    cases type : first.type <;> simp only [type] at responded ⊢
    case connAck =>
        apply settled tracked.client rfl
        rcases tracked.client.respondConnAck_cases result _ _ responded with
          ⟨-, closing⟩ | ⟨-, ⟨-, rfl⟩ | ⟨-, closing⟩⟩
        · exact close_undisturbed _ _ result _ closing
        · exact Or.inr rfl
        · exact close_undisturbed _ _ result _ closing
    case publish =>
        apply settled tracked.client rfl
        rcases tracked.client.respondPublish_cases config result first input.send responded with
          ⟨reason, -, closing⟩ | ⟨usPacketIdentifier, message, -, told⟩
        · exact close_undisturbed _ _ result reason closing
        · exact respondMessage_undisturbed _ _ result _ _ message _ told
    case pubRel =>
        exact settled tracked.client rfl (respondPubRel_undisturbed _ _ result _ _ responded)
    case pingResp =>
        apply settled tracked.client rfl
        cases responded
        unfold Client.respondPingResp
        split <;> exact Or.inr rfl
    case pubAck | pubComp | unsubAck =>
        exact forgotten _ (release_undisturbed tracked.client result _ _ responded)
    case subAck =>
        apply forgotten
        rcases tracked.client.respondSubAck_cases result _ _ responded with
          ⟨-, closing⟩ | ⟨-, released⟩
        · exact close_undisturbed _ _ result _ closing
        · exact release_undisturbed tracked.client result _ _ released
    case pubRec =>
        exact pubRec_holds holds config.toPlatform result (result.withPacket packet) _ input.send
          responded rfl rfl rfl empty
    all_goals cases responded

theorem sender_holds (platform : Platform) (next : Client) (nTicks : UInt32)
    (inputs : List SendInput)
    (empty : tracked.client.status = .disconnected → tracked.client.retransmissionQueue = [])
    (done : tracked.client.sender platform nTicks inputs = .ok (some next)) :
    ∃ after, senderLoop platform nTicks tracked.client [] tracked.waiting tracked.retired inputs =
        .ok (some after) ∧ after.Holds ∧ after.client = next := by
  have erased := senderLoop_erases platform nTicks tracked.client [] tracked.waiting
    tracked.retired inputs
  rw [holds.aligned, show packets [] = [] from rfl, ← Client.sender, done] at erased
  obtain ⟨after, looped, same⟩ : ∃ after, senderLoop platform nTicks tracked.client []
      tracked.waiting tracked.retired inputs = .ok (some after) ∧ after.client = next := by
    cases looped : senderLoop platform nTicks tracked.client [] tracked.waiting tracked.retired
      inputs with
    | error fault => simp [looped, Except.map] at erased
    | ok outcome =>
        cases outcome with
        | none => simp [looped, Except.map] at erased
        | some after => exact ⟨after, rfl, by simpa [looped, Except.map] using erased⟩
  refine ⟨after, looped, ?_, same⟩
  by_cases offline : tracked.client.status = .disconnected
  · -- Without a connection there is nothing in the queue.
    have none : tracked.waiting = [] := by
      have aligned := holds.aligned
      rw [empty offline] at aligned
      exact List.map_eq_nil_iff.mp aligned
    rw [none, senderLoop] at looped
    cases looped
    exact ⟨rfl, by simp, holds.repeats⟩
  · exact senderLoop_holds platform nTicks tracked.client [] tracked.waiting tracked.retired inputs
      after offline (by simpa using holds.waits) holds.repeats looped

omit holds in
theorem connect_undisturbed (config : Config) (client next : Client) (request : ConnectRequest)
    (input : ConnectInput) (done : client.connect config request input = .ok next) :
    Undisturbed client next := by
  rcases (client.connect_outcome config next request input done).2 with
    ⟨-, reason, -, rfl⟩ | ⟨-, packet, after, middle, sent, -, sending, ⟨-, rfl⟩ | ⟨-, closing⟩⟩
  · exact Or.inr rfl
  · exact framed_undisturbed (client.opened request.keepAliveSeconds) next
      (Client.sendPacket_framed config.toPlatform _ next packet after input.send sent sending)
  · exact close_undisturbed client middle next _ closing

omit holds in
theorem disconnect_undisturbed (config : Config) (client next : Client) (bForce : Bool)
    (input : SendInput) (done : client.disconnect config bForce input = .ok next) :
    Undisturbed client next := by
  unfold Client.disconnect at done
  split at done
  · exact close_undisturbed client client next _ done
  · simp only [bind_ok] at done
    rcases done with ⟨⟨sent, after, middle⟩, -, closing⟩
    exact close_undisturbed client middle next _ closing

omit holds in
theorem keepAliveHandler_undisturbed (platform : Platform) (client next : Client) (ticks : UInt32)
    (input : SendInput) (done : client.keepAliveHandler platform ticks input = .ok next) :
    Undisturbed client next := by
  unfold Client.keepAliveHandler at done
  split at done
  · dsimp only at done
    split at done
    · simp only [bind_ok] at done
      rcases done with ⟨⟨sent, after, middle⟩, sending, done⟩
      split at done
      · cases done
        exact framed_undisturbed client.stopTimer _
          (client.stopTimer.sendPacket_framed platform _ _ after input sent sending)
      · exact close_undisturbed client middle next _ done
    · simp only [bind_ok] at done
      rcases done with ⟨_, -, closing⟩
      exact close_undisturbed client client.stopTimer next _ closing
  · cases done
    exact Or.inr rfl

omit holds in
/-- A PUBLISH with QoS 0 is not queued. -/
theorem sendAndQueue_undisturbed (platform : Platform) (client next : Client) (packet : SendPacket)
    (uchQoS : UInt8) (usPacketIdentifier : UInt16) (input : SendInput) (plain : ¬ uchQoS ≥ 1)
    (done : client.sendAndQueue platform packet uchQoS usPacketIdentifier input = .ok next) :
    Undisturbed client next := by
  simp only [Client.sendAndQueue, bind_ok] at done
  rcases done with ⟨⟨sent, after, middle⟩, sending, done⟩
  split at done
  · cases done
    exact framed_undisturbed client _
      (client.sendPacket_framed platform _ packet after input sent sending)
  · exact close_undisturbed client middle next _ done

/-- The account follows every operation. -/
theorem follow_holds (config : Config) (next : Client) (operation : Operation config.toPlatform)
    (kept : Kept config tracked.client)
    (done : perform config tracked.client operation = .ok (some next)) :
    (tracked.follow config next operation).Holds ∧
      (tracked.follow config next operation).client = next := by
  have empty := (perform_kept config tracked.client next operation kept done).queued.empty
  cases perform_performs config tracked.client next operation done with
  | connect request input _ done =>
      exact settle_holds holds tracked.client next rfl
        (connect_undisturbed config tracked.client next request input done) empty
  | disconnect bForce input _ done =>
      exact settle_holds holds tracked.client next rfl
        (disconnect_undisturbed config tracked.client next bForce input done) empty
  | keepAliveHandler ticks input _ done =>
      exact settle_holds holds tracked.client next rfl
        (keepAliveHandler_undisturbed config.toPlatform tracked.client next ticks input done) empty
  | receiver input more _ done =>
      exact receive_holds holds config next input more kept.sound empty done
  | sender nTicks inputs _ done =>
      rcases sender_holds holds config.toPlatform next nTicks inputs kept.queued.empty done with
        ⟨after, looped, known, same⟩
      simp only [follow, looped]
      exact ⟨known, same⟩
  | subscribe pTopic uchQoS input _ done =>
      simp only [Client.subscribe, bind_ok] at done
      rcases done with ⟨_, -, packet, built, done⟩
      simp only [follow, built]
      exact place_holds holds config.toPlatform _ next next packet 1 _ input rfl
        (subscribePacket_original config _ pTopic uchQoS _ packet built) (by decide) done rfl rfl
        rfl empty
  | unsubscribe pTopic input _ done =>
      simp only [Client.unsubscribe, bind_ok] at done
      rcases done with ⟨packet, built, done⟩
      simp only [follow, built]
      exact place_holds holds config.toPlatform _ next next packet 1 _ input rfl
        (unsubscribePacket_original config _ pTopic _ packet built) (by decide) done rfl rfl rfl
        empty
  | publish pTopic payload uchQoS bRetain input _ done =>
      simp only [Client.publish, bind_ok, require_ok] at done
      rcases done with ⟨_, valid, packet, built, done⟩
      simp only [follow, built]
      split
      · rename_i answered
        exact place_holds holds config.toPlatform _ next next packet uchQoS _ input rfl
          (publishPacket_original config _ pTopic payload uchQoS bRetain _ packet valid built)
          answered done rfl rfl rfl empty
      · rename_i plain
        exact settle_holds holds tracked.client.advanceIdentifier next rfl
          (sendAndQueue_undisturbed config.toPlatform _ next packet uchQoS _ input plain done) empty

end Tracked

/-- The account goes with the client through every run. -/
theorem run_holds (config : Config) (tracked : Tracked) (last : Client)
    (operations : List (Operation config.toPlatform)) (kept : Kept config tracked.client)
    (holds : tracked.Holds)
    (reached : run (step config) (.running tracked.client) operations = some (.running last)) :
    ∃ final, run (Tracked.step config) tracked operations = some final ∧ final.client = last ∧
      final.Holds := by
  induction operations generalizing tracked with
  | nil =>
      cases reached
      exact ⟨tracked, rfl, rfl, holds⟩
  | cons operation rest ih =>
      rcases (run_cons _ _ operation rest).mp reached with ⟨state, taken, tail⟩
      rcases step_cases config _ state operation taken with ⟨client, same, outcome⟩
      cases same
      rcases outcome with ⟨next, done, rfl⟩ | ⟨fault, -, rfl⟩
      · rcases Tracked.follow_holds holds config next operation kept done with ⟨known, same⟩
        rcases ih (tracked.follow config next operation)
          (by rw [same]; exact perform_kept config tracked.client next operation kept done) known
          (by rw [same]; exact tail) with ⟨final, ran, ends, fine⟩
        refine ⟨final, ?_, ends, fine⟩
        rw [run, Tracked.step, done]
        exact ran
      · -- A failed assertion ends the run.
        cases rest <;> cases tail

/-- Over every run, each packet object that has been in the retransmission queue has
repeated its first transmission, and its tries are limited. -/
theorem retransmissions_repeat (config : Config) (client last : Client)
    (operations : List (Operation config.toPlatform)) (constructed : Constructed config client)
    (reached : run (step config) (.running client) operations = some (.running last)) :
    ∃ tracked, run (Tracked.step config) (begin client) operations = some tracked ∧
      tracked.client = last ∧ packets tracked.waiting = last.retransmissionQueue ∧
      ∀ object ∈ tracked.retired ++ tracked.waiting, Repeats object.attempts := by
  have start : (begin client).Holds :=
    ⟨constructed.retransmissionQueue.symm, by simp [begin], by simp [begin]⟩
  rcases run_holds config (begin client) last operations
    (constructed_kept config client constructed) start reached with ⟨tracked, ran, ends, holds⟩
  refine ⟨tracked, ran, ends, ends ▸ holds.aligned, ?_⟩
  exact retire_repeats tracked.retired tracked.waiting holds.repeats holds.waits

def repeatsAt (ticks : UInt32) : Operation Config.default.toPlatform :=
  .sender ticks [{ SendInput.willing with queueTicks := ticks }]

def exhausting : List (Operation Config.default.toPlatform) :=
  [.connect plainRequest smoothConnect, .receiver (delivers [0x20, 2, 0, 0] connAck_short),
    .publish [97] [98] 1 true .willing, repeatsAt 500, repeatsAt 1000, repeatsAt 1500,
    repeatsAt 2000, repeatsAt 2500]

/-- The run is over when the fifth repetition is due. -/
theorem exhausting_repeats :
    ∃ tracked, run (Tracked.step Config.default) (begin (Client.fresh Config.default)) exhausting =
        some tracked ∧
      tracked.retired.map (fun object => transmissions object.attempts) =
        [[0x33, 6, 0, 1, 97, 0, 1, 98] :: List.replicate 4 [0x3B, 6, 0, 1, 97, 0, 1, 98]] ∧
      ∀ object ∈ tracked.retired ++ tracked.waiting, Repeats object.attempts := by
  have runs : (run (step Config.default) (.running (Client.fresh Config.default)) exhausting).any
      (fun state => state.casesOn (fun _ => true) fun _ _ => false) = true := by
    decide +kernel
  have sent : (run (Tracked.step Config.default) (begin (Client.fresh Config.default))
      exhausting).map (fun tracked => tracked.retired.map fun object =>
        transmissions object.attempts) =
      some [[0x33, 6, 0, 1, 97, 0, 1, 98] :: List.replicate 4 [0x3B, 6, 0, 1, 97, 0, 1, 98]] := by
    decide +kernel
  rcases Option.any_eq_true _ _ |>.mp runs with ⟨state, reached, going⟩
  cases state with
  | failed inReceiver fault => cases going
  | running last =>
      rcases retransmissions_repeat Config.default (Client.fresh Config.default) last exhausting
        (fresh_constructed Config.default) reached with ⟨tracked, ran, -, -, repeats⟩
      rw [ran] at sent
      exact ⟨tracked, ran, Option.some.inj sent, repeats⟩

end CircleStdlib.Mqtt.Retransmissions
