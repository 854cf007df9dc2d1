import CircleStdlib.Backlog
import CircleStdlib.LifeCycle
import CircleStdlib.ConnectionEvents
import CircleStdlib.ReceiverFraming
import CircleStdlib.StreamReception

/-!
The receive buffer as a backlog of packets. Each round of `Receiver` tests the
fill level, polls the socket and then dispatches at most one packet, so that a
round is one round of `Backlog`: the read is the piece and the packets of the
stream are the items. The buffer overflows, and a close by the peer overtakes
packets that wait, exactly when the backlog says so.
-/

namespace CircleStdlib.Mqtt.ReceiveBacklog

open Backlog Checked Execution StreamReception

def Valid (bytes : List UInt8) : Prop :=
  ∃ packet, firstPacket bytes = some (packet, []) ∧ packet.Accepted

structure Delivery (config : Config) where
  read : Read config
  send : SendInput

def Delivery.operation {config : Config} (delivery : Delivery config) :
    Operation config.toPlatform :=
  .receiver ⟨some delivery.read, delivery.send⟩

def Delivery.bytes {config : Config} (delivery : Delivery config) : List UInt8 :=
  delivery.read.val

/-- The handler of the packet that the round finds completes it: it returns, leaves the
connection open and nothing of the packet in the buffer. -/
def Completing (config : Config) : Machine → Operation config.toPlatform → Prop
  | .running client, .receiver input =>
      ∀ first rest, client.front config input = some (first, rest) → first.Accepted →
        leftover first rest = rest ∧
          ∃ next, client.respond config first input.send = .ok next ∧ next.socket = true
  | _, _ => True

def lengths (packets : List (List UInt8)) : List Nat := packets.map List.length

/-- What has been read of the stream and is not dispatched yet. -/
def held (packets : List (List UInt8)) (gone arrived : Nat) : List UInt8 :=
  (packets.flatten.take arrived).drop (taken (lengths packets) gone)

/-- The fill level up to which `Receive` polls the socket. -/
def capacity (config : Config) : Nat := config.queueSize

theorem taken_lengths (packets : List (List UInt8)) (count : Nat) :
    taken (lengths packets) count = (packets.take count).flatten.length := by
  rw [taken, lengths, ← List.map_take, List.length_flatten]

theorem drop_taken (packets : List (List UInt8)) (count : Nat) :
    packets.flatten.drop (taken (lengths packets) count) = (packets.drop count).flatten := by
  have split : packets.flatten = (packets.take count).flatten ++ (packets.drop count).flatten := by
    rw [← List.flatten_append, List.take_append_drop]
  rw [taken_lengths, split, List.drop_left]

theorem taken_succ (packets : List (List UInt8)) (gone : Nat) (inside : gone < packets.length) :
    taken (lengths packets) (gone + 1) =
      taken (lengths packets) gone + packets[gone].length := by
  rw [taken_lengths, taken_lengths, ← List.length_append, List.take_succ_eq_append_getElem inside,
    List.flatten_append]
  simp

theorem held_eq (packets : List (List UInt8)) (gone arrived : Nat) :
    held packets gone arrived =
      (packets.drop gone).flatten.take (arrived - taken (lengths packets) gone) := by
  rw [held, List.drop_take, drop_taken]

theorem held_length (packets : List (List UInt8)) (gone arrived : Nat)
    (inside : arrived ≤ packets.flatten.length) :
    (held packets gone arrived).length = arrived - taken (lengths packets) gone := by
  rw [held, List.length_drop, List.length_take, Nat.min_eq_left inside]

/-- The next packet is all there. -/
theorem held_whole (packets : List (List UInt8)) (gone arrived : Nat)
    (valid : ∀ bytes ∈ packets, Valid bytes)
    (more : gone + 1 ≤ wholes (lengths packets) arrived) :
    ∃ bytes packet, packets.drop gone = bytes :: packets.drop (gone + 1) ∧
      firstPacket bytes = some (packet, []) ∧ packet.Accepted ∧
      firstPacket (held packets gone arrived) =
        some (packet, held packets (gone + 1) arrived) := by
  rcases (le_wholes_iff _ _ _).mp more with ⟨inside, enough⟩
  simp only [lengths, List.length_map] at inside
  have next : packets.drop gone = packets[gone] :: packets.drop (gone + 1) :=
    List.drop_eq_getElem_cons inside
  rcases valid packets[gone] (List.getElem_mem inside) with ⟨packet, whole, accepted⟩
  have sum := taken_succ packets gone inside
  refine ⟨packets[gone], packet, next, whole, accepted, ?_⟩
  have split : held packets gone arrived = packets[gone] ++ held packets (gone + 1) arrived := by
    rw [held_eq, held_eq, next, List.flatten_cons, List.take_append, sum,
      List.take_of_length_le (by omega), Nat.sub_add_eq]
  rw [split]
  exact firstPacket_append _ [] _ packet whole

/-- The next packet is not all there, or there is none. -/
theorem held_unfinished (packets : List (List UInt8)) (gone arrived : Nat)
    (valid : ∀ bytes ∈ packets, Valid bytes)
    (waiting : ¬ gone + 1 ≤ wholes (lengths packets) arrived) :
    firstPacket (held packets gone arrived) = none ∧
      overlong (held packets gone arrived) = false := by
  rw [held_eq]
  by_cases inside : gone < packets.length
  · have next : packets.drop gone = packets[gone] :: packets.drop (gone + 1) :=
      List.drop_eq_getElem_cons inside
    rcases valid packets[gone] (List.getElem_mem inside) with ⟨packet, whole, -⟩
    have sum := taken_succ packets gone inside
    have less : arrived < taken (lengths packets) gone + packets[gone].length := by
      by_contra enough
      exact waiting ((le_wholes_iff _ _ _).mpr
        ⟨by simp only [lengths, List.length_map]; omega, by rw [sum]; omega⟩)
    have some := firstPacket_length _ [] packet whole
    rw [next, List.flatten_cons, List.take_append_of_le_length (by omega)]
    exact part_unfinished _ packet _ whole (by omega)
  · rw [List.drop_eq_nil_of_le (by omega)]
    exact ⟨by simp [firstPacket], by simp [overlong]⟩

/-- The client has read `arrived` bytes of the stream and dispatched `gone` packets of it. -/
structure Holds (config : Config) (packets : List (List UInt8)) (gone arrived : Nat)
    (client : Client) : Prop where
  sound : Sound config client
  open_ : client.socket = true
  allocated : client.receivePacket.allocated = true
  received : client.receivePacket.received = held packets gone arrived
  ahead : gone ≤ wholes (lengths packets) arrived
  inside : arrived ≤ packets.flatten.length

def dispatchOf (config : Config) (client : Client) (input : ReceiveInput config.toPlatform) :
    List Dispatched :=
  if client.socket = false then []
  else
    match client.receivePacket.receive config.toPlatform input.bytes with
    | .ok (.packetOK, packet) => [dispatchedOf packet]
    | _ => []

def decoded (bytes : List UInt8) : Option Dispatched :=
  (firstPacket bytes).map fun (packet, _) => ⟨packet.type, packet.flags, packet.body⟩

variable (config : Config) (packets : List (List UInt8)) (gone arrived : Nat) (client : Client)

theorem holds_level (holds : Holds config packets gone arrived client) :
    client.receivePacket.inPtr = arrived - taken (lengths packets) gone := by
  rw [← ReceivePacket.received_length, holds.received,
    held_length packets gone arrived holds.inside]

/-- The level up to which `Receive` polls the socket, in terms of the stream. -/
theorem holds_room (holds : Holds config packets gone arrived client) :
    client.receivePacket.inPtr ≤
        config.sizeSub client.receivePacket.bufferSize config.frameBufferSize ↔
      arrived ≤ capacity config + taken (lengths packets) gone := by
  rw [holds_level config packets gone arrived client holds, holds.sound.bounded.bufferSize,
    config.sizeSub_bufferSize, capacity]
  omega

theorem round_full (delivery : Delivery config) (holds : Holds config packets gone arrived client)
    (full : ¬ arrived ≤ capacity config + taken (lengths packets) gone) :
    client.receiverPass config ⟨some delivery.read, delivery.send⟩ =
      .ok (false, client.closed .insufficientResources) := by
  have above : ¬ client.receivePacket.inPtr ≤
      config.sizeSub client.receivePacket.bufferSize config.frameBufferSize := by
    rw [holds_room config packets gone arrived client holds]
    exact full
  have nothing : client.arrival config ⟨some delivery.read, delivery.send⟩ = none := by
    rw [Client.arrival, if_neg fun ready => above ready.2.2]
  rw [client.receiverPass_unread config _ holds.open_ nothing]
  have reason : client.unreadReason config = .insufficientResources := by
    rw [Client.unreadReason, if_pos (Or.inr (Nat.lt_of_not_le above))]
  have online : client.status ≠ .disconnected := holds.sound.linked.mp holds.open_
  rcases client.closeConnection_total (client.unreadReason config) holds.sound.linked with
    ⟨next, done⟩
  rcases client.closeConnection_cases next _ done with ⟨offline, -⟩ | ⟨-, -, rfl⟩
  · exact absurd offline online
  · rw [done, reason]
    rfl

theorem held_grows (read : List UInt8) (ahead : gone ≤ wholes (lengths packets) arrived)
    (inside : arrived ≤ packets.flatten.length) (follows : read <+: packets.flatten.drop arrived) :
    held packets gone arrived ++ read = held packets gone (arrived + read.length) ∧
      arrived + read.length ≤ packets.flatten.length := by
  have behind : taken (lengths packets) gone ≤ arrived :=
    ((le_wholes_iff _ _ _).mp ahead).2
  rcases follows with ⟨rest, split⟩
  have whole : packets.flatten = packets.flatten.take arrived ++ (read ++ rest) := by
    rw [split, List.take_append_drop]
  have size : (packets.flatten.take arrived).length = arrived := by
    rw [List.length_take, Nat.min_eq_left inside]
  constructor
  · have longer : packets.flatten.take (arrived + read.length) =
        packets.flatten.take arrived ++ read := by
      conv_lhs => rw [whole]
      rw [← List.append_assoc, List.take_left' (by rw [List.length_append, size])]
    rw [held, held, longer, List.drop_append_of_le_length (by omega)]
  · have count := congrArg List.length whole
    simp only [List.length_append, size] at count
    omega

/-- What the round finds in the buffer. -/
theorem holds_arrival (delivery : Delivery config) (narrow : config.fillLimit < 2 ^ 32)
    (holds : Holds config packets gone arrived client)
    (room : arrived ≤ capacity config + taken (lengths packets) gone)
    (follows : delivery.bytes <+: packets.flatten.drop arrived) :
    client.arrival config ⟨some delivery.read, delivery.send⟩ =
      some (held packets gone (arrived + delivery.bytes.length)) := by
  have level := (holds_room config packets gone arrived client holds).mpr room
  have fits : client.receivePacket.inPtr + delivery.read.val.length < 2 ^ 32 := by
    have short := delivery.read.property
    rw [holds.sound.bounded.bufferSize, config.sizeSub_bufferSize] at level
    rw [Config.fillLimit] at narrow
    omega
  have arrives := arrival_append config client delivery.read delivery.send holds.open_
    holds.allocated level fits
  rw [arrives, holds.received, show delivery.read.val = delivery.bytes from rfl,
    (held_grows packets gone arrived delivery.bytes holds.ahead holds.inside follows).1]

def overflows (log : List Event) : Nat := log.count (.onDisconnect .insufficientResources)

/-- A handler that leaves the connection open has not called `OnDisconnect`. -/
theorem respond_overflows (client next : Client) (first : Packet) (input : SendInput)
    (linked : client.Linked) (open_ : client.socket = true)
    (done : client.respond config first input = .ok next)
    (stays : next.status ≠ .disconnected) : overflows next.log = overflows client.log := by
  have online := linked.mp open_
  rcases client.respond_moves config next first input online done with
    moves | ⟨-, -, -, sessionPresent, packet, rfl⟩
  · rcases ConnectionEvents.moves_continue config client next moves with ⟨events, -, log⟩
    have attempts := (LifeCycle.moves_continued config client next moves).attempts
    simp only [LifeCycle.attempts, log, LifeCycle.disconnects_append, online, stays, ↓reduceIte]
      at attempts
    have none : LifeCycle.disconnects events = 0 := by omega
    have absent : events.count (.onDisconnect .insufficientResources) = 0 := by
      apply List.count_eq_zero.mpr
      intro member
      exact List.countP_eq_zero.mp none _ member rfl
    rw [overflows, log, List.count_append, absent, Nat.add_zero]
    rfl
  · simp [overflows, Client.established, Client.withPacket, Client.record]

/-- A round that `Receive` gets through: the read is added, and the next packet is
dispatched if it is all there. -/
theorem round_within (delivery : Delivery config) (narrow : config.fillLimit < 2 ^ 32)
    (valid : ∀ bytes ∈ packets, Valid bytes)
    (holds : Holds config packets gone arrived client)
    (room : arrived ≤ capacity config + taken (lengths packets) gone)
    (follows : delivery.bytes <+: packets.flatten.drop arrived)
    (completing : Completing config (.running client) delivery.operation) :
    ∃ more next, client.receiverPass config ⟨some delivery.read, delivery.send⟩ =
        .ok (more, next) ∧
      Holds config packets (serve (lengths packets) gone (arrived + delivery.bytes.length))
        (arrived + delivery.bytes.length) next ∧
      overflows next.log = overflows client.log ∧
      dispatchOf config client ⟨some delivery.read, delivery.send⟩ =
        ((packets.drop gone).take
          (serve (lengths packets) gone (arrived + delivery.bytes.length) - gone)).filterMap
            decoded := by
  have inside := (held_grows packets gone arrived delivery.bytes holds.ahead holds.inside follows).2
  have arrives := holds_arrival config packets gone arrived client delivery narrow holds room
    follows
  have later : gone ≤ wholes (lengths packets) (arrived + delivery.bytes.length) :=
    holds.ahead.trans (wholes_mono _ _ _ (Nat.le_add_right ..))
  have answers := receive_stream config client ⟨some delivery.read, delivery.send⟩ _
    holds.sound.bounded arrives
  have dispatch : dispatchOf config client ⟨some delivery.read, delivery.send⟩ =
      match client.receivePacket.receive config.toPlatform
        (ReceiveInput.bytes ⟨some delivery.read, delivery.send⟩) with
      | .ok (.packetOK, packet) => [dispatchedOf packet]
      | _ => [] := by
    rw [dispatchOf, if_neg (by simp [holds.open_])]
  by_cases more : gone + 1 ≤ wholes (lengths packets) (arrived + delivery.bytes.length)
  · -- The first packet that is left is whole, and its handler completes it.
    rcases held_whole packets gone _ valid more with
      ⟨bytes, packet, next, wire, accepted, whole⟩
    have found : client.front config ⟨some delivery.read, delivery.send⟩ =
        some (packet, held packets (gone + 1) (arrived + delivery.bytes.length)) := by
      rw [Client.front, arrives]
      exact whole
    rcases completing packet _ found accepted with ⟨nothing, result, responded, stays⟩
    rcases client.round_accepted config _ _ _ packet holds.sound arrives whole accepted with
      ⟨buffer, pass, bounded, allocated, left⟩
    rcases left result responded with ⟨linked, framed⟩
    have served : serve (lengths packets) gone (arrived + delivery.bytes.length) = gone + 1 := by
      rw [serve, if_pos more]
    rw [served]
    refine ⟨true, result.withPacket buffer, ?_, ⟨⟨linked, bounded⟩, stays, ?_, ?_, more, inside⟩,
      ?_, ?_⟩
    · rw [pass, responded]
      rfl
    · exact allocated.trans holds.allocated
    · exact (framed stays).trans nothing
    · exact respond_overflows config client result packet delivery.send holds.sound.linked
        holds.open_ responded (linked.mp stays)
    · -- The bytes begin with an accepted packet, so that only the third answer is left.
      rcases answers with ⟨invalid, -⟩ | ⟨unfinished, -⟩ |
        ⟨first, rest, item, there, -, receive, same⟩
      · rcases invalid with bad | ⟨other, tail, there, refused⟩
        · rw [overlong_of_packet _ _ packet whole] at bad
          cases bad
        · cases there.symm.trans whole
          exact absurd accepted refused
      · cases unfinished.symm.trans whole
      · cases there.symm.trans whole
        rw [dispatch, receive, next, Nat.add_sub_cancel_left]
        simp [decoded, wire, same]
  · -- The buffer holds the beginning of a packet at most, and the round waits.
    rcases held_unfinished packets gone _ valid more with ⟨unfinished, fine⟩
    rcases client.round_waiting config _ _ holds.sound arrives unfinished fine with
      ⟨buffer, pass, received, bounded, allocated⟩
    have served : serve (lengths packets) gone (arrived + delivery.bytes.length) = gone := by
      rw [serve, if_neg more]
    rw [served]
    refine ⟨false, client.withPacket buffer, pass, ⟨⟨holds.sound.linked, bounded⟩, holds.open_,
      allocated.trans holds.allocated, received, later, inside⟩, rfl, ?_⟩
    rcases answers with ⟨invalid, -⟩ | ⟨-, -, packet, receive⟩ | ⟨first, rest, item, there, -⟩
    · rcases invalid with bad | ⟨other, tail, there, -⟩
      · rw [fine] at bad
        cases bad
      · cases there.symm.trans unfinished
    · rw [dispatch, receive]
      simp
    · cases there.symm.trans unfinished

def operations (deliveries : List (Delivery config)) : List (Operation config.toPlatform) :=
  deliveries.map Delivery.operation

def pieces (deliveries : List (Delivery config)) : List Nat :=
  deliveries.map fun delivery => delivery.bytes.length

theorem step_pass (delivery : Delivery config) (more : Bool) (next : Client)
    (pass : client.receiverPass config ⟨some delivery.read, delivery.send⟩ = .ok (more, next)) :
    step config (.running client) delivery.operation = some (.running next) := by
  simp only [step, Delivery.operation, perform, pass, ok_bind]
  rfl

/-- Without a connection the rounds do nothing. -/
theorem run_closed (client : Client) (closed : client.socket = false)
    (deliveries : List (Delivery config)) :
    run (step config) (.running client) (operations config deliveries) =
      some (.running client) := by
  induction deliveries with
  | nil => rfl
  | cons delivery deliveries ih =>
      have pass : client.receiverPass config ⟨some delivery.read, delivery.send⟩ =
          .ok (false, client) := by
        simp [Client.receiverPass, closed]
      rw [operations, List.map_cons, run, step_pass config client delivery false client pass]
      exact ih

/-- The connection is closed for lack of memory exactly when the backlog gets too large. -/
theorem overflow_iff (narrow : config.fillLimit < 2 ^ 32)
    (valid : ∀ bytes ∈ packets, Valid bytes) (gone arrived : Nat) (client final : Client)
    (deliveries : List (Delivery config)) (holds : Holds config packets gone arrived client)
    (follows : (deliveries.map Delivery.bytes).flatten <+: packets.flatten.drop arrived)
    (completing : Along (step config) (Completing config) (.running client)
      (operations config deliveries))
    (ended : run (step config) (.running client) (operations config deliveries) =
      some (.running final)) :
    overflows final.log = overflows client.log ↔
      Within (lengths packets) (capacity config) gone arrived (pieces config deliveries) := by
  induction deliveries generalizing gone arrived client with
  | nil =>
      cases ended
      simp [pieces, Within]
  | cons delivery deliveries ih =>
      rw [operations, List.map_cons] at completing ended
      rw [pieces, List.map_cons, Within]
      by_cases room : arrived ≤ capacity config + taken (lengths packets) gone
      · rw [List.map_cons, List.flatten_cons] at follows
        have first := (List.prefix_append _ _).trans follows
        rcases round_within config packets gone arrived client delivery narrow valid holds room
          first completing.1 with ⟨more, next, pass, after, quiet, -⟩
        have taken := step_pass config client delivery more next pass
        rcases (run_cons _ _ _ _).mp ended with ⟨other, again, rest⟩
        cases again.symm.trans taken
        have ahead : (deliveries.map Delivery.bytes).flatten <+:
            packets.flatten.drop (arrived + delivery.bytes.length) := by
          rcases follows with ⟨tail, split⟩
          refine ⟨tail, ?_⟩
          rw [← List.drop_drop, ← split, List.append_assoc, List.drop_left]
        rw [← quiet, ih _ _ next after ahead (completing.2 _ taken) rest]
        exact (and_iff_right room).symm
      · have taken := step_pass config client delivery false _
          (round_full config packets gone arrived client delivery holds room)
        rcases (run_cons _ _ _ _).mp ended with ⟨other, again, rest⟩
        cases again.symm.trans taken
        have shut := run_closed config (client.closed .insufficientResources) rfl deliveries
        cases rest.symm.trans shut
        have counted : overflows (client.closed .insufficientResources).log =
            overflows client.log + 1 := by
          simp [overflows, Client.closed]
        rw [counted]
        simp [room]

theorem lengths_positive (valid : ∀ bytes ∈ packets, Valid bytes) :
    ∀ length ∈ lengths packets, 0 < length := by
  intro length member
  rcases List.mem_map.mp member with ⟨bytes, inside, rfl⟩
  rcases valid bytes inside with ⟨packet, whole, -⟩
  have some := firstPacket_length bytes [] packet whole
  omega

/-- The buffer has just been reset. -/
theorem holds_start (sound : Sound config client) (open_ : client.socket = true)
    (allocated : client.receivePacket.allocated = true) (empty : client.receivePacket.inPtr = 0) :
    Holds config packets 0 0 client := by
  refine ⟨sound, open_, allocated, ?_, Nat.zero_le _, Nat.zero_le _⟩
  have none : client.receivePacket.received.length = 0 := by
    rw [ReceivePacket.received_length, empty]
  rw [List.length_eq_zero_iff.mp none]
  simp [held]

/-- Without a buffer the first round closes the connection. -/
theorem round_unallocated (delivery : Delivery config) (sound : Sound config client)
    (open_ : client.socket = true) (missing : client.receivePacket.allocated = false) :
    client.receiverPass config ⟨some delivery.read, delivery.send⟩ =
      .ok (false, client.closed .insufficientResources) := by
  have nothing : client.arrival config ⟨some delivery.read, delivery.send⟩ = none := by
    rw [Client.arrival, if_neg (by simp [missing])]
  have reason : client.unreadReason config = .insufficientResources := by
    rw [Client.unreadReason, if_pos (Or.inl missing)]
  rw [client.receiverPass_unread config _ open_ nothing, reason]
  rcases client.closeConnection_total .insufficientResources sound.linked with ⟨next, done⟩
  rcases client.closeConnection_cases next _ done with ⟨offline, -⟩ | ⟨-, -, rfl⟩
  · exact absurd offline (sound.linked.mp open_)
  · rw [done]
    rfl

/-- A stream of valid packets, in any reads, from an empty buffer on: `Receiver` does not
close the connection for lack of memory exactly when there is a buffer and at the
beginning of every round the bytes read exceed, by the capacity at most, the packets
that could have been dispatched at one a round from any earlier round on. -/
theorem never_overflows_iff (start client final : Client)
    (former : List (Operation config.toPlatform)) (packets : List (List UInt8))
    (deliveries : List (Delivery config)) (narrow : config.fillLimit < 2 ^ 32)
    (constructed : Constructed config start)
    (reached : run (step config) (.running start) former = some (.running client))
    (open_ : client.socket = true) (empty : client.receivePacket.inPtr = 0)
    (valid : ∀ bytes ∈ packets, Valid bytes)
    (follows : (deliveries.map Delivery.bytes).flatten <+: packets.flatten)
    (completing : Along (step config) (Completing config) (.running client)
      (operations config deliveries))
    (ended : run (step config) (.running client) (operations config deliveries) =
      some (.running final)) :
    overflows final.log = overflows client.log ↔
      (deliveries = [] ∨ client.receivePacket.allocated = true) ∧
        ∀ round < deliveries.length, ∀ earlier ≤ round,
          ((pieces config deliveries).take round).sum ≤
            capacity config + taken (lengths packets)
              (wholes (lengths packets) ((pieces config deliveries).take earlier).sum +
                (round - earlier)) := by
  have sound := reached_sound config start client former constructed reached
  have count : (pieces config deliveries).length = deliveries.length := by simp [pieces]
  by_cases allocated : client.receivePacket.allocated = true
  · have holds := holds_start config packets client sound open_ allocated empty
    rw [overflow_iff config packets narrow valid 0 0 client final deliveries holds follows
      completing ended, within_start_iff _ (lengths_positive packets valid), count]
    simp [allocated]
  · cases deliveries with
    | nil =>
        cases ended
        simp
    | cons delivery deliveries =>
        have missing : client.receivePacket.allocated = false := by simpa using allocated
        have taken := step_pass config client delivery false _
          (round_unallocated config client delivery sound open_ missing)
        rw [operations, List.map_cons] at ended
        rcases (run_cons _ _ _ _).mp ended with ⟨other, again, rest⟩
        cases again.symm.trans taken
        cases rest.symm.trans
          (run_closed config (client.closed .insufficientResources) rfl deliveries)
        simp [overflows, Client.closed, missing]

/-! The close by the peer. -/

def dispatches : Machine → List (Operation config.toPlatform) → List Dispatched
  | .running client, .receiver input :: rest =>
      dispatchOf config client input ++
        match step config (.running client) (.receiver input) with
        | some next => dispatches next rest
        | none => []
  | _, _ => []

/-- A SUBACK has one return code, as the answer to a SUBSCRIBE of this client. -/
def OneCode (bytes : List UInt8) : Prop :=
  ∀ packet, firstPacket bytes = some (packet, []) → packet.type = .subAck →
    packet.body.length = 3

/-- A round after which there still is a connection: the handler has completed its packet. -/
theorem completing_of_open (narrow : config.fillLimit < 2 ^ 32)
    (valid : ∀ bytes ∈ packets, Valid bytes) (plain : ∀ bytes ∈ packets, OneCode bytes)
    (gone arrived : Nat) (client next : Client) (delivery : Delivery config)
    (holds : Holds config packets gone arrived client)
    (room : arrived ≤ capacity config + taken (lengths packets) gone)
    (follows : delivery.bytes <+: packets.flatten.drop arrived)
    (taken : step config (.running client) delivery.operation = some (.running next))
    (stays : next.socket = true) : Completing config (.running client) delivery.operation := by
  intro first rest there accepted
  have arrives := holds_arrival config packets gone arrived client delivery narrow holds room
    follows
  have whole : firstPacket (held packets gone (arrived + delivery.bytes.length)) =
      some (first, rest) := by
    rw [Client.front, arrives] at there
    exact there
  constructor
  · -- The packet is one of the stream.
    rw [ReceiverFraming.leftover_rest_iff]
    rintro ⟨subAck, long⟩
    by_cases more : gone + 1 ≤ wholes (lengths packets) (arrived + delivery.bytes.length)
    · rcases held_whole packets gone _ valid more with ⟨bytes, packet, next, wire, -, found⟩
      cases found.symm.trans whole
      have member : bytes ∈ packets := List.mem_of_mem_drop (next ▸ List.mem_cons_self)
      have three := plain bytes member _ wire subAck
      omega
    · cases (held_unfinished packets gone _ valid more).1.symm.trans whole
  · rcases client.round_accepted config _ _ rest first holds.sound arrives whole accepted with
      ⟨buffer, pass, -⟩
    simp only [step, Delivery.operation, perform, pass] at taken
    cases responded : client.respond config first delivery.send with
    | error fault =>
        rw [responded] at taken
        cases taken
    | ok result =>
        rw [responded] at taken
        cases taken
        exact ⟨result, rfl, stays⟩

/-- What is given out in two parts. -/
theorem take_parts (items : List (List UInt8)) (first second third : Nat) (early : first ≤ second)
    (late : second ≤ third) :
    (items.drop first).take (second - first) ++ (items.drop second).take (third - second) =
      (items.drop first).take (third - first) := by
  have sum : third - first = (second - first) + (third - second) := by omega
  rw [sum, List.take_add, List.drop_drop, Nat.add_sub_cancel' early]

theorem run_failed (inReceiver : Bool) (fault : Fault) (last : Client)
    (rest : List (Operation config.toPlatform)) :
    run (step config) (.failed inReceiver fault) rest ≠ some (.running last) := by
  cases rest with
  | nil => simp [run]
  | cons operation rest => simp [run, step]

/-- The packets that rounds dispatch which leave the connection open. -/
theorem dispatches_drained (narrow : config.fillLimit < 2 ^ 32)
    (valid : ∀ bytes ∈ packets, Valid bytes) (plain : ∀ bytes ∈ packets, OneCode bytes)
    (gone arrived : Nat) (client last : Client) (deliveries : List (Delivery config))
    (rest : List (Operation config.toPlatform))
    (holds : Holds config packets gone arrived client)
    (follows : (deliveries.map Delivery.bytes).flatten <+: packets.flatten.drop arrived)
    (ended : run (step config) (.running client) (operations config deliveries) =
      some (.running last))
    (stays : last.socket = true) :
    dispatches config (.running client) (operations config deliveries ++ rest) =
      ((packets.drop gone).take
        (drained (lengths packets) gone arrived (pieces config deliveries) - gone)).filterMap
          decoded ++ dispatches config (.running last) rest := by
  induction deliveries generalizing gone arrived client with
  | nil =>
      cases ended
      simp [pieces, operations, drained]
  | cons delivery deliveries ih =>
      rw [operations, List.map_cons] at ended ⊢
      rw [List.map_cons, List.flatten_cons] at follows
      have first := (List.prefix_append _ _).trans follows
      rcases (run_cons _ _ _ _).mp ended with ⟨middle, taken, tail⟩
      rcases middle with next | ⟨inReceiver, fault⟩
      · -- On a closed connection the other rounds would do nothing, and `last` would be closed.
        have open_ : next.socket = true := by
          by_contra shut
          have closed : next.socket = false := by simpa using shut
          cases tail.symm.trans (run_closed config next closed deliveries)
          exact shut stays
        have room : arrived ≤ capacity config + Backlog.taken (lengths packets) gone := by
          -- a full buffer closes the connection in this round
          by_contra full
          cases taken.symm.trans (step_pass config client delivery false _
            (round_full config packets gone arrived client delivery holds full))
          cases open_
        rcases round_within config packets gone arrived client delivery narrow valid holds room
          first (completing_of_open config packets narrow valid plain gone arrived client next
            delivery holds room first taken open_) with ⟨more, other, pass, after, -, dispatch⟩
        cases taken.symm.trans (step_pass config client delivery more other pass)
        have ahead : (deliveries.map Delivery.bytes).flatten <+:
            packets.flatten.drop (arrived + delivery.bytes.length) := by
          rcases follows with ⟨tail, split⟩
          refine ⟨tail, ?_⟩
          rw [← List.drop_drop, ← split, List.append_assoc, List.drop_left]
        have rounds := ih _ _ next after ahead tail
        have early := le_serve (lengths packets) gone (arrived + delivery.bytes.length)
        have late := le_drained (lengths packets)
          (serve (lengths packets) gone (arrived + delivery.bytes.length))
          (arrived + delivery.bytes.length) (pieces config deliveries)
        rw [List.cons_append, dispatches.eq_def]
        simp only [Delivery.operation] at taken ⊢
        simp only [taken]
        rw [operations] at rounds
        have more : pieces config (delivery :: deliveries) =
            delivery.bytes.length :: pieces config deliveries := rfl
        rw [rounds, dispatch, ← List.append_assoc, ← List.filterMap_append, more, drained,
          take_parts packets gone _ _ early late]
      · exact absurd tail (run_failed config inReceiver fault last _)

theorem decoded_count (valid : ∀ bytes ∈ packets, Valid bytes) (count : Nat)
    (inside : count ≤ packets.length) :
    ((packets.take count).filterMap decoded).length = count := by
  have each : ∀ bytes ∈ packets.take count, (decoded bytes).isSome := by
    intro bytes member
    rcases valid bytes (List.mem_of_mem_take member) with ⟨packet, whole, -⟩
    simp [decoded, whole]
  rw [List.filterMap_length_eq_length.mpr each, List.length_take, Nat.min_eq_left inside]

/-- A negative result of the socket closes the connection, and no packet is looked at. -/
theorem round_negative (send : SendInput) (linked : client.Linked) (open_ : client.socket = true) :
    step config (.running client) (.receiver ⟨none, send⟩) =
        some (.running (client.closed (client.unreadReason config))) ∧
      dispatchOf config client ⟨none, send⟩ = [] := by
  have nothing : client.arrival config ⟨none, send⟩ = none := by
    simp [Client.arrival, ReceiveInput.bytes]
  constructor
  · rcases client.closeConnection_total (client.unreadReason config) linked with ⟨next, done⟩
    rcases client.closeConnection_cases next _ done with ⟨offline, -⟩ | ⟨-, -, rfl⟩
    · exact absurd offline (linked.mp open_)
    · simp only [step, perform, client.receiverPass_unread config _ open_ nothing, done]
      rfl
  · simp only [dispatchOf, open_, Bool.true_eq_false, ↓reduceIte, ReceivePacket.receive,
      ReceiveInput.bytes, Option.map_none]
    split
    · rename_i received
      split at received
      · cases received
      · split at received <;> cases received
    · rfl

/-- Behind the reads of a stream of valid packets the socket reports an error or the close.
The connection is closed; and all packets that were completely read have been dispatched
before exactly when the reads from any round on completed not more packets than there
were such reads. -/
theorem all_dispatched_iff (start client last : Client)
    (former : List (Operation config.toPlatform)) (packets : List (List UInt8))
    (deliveries : List (Delivery config)) (send : SendInput)
    (narrow : config.fillLimit < 2 ^ 32) (constructed : Constructed config start)
    (reached : run (step config) (.running start) former = some (.running client))
    (open_ : client.socket = true) (empty : client.receivePacket.inPtr = 0)
    (valid : ∀ bytes ∈ packets, Valid bytes) (plain : ∀ bytes ∈ packets, OneCode bytes)
    (follows : (deliveries.map Delivery.bytes).flatten <+: packets.flatten)
    (ended : run (step config) (.running client) (operations config deliveries) =
      some (.running last))
    (stays : last.socket = true) :
    step config (.running last) (.receiver ⟨none, send⟩) =
        some (.running (last.closed (last.unreadReason config))) ∧
      (dispatches config (.running client)
          (operations config deliveries ++ [.receiver ⟨none, send⟩]) =
        (packets.take (wholes (lengths packets) (pieces config deliveries).sum)).filterMap
          decoded ↔
      ∀ round ≤ deliveries.length, wholes (lengths packets) (pieces config deliveries).sum ≤
        wholes (lengths packets) ((pieces config deliveries).take round).sum +
          (deliveries.length - round)) := by
  have sound := reached_sound config start client former constructed reached
  have linked : last.Linked := by
    refine (reached_sound config start last (former ++ operations config deliveries) constructed
      ?_).linked
    rw [run_append, reached]
    exact ended
  rcases round_negative config last send linked stays with ⟨closing, nothing⟩
  refine ⟨closing, ?_⟩
  have positive := lengths_positive packets valid
  have finish : dispatches config (.running last) [.receiver ⟨none, send⟩] = [] := by
    simp [dispatches, nothing, closing]
  have dispatched : dispatches config (.running client)
      (operations config deliveries ++ [.receiver ⟨none, send⟩]) =
      (packets.take (drained (lengths packets) 0 0 (pieces config deliveries))).filterMap
        decoded := by
    by_cases allocated : client.receivePacket.allocated = true
    · rw [dispatches_drained config packets narrow valid plain 0 0 client last deliveries _
        (holds_start config packets client sound open_ allocated empty) follows ended stays,
        finish]
      simp
    · -- Without a buffer the connection would not have outlived a round.
      cases deliveries with
      | nil =>
          cases ended
          rw [operations, List.map_nil, List.nil_append, finish]
          simp [pieces, drained]
      | cons delivery deliveries =>
          rw [operations, List.map_cons] at ended
          rcases (run_cons _ _ _ _).mp ended with ⟨middle, taken, tail⟩
          cases taken.symm.trans (step_pass config client delivery false _
            (round_unallocated config client delivery sound open_ (by simpa using allocated)))
          cases tail.symm.trans
            (run_closed config (client.closed .insufficientResources) rfl deliveries)
          cases stays
  have fewer := drained_le (lengths packets) 0 0 (pieces config deliveries) (Nat.zero_le _)
  rw [Nat.zero_add] at fewer
  have inside : wholes (lengths packets) (pieces config deliveries).sum ≤ packets.length := by
    simpa [lengths] using ((le_wholes_iff (lengths packets) _ _).mp (Nat.le_refl _)).1
  -- The packets of a prefix are told by their number, as each of them is decoded.
  have complete : (packets.take (drained (lengths packets) 0 0 (pieces config
      deliveries))).filterMap decoded =
      (packets.take (wholes (lengths packets) (pieces config deliveries).sum)).filterMap decoded ↔
      wholes (lengths packets) (pieces config deliveries).sum ≤
        drained (lengths packets) 0 0 (pieces config deliveries) := by
    constructor
    · intro same
      have counts := congrArg List.length same
      rw [decoded_count packets valid _ (fewer.trans inside),
        decoded_count packets valid _ inside] at counts
      exact counts.ge
    · intro enough
      rw [Nat.le_antisymm fewer enough]
  have count : (pieces config deliveries).length = deliveries.length := by simp [pieces]
  rw [dispatched, complete, drained_all_iff _ positive, count]

def small : Config := { Config.default with
  maxPacketSize := 128, maxPacketsQueued := 1, packetSize := by decide, packetsQueued := by decide }

def shortPublish : List UInt8 := [0x30, 3, 0, 1, 0x61]

/-- A CONNACK and 26 short messages in one frame, and then a poll. -/
def crowded : List (Delivery small) :=
  [⟨⟨[0x20, 2, 0, 0] ++ (List.replicate 26 shortPublish).flatten, by
      simp [shortPublish, small, Config.default]⟩, .willing⟩,
    ⟨⟨[], by decide⟩, .willing⟩]

def smallConnected : List (Operation small.toPlatform) := [.connect plainRequest smoothConnect]

def connAck : List UInt8 := [0x20, 2, 0, 0]

theorem connAck_valid : Valid connAck := ⟨⟨0x20, [0, 0]⟩, rfl, rfl⟩

theorem shortPublish_valid : Valid shortPublish := ⟨⟨0x30, [0, 1, 0x61]⟩, rfl, rfl⟩

set_option maxRecDepth 10000 in
theorem crowded_overflows :
    ∃ client final, run (step small) (.running (Client.fresh small)) smallConnected =
        some (.running client) ∧
      (∀ bytes ∈ connAck :: List.replicate 26 shortPublish,
        Valid bytes ∧ bytes.length ≤ small.maxPacketSize) ∧
      (crowded.map Delivery.bytes).flatten = (connAck :: List.replicate 26 shortPublish).flatten ∧
      Along (step small) (Completing small) (.running client) (operations small crowded) ∧
      run (step small) (.running client) (operations small crowded) = some (.running final) ∧
      final.log.getLast? = some (.onDisconnect .insufficientResources) := by
  refine ⟨_, _, rfl, ?_, rfl, ?_, rfl, rfl⟩
  · intro bytes member
    rcases List.mem_cons.mp member with rfl | repeated
    · exact ⟨connAck_valid, by decide⟩
    · rw [List.eq_of_mem_replicate repeated]
      exact ⟨shortPublish_valid, by decide⟩
  · constructor
    · intro first rest there accepted
      cases there
      exact ⟨rfl, _, rfl, rfl⟩
    · intro middle taken
      cases taken
      refine ⟨?_, fun _ _ => trivial⟩
      intro first rest there
      cases there

def together : Delivery Config.default := ⟨⟨connAck ++ shortPublish, by decide⟩, .willing⟩

/-- The last read before the broker ends its stream. -/
def lateMessage : List (Delivery Config.default) := [together]

theorem lateMessage_dropped :
    ∃ client last final,
      run (step Config.default) (.running (Client.fresh Config.default)) awaiting =
        some (.running client) ∧
      (lateMessage.map Delivery.bytes).flatten = [connAck, shortPublish].flatten ∧
      run (step Config.default) (.running client) (operations Config.default lateMessage) =
        some (.running last) ∧
      step Config.default (.running last) (.receiver ⟨none, .willing⟩) = some (.running final) ∧
      final.log.getLast? = some (.onDisconnect .fromPeer) ∧
      dispatches Config.default (.running client)
          (operations Config.default lateMessage ++ [.receiver ⟨none, .willing⟩]) =
        [⟨.connAck, 0, [0, 0]⟩] :=
  ⟨_, _, _, rfl, rfl, rfl, rfl, rfl, rfl⟩

def idlePoll : Delivery Config.default := ⟨⟨[], by decide⟩, .willing⟩

def calm : List (Delivery Config.default) := [together, idlePoll]

theorem calm_valid (bytes : List UInt8) (member : bytes ∈ [connAck, shortPublish]) :
    Valid bytes ∧ OneCode bytes := by
  simp only [List.mem_cons, List.not_mem_nil, or_false] at member
  rcases member with rfl | rfl
  · refine ⟨connAck_valid, fun packet whole type => ?_⟩
    cases whole
    cases type
  · refine ⟨shortPublish_valid, fun packet whole type => ?_⟩
    cases whole
    cases type

theorem together_completing (client : Client) (pending : client.status = .connectPending)
    (holds : Holds Config.default [connAck, shortPublish] 0 0 client) :
    Completing Config.default (.running client) together.operation := by
  intro first rest there accepted
  have arrives := holds_arrival Config.default [connAck, shortPublish] 0 0 client together
    (by decide) holds (Nat.zero_le _) (List.prefix_refl _)
  change (client.arrival Config.default ⟨some together.read, together.send⟩).bind firstPacket =
    some (first, rest) at there
  have both : held [connAck, shortPublish] 0 (0 + together.bytes.length) =
      connAck ++ shortPublish := by decide
  rw [arrives, both] at there
  cases there
  have type : Packet.type ⟨0x20, [0, 0]⟩ = .connAck := by decide
  refine ⟨rfl, { client with status := .connected }.record (.onConnect false), ?_, holds.open_⟩
  change client.respond Config.default ⟨0x20, [0, 0]⟩ .willing = _
  simp only [Client.respond, type, codeAt, List.getD_cons_zero, List.getD_cons_succ,
    Client.respondConnAck, pending]
  rfl

/-- The message waits in the buffer for the second round. -/
theorem idlePoll_completing (client : Client)
    (holds : Holds Config.default [connAck, shortPublish] 1 9 client) :
    Completing Config.default (.running client) idlePoll.operation := by
  intro first rest there accepted
  have arrives := holds_arrival Config.default [connAck, shortPublish] 1 9 client idlePoll
    (by decide) holds ((by decide : 9 ≤ capacity Config.default).trans (Nat.le_add_right _ _))
    List.nil_prefix
  change (client.arrival Config.default ⟨some idlePoll.read, idlePoll.send⟩).bind firstPacket =
    some (first, rest) at there
  have left : held [connAck, shortPublish] 1 (9 + idlePoll.bytes.length) = shortPublish := by
    decide
  rw [arrives, left] at there
  cases there
  refine ⟨rfl, client.record (.onMessage ⟨[0x61], some [], 0, false⟩), ?_, holds.open_⟩
  have type : Packet.type ⟨0x30, [0, 1, 0x61]⟩ = .publish := by decide
  have read : publishRead Config.default.topicLimit (Packet.flags ⟨0x30, [0, 1, 0x61]⟩)
      [0, 1, 0x61] = some (.arrived 0 ⟨[0x61], some [], 0, false⟩) := by decide +kernel
  change client.respond Config.default ⟨0x30, [0, 1, 0x61]⟩ .willing = _
  simp only [Client.respond, type, Client.respondPublish, read]
  rfl

theorem awaiting_reached :
    ∃ client, run (step Config.default) (.running (Client.fresh Config.default)) awaiting =
        some (.running client) ∧ client.socket = true ∧ client.receivePacket.inPtr = 0 ∧
      client.receivePacket.allocated = true ∧ client.status = .connectPending :=
  ⟨_, rfl, rfl, rfl, rfl, rfl⟩

theorem calm_rounds :
    ∃ client final, run (step Config.default) (.running (Client.fresh Config.default)) awaiting =
        some (.running client) ∧
      (client.socket = true ∧ client.receivePacket.inPtr = 0 ∧
        client.receivePacket.allocated = true) ∧
      run (step Config.default) (.running client) (operations Config.default calm) =
        some (.running final) ∧ final.socket = true ∧
      Along (step Config.default) (Completing Config.default) (.running client)
        (operations Config.default calm) := by
  obtain ⟨client, reached, open_, empty, allocated, pending⟩ := awaiting_reached
  have sound := reached_sound Config.default (Client.fresh Config.default) client awaiting
    (fresh_constructed Config.default) reached
  have valid : ∀ bytes ∈ [connAck, shortPublish], Valid bytes :=
    fun bytes member => (calm_valid bytes member).1
  have starts := holds_start Config.default [connAck, shortPublish] client sound open_ allocated
    empty
  have acknowledged := together_completing client pending starts
  obtain ⟨_, middle, first, waiting, -⟩ := round_within Config.default [connAck, shortPublish] 0 0
    client together (by decide) valid starts (Nat.zero_le _) (List.prefix_refl _) acknowledged
  have taken := step_pass Config.default client together _ middle first
  have one : serve (lengths [connAck, shortPublish]) 0 (0 + together.bytes.length) = 1 := by
    decide
  rw [one] at waiting
  have nine : 0 + together.bytes.length = 9 := by decide
  rw [nine] at waiting
  have polled := idlePoll_completing middle waiting
  obtain ⟨_, final, second, finished, -⟩ := round_within Config.default [connAck, shortPublish] 1 9
    middle idlePoll (by decide) valid waiting
    ((by decide : 9 ≤ capacity Config.default).trans (Nat.le_add_right _ _)) List.nil_prefix polled
  have again := step_pass Config.default middle idlePoll _ final second
  refine ⟨client, final, reached, ⟨open_, empty, allocated⟩, ?_, finished.open_, acknowledged, ?_⟩
  · change (step Config.default (.running client) together.operation).bind _ = _
    rw [taken]
    change (step Config.default (.running middle) idlePoll.operation).bind _ = _
    rw [again]
    rfl
  · intro other same
    cases taken.symm.trans same
    exact ⟨polled, fun _ _ => trivial⟩
theorem calm_never_overflows :
    ∃ client final, run (step Config.default) (.running (Client.fresh Config.default)) awaiting =
        some (.running client) ∧
      run (step Config.default) (.running client) (operations Config.default calm) =
        some (.running final) ∧
      overflows final.log = overflows client.log := by
  obtain ⟨client, final, reached, ⟨open_, empty, allocated⟩, ended, -, completing⟩ := calm_rounds
  refine ⟨client, final, reached, ended, ?_⟩
  refine (never_overflows_iff Config.default (Client.fresh Config.default) client final awaiting
    [connAck, shortPublish] calm (by decide) (fresh_constructed Config.default) reached open_ empty
    (fun bytes member => (calm_valid bytes member).1) (List.prefix_refl _) completing ended).mpr
    ⟨Or.inr allocated, ?_⟩
  intro round first earlier before
  have few : round = 0 ∨ round = 1 := by
    have two : calm.length = 2 := rfl
    omega
  rcases few with rfl | rfl
  · exact Nat.zero_le _
  · have room : 9 ≤ capacity Config.default := by decide
    exact room.trans (Nat.le_add_right _ _)

theorem calm_all_dispatched :
    ∃ client final, run (step Config.default) (.running (Client.fresh Config.default)) awaiting =
        some (.running client) ∧
      run (step Config.default) (.running client) (operations Config.default calm) =
        some (.running final) ∧
      dispatches Config.default (.running client)
          (operations Config.default calm ++ [.receiver ⟨none, .willing⟩]) =
        [⟨.connAck, 0, [0, 0]⟩, ⟨.publish, 0, [0, 1, 0x61]⟩] := by
  obtain ⟨client, final, reached, ⟨open_, empty, -⟩, ended, stays, -⟩ := calm_rounds
  refine ⟨client, final, reached, ended, ?_⟩
  have all := (all_dispatched_iff Config.default (Client.fresh Config.default) client final awaiting
    [connAck, shortPublish] calm .willing (by decide) (fresh_constructed Config.default) reached
    open_ empty (fun bytes member => (calm_valid bytes member).1)
    (fun bytes member => (calm_valid bytes member).2) (List.prefix_refl _) ended stays).2.mpr
    (by decide)
  have both : (([connAck, shortPublish].take (wholes (lengths [connAck, shortPublish])
      (pieces Config.default calm).sum)).filterMap decoded) =
        [⟨.connAck, 0, [0, 0]⟩, ⟨.publish, 0, [0, 1, 0x61]⟩] := by decide
  rw [both] at all
  exact all

end CircleStdlib.Mqtt.ReceiveBacklog
