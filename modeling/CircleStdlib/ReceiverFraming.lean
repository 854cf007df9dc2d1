import CircleStdlib.ConnectionInvariant

/-!
Where the next packet starts. `Complete` cuts the buffer where the handler
stopped reading. That is the end of the packet for every packet `Receive` lets
pass, except a SUBACK with more than one return code, whose further codes stay
in the buffer and are taken for the next packet.
-/

namespace CircleStdlib.Mqtt.ReceiverFraming

open Checked Execution

theorem leftover_rest_iff (first : Packet) (rest : List UInt8) :
    leftover first rest = rest ↔ ¬ (first.type = .subAck ∧ 3 < first.body.length) := by
  unfold leftover
  by_cases type : first.type = .subAck
  · simp only [type, ↓reduceIte, true_and, List.append_left_eq_self, List.drop_eq_nil_iff]
    omega
  · simp [type]

/-- `MQTTReceivePacketOK` means that the buffer starts with an accepted packet. -/
theorem receive_ok (config : Config) (client : Client) (input : ReceiveInput config.toPlatform)
    (packet : ReceivePacket) (open_ : client.socket = true)
    (bounded : Client.Bounded config client.receivePacket)
    (ok : client.receivePacket.receive config.toPlatform input.bytes = .ok (.packetOK, packet)) :
    ∃ stream first rest, client.arrival config input = some stream ∧
      firstPacket stream = some (first, rest) ∧ first.Accepted ∧
      packet.type = first.type ∧ packet.remainingLength = first.body.length := by
  cases arrived : client.arrival config input with
  | none =>
      rcases client.receive_nothing config input open_ arrived with ⟨status, receive, bad⟩
      rw [receive] at ok
      cases ok
      exact absurd rfl bad
  | some stream =>
      rcases client.receive_arrival config input stream bounded arrived with
        ⟨-, filled, received, -, -, receive⟩
      rw [receive] at ok
      cases whole : firstPacket stream with
      | none =>
          rcases filled.parse_partial (received ▸ whole) with ⟨next, parsed, -⟩
          rw [parsed] at ok
          split at ok <;> cases ok
      | some found =>
          rcases found with ⟨first, rest⟩
          rcases filled.parse_packet first rest (received ▸ whole) with
            ⟨next, parsed, -, type, -, length, -⟩
          rw [parsed] at ok
          split at ok
          · rename_i accepted
            cases ok
            exact ⟨stream, first, rest, rfl, whole, accepted, type, length⟩
          · cases ok

/-- For every packet in every reachable state: its control byte, its length bytes
and its body stand in front, and after its handling the buffer starts with what
follows them, exactly when it is no SUBACK of more than three bytes. -/
theorem framing_kept_iff_short_subAck (config : Config) (client last next : Client)
    (operations : List (Operation config.toPlatform)) (input : ReceiveInput config.toPlatform)
    (packet : ReceivePacket) (more : Bool) (constructed : Constructed config client)
    (reached : run (step config) (.running client) operations = some (.running last))
    (open_ : last.socket = true)
    (ok : last.receivePacket.receive config.toPlatform input.bytes = .ok (.packetOK, packet))
    (handled : last.receiverPass config input = .ok (more, next)) (still : next.socket = true) :
    ∃ stream control field body rest, last.arrival config input = some stream ∧
      stream = control :: (field ++ (body ++ rest)) ∧
      takeLength false 4 (field ++ (body ++ rest)) = some (body.length, body ++ rest) ∧
      packet.type = PacketType.ofControl control ∧ packet.remainingLength = body.length ∧
      (next.receivePacket.received = rest ↔
        ¬ (packet.type = .subAck ∧ 3 < packet.remainingLength)) := by
  have sound := reached_sound config client last operations constructed reached
  rcases receive_ok config last input packet open_ sound.bounded ok with
    ⟨stream, first, rest, arrived, whole, accepted, type, length⟩
  have front : last.front config input = some (first, rest) := by
    rw [Client.front, arrived]
    exact whole
  rcases firstPacket_split stream rest first whole with ⟨field, split, taken⟩
  refine ⟨stream, first.control, field, first.body, rest, arrived, split, taken, type, length, ?_⟩
  rw [type, length, ← leftover_rest_iff]
  rcases last.receiverPass_found config input first rest sound.bounded front accepted with
    ⟨-, found, inside, -, -, pass⟩
  rw [pass] at handled
  by_cases cut : CutIdentifier config.topicLimit first
  · rw [Client.handlePacket_cut config (last.withPacket found) input.send first rest inside cut]
      at handled
    cases handled
  · rcases Client.handlePacket_handled config (last.withPacket found) input.send first rest open_
      sound.linked inside accepted cut with ⟨result, handling, done⟩
    rw [handling] at handled
    cases handled
    rw [done.framed still]

def subscribed : List (Operation Config.default.toPlatform) :=
  [.connect plainRequest smoothConnect, .receiver (delivers [0x20, 2, 0, 0] connAck_short),
    .subscribe [97] 1 .willing]

/-- A SUBACK with two return codes: the second one is left in the buffer. -/
theorem subAckTwo_misframed :
    ∃ last packet next,
      run (step Config.default) (.running (Client.fresh Config.default)) subscribed =
        some (.running last) ∧
      last.receivePacket.receive Config.default.toPlatform (some [0x90, 4, 0, 1, 0, 1]) =
        .ok (.packetOK, packet) ∧
      last.receiverPass Config.default (delivers [0x90, 4, 0, 1, 0, 1] (by decide)) =
        .ok (true, next) ∧
      next.socket = true ∧
      last.arrival Config.default (delivers [0x90, 4, 0, 1, 0, 1] (by decide)) =
        some [0x90, 4, 0, 1, 0, 1] ∧
      packet.remainingLength = 4 ∧ next.receivePacket.received = [1] :=
  ⟨_, _, _, rfl, rfl, rfl, rfl, rfl, rfl, rfl⟩

/-- A SUBACK with one return code, with a PINGRESP behind it. -/
theorem subAckOne_framed :
    ∃ (last next : Client) (control : UInt8) (field body rest : List UInt8),
      last.arrival Config.default (delivers [0x90, 3, 0, 1, 0, 0xD0, 0] (by decide)) =
        some (control :: (field ++ (body ++ rest))) ∧
      body.length = 3 ∧ next.receivePacket.received = rest := by
  rcases framing_kept_iff_short_subAck Config.default (Client.fresh Config.default) _ _ subscribed
    (delivers [0x90, 3, 0, 1, 0, 0xD0, 0] (by decide)) _ true
    (fresh_constructed Config.default) rfl rfl rfl rfl rfl with
    ⟨stream, control, field, body, rest, arrived, split, -, -, length, framed⟩
  exact ⟨_, _, control, field, body, rest, arrived.trans (congrArg some split), length.symm,
    framed.mpr (by decide)⟩

end CircleStdlib.Mqtt.ReceiverFraming
