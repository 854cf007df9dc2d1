import CircleStdlib.PacketReading
import CircleStdlib.PacketWriting

/-!
The remaining length of a packet, from `CMQTTSendPacket::Send` to
`CMQTTReceivePacket::Receive`. The standard has lengths below 2^28 in one to four
bytes. `Receive` takes all of them, and the loop of `Send` makes them, but the
assertion behind that loop stops a packet whose length needs the fourth byte.
-/

namespace CircleStdlib.Mqtt.RemainingLength

open ByteMemory Checked

structure Carries (packet : SendPacket) (n : Nat) : Prop where
  clean : packet.error = false
  allocated : packet.allocated = true
  tries : packet.sendTries ≠ 0
  bufPtr : packet.bufPtr = maxLengthFixedHeader + n
  inside : packet.bufPtr ≤ packet.maxPacketSize

/-- `Send` puts the length `n` into these bytes, between the control byte and the body, and
leaves everything behind the five header bytes as it is. -/
structure Encodes (n : Nat) (field : List UInt8) : Prop where
  nonempty : 1 ≤ field.length
  few : field.length ≤ 4
  loop : SendPacket.encodeLength n [] 5 = .ok field
  sends : ∀ packet socket, Carries packet n → ∃ sending, packet.send socket = .ok sending ∧
    sending.handed = some (packet.controlByte ::
      (field ++ slice packet.buffer maxLengthFixedHeader n)) ∧
    ∀ position, maxLengthFixedHeader ≤ position →
      sending.packet.buffer position = packet.buffer position

structure Holds (packet : ReceivePacket) (field : List UInt8) : Prop where
  inside : 1 + field.length ≤ packet.inPtr
  cells : slice packet.buffer 1 field.length = field

structure Agrees (n : Nat) (field : List UInt8) : Prop where
  encodes : Encodes n field
  decodes : ∀ packet, Holds packet field →
    packet.decodeLength 0 1 0 5 = .ok (.decoded n (1 + field.length))
  only : ∀ packet outPtr, packet.decodeLength 0 1 0 5 = .ok (.decoded n outPtr) →
    Holds packet field ∧ outPtr = 1 + field.length
  -- Over-long fields end in a byte without effect; in the fifth byte no field may end.
  refuses : ∀ packet front last, (∀ byte ∈ front, 128 ≤ byte.toNat) →
    Holds packet (front ++ [last]) → front ≠ [] ∧ last = 0 ∨ 4 ≤ front.length →
    ∃ next, packet.parse = .ok (.packetInvalid, next)

theorem carries_ready (packet : SendPacket) (n : Nat) (carries : Carries packet n)
    (short : n < 2 ^ 21) : packet.Ready := by
  have place := carries.bufPtr
  exact ⟨carries.clean, carries.allocated, carries.tries, by omega, by omega⟩

/-- `Send` writes to the header only. -/
theorem send_body (packet : SendPacket) (socket : List UInt8 → Int) (sending : Sending)
    (done : packet.send socket = .ok sending) (position : Nat)
    (behind : maxLengthFixedHeader ≤ position) :
    sending.packet.buffer position = packet.buffer position := by
  unfold SendPacket.send at done
  split at done
  · cases done
    rfl
  · split at done
    · cases done
      rfl
    · simp only [bind_ok, require_ok, pure_ok, Except.ok.injEq] at done
      rcases done with ⟨_, -, encoded, -, _, some, _, few, _, -, rfl⟩
      simp only [maxLengthFixedHeader] at few behind ⊢
      rw [write_after _ _ _ _ (by simp only [List.length_singleton]; omega),
        write_after _ _ _ _ (by omega)]

theorem encodes_field (n : Nat) (short : n < 2 ^ 21) : Encodes n (lengthField 4 n) := by
  have loop := SendPacket.encodeLength_field n 4 5 [] (by omega) (by simp) (by decide) (by decide)
  refine ⟨lengthField_nonempty 3 n, lengthField_length 4 n (by omega), loop, ?_⟩
  intro packet socket carries
  have count : packet.bufPtr - maxLengthFixedHeader = n := by
    rw [carries.bufPtr]
    omega
  rcases packet.send_ready socket (carries_ready packet n carries short) with ⟨next, sent, -⟩
  refine ⟨_, sent, ?_, send_body packet socket _ sent⟩
  rw [SendPacket.wire, count]

/-- A packet of any length that there is a buffer for. -/
theorem carries_exists (n : Nat) : ∃ packet, Carries packet n :=
  ⟨{ SendPacket.create .publish (maxLengthFixedHeader + n) (some fun _ => 0) with
      bufPtr := maxLengthFixedHeader + n }, rfl, rfl, Nat.succ_ne_zero 4, rfl, le_rfl⟩

/-- The assertion `nLengthBytes < MAX_LENGTH_FIXED_HEADER-1`. -/
theorem send_fourBytes (packet : SendPacket) (n : Nat) (socket : List UInt8 → Int)
    (carries : Carries packet n) (long : 2 ^ 21 ≤ n) (allowed : n < 2 ^ 28) :
    packet.send socket = .error .lengthBytes := by
  have place := carries.bufPtr
  have header : packet.bufPtr ≥ maxLengthFixedHeader := by omega
  have count : packet.bufPtr - maxLengthFixedHeader = n := by omega
  have loop := SendPacket.encodeLength_field n 4 5 [] allowed (by simp) (by decide) (by decide)
  have full := lengthField_full 3 n long
  have four : ¬ (lengthField 4 n).length < maxLengthFixedHeader - 1 := by
    rw [full]
    decide
  simp only [SendPacket.send, carries.clean, Bool.false_eq_true, carries.tries, ↓reduceIte, count]
  rw [require_holds _ _ header, ok_bind, loop, ok_bind, List.nil_append,
    require_holds _ _ (lengthField_nonempty 3 n), ok_bind, require_fails _ _ four]
  rfl

theorem short_of_encodes (n : Nat) (field : List UInt8) (allowed : n < 2 ^ 28)
    (encodes : Encodes n field) : n < 2 ^ 21 := by
  by_contra long
  rcases carries_exists n with ⟨packet, carries⟩
  rcases encodes.sends packet (fun _ => 0) carries with ⟨sending, sent, -⟩
  rw [send_fourBytes packet n _ carries (by omega) allowed] at sent
  cases sent

/-- What stands in the buffer behind the control byte begins with the field. -/
theorem holds_iff (packet : ReceivePacket) (field : List UInt8) (count : Nat)
    (filled : packet.inPtr = count + 1) :
    Holds packet field ↔ ∃ rest, slice packet.buffer 1 count = field ++ rest := by
  constructor
  · rintro ⟨inside, cells⟩
    obtain ⟨more, split⟩ : ∃ more, count = field.length + more :=
      ⟨count - field.length, by omega⟩
    exact ⟨slice packet.buffer (1 + field.length) more, by rw [split, slice_add, cells]⟩
  · rintro ⟨rest, split⟩
    have lengths := congrArg List.length split
    simp only [slice_length, List.length_append] at lengths
    rw [lengths, slice_add] at split
    exact ⟨by omega, (List.append_inj split (by simp)).1⟩

theorem holds_filled (packet : ReceivePacket) (field : List UInt8) (holds : Holds packet field) :
    ∃ count, packet.inPtr = count + 1 := by
  have inside := holds.inside
  exact ⟨packet.inPtr - 1, by omega⟩

section Receiving
variable (packet : ReceivePacket) (n : Nat)

theorem decodeLength_holds (allowed : n < 2 ^ 28) (holds : Holds packet (lengthField 4 n)) :
    packet.decodeLength 0 1 0 5 = .ok (.decoded n (1 + (lengthField 4 n).length)) := by
  rcases holds_filled packet _ holds with ⟨count, filled⟩
  rcases (holds_iff packet _ count filled).mp holds with ⟨rest, split⟩
  have loop := packet.decodeLength_start count filled
  rw [split, takeLength_lengthField false 4 n rest allowed (by simp) (by decide)] at loop
  have lengths := congrArg List.length split
  simp only [slice_length, List.length_append] at lengths
  rw [show 1 + (lengthField 4 n).length = packet.inPtr - rest.length by omega]
  exact loop

theorem decodeLength_only (outPtr : Nat)
    (decoded : packet.decodeLength 0 1 0 5 = .ok (.decoded n outPtr)) :
    Holds packet (lengthField 4 n) ∧ outPtr = 1 + (lengthField 4 n).length := by
  rcases filled : packet.inPtr with _ | count
  · simp [ReceivePacket.decodeLength, filled] at decoded
  · have loop := packet.decodeLength_start count filled
    cases found : takeLength false 4 (slice packet.buffer 1 count) with
    | none =>
        simp only [found] at loop
        rcases loop with ⟨stopped, undecided⟩
        rw [undecided] at decoded
        cases decoded
    | some result =>
        rcases result with ⟨number, after⟩
        simp only [found] at loop
        rw [loop] at decoded
        cases decoded
        have split := (lengthField_of_taken false 4 n _ after found).1
        have lengths := congrArg List.length split
        simp only [slice_length, List.length_append] at lengths
        exact ⟨(holds_iff packet _ count filled).mpr ⟨after, split⟩, by omega⟩

theorem parse_refuses (front : List UInt8) (last : UInt8)
    (goesOn : ∀ byte ∈ front, 128 ≤ byte.toNat) (holds : Holds packet (front ++ [last]))
    (bad : front ≠ [] ∧ last = 0 ∨ 4 ≤ front.length) :
    ∃ next, packet.parse = .ok (.packetInvalid, next) := by
  rcases holds_filled packet _ holds with ⟨count, filled⟩
  rcases (holds_iff packet _ count filled).mp holds with ⟨rest, split⟩
  have invalid : overlong packet.received = true := by
    rw [ReceivePacket.received, filled, slice_succ, split, overlong, List.append_assoc]
    apply badLength_spelled false 4 front rest last goesOn
    exact bad.imp_left fun idle => ⟨Or.inr idle.1, idle.2⟩
  have unfinished : firstPacket packet.received = none := by
    cases found : firstPacket packet.received with
    | none => rfl
    | some first =>
        rw [overlong_of_packet _ first.2 first.1 found] at invalid
        cases invalid
  rcases packet.parse_partial unfinished with ⟨next, parsed, -⟩
  rw [invalid, if_pos rfl] at parsed
  exact ⟨next, parsed⟩

end Receiving

theorem agrees_field (n : Nat) (short : n < 2 ^ 21) : Agrees n (lengthField 4 n) :=
  ⟨encodes_field n short, fun packet => decodeLength_holds packet n (by omega),
    fun packet => decodeLength_only packet n, parse_refuses⟩

/-- For every length that MQTT allows: the two sides agree on its field exactly when it needs
at most three bytes. -/
theorem remainingLength_agrees_iff (n : Nat) (allowed : n < 2 ^ 28) :
    (∃ field, Agrees n field) ↔ n < 2 ^ 21 := by
  constructor
  · rintro ⟨field, agrees⟩
    exact short_of_encodes n field allowed agrees.encodes
  · intro short
    exact ⟨lengthField 4 n, agrees_field n short⟩

/-- The largest of these lengths. -/
theorem threeBytes_agree : ∃ field, Agrees 2097151 field :=
  (remainingLength_agrees_iff 2097151 (by decide)).mpr (by decide)

/-- `Receive` takes the next length, 80 80 80 01, and `Send` does not make it. -/
theorem fourBytes_disagree :
    (∃ packet, Carries packet 2097152 ∧ ∀ socket, packet.send socket = .error .lengthBytes) ∧
      (∀ packet, Holds packet [0x80, 0x80, 0x80, 0x01] →
        packet.decodeLength 0 1 0 5 = .ok (.decoded 2097152 5)) ∧
      ¬ ∃ field, Agrees 2097152 field := by
  refine ⟨?_, ?_, ?_⟩
  · rcases carries_exists 2097152 with ⟨packet, carries⟩
    exact ⟨packet, carries, fun socket =>
      send_fourBytes packet 2097152 socket carries (by decide) (by decide)⟩
  · exact fun packet holds => decodeLength_holds packet 2097152 (by decide) holds
  · rintro ⟨field, agrees⟩
    exact absurd (short_of_encodes 2097152 field (by decide) agrees.encodes) (by decide)

end CircleStdlib.Mqtt.RemainingLength
