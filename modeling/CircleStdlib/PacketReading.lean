import CircleStdlib.ReceivePacket
import CircleStdlib.WireFormat
import Mathlib.Tactic.Ring

/-!
The receive buffer as a stream. `received` is what the buffer holds; `Reading`
says that the packet being read has `body` left and that `rest` follows it.
Each function of `CMQTTReceivePacket` gets one lemma in these terms.
-/

namespace CircleStdlib.Mqtt

open ByteMemory Checked

theorem byte_bits (byte : UInt8) :
    (byte &&& 0x7F).toNat = byte.toNat % 128 ∧ (byte &&& 0x80 ≠ 0 ↔ 128 ≤ byte.toNat) := by
  have table : ∀ index : Fin 256,
      (UInt8.ofNat index &&& 0x7F).toNat = (index : Nat) % 128 ∧
        (UInt8.ofNat index &&& 0x80 ≠ 0 ↔ 128 ≤ (index : Nat)) := by
    decide +kernel
  have entry := table ⟨byte.toNat, byte.toNat_lt⟩
  simpa using entry

namespace ReceivePacket

def received (packet : ReceivePacket) : List UInt8 := slice packet.buffer 0 packet.inPtr

structure Reading (packet : ReceivePacket) (body rest : List UInt8) : Prop where
  bytes : slice packet.buffer packet.outPtr (body.length + rest.length) = body ++ rest
  position : packet.outPtr + (body.length + rest.length) = packet.inPtr
  consumed : packet.bytesConsumed + body.length = packet.remainingLength

def advance (packet : ReceivePacket) (count : Nat) : ReceivePacket :=
  { packet with
    outPtr := packet.outPtr + count
    bytesConsumed := packet.bytesConsumed + count }

theorem reading_advance (packet : ReceivePacket) (front body rest : List UInt8)
    (reading : packet.Reading (front ++ body) rest) :
    (packet.advance front.length).Reading body rest := by
  have bytes := reading.bytes
  have position := reading.position
  have consumed := reading.consumed
  simp only [List.length_append] at bytes position consumed
  rw [show front.length + body.length + rest.length =
    front.length + (body.length + rest.length) by omega, slice_add, List.append_assoc] at bytes
  refine ⟨?_, ?_, ?_⟩
  · exact (List.append_inj bytes (by simp)).2
  · simp only [advance]
    omega
  · simp only [advance]
    omega

theorem reading_cell (packet : ReceivePacket) (front body rest : List UInt8) (byte : UInt8)
    (reading : packet.Reading (front ++ byte :: body) rest) :
    packet.readAt (packet.outPtr + front.length) = .ok byte := by
  have position := reading.position
  simp only [List.length_append, List.length_cons] at position
  have after := (reading_advance packet front (byte :: body) rest reading).bytes
  rw [List.length_cons, Nat.add_right_comm, slice_succ, List.cons_append] at after
  have cell : packet.buffer (packet.outPtr + front.length) = byte := List.head_eq_of_cons_eq after
  rw [readAt, require_holds _ _ (by omega), ok_bind, cell]
  rfl

theorem getByte_reading (packet : ReceivePacket) (byte : UInt8) (body rest : List UInt8)
    (reading : packet.Reading (byte :: body) rest) :
    packet.getByte = .ok (byte, packet.advance 1) := by
  have consumed := reading.consumed
  have cell := reading_cell packet [] body rest byte reading
  simp only [List.length_cons, List.length_nil, Nat.add_zero] at consumed cell
  simp only [getByte]
  rw [require_holds _ _ (by omega), ok_bind]
  change packet.readAt packet.outPtr >>= _ = _
  rw [cell]
  rfl

theorem getWord_reading (packet : ReceivePacket) (high low : UInt8) (body rest : List UInt8)
    (reading : packet.Reading (high :: low :: body) rest) :
    packet.getWord = .ok (word high low, packet.advance 2) := by
  have consumed := reading.consumed
  have first := reading_cell packet [] (low :: body) rest high reading
  have second := reading_cell packet [high] body rest low reading
  simp only [List.length_cons, List.length_nil, Nat.add_zero, Nat.zero_add] at consumed first second
  simp only [getWord]
  rw [require_holds _ _ (by omega), ok_bind]
  change packet.readAt packet.outPtr >>= _ = _
  rw [first]
  change packet.readAt (packet.outPtr + 1) >>= _ = _
  rw [second]
  rfl

theorem getWord_short (packet : ReceivePacket) (body rest : List UInt8)
    (reading : packet.Reading body rest) (short : body.length < 2) :
    packet.getWord = .error .consumedBeyondPacket := by
  have consumed := reading.consumed
  simp only [getWord]
  rw [require_fails _ _ (by omega)]
  rfl

theorem getData_reading (packet : ReceivePacket) (data body rest : List UInt8)
    (reading : packet.Reading (data ++ body) rest) :
    packet.getData data.length = .ok (some data, packet.advance data.length) := by
  have bytes := reading.bytes
  have position := reading.position
  have consumed := reading.consumed
  simp only [List.length_append] at bytes position consumed
  rw [show data.length + body.length + rest.length =
    data.length + (body.length + rest.length) by omega, slice_add, List.append_assoc] at bytes
  have cells : slice packet.buffer packet.outPtr data.length = data :=
    (List.append_inj bytes (by simp)).1
  simp only [getData]
  rw [if_neg (by omega), require_holds _ _ (by omega), ok_bind, cells]
  rfl

structure Kept (packet next : ReceivePacket) : Prop where
  bufferSize : next.bufferSize = packet.bufferSize
  allocated : next.allocated = packet.allocated
  buffer : next.buffer = packet.buffer
  inPtr : next.inPtr = packet.inPtr

theorem kept_advance (packet : ReceivePacket) (count : Nat) : packet.Kept (packet.advance count) :=
  ⟨rfl, rfl, rfl, rfl⟩

-- The induction is on the characters still to come; those copied so far are in
-- `copied`.
theorem copyString_cells (packet : ReceivePacket) (copied text : List UInt8)
    (cells : slice packet.buffer packet.outPtr text.length = text)
    (inside : packet.outPtr + text.length ≤ packet.inPtr) :
    if ∀ char ∈ text, char.toNat < 128 then
      packet.copyString copied text.length =
        .ok (some (copied ++ text), { packet with outPtr := packet.outPtr + text.length })
    else ∃ next, packet.copyString copied text.length = .ok (none, next) ∧ packet.Kept next := by
  induction text generalizing packet copied with
  | nil => simp [copyString]
  | cons char others ih =>
      simp only [List.length_cons] at cells inside
      rw [slice_succ] at cells
      have cell : packet.buffer packet.outPtr = char := List.head_eq_of_cons_eq cells
      have tail := List.tail_eq_of_cons_eq cells
      have read : packet.readAt packet.outPtr = .ok char := by
        rw [readAt, require_holds _ _ (by omega), ok_bind, cell]
        rfl
      have after := ih { packet with outPtr := packet.outPtr + 1 } (copied ++ [char]) tail
        (by dsimp only; omega)
      have mask := (byte_bits char).2
      simp only [List.length_cons, copyString, read, ok_bind]
      by_cases wide : 128 ≤ char.toNat
      · rw [if_neg (by simpa using fun first => absurd first (by omega)), if_pos (mask.mpr wide)]
        exact ⟨_, rfl, ⟨rfl, rfl, rfl, rfl⟩⟩
      · have narrow : char.toNat < 128 := by omega
        rw [if_neg (fun found => wide (mask.mp found))]
        by_cases all : ∀ other ∈ others, other.toNat < 128
        · rw [if_pos all] at after
          rw [if_pos (by simpa using ⟨narrow, all⟩), after]
          simp [Nat.add_comm, Nat.add_left_comm]
        · rw [if_neg all] at after
          rw [if_neg (by simpa [narrow] using all)]
          rcases after with ⟨next, left, kept⟩
          exact ⟨next, left, ⟨kept.bufferSize, kept.allocated, kept.buffer, kept.inPtr⟩⟩

theorem takeTopic_split (limit : Nat) (body topic tail : List UInt8)
    (taken : takeTopic limit body = some (topic, tail)) :
    ∃ high low, body = high :: low :: (topic ++ tail) ∧ topic.length = (word high low).toNat ∧
      topic ≠ [] ∧ topic.length ≤ limit ∧ ∀ char ∈ topic, char.toNat < 128 := by
  unfold takeTopic at taken
  split at taken
  · rename_i high low body
    dsimp only at taken
    split at taken
    · rename_i fits
      cases taken
      have whole : (body.take (word high low).toNat).length = (word high low).toNat := by
        rw [List.length_take]
        omega
      refine ⟨high, low, by simp, whole, ?_, by omega, fits.2.2.2⟩
      intro empty
      rw [empty, List.length_nil] at whole
      omega
    · cases taken
  · cases taken

theorem getString_reading (packet : ReceivePacket) (nBufferSize : Nat)
    (body rest topic tail : List UInt8) (reading : packet.Reading body rest)
    (taken : takeTopic (nBufferSize - 1) body = some (topic, tail)) :
    packet.getString nBufferSize = .ok (topic, packet.advance (topic.length + 2)) := by
  rcases takeTopic_split (nBufferSize - 1) body topic tail taken with
    ⟨high, low, split, length, nonempty, short, narrow⟩
  have some := List.length_pos_iff.mpr nonempty
  rw [split] at reading
  have advanced := reading_advance packet [high, low] (topic ++ tail) rest reading
  have bytes := advanced.bytes
  have position := advanced.position
  have consumed := advanced.consumed
  simp only [List.length_append, List.length_cons, List.length_nil, advance]
    at bytes position consumed
  have copy := copyString_cells
    { packet.advance 2 with bytesConsumed := packet.bytesConsumed + 2 + topic.length } [] topic
    (by
      rw [Nat.add_assoc topic.length, slice_add, List.append_assoc] at bytes
      exact (List.append_inj bytes (by simp)).1)
    (by simp only [advance]; omega)
  rw [if_pos narrow] at copy
  simp only [getString, getWord_reading packet high low (topic ++ tail) rest reading, ok_bind,
    ← length, advance]
  rw [if_neg (by omega), if_neg (by omega)]
  simp only [advance] at copy
  rw [copy]
  simp [Nat.add_comm, Nat.add_left_comm]

theorem getString_refused (packet : ReceivePacket) (nBufferSize : Nat) (body rest : List UInt8)
    (reading : packet.Reading body rest) (two : 2 ≤ body.length)
    (refused : takeTopic (nBufferSize - 1) body = none) :
    ∃ next, packet.getString nBufferSize = .ok ([], next) ∧ packet.Kept next := by
  match body, two with
  | high :: low :: tail, _ =>
      have advanced := reading_advance packet [high, low] tail rest reading
      have bytes := advanced.bytes
      have position := advanced.position
      have consumed := advanced.consumed
      simp only [List.length_cons, List.length_nil, advance] at bytes position consumed
      simp only [getString, getWord_reading packet high low tail rest reading, ok_bind, advance]
      by_cases beyond : packet.remainingLength < packet.bytesConsumed + 2 + (word high low).toNat
      · rw [if_pos beyond]
        exact ⟨_, rfl, ⟨rfl, rfl, rfl, rfl⟩⟩
      · rw [if_neg beyond]
        by_cases long : (word high low).toNat + 1 > nBufferSize
        · rw [if_pos long]
          exact ⟨_, rfl, ⟨rfl, rfl, rfl, rfl⟩⟩
        · rw [if_neg long]
          have enough : (word high low).toNat ≤ tail.length := by omega
          have whole : (tail.take (word high low).toNat).length = (word high low).toNat := by
            rw [List.length_take]
            omega
          -- The string is inside the packet and the buffer: it is empty, or a character is wrong.
          have copy := copyString_cells
            { packet.advance 2 with
              bytesConsumed := packet.bytesConsumed + 2 + (word high low).toNat } []
            (tail.take (word high low).toNat)
            (by
              have parts : tail.length + rest.length = (word high low).toNat +
                (tail.length - (word high low).toNat + rest.length) := by omega
              have cut : tail ++ rest = tail.take (word high low).toNat ++
                  (tail.drop (word high low).toNat ++ rest) := by
                rw [← List.append_assoc, List.take_append_drop]
              rw [parts, slice_add, cut] at bytes
              rw [whole]
              exact (List.append_inj bytes (by simp [whole])).1)
            (by rw [whole]; simp only [advance]; omega)
          rw [whole] at copy
          simp only [takeTopic, ite_eq_right_iff, reduceCtorEq, imp_false, not_and] at refused
          simp only [advance] at copy
          by_cases empty : (word high low).toNat = 0
          · rw [empty]
            exact ⟨_, rfl, ⟨rfl, rfl, rfl, rfl⟩⟩
          · rw [if_neg (refused (by omega) (by omega) enough)] at copy
            rcases copy with ⟨next, left, kept⟩
            rw [left]
            exact ⟨next, rfl, ⟨kept.bufferSize, kept.allocated, kept.buffer, kept.inPtr⟩⟩

-- The cells are moved towards the front one after the other, so a cell is read
-- before anything is written over it.
theorem moveDown_cells (buffer : Nat → UInt8) (i outPtr count : Nat) (below : i ≤ outPtr) :
    (∀ position < i, moveDown buffer i outPtr count position = buffer position) ∧
      ∀ index < count, moveDown buffer i outPtr count (i + index) = buffer (outPtr + index) := by
  induction count generalizing buffer i outPtr with
  | zero => simp [moveDown]
  | succ count ih =>
      rcases ih (write buffer i [buffer outPtr]) (i + 1) (outPtr + 1) (by omega) with
        ⟨before, moved⟩
      refine ⟨?_, ?_⟩
      · intro position front
        rw [moveDown, before position (by omega), write_before _ _ _ _ front]
      · intro index bound
        cases index with
        | zero =>
            rw [moveDown, before (i + 0) (by omega)]
            simp [write]
        | succ index =>
            have shifted := moved index (by omega)
            rw [moveDown, show i + (index + 1) = i + 1 + index by omega, shifted,
              write_after _ _ _ _ (by simp; omega)]
            congr 1
            omega

theorem complete_reading (packet : ReceivePacket) (body rest : List UInt8)
    (reading : packet.Reading body rest) :
    ∃ next, packet.complete = .ok next ∧ next.received = body ++ rest ∧
      next.bufferSize = packet.bufferSize ∧ next.allocated = packet.allocated ∧
      next.inPtr ≤ packet.inPtr := by
  have position := reading.position
  rw [complete, require_holds _ _ (by omega), ok_bind]
  refine ⟨_, rfl, ?_, rfl, rfl, Nat.sub_le ..⟩
  have count : packet.inPtr - packet.outPtr = body.length + rest.length := by omega
  rw [received]
  dsimp only
  rw [count, ← reading.bytes]
  apply slice_congr
  intro index bound
  exact (moveDown_cells packet.buffer 0 packet.outPtr _ (Nat.zero_le _)).2 index bound

theorem decodeLength_round (packet : ReceivePacket) (nShift outPtr value fuel : Nat) (byte : UInt8)
    (shift : nShift ≤ 7 * 3) (inside : outPtr < packet.inPtr)
    (cell : packet.buffer outPtr = byte) :
    packet.decodeLength nShift outPtr value (fuel + 1) =
      if byte = 0 ∧ 1 < outPtr then .ok (.undecided .packetInvalid outPtr)
      else if byte.toNat < 128 then
        .ok (.decoded (value + byte.toNat * 2 ^ nShift) (outPtr + 1))
      else
        packet.decodeLength (nShift + 7) (outPtr + 1)
          (value + (byte.toNat - 128) * 2 ^ nShift) fuel := by
  have read : packet.readAt outPtr = .ok byte := by
    rw [readAt, require_holds _ _ inside, ok_bind, cell]
    rfl
  have bound : byte.toNat < 256 := byte.toNat_lt
  have early : ¬ nShift > 7 * 3 := by omega
  have open_ : ¬ packet.inPtr ≤ outPtr := by omega
  rcases byte_bits byte with ⟨low, high⟩
  simp only [decodeLength, early, open_, read, ok_bind, low, high, Nat.shiftLeft_eq, ↓reduceIte,
    gt_iff_lt, pure_ok]
  by_cases single : byte.toNat < 128
  · have top : ¬ 128 ≤ byte.toNat := by omega
    simp only [single, top, Nat.mod_eq_of_lt single, ↓reduceIte]
  · have top : 128 ≤ byte.toNat := by omega
    have part : byte.toNat % 128 = byte.toNat - 128 := by omega
    simp only [single, top, part, ↓reduceIte]

/-- The length bytes from `outPtr` on: the loop finds the number that `takeLength`
finds, or stops without a packet. -/
theorem decodeLength_cells (packet : ReceivePacket) (places outPtr value : Nat)
    (stream : List UInt8) (few : places ≤ 4) (started : 1 ≤ outPtr)
    (cells : slice packet.buffer outPtr stream.length = stream)
    (position : outPtr + stream.length = packet.inPtr) :
    match takeLength (decide (1 < outPtr)) places stream with
    | some (number, after) =>
        packet.decodeLength (7 * (4 - places)) outPtr value (places + 1) =
          .ok (.decoded (value + number * 2 ^ (7 * (4 - places))) (packet.inPtr - after.length))
    | none => ∃ stopped,
        packet.decodeLength (7 * (4 - places)) outPtr value (places + 1) =
          .ok (.undecided (if badLength (decide (1 < outPtr)) places stream then .packetInvalid
            else .continue) stopped) := by
  induction places generalizing outPtr value stream with
  | zero =>
      simp [takeLength, badLength, decodeLength]
  | succ places ih =>
      have shift : ¬ 7 * (4 - (places + 1)) > 7 * 3 := by omega
      cases stream with
      | nil =>
          simp only [List.length_nil] at position
          simp only [takeLength, badLength, decodeLength]
          rw [if_neg shift, if_pos (by omega)]
          exact ⟨_, rfl⟩
      | cons byte rest =>
          simp only [List.length_cons] at cells position
          rw [slice_succ] at cells
          have cell : packet.buffer outPtr = byte := List.head_eq_of_cons_eq cells
          have next : 7 * (4 - (places + 1)) + 7 = 7 * (4 - places) := by omega
          rw [decodeLength_round packet _ outPtr value _ byte (by omega) (by omega) cell, next]
          simp only [takeLength, badLength, decide_eq_true_eq]
          by_cases idle : byte = 0 ∧ 1 < outPtr
          · simp only [idle, and_self, ↓reduceIte]
            exact ⟨_, rfl⟩
          · simp only [idle, ↓reduceIte]
            by_cases single : byte.toNat < 128
            · simp only [single, ↓reduceIte, Except.ok.injEq, LengthField.decoded.injEq, true_and]
              omega
            · simp only [single, ↓reduceIte]
              have more : decide (1 < outPtr + 1) = true := decide_eq_true (by omega)
              have inner := ih (outPtr + 1)
                (value + (byte.toNat - 128) * 2 ^ (7 * (4 - (places + 1)))) rest (by omega)
                (by omega) (List.tail_eq_of_cons_eq cells) (by omega)
              rw [more] at inner
              cases found : takeLength true places rest with
              | none =>
                  simp only [found] at inner
                  exact inner
              | some result =>
                  rcases result with ⟨number, after⟩
                  simp only [found] at inner
                  simp only [Option.map_some, inner, Except.ok.injEq, LengthField.decoded.injEq,
                    and_true]
                  rw [← next, Nat.pow_add]
                  ring

/-- As long as `m_nInPtr` does not wrap, the read is what is added. -/
theorem accept_received (packet : ReceivePacket) (bytes : List UInt8)
    (narrow : packet.inPtr + bytes.length < 2 ^ 32) :
    (packet.accept bytes).received = packet.received ++ bytes := by
  simp only [received, accept, Nat.mod_eq_of_lt narrow]
  rw [slice_add, Nat.zero_add, slice_write_same, slice_write_before _ _ _ _ _ (by omega)]

theorem decodeLength_start (packet : ReceivePacket) (count : Nat)
    (filled : packet.inPtr = count + 1) :
    match takeLength false 4 (slice packet.buffer 1 count) with
    | some (number, after) =>
        packet.decodeLength 0 1 0 5 = .ok (.decoded number (packet.inPtr - after.length))
    | none => ∃ stopped, packet.decodeLength 0 1 0 5 =
        .ok (.undecided (if badLength false 4 (slice packet.buffer 1 count) then .packetInvalid
          else .continue) stopped) := by
  have field := decodeLength_cells packet 4 1 0 (slice packet.buffer 1 count) (by omega)
    (by omega) (by simp) (by simp; omega)
  have start : decide (1 < 1) = false := by decide
  rw [start] at field
  cases found : takeLength false 4 (slice packet.buffer 1 count) with
  | none => simpa [found] using field
  | some result => simpa [found] using field

theorem received_length (packet : ReceivePacket) : packet.received.length = packet.inPtr := by
  simp [received]

/-- `Receive` behind the read, when the buffer starts with a whole packet. -/
theorem parse_packet (packet : ReceivePacket) (first : Packet) (rest : List UInt8)
    (whole : firstPacket packet.received = some (first, rest)) :
    ∃ next,
      packet.parse = .ok (if wellFormed first.type first.flags first.body.length then .packetOK
        else .packetInvalid, next) ∧
      next.Reading first.body rest ∧ next.type = first.type ∧ next.flags = first.flags ∧
      next.remainingLength = first.body.length ∧ packet.Kept next := by
  rcases filled : packet.inPtr with _ | count
  · rw [received, filled] at whole
    cases whole
  · rw [received, filled, slice_succ] at whole
    simp only [firstPacket] at whole
    have field := decodeLength_start packet count filled
    cases found : takeLength false 4 (slice packet.buffer 1 count) with
    | none => simp [found] at whole
    | some result =>
        rcases result with ⟨number, after⟩
        simp only [found] at whole field
        split at whole
        · rename_i enough
          simp only [Option.some.injEq, Prod.mk.injEq] at whole
          rcases whole with ⟨rfl, rfl⟩
          rcases takeLength_field false 4 number _ after found with ⟨bytes, nonempty, split⟩
          have lengths := congrArg List.length split
          have taken : (after.take number).length = number := by
            rw [List.length_take]
            omega
          have dropped : (after.drop number).length = after.length - number := List.length_drop ..
          simp only [slice_length, List.length_append] at lengths
          have control : packet.readAt 0 = .ok (packet.buffer 0) := by
            rw [readAt, require_holds _ _ (by omega)]
            rfl
          have roomy : ¬ packet.inPtr < packet.inPtr - after.length + number := by omega
          simp only [parse, field, ok_bind, control, roomy, ↓reduceIte, taken, Packet.type,
            Packet.flags]
          refine ⟨{ packet with
              outPtr := packet.inPtr - after.length
              type := PacketType.ofControl (packet.buffer 0)
              flags := packet.buffer 0 &&& 0x0F
              remainingLength := number
              bytesConsumed := 0 }, ?_, ⟨?_, ?_, ?_⟩, rfl, rfl, rfl, ⟨rfl, rfl, rfl, rfl⟩⟩
          · split <;> rfl
          · have tail : slice packet.buffer (1 + bytes.length) after.length = after := by
              rw [lengths, slice_add] at split
              exact (List.append_inj split (by simp)).2
            dsimp only
            rw [taken, dropped, List.take_append_drop,
              show packet.inPtr - after.length = 1 + bytes.length by omega,
              show number + (after.length - number) = after.length by omega]
            exact tail
          · dsimp only
            omega
          · dsimp only
            omega
        · cases whole

theorem parse_partial (packet : ReceivePacket) (unfinished : firstPacket packet.received = none) :
    ∃ next,
      packet.parse = .ok (if overlong packet.received then .packetInvalid else .continue, next) ∧
      packet.Kept next := by
  rcases filled : packet.inPtr with _ | count
  · have early : packet.decodeLength 0 1 0 5 = .ok (.undecided .continue 1) := by
      simp [decodeLength, filled]
    have none : packet.received = [] := by simp [received, filled]
    simp only [parse, early, ok_bind, none, overlong, Bool.false_eq_true, ↓reduceIte]
    exact ⟨_, rfl, ⟨rfl, rfl, rfl, rfl⟩⟩
  · have stream : packet.received = packet.buffer 0 :: slice packet.buffer 1 count := by
      rw [received, filled, slice_succ]
    rw [stream] at unfinished ⊢
    simp only [firstPacket] at unfinished
    simp only [overlong]
    have field := decodeLength_start packet count filled
    cases found : takeLength false 4 (slice packet.buffer 1 count) with
    | none =>
        simp only [found] at field
        rcases field with ⟨stopped, left⟩
        simp only [parse, left, ok_bind]
        exact ⟨_, rfl, ⟨rfl, rfl, rfl, rfl⟩⟩
    | some result =>
        rcases result with ⟨number, after⟩
        simp only [found] at unfinished field
        rcases takeLength_field false 4 number _ after found with ⟨bytes, nonempty, split⟩
        have lengths := congrArg List.length split
        have fine := badLength_of_taken false 4 number _ after found
        simp only [slice_length, List.length_append] at lengths
        split at unfinished
        · cases unfinished
        · rename_i short
          have missing : packet.inPtr < packet.inPtr - after.length + number := by omega
          simp only [parse, field, ok_bind, missing, ↓reduceIte, fine, Bool.false_eq_true]
          exact ⟨_, rfl, ⟨rfl, rfl, rfl, rfl⟩⟩

end ReceivePacket

end CircleStdlib.Mqtt
