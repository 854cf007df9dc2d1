import CircleStdlib.PacketWriting

/-!
Any sequence of appends to a `CMQTTSendPacket`, against the message that the
fields spell in MQTT. The four checks of the buffer are written differently: each
compares a sum of its own width. A sum that wraps lets a field in that does not
fit, and the length of a string is cut to 16 bits without any check.
-/

namespace CircleStdlib.Mqtt

open ByteMemory Checked CText

def bigEndian (value : Nat) : List UInt8 := [UInt8.ofNat (value / 256), UInt8.ofNat (value % 256)]

namespace SendPacket.Field

def size : Field → Nat
  | .byte _ => 1
  | .word _ => 2
  | .string pString => (cstr pString).length + 2
  | .data bytes => bytes.length

/-- MQTT counts the characters of a string in 16 bits. -/
def Encodable : Field → Prop
  | .string pString => (cstr pString).length < 65536
  | _ => True

instance decidableEncodable : (field : Field) → Decidable field.Encodable
  | .string pString => inferInstanceAs (Decidable ((cstr pString).length < 65536))
  | .byte _ | .word _ | .data _ => isTrue trivial

def encoding : Field → List UInt8
  | .byte uchValue => [uchValue]
  | .word usValue => bigEndian usValue.toNat
  | .string pString => bigEndian (cstr pString).length ++ cstr pString
  | .data bytes => bytes

/-- Where the check of the append takes the field to end. `m_nBufPtr+1` has 32 bits, the
sums with a length have the width of `size_t`. -/
def checkedEnd (platform : Platform) (position : Nat) : Field → Nat
  | .byte _ => position + 1
  | .word _ => (position + 1) % 2 ^ 32 + 1
  | .string pString => (position + (cstr pString).length + 2) % 2 ^ platform.sizeBits
  | .data bytes => (position + bytes.length) % 2 ^ platform.sizeBits

theorem bytes_length (field : Field) : field.bytes.length = field.size := by
  cases field with
  | byte uchValue => rfl
  | word usValue => rfl
  | string pString => simp [bytes, size, stringLength]
  | data bytes => rfl

/-- The appends store the MQTT encoding, up to the width of the length. -/
theorem bytes_encoding (field : Field) : field.bytes = field.encoding := by
  have length : ∀ count, stringLength count = bigEndian count := by
    intro count
    rw [stringLength, bigEndian, Nat.shiftRight_eq_div_pow,
      show count &&& 0xFF = count % 256 from Nat.and_two_pow_sub_one_eq_mod count 8]
  cases field with
  | byte uchValue => rfl
  | word usValue => rw [bytes, encoding, wordBytes_stringLength, length]
  | string pString => rw [bytes, encoding, length]
  | data bytes => rfl

end SendPacket.Field

namespace AppendedFields

open SendPacket

def append (platform : Platform) (packet : SendPacket) : Field → Except Fault SendPacket
  | .byte uchValue => packet.appendByte uchValue
  | .word usValue => packet.appendWord usValue
  | .string pString => packet.appendString platform pString
  | .data bytes => packet.appendData platform bytes

/-- The message so far with one more field; `none` from the first field on that has no
encoding or does not fit. -/
def extend (nMaxPacketSize : Nat) (message : Option (List UInt8)) (field : Field) :
    Option (List UInt8) :=
  message.bind fun body =>
    if field.Encodable ∧ maxLengthFixedHeader + body.length + field.size ≤ nMaxPacketSize then
      some (body ++ field.encoding)
    else none

def Represents (packet : SendPacket) : Option (List UInt8) → Prop
  | none => packet.error = true ∧ ∀ socket, packet.send socket = .ok ⟨false, packet, none⟩
  | some body => packet.error = false ∧ packet.bufPtr = maxLengthFixedHeader + body.length ∧
      slice packet.buffer maxLengthFixedHeader body.length = body

def Follows (platform : Platform) (nMaxPacketSize : Nat) :
    Option (List UInt8) → SendPacket → List Field → Prop
  | message, packet, [] => Represents packet message
  | message, packet, field :: rest =>
      Represents packet message ∧ ∃ next, append platform packet field = .ok next ∧
        Follows platform nMaxPacketSize (extend nMaxPacketSize message field) next rest

/-- Up to the first field that does not fit, each field has an encoding and ends below 2^32;
that one is seen not to fit. -/
def Sound (platform : Platform) (nMaxPacketSize : Nat) : Nat → List Field → Prop
  | _, [] => True
  | position, field :: rest =>
      if position + field.size ≤ nMaxPacketSize then
        field.Encodable ∧ position + field.size < 2 ^ 32 ∧
          Sound platform nMaxPacketSize (position + field.size) rest
      else nMaxPacketSize < field.checkedEnd platform position

instance decidableSound (platform : Platform) (nMaxPacketSize : Nat) :
    (position : Nat) → (fields : List Field) →
      Decidable (Sound platform nMaxPacketSize position fields)
  | _, [] => isTrue trivial
  | position, field :: rest =>
      have := decidableSound platform nMaxPacketSize (position + field.size) rest
      inferInstanceAs (Decidable
        (if position + field.size ≤ nMaxPacketSize then
          field.Encodable ∧ position + field.size < 2 ^ 32 ∧
            Sound platform nMaxPacketSize (position + field.size) rest
        else nMaxPacketSize < field.checkedEnd platform position))

section Append
variable (platform : Platform) (packet next : SendPacket) (body : List UInt8) (field : Field)

theorem append_eq :
    append platform packet field =
      packet.storeUnless (packet.maxPacketSize < field.checkedEnd platform packet.bufPtr)
        field := by
  cases field with
  | byte uchValue => simp only [append, appendByte_eq, Field.checkedEnd, Nat.lt_succ_iff]
  | word usValue => simp only [append, appendWord_eq, Field.checkedEnd, Nat.lt_succ_iff]
  | string pString => exact appendString_eq platform packet pString
  | data bytes => exact appendData_eq platform packet bytes

theorem append_failed (failed : packet.error = true) :
    append platform packet field = .ok packet := by
  rw [append_eq, storeUnless, if_pos failed]

theorem append_clean (clean : packet.error = false) :
    append platform packet field =
      if packet.maxPacketSize < field.checkedEnd platform packet.bufPtr then .ok packet.fail
      else packet.store field := by
  rw [append_eq, storeUnless, if_neg (by simp [clean])]

/-- A field that gets past the check sets no error, whether it fits or not. -/
theorem store_open (narrow : packet.bufPtr < 2 ^ 32) (done : packet.store field = .ok next) :
    next.error = packet.error ∧ next.bufPtr < 2 ^ 32 := by
  apply store_keeps packet next field (fun other => other.error = packet.error ∧
    other.bufPtr < 2 ^ 32) _ ⟨rfl, narrow⟩ done
  rintro before after bytes ⟨same, -⟩ copied
  simp only [copyIn, bind_ok, require_ok, pure_ok, Except.ok.injEq] at copied
  rcases copied with ⟨_, -, _, -, rfl⟩
  exact ⟨same, Nat.mod_lt _ (by decide)⟩

/-- The check lets every field in that fits: a sum only gets smaller when it wraps. -/
theorem checkedEnd_fits (nMaxPacketSize position : Nat)
    (fits : position + field.size ≤ nMaxPacketSize) :
    field.checkedEnd platform position ≤ nMaxPacketSize := by
  cases field with
  | byte uchValue => exact fits
  | word usValue =>
      have less := Nat.mod_le (position + 1) (2 ^ 32)
      change position + 2 ≤ nMaxPacketSize at fits
      change (position + 1) % 2 ^ 32 + 1 ≤ nMaxPacketSize
      omega
  | string pString => exact (Nat.mod_le _ _).trans fits
  | data bytes => exact (Nat.mod_le _ _).trans fits

theorem store_encoding (written : packet.Written body)
    (fits : packet.bufPtr + field.size ≤ packet.maxPacketSize)
    (narrow : packet.bufPtr + field.size < 2 ^ 32) :
    ∃ next, packet.store field = .ok next ∧ next.Written (body ++ field.encoding) ∧
      packet.SameHeader next := by
  rw [← field.bytes_length] at fits narrow
  rw [← field.bytes_encoding]
  rcases store_fits packet field body written fits narrow with ⟨next, done⟩
  exact ⟨next, done, store_extends packet next field body written narrow done⟩

theorem encoding_length : field.encoding.length = field.size := by
  rw [← field.bytes_encoding, field.bytes_length]

end Append

section Following
variable (platform : Platform) (packet : SendPacket) (body : List UInt8) (fields : List Field)

theorem represents_failed (failed : packet.error = true) : Represents packet none := by
  refine ⟨failed, ?_⟩
  intro socket
  rw [SendPacket.send, if_pos failed]

theorem represents_written (written : packet.Written body) : Represents packet (some body) :=
  ⟨written.clean, written.bufPtr, written.cells⟩

theorem follows_first (nMaxPacketSize : Nat) (message : Option (List UInt8))
    (follows : Follows platform nMaxPacketSize message packet fields) :
    Represents packet message := by
  cases fields with
  | nil => exact follows
  | cons field rest => exact follows.1

/-- Behind an error nothing changes any more. -/
theorem follows_failed (nMaxPacketSize : Nat) (failed : packet.error = true) :
    Follows platform nMaxPacketSize none packet fields := by
  induction fields with
  | nil => exact represents_failed packet failed
  | cons field rest ih =>
      have appended := append_failed platform packet field failed
      exact ⟨represents_failed packet failed, packet, appended, ih⟩

theorem extend_fitting (nMaxPacketSize : Nat) (field : Field) (encodable : field.Encodable)
    (fits : maxLengthFixedHeader + body.length + field.size ≤ nMaxPacketSize) :
    extend nMaxPacketSize (some body) field = some (body ++ field.encoding) :=
  if_pos ⟨encodable, fits⟩

theorem extend_refused (nMaxPacketSize : Nat) (field : Field)
    (refused : ¬ (field.Encodable ∧
      maxLengthFixedHeader + body.length + field.size ≤ nMaxPacketSize)) :
    extend nMaxPacketSize (some body) field = none :=
  if_neg refused

/-- A packet that a field was stored in still stands for a message. -/
theorem stored_unfailed (next : SendPacket) (field : Field) (written : packet.Written body)
    (done : packet.store field = .ok next) : ¬ Represents next none := by
  rintro ⟨failed, -⟩
  rw [(store_open packet next field written.narrow done).1, written.clean] at failed
  cases failed

/-- The step for a field that fits, -/
theorem follows_fitting (field : Field) (written : packet.Written body)
    (fits : packet.bufPtr + field.size ≤ packet.maxPacketSize) :
    Follows platform packet.maxPacketSize (some body) packet (field :: fields) ↔
      field.Encodable ∧ packet.bufPtr + field.size < 2 ^ 32 ∧
        ∃ next, packet.store field = .ok next ∧ next.Written (body ++ field.encoding) ∧
          packet.SameHeader next ∧
          Follows platform packet.maxPacketSize (some (body ++ field.encoding)) next fields := by
  have appended := append_clean platform packet field written.clean
  rw [if_neg (Nat.not_lt_of_le (checkedEnd_fits platform field _ _ fits))] at appended
  have place := written.bufPtr
  constructor
  · rintro ⟨-, next, done, follows⟩
    rw [appended] at done
    have shown := follows_first platform next fields _ _ follows
    have encodable : field.Encodable := by
      by_contra long
      rw [extend_refused body _ field (fun both => long both.1)] at shown
      exact stored_unfailed packet body next field written done shown
    rw [extend_fitting body _ field encodable (place ▸ fits)] at follows shown
    -- `m_nBufPtr` stays below 2^32, so it can only stand behind the field if that does.
    have behind := shown.2.1
    rw [List.length_append, encoding_length] at behind
    have below := (store_open packet next field written.narrow done).2
    have narrow : packet.bufPtr + field.size < 2 ^ 32 := by omega
    rcases store_encoding packet body field written fits narrow with ⟨same, again, grown, header⟩
    rw [done] at again
    cases again
    exact ⟨encodable, narrow, next, done, grown, header, follows⟩
  · rintro ⟨encodable, narrow, next, done, grown, header, follows⟩
    refine ⟨represents_written packet body written, next, appended.trans done, ?_⟩
    rw [extend_fitting body _ field encodable (place ▸ fits)]
    exact follows

/-- and for one that does not. -/
theorem follows_unfit (field : Field) (written : packet.Written body)
    (unfit : ¬ packet.bufPtr + field.size ≤ packet.maxPacketSize) :
    Follows platform packet.maxPacketSize (some body) packet (field :: fields) ↔
      packet.maxPacketSize < field.checkedEnd platform packet.bufPtr := by
  have appended := append_clean platform packet field written.clean
  have refused := extend_refused body packet.maxPacketSize field
    (fun both => unfit (written.bufPtr ▸ both.2))
  constructor
  · rintro ⟨-, next, done, follows⟩
    by_contra within
    rw [appended, if_neg within] at done
    rw [refused] at follows
    exact stored_unfailed packet body next field written done
      (follows_first platform next fields _ _ follows)
  · intro beyond
    rw [if_pos beyond] at appended
    refine ⟨represents_written packet body written, packet.fail, appended, ?_⟩
    rw [refused]
    exact follows_failed platform packet.fail fields _ rfl

-- The induction is on the fields. A step keeps `Written`, which says more than `Represents`:
-- the buffer is there and `m_nBufPtr` has not wrapped.
theorem follows_iff_sound (written : packet.Written body) :
    Follows platform packet.maxPacketSize (some body) packet fields ↔
      Sound platform packet.maxPacketSize packet.bufPtr fields := by
  induction fields generalizing packet body with
  | nil => exact ⟨fun _ => trivial, fun _ => represents_written packet body written⟩
  | cons field rest ih =>
      rw [Sound]
      by_cases fits : packet.bufPtr + field.size ≤ packet.maxPacketSize
      · rw [if_pos fits, follows_fitting platform packet body rest field written fits]
        have later : ∀ next : SendPacket, next.Written (body ++ field.encoding) →
            packet.SameHeader next →
            (Follows platform packet.maxPacketSize (some (body ++ field.encoding)) next rest ↔
              Sound platform packet.maxPacketSize (packet.bufPtr + field.size) rest) := by
          intro next grown header
          have behind : next.bufPtr = packet.bufPtr + field.size := by
            rw [grown.bufPtr, List.length_append, encoding_length, ← Nat.add_assoc,
              ← written.bufPtr]
          rw [← header.maxPacketSize, ← behind]
          exact ih next (body ++ field.encoding) grown
        refine and_congr_right fun _ => and_congr_right fun narrow => ?_
        constructor
        · rintro ⟨next, -, grown, header, follows⟩
          exact (later next grown header).mp follows
        · intro sound
          rcases store_encoding packet body field written fits narrow with
            ⟨next, done, grown, header⟩
          exact ⟨next, done, grown, header, (later next grown header).mpr sound⟩
      · rw [if_neg fits]
        exact follows_unfit platform packet body rest field written fits

end Following

/-- For every size, every sequence of fields and whatever `new` hands out: the packet stands
for the message all along exactly when there is no buffer or the fields are sound. -/
theorem appends_follow_iff (platform : Platform) (type : PacketType) (nMaxPacketSize : Nat)
    (memory : Option (Nat → UInt8)) (fields : List Field) :
    Follows platform nMaxPacketSize (memory.map fun _ => [])
        (create type nMaxPacketSize memory) fields ↔
      memory = none ∨ Sound platform nMaxPacketSize maxLengthFixedHeader fields := by
  cases memory with
  | none =>
      have failed := follows_failed platform (create type nMaxPacketSize none) fields
        nMaxPacketSize rfl
      exact ⟨fun _ => Or.inl rfl, fun _ => failed⟩
  | some memory =>
      have empty := create_written type nMaxPacketSize memory
      have sound := follows_iff_sound platform _ [] fields empty
      simp only [Option.map_some, reduceCtorEq, false_or]
      exact sound

example : Sound ⟨64, 1600, 100⟩ 128 maxLengthFixedHeader
    [.string (ascii "a/b"), .word 1, .data (ascii "on"), .byte 0] := by decide

/-- In a packet of at most 65542 bytes the fields are sound as long as no length comes near
the end of `size_t`: a string that fits can be counted, and no sum wraps. -/
theorem sound_of_small (platform : Platform) (nMaxPacketSize position : Nat) (fields : List Field)
    (small : nMaxPacketSize ≤ 65542) (header : maxLengthFixedHeader ≤ position)
    (inside : position ≤ nMaxPacketSize)
    (lengths : ∀ field ∈ fields, nMaxPacketSize + field.size < 2 ^ platform.sizeBits) :
    Sound platform nMaxPacketSize position fields := by
  induction fields generalizing position with
  | nil => trivial
  | cons field rest ih =>
      have length := lengths field (List.mem_cons_self ..)
      simp only [maxLengthFixedHeader] at header
      rw [Sound]
      split
      · rename_i fits
        refine ⟨?_, by omega, ih _ (by simp only [maxLengthFixedHeader]; omega) fits
          fun other member => lengths other (List.mem_cons_of_mem field member)⟩
        cases field with
        | string pString =>
            simp only [Field.size] at fits
            show (cstr pString).length < 65536
            omega
        | byte uchValue => trivial
        | word usValue => trivial
        | data bytes => trivial
      · rename_i unfit
        cases field with
        | byte uchValue =>
            simp only [Field.size, Field.checkedEnd] at unfit ⊢
            omega
        | word usValue =>
            simp only [Field.size, Field.checkedEnd] at unfit ⊢
            omega
        | string pString =>
            simp only [Field.size, Field.checkedEnd] at unfit length ⊢
            rw [Nat.mod_eq_of_lt (by omega)]
            omega
        | data bytes =>
            simp only [Field.size, Field.checkedEnd] at unfit length ⊢
            rw [Nat.mod_eq_of_lt (by omega)]
            omega

def longString : List UInt8 := List.replicate 65536 97

theorem longString_length : (cstr longString).length = 65536 := by
  have clean : (0 : UInt8) ∉ longString :=
    fun member => absurd (List.eq_of_mem_replicate member) (by decide)
  rw [cstr_clean longString clean, longString, List.length_replicate]

/-- The string goes into a packet of 70000 bytes with the length 0 in front of it. -/
theorem longString_miscounted :
    ∃ next,
      append ⟨64, 1600, 100⟩ (create .publish 70000 (some fun _ => 0))
        (.string longString) = .ok next ∧
      next.error = false ∧ next.bufPtr = 65543 ∧ slice next.buffer maxLengthFixedHeader 2 = [0, 0] ∧
      ¬ Follows ⟨64, 1600, 100⟩ 70000 (some [])
        (create .publish 70000 (some fun _ => 0)) [.string longString] := by
  have empty := create_written .publish 70000 fun _ => 0
  have place : (create .publish 70000 (some fun _ => 0)).bufPtr = 5 := rfl
  have room : (create .publish 70000 (some fun _ => 0)).maxPacketSize = 70000 := rfl
  generalize create .publish 70000 (some fun _ => 0) = packet at empty place room ⊢
  have size : (Field.string longString).size = 65538 := by
    rw [Field.size, longString_length]
  have fits : packet.bufPtr + (Field.string longString).size ≤ packet.maxPacketSize := by omega
  rcases store_encoding packet [] (.string longString) empty fits (by omega) with
    ⟨next, done, grown, -⟩
  have appended := append_clean ⟨64, 1600, 100⟩ packet (.string longString) empty.clean
  rw [if_neg (Nat.not_lt_of_le (checkedEnd_fits _ _ _ _ fits))] at appended
  have behind := grown.bufPtr
  have cells := grown.cells
  rw [List.nil_append, encoding_length, size] at behind cells
  rw [show 65538 = 2 + 65536 from rfl, slice_add, Field.encoding, longString_length] at cells
  refine ⟨next, appended.trans done, grown.clean, behind, (List.append_inj cells rfl).1, ?_⟩
  rw [← room, follows_iff_sound _ packet [] _ empty, Sound, if_pos fits]
  rintro ⟨encodable, -⟩
  rw [Field.Encodable, longString_length] at encodable
  omega

end AppendedFields

end CircleStdlib.Mqtt
