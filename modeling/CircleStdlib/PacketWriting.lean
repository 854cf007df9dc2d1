import CircleStdlib.SendPacket
import CircleStdlib.WireFormat

/-!
What a `CMQTTSendPacket` has put into its buffer. `Written` says that the cells
behind the reserved header are exactly `fields`; each append extends them, and
`send` puts the control byte and the length field in front. `SameHeader` is the
frame of the appends.
-/

namespace CircleStdlib.Mqtt

open ByteMemory Checked CText

namespace SendPacket

structure Written (packet : SendPacket) (fields : List UInt8) : Prop where
  clean : packet.error = false
  allocated : packet.allocated = true
  bufPtr : packet.bufPtr = maxLengthFixedHeader + fields.length
  cells : slice packet.buffer maxLengthFixedHeader fields.length = fields
  narrow : packet.bufPtr < 2 ^ 32

structure SameHeader (packet next : SendPacket) : Prop where
  type : next.type = packet.type
  flags : next.flags = packet.flags
  maxPacketSize : next.maxPacketSize = packet.maxPacketSize
  sendTries : next.sendTries = packet.sendTries

theorem sameHeader_refl (packet : SendPacket) : packet.SameHeader packet := ⟨rfl, rfl, rfl, rfl⟩

theorem SameHeader.trans {first second third : SendPacket} (left : first.SameHeader second)
    (right : second.SameHeader third) : first.SameHeader third :=
  ⟨right.type.trans left.type, right.flags.trans left.flags,
    right.maxPacketSize.trans left.maxPacketSize, right.sendTries.trans left.sendTries⟩

theorem create_written (type : PacketType) (nMaxPacketSize : Nat) (memory : Nat → UInt8) :
    (create type nMaxPacketSize (some memory)).Written [] :=
  ⟨rfl, rfl, rfl, rfl, by simp [create, maxLengthFixedHeader]⟩

theorem copyIn_extends (packet next : SendPacket) (fields bytes : List UInt8)
    (written : packet.Written fields) (narrow : packet.bufPtr + bytes.length < 2 ^ 32)
    (done : packet.copyIn bytes = .ok next) :
    next.Written (fields ++ bytes) ∧ packet.SameHeader next := by
  simp only [copyIn, bind_ok, require_ok, pure_ok, Except.ok.injEq] at done
  rcases done with ⟨_, -, _, -, rfl⟩
  refine ⟨⟨written.clean, written.allocated, ?_, ?_, ?_⟩, ⟨rfl, rfl, rfl, rfl⟩⟩
  · dsimp only
    rw [Nat.mod_eq_of_lt narrow, written.bufPtr, List.length_append, Nat.add_assoc]
  · dsimp only
    rw [List.length_append, slice_add, ← written.bufPtr, slice_write_same,
      slice_write_before _ _ _ _ _ (by rw [written.bufPtr]), written.cells]
  · dsimp only
    rw [Nat.mod_eq_of_lt narrow]
    exact narrow

theorem copyIn_fits (packet : SendPacket) (fields bytes : List UInt8)
    (written : packet.Written fields)
    (fits : packet.bufPtr + bytes.length ≤ packet.maxPacketSize) :
    ∃ next, packet.copyIn bytes = .ok next := by
  rw [copyIn, require_holds _ _ written.allocated, ok_bind, require_holds _ _ fits, ok_bind]
  exact ⟨_, rfl⟩

theorem put_copyIn (packet : SendPacket) (uchValue : UInt8) :
    packet.put uchValue = packet.copyIn [uchValue] := rfl

/-- The two bytes of a word, as `AppendWord` and `AppendString` write them. -/
theorem putTwo_extends (packet next : SendPacket) (fields : List UInt8) (high low : UInt8)
    (written : packet.Written fields) (narrow : packet.bufPtr + 2 < 2 ^ 32)
    (done : (packet.put high >>= fun packet => packet.put low) = .ok next) :
    next.Written (fields ++ [high, low]) ∧ packet.SameHeader next := by
  simp only [bind_ok, put_copyIn] at done
  rcases done with ⟨middle, first, second⟩
  rcases copyIn_extends packet middle fields [high] written (by simp; omega) first with
    ⟨halfway, same⟩
  have bufPtr : middle.bufPtr = packet.bufPtr + 1 := by
    rw [halfway.bufPtr, written.bufPtr]
    simp [Nat.add_assoc]
  rcases copyIn_extends middle next _ [low] halfway (by rw [bufPtr]; simp; omega) second with
    ⟨whole, again⟩
  exact ⟨by simpa using whole, same.trans again⟩

theorem putTwo_fits (packet : SendPacket) (fields : List UInt8) (high low : UInt8)
    (written : packet.Written fields) (fits : packet.bufPtr + 2 ≤ packet.maxPacketSize)
    (narrow : packet.bufPtr + 2 < 2 ^ 32) :
    ∃ next, (packet.put high >>= fun packet => packet.put low) = .ok next := by
  rcases copyIn_fits packet fields [high] written (by simp; omega) with ⟨middle, first⟩
  rcases copyIn_extends packet middle fields [high] written (by simp; omega) first with
    ⟨halfway, same⟩
  have place := halfway.bufPtr
  have start := written.bufPtr
  have size := same.maxPacketSize
  simp only [List.length_append, List.length_singleton] at place
  rcases copyIn_fits middle _ [low] halfway (by simp; omega) with ⟨next, second⟩
  exact ⟨next, (bind_ok _ _ _).mpr ⟨middle, first, second⟩⟩

def wordBytes (usValue : UInt16) : List UInt8 :=
  [(usValue >>> 8).toUInt8, (usValue &&& 0xFF).toUInt8]

-- The length of a string in two bytes; what is above 16 bits is lost.
def stringLength (length : Nat) : List UInt8 :=
  [UInt8.ofNat (length >>> 8), UInt8.ofNat (length &&& 0xFF)]

theorem wordBytes_stringLength (usValue : UInt16) :
    wordBytes usValue = stringLength usValue.toNat := by
  have high : (usValue >>> 8).toUInt8 = UInt8.ofNat (usValue.toNat >>> 8) := by
    apply UInt8.toNat_inj.mp
    rw [UInt16.toNat_toUInt8, UInt16.toNat_shiftRight, UInt8.toNat_ofNat']
    rfl
  have low : (usValue &&& 0xFF).toUInt8 = UInt8.ofNat (usValue.toNat &&& 0xFF) := by
    apply UInt8.toNat_inj.mp
    rw [UInt16.toNat_toUInt8, UInt16.toNat_and, UInt8.toNat_ofNat']
    rfl
  rw [wordBytes, stringLength, high, low]

theorem word_stringLength (length : Nat) (short : length < 65536) :
    (word (UInt8.ofNat (length >>> 8)) (UInt8.ofNat (length &&& 0xFF))).toNat = length := by
  have high : (UInt8.ofNat (length >>> 8)).toNat = length / 256 := by
    rw [UInt8.toNat_ofNat', Nat.shiftRight_eq_div_pow]
    omega
  have low : (UInt8.ofNat (length &&& 0xFF)).toNat = length % 256 := by
    rw [UInt8.toNat_ofNat', show length &&& 0xFF = length % 256 from
      Nat.and_two_pow_sub_one_eq_mod length 8]
    omega
  rw [word_toNat, high, low]
  omega

theorem word_wordBytes (usValue : UInt16) :
    word (usValue >>> 8).toUInt8 (usValue &&& 0xFF).toUInt8 = usValue := by
  have same := wordBytes_stringLength usValue
  simp only [wordBytes, stringLength, List.cons.injEq, and_true] at same
  apply UInt16.toNat_inj.mp
  rw [same.1, same.2]
  exact word_stringLength usValue.toNat usValue.toNat_lt

/-! The four appends are one function: nothing happens behind an error, a field that is
refused sets it, and any other field is stored. -/

inductive Field where
  | byte (uchValue : UInt8)
  | word (usValue : UInt16)
  | string (pString : List UInt8)
  | data (bytes : List UInt8)
  deriving DecidableEq, Repr

def Field.bytes : Field → List UInt8
  | .byte uchValue => [uchValue]
  | .word usValue => wordBytes usValue
  | .string pString => stringLength (cstr pString).length ++ cstr pString
  | .data bytes => bytes

def store (packet : SendPacket) : Field → Except Fault SendPacket
  | .byte uchValue => packet.put uchValue
  | .word usValue => do
      let packet ← packet.put (usValue >>> 8).toUInt8
      packet.put (usValue &&& 0xFF).toUInt8
  | .string pString => do
      let packet ← packet.put (UInt8.ofNat ((cstr pString).length >>> 8))
      let packet ← packet.put (UInt8.ofNat ((cstr pString).length &&& 0xFF))
      if (cstr pString).length > 0 then packet.copyIn (cstr pString) else return packet
  | .data bytes => if bytes.length > 0 then packet.copyIn bytes else .ok packet

def storeUnless (packet : SendPacket) (refused : Prop) [Decidable refused] (field : Field) :
    Except Fault SendPacket :=
  if packet.error then .ok packet
  else if refused then .ok packet.fail
  else packet.store field

section Append
variable (platform : Platform) (packet next : SendPacket)

theorem appendByte_eq (uchValue : UInt8) :
    packet.appendByte uchValue =
      packet.storeUnless (packet.bufPtr ≥ packet.maxPacketSize) (.byte uchValue) := rfl

theorem appendWord_eq (usValue : UInt16) :
    packet.appendWord usValue =
      packet.storeUnless ((packet.bufPtr + 1) % 2 ^ 32 ≥ packet.maxPacketSize)
        (.word usValue) := rfl

theorem appendString_eq (pString : List UInt8) :
    packet.appendString platform pString =
      packet.storeUnless ((packet.bufPtr + (cstr pString).length + 2) % 2 ^ platform.sizeBits >
        packet.maxPacketSize) (.string pString) := rfl

theorem appendData_eq (data : List UInt8) :
    packet.appendData platform data =
      packet.storeUnless ((packet.bufPtr + data.length) % 2 ^ platform.sizeBits >
        packet.maxPacketSize) (.data data) := rfl

theorem appendString_cstr (pString : List UInt8) :
    packet.appendString platform pString = packet.appendString platform (cstr pString) := by
  simp only [appendString, cstr_clean (cstr pString) (not_mem_cstr pString)]

end Append

section Storing
variable (packet next : SendPacket) (field : Field)

/-- A field is stored by copying: what every copy keeps, the whole keeps. -/
theorem store_keeps (keeps : SendPacket → Prop)
    (step : ∀ before after bytes, keeps before → before.copyIn bytes = .ok after → keeps after)
    (start : keeps packet) (done : packet.store field = .ok next) : keeps next := by
  cases field with
  | byte uchValue => exact step packet next [uchValue] start done
  | word usValue =>
      simp only [store, bind_ok, put_copyIn] at done
      rcases done with ⟨middle, first, second⟩
      exact step middle next _ (step packet middle _ start first) second
  | string pString =>
      simp only [store, bind_ok, put_copyIn] at done
      rcases done with ⟨first, high, second, low, copied⟩
      have counted := step first second _ (step packet first _ start high) low
      split at copied
      · exact step second next _ counted copied
      · cases copied
        exact counted
  | data bytes =>
      simp only [store] at done
      split at done
      · exact step packet next _ start done
      · cases done
        exact start

variable (refused : Prop) [Decidable refused]

theorem storeUnless_cases (done : packet.storeUnless refused field = .ok next) :
    packet.error = true ∧ next = packet ∨
      packet.error = false ∧ (refused ∧ next = packet.fail ∨
        ¬ refused ∧ packet.store field = .ok next) := by
  unfold storeUnless at done
  split at done
  · rename_i failed
    cases done
    exact Or.inl ⟨failed, rfl⟩
  · rename_i clean
    refine Or.inr ⟨by simpa using clean, ?_⟩
    split at done
    · rename_i beyond
      cases done
      exact Or.inl ⟨beyond, rfl⟩
    · rename_i within
      exact Or.inr ⟨within, done⟩

theorem storeUnless_keeps (keeps : SendPacket → Prop)
    (step : ∀ before after bytes, keeps before → before.copyIn bytes = .ok after → keeps after)
    (failing : keeps packet.fail) (start : keeps packet)
    (done : packet.storeUnless refused field = .ok next) : keeps next := by
  rcases storeUnless_cases packet next field refused done with
    ⟨-, rfl⟩ | ⟨-, ⟨-, rfl⟩ | ⟨-, stored⟩⟩
  · exact start
  · exact failing
  · exact store_keeps packet next field keeps step start stored

/-- A packet of which an append failed stays failed. -/
theorem storeUnless_clean (done : packet.storeUnless refused field = .ok next)
    (clean : next.error = false) : packet.error = false := by
  rcases storeUnless_cases packet next field refused done with ⟨-, rfl⟩ | ⟨before, -⟩
  · exact clean
  · exact before

theorem copyIn_same (bytes : List UInt8) (done : packet.copyIn bytes = .ok next) :
    packet.SameHeader next := by
  simp only [copyIn, bind_ok, require_ok, pure_ok, Except.ok.injEq] at done
  rcases done with ⟨_, -, _, -, rfl⟩
  exact ⟨rfl, rfl, rfl, rfl⟩

/-- The appends keep the header also where they fail. -/
theorem storeUnless_same (done : packet.storeUnless refused field = .ok next) :
    packet.SameHeader next :=
  storeUnless_keeps packet next field refused packet.SameHeader
    (fun before after bytes same copied => same.trans (copyIn_same before after bytes copied))
    ⟨rfl, rfl, rfl, rfl⟩ packet.sameHeader_refl done

theorem store_extends (fields : List UInt8) (written : packet.Written fields)
    (narrow : packet.bufPtr + field.bytes.length < 2 ^ 32)
    (done : packet.store field = .ok next) :
    next.Written (fields ++ field.bytes) ∧ packet.SameHeader next := by
  cases field with
  | byte uchValue => exact copyIn_extends packet next fields [uchValue] written narrow done
  | word usValue => exact putTwo_extends packet next fields _ _ written narrow done
  | string pString =>
      simp only [Field.bytes, stringLength, List.length_append, List.length_cons,
        List.length_nil] at narrow ⊢
      simp only [store, ← bind_assoc] at done
      rcases (bind_ok _ _ _).mp done with ⟨middle, length, copied⟩
      rcases putTwo_extends packet middle fields _ _ written (by omega) length with
        ⟨halfway, same⟩
      have bufPtr : middle.bufPtr = packet.bufPtr + 2 := by
        rw [halfway.bufPtr, written.bufPtr]
        simp [Nat.add_assoc]
      split at copied
      · rcases copyIn_extends middle next _ _ halfway (by omega) copied with ⟨all, again⟩
        exact ⟨by simpa using all, same.trans again⟩
      · rename_i empty
        cases copied
        have none : cstr pString = [] := List.length_eq_zero_iff.mp (by omega)
        rw [none] at halfway ⊢
        exact ⟨by simpa using halfway, same⟩
  | data bytes =>
      simp only [store] at done
      split at done
      · exact copyIn_extends packet next fields bytes written narrow done
      · rename_i empty
        cases done
        have none : bytes = [] := List.length_eq_zero_iff.mp (by omega)
        rw [Field.bytes, none, List.append_nil]
        exact ⟨written, sameHeader_refl packet⟩

/-- A field that ends inside the buffer and below 2^32 is stored. -/
theorem store_fits (fields : List UInt8) (written : packet.Written fields)
    (fits : packet.bufPtr + field.bytes.length ≤ packet.maxPacketSize)
    (narrow : packet.bufPtr + field.bytes.length < 2 ^ 32) :
    ∃ next, packet.store field = .ok next := by
  cases field with
  | byte uchValue => exact copyIn_fits packet fields [uchValue] written fits
  | word usValue => exact putTwo_fits packet fields _ _ written fits narrow
  | string pString =>
      simp only [Field.bytes, stringLength, List.length_append, List.length_cons,
        List.length_nil] at fits narrow
      rcases putTwo_fits packet fields (UInt8.ofNat ((cstr pString).length >>> 8))
        (UInt8.ofNat ((cstr pString).length &&& 0xFF)) written (by omega) (by omega) with
        ⟨middle, length⟩
      rcases putTwo_extends packet middle fields _ _ written (by omega) length with
        ⟨halfway, same⟩
      have place := halfway.bufPtr
      have start := written.bufPtr
      have size := same.maxPacketSize
      simp only [List.length_append, List.length_cons, List.length_nil] at place
      simp only [store, ← bind_assoc, length, ok_bind]
      split
      · exact copyIn_fits middle _ _ halfway (by omega)
      · exact ⟨middle, rfl⟩
  | data bytes =>
      simp only [store]
      split
      · exact copyIn_fits packet fields bytes written fits
      · exact ⟨packet, rfl⟩

theorem storeUnless_extends (fields : List UInt8) (written : packet.Written fields)
    (narrow : packet.bufPtr + field.bytes.length < 2 ^ 32)
    (done : packet.storeUnless refused field = .ok next) (clean : next.error = false) :
    next.Written (fields ++ field.bytes) ∧ packet.SameHeader next := by
  rcases storeUnless_cases packet next field refused done with
    ⟨failed, rfl⟩ | ⟨-, ⟨-, rfl⟩ | ⟨-, stored⟩⟩
  · rw [clean] at failed
    cases failed
  · cases clean
  · exact store_extends packet next field fields written narrow stored

end Storing

section Append
variable (platform : Platform) (packet next : SendPacket) (fields : List UInt8)

theorem appendByte_extends (uchValue : UInt8) (written : packet.Written fields)
    (narrow : packet.bufPtr + 1 < 2 ^ 32) (done : packet.appendByte uchValue = .ok next)
    (clean : next.error = false) :
    next.Written (fields ++ [uchValue]) ∧ packet.SameHeader next :=
  storeUnless_extends packet next (.byte uchValue) _ fields written narrow done clean

theorem appendWord_extends (usValue : UInt16) (written : packet.Written fields)
    (narrow : packet.bufPtr + 2 < 2 ^ 32) (done : packet.appendWord usValue = .ok next)
    (clean : next.error = false) :
    next.Written (fields ++ wordBytes usValue) ∧ packet.SameHeader next :=
  storeUnless_extends packet next (.word usValue) _ fields written narrow done clean

theorem appendString_extends (pString : List UInt8) (written : packet.Written fields)
    (text : ∀ char ∈ pString, char ≠ 0) (narrow : packet.bufPtr + pString.length + 2 < 2 ^ 32)
    (done : packet.appendString platform pString = .ok next) (clean : next.error = false) :
    next.Written (fields ++ (stringLength pString.length ++ pString)) ∧
      packet.SameHeader next := by
  have whole : cstr pString = pString := by
    simpa [cstr] using text
  have bytes : Field.bytes (.string pString) = stringLength pString.length ++ pString := by
    rw [Field.bytes, whole]
  rw [← bytes]
  apply storeUnless_extends packet next (.string pString) _ fields written _ done clean
  rw [bytes]
  simp only [stringLength, List.length_append, List.length_cons, List.length_nil]
  omega

theorem appendData_extends (data : List UInt8) (written : packet.Written fields)
    (narrow : packet.bufPtr + data.length < 2 ^ 32)
    (done : packet.appendData platform data = .ok next) (clean : next.error = false) :
    next.Written (fields ++ data) ∧ packet.SameHeader next :=
  storeUnless_extends packet next (.data data) _ fields written narrow done clean

omit fields

theorem appendByte_clean (uchValue : UInt8) (done : packet.appendByte uchValue = .ok next)
    (clean : next.error = false) : packet.error = false :=
  storeUnless_clean packet next (.byte uchValue) _ done clean

theorem appendWord_clean (usValue : UInt16) (done : packet.appendWord usValue = .ok next)
    (clean : next.error = false) : packet.error = false :=
  storeUnless_clean packet next (.word usValue) _ done clean

theorem appendString_clean (pString : List UInt8)
    (done : packet.appendString platform pString = .ok next) (clean : next.error = false) :
    packet.error = false :=
  storeUnless_clean packet next (.string pString) _ done clean

theorem appendData_clean (data : List UInt8)
    (done : packet.appendData platform data = .ok next) (clean : next.error = false) :
    packet.error = false :=
  storeUnless_clean packet next (.data data) _ done clean

theorem appendByte_same (uchValue : UInt8) (done : packet.appendByte uchValue = .ok next) :
    packet.SameHeader next :=
  storeUnless_same packet next (.byte uchValue) _ done

theorem appendWord_same (usValue : UInt16) (done : packet.appendWord usValue = .ok next) :
    packet.SameHeader next :=
  storeUnless_same packet next (.word usValue) _ done

theorem appendString_same (pString : List UInt8)
    (done : packet.appendString platform pString = .ok next) : packet.SameHeader next :=
  storeUnless_same packet next (.string pString) _ done

theorem appendData_same (data : List UInt8)
    (done : packet.appendData platform data = .ok next) : packet.SameHeader next :=
  storeUnless_same packet next (.data data) _ done

end Append

theorem seven_bits (length : Nat) :
    UInt8.ofNat (length &&& 0x7F) = UInt8.ofNat (length % 128) ∧
      UInt8.ofNat (length &&& 0x7F) ||| 0x80 = UInt8.ofNat (length % 128 + 128) := by
  have table : ∀ index : Fin 128,
      UInt8.ofNat index ||| 0x80 = UInt8.ofNat ((index : Nat) + 128) := by
    decide +kernel
  rw [show length &&& 0x7F = length % 128 from Nat.and_two_pow_sub_one_eq_mod length 7]
  exact ⟨rfl, table ⟨length % 128, by omega⟩⟩

theorem encodeLength_round (length fuel : Nat) (encoded : List UInt8) (room : encoded.length < 4) :
    encodeLength length encoded (fuel + 1) =
      if length < 128 then .ok (encoded ++ [UInt8.ofNat length])
      else encodeLength (length / 128) (encoded ++ [UInt8.ofNat (length % 128 + 128)]) fuel := by
  rcases seven_bits length with ⟨last, more⟩
  have shifted : length >>> 7 = length / 128 := Nat.shiftRight_eq_div_pow length 7
  simp only [encodeLength, require_holds _ _ room, ok_bind, shifted, last]
  by_cases single : length < 128
  · have zero : ¬ length / 128 > 0 := by omega
    simp only [single, zero, ↓reduceIte, Nat.mod_eq_of_lt single, pure_ok]
  · have rest : length / 128 > 0 := by omega
    rw [last] at more
    simp only [single, rest, ↓reduceIte, more]

theorem encodeLength_field (length places fuel : Nat) (encoded : List UInt8)
    (bound : length < 2 ^ (7 * places)) (room : encoded.length + places ≤ 4) (some : places ≠ 0)
    (enough : places ≤ fuel) :
    encodeLength length encoded fuel = .ok (encoded ++ lengthField places length) := by
  induction places generalizing length encoded fuel with
  | zero => exact absurd rfl some
  | succ places ih =>
      rcases fuel with _ | fuel
      · omega
      · rw [encodeLength_round length fuel encoded (by omega)]
        simp only [lengthField]
        split
        · rfl
        · rename_i long
          have smaller : length / 128 < 2 ^ (7 * places) := by
            rw [Nat.div_lt_iff_lt_mul (by decide)]
            rw [Nat.mul_succ, Nat.pow_add] at bound
            exact bound
          have wide : places ≠ 0 := by
            rintro rfl
            omega
          rw [ih (length / 128) fuel _ smaller (by simp; omega) wide (by omega)]
          simp

theorem encodeLength_long (length places fuel : Nat) (encoded : List UInt8)
    (bound : 2 ^ (7 * places) ≤ length) (room : encoded.length + places = 4) :
    encodeLength length encoded fuel = .error .lengthBytes := by
  induction places generalizing length encoded fuel with
  | zero =>
      rcases fuel with _ | fuel
      · rfl
      · have full : ¬ encoded.length < 4 := by omega
        simp only [encodeLength, require_fails _ _ full, error_bind]
  | succ places ih =>
      rcases fuel with _ | fuel
      · rfl
      · rw [Nat.mul_succ, Nat.pow_add] at bound
        have positive : 0 < 2 ^ (7 * places) := Nat.pos_of_ne_zero (by simp)
        rw [encodeLength_round length fuel encoded (by omega), if_neg (by omega)]
        apply ih
        · rw [Nat.le_div_iff_mul_le (by decide)]
          exact bound
        · simp
          omega

theorem initialFlags_low (type : PacketType) : initialFlags type ≤ 0x0F := by
  cases type <;> decide

theorem create_flags (type : PacketType) (nMaxPacketSize : Nat) (memory : Option (Nat → UInt8)) :
    (create type nMaxPacketSize memory).flags ≤ 0x0F := by
  cases memory with
  | none => exact (by decide : (0 : UInt8) ≤ 0x0F)
  | some memory => exact initialFlags_low type

/-- The type and the flags share the control byte. -/
theorem control_parts (type : PacketType) (flags : UInt8) (small : flags ≤ 0x0F) :
    PacketType.ofControl (type.code <<< 4 ||| flags) = type ∧
      (type.code <<< 4 ||| flags) &&& 0x0F = flags := by
  have bound : flags.toNat ≤ 15 := UInt8.le_iff_toNat_le.mp small
  have table : ∀ index : Fin 16,
      PacketType.ofControl (type.code <<< 4 ||| UInt8.ofNat index) = type ∧
        (type.code <<< 4 ||| UInt8.ofNat index) &&& 0x0F = UInt8.ofNat index := by
    cases type <;> decide
  have entry := table ⟨flags.toNat, by omega⟩
  simpa using entry

def wire (packet : SendPacket) : List UInt8 :=
  packet.controlByte ::
    (lengthField 4 (packet.bufPtr - maxLengthFixedHeader) ++
      slice packet.buffer maxLengthFixedHeader (packet.bufPtr - maxLengthFixedHeader))

/-- What has to hold for `Send` to get as far as the socket. -/
structure Ready (packet : SendPacket) : Prop where
  clean : packet.error = false
  allocated : packet.allocated = true
  tries : packet.sendTries ≠ 0
  header : maxLengthFixedHeader ≤ packet.bufPtr
  short : packet.bufPtr - maxLengthFixedHeader < 2 ^ 21

theorem header_cells (buffer : Nat → UInt8) (control : UInt8) (bytes : List UInt8)
    (start length : Nat) :
    slice (write (write buffer (start + 1) bytes) start [control]) start
        (1 + bytes.length + length) =
      control :: (bytes ++ slice buffer (start + 1 + bytes.length) length) := by
  rw [Nat.add_assoc, slice_add, slice_add]
  have first := slice_write_same (write buffer (start + 1) bytes) start [control]
  simp only [List.length_cons, List.length_nil, Nat.zero_add] at first
  rw [first, slice_write_after _ _ _ _ _ (by simp), slice_write_same,
    slice_write_after _ _ _ _ _ (by simp), slice_write_after _ _ _ _ _ (by omega)]
  rfl

theorem send_ready (packet : SendPacket) (socket : List UInt8 → Int) (ready : packet.Ready) :
    ∃ next,
      packet.send socket =
        .ok ⟨decide (socket packet.wire = packet.wire.length), next, some packet.wire⟩ ∧
      next.type = packet.type ∧ next.flags = packet.flags ∧
      next.maxPacketSize = packet.maxPacketSize ∧ next.sendTries = packet.sendTries - 1 ∧
      next.bufPtr = packet.bufPtr := by
  have short := ready.short
  have spare := lengthField_spare 3 _ short (by decide)
  have few := lengthField_length 3 _ short
  have some := lengthField_nonempty 3 (packet.bufPtr - maxLengthFixedHeader)
  have field := encodeLength_field (packet.bufPtr - maxLengthFixedHeader) 4 5 []
    (by omega) (by simp) (by decide) (by decide)
  rw [← spare] at few
  simp only [List.nil_append] at field
  generalize encoded : lengthField 4 (packet.bufPtr - maxLengthFixedHeader) = bytes at *
  simp only [send, ready.clean, Bool.false_eq_true, ready.tries, ↓reduceIte]
  rw [require_holds _ _ ready.header, ok_bind, field, ok_bind, require_holds _ _ some, ok_bind,
    require_holds _ _ (by simp only [maxLengthFixedHeader]; omega), ok_bind,
    require_holds _ _ ready.allocated, ok_bind, header_cells]
  have place : maxLengthFixedHeader - bytes.length - 1 + 1 + bytes.length =
      maxLengthFixedHeader := by
    simp only [maxLengthFixedHeader]
    omega
  have size : (packet.controlByte :: (bytes ++ slice packet.buffer maxLengthFixedHeader
      (packet.bufPtr - maxLengthFixedHeader))).length =
      1 + bytes.length + (packet.bufPtr - maxLengthFixedHeader) := by
    simp only [List.length_cons, List.length_append, slice_length]
    omega
  rw [place, wire, encoded, size]
  exact ⟨_, rfl, rfl, rfl, rfl, rfl, rfl⟩

/-- Bytes that `Send` hands to the socket are the wire form of a packet that was
ready. -/
theorem send_handed (packet : SendPacket) (socket : List UInt8 → Int) (sending : Sending)
    (bytes : List UInt8) (done : packet.send socket = .ok sending)
    (handed : sending.handed = some bytes) : packet.Ready ∧ bytes = packet.wire := by
  have ready : packet.Ready := by
    unfold send at done
    split at done
    · cases done
      cases handed
    · rename_i clean
      split at done
      · cases done
        cases handed
      · rename_i tries
        simp only [bind_ok, require_ok] at done
        rcases done with ⟨_, header, encoded, encoding, _, _, _, few, _, allocated, _⟩
        refine ⟨by simpa using clean, allocated, tries, header, ?_⟩
        by_contra long
        rcases Nat.lt_or_ge (packet.bufPtr - maxLengthFixedHeader) (2 ^ (7 * 4)) with fits | huge
        · have field := encodeLength_field _ 4 5 [] fits (by simp) (by decide) (by decide)
          have full := lengthField_full 3 (packet.bufPtr - maxLengthFixedHeader) (by omega)
          rw [encoding, List.nil_append] at field
          have same : encoded = lengthField 4 (packet.bufPtr - maxLengthFixedHeader) :=
            Except.ok.inj field
          rw [same, full] at few
          exact absurd few (by decide)
        · rw [encodeLength_long _ 4 5 [] huge (by simp)] at encoding
          cases encoding
  rcases send_ready packet socket ready with ⟨next, sent, -⟩
  rw [sent] at done
  cases done
  exact ⟨ready, (Option.some.inj handed).symm⟩

/-- `Send` succeeds only with what it has handed to the socket. -/
theorem send_accepted (packet : SendPacket) (socket : List UInt8 → Int) (sending : Sending)
    (done : packet.send socket = .ok sending) (accepted : sending.result = true) :
    packet.Ready ∧ sending.handed = some packet.wire := by
  cases handed : sending.handed with
  | some bytes =>
      rcases send_handed packet socket sending bytes done handed with ⟨ready, rfl⟩
      exact ⟨ready, rfl⟩
  | none =>
      unfold send at done
      split at done
      · cases done
        cases accepted
      · split at done
        · cases done
          cases accepted
        · simp only [bind_ok, require_ok, pure_ok, Except.ok.injEq] at done
          rcases done with ⟨_, -, _, -, _, -, _, -, _, -, rfl⟩
          cases handed

/-- What identifies a packet in the queue is not touched by `Send`. -/
theorem send_same (packet : SendPacket) (socket : List UInt8 → Int) (sending : Sending)
    (done : packet.send socket = .ok sending) :
    sending.packet.type = packet.type ∧
      sending.packet.packetIdentifier = packet.packetIdentifier ∧
      sending.packet.qos = packet.qos := by
  unfold send at done
  split at done
  · cases done
    exact ⟨rfl, rfl, rfl⟩
  · split at done
    · cases done
      exact ⟨rfl, rfl, rfl⟩
    · simp only [bind_ok, require_ok, pure_ok, Except.ok.injEq] at done
      rcases done with ⟨_, -, _, -, _, -, _, -, _, -, rfl⟩
      exact ⟨rfl, rfl, rfl⟩

theorem written_wire (packet : SendPacket) (fields : List UInt8) (written : packet.Written fields) :
    packet.wire = packet.controlByte :: (lengthField 4 fields.length ++ fields) := by
  have count : packet.bufPtr - maxLengthFixedHeader = fields.length := by
    rw [written.bufPtr]
    omega
  rw [wire, count, written.cells]

/-- The packet in the wire form of a packet that is ready. -/
theorem firstPacket_wire (packet : SendPacket) (ready : packet.Ready) :
    firstPacket packet.wire = some (⟨packet.controlByte,
      slice packet.buffer maxLengthFixedHeader (packet.bufPtr - maxLengthFixedHeader)⟩, []) := by
  have short := ready.short
  have field := takeLength_lengthField false 4 (packet.bufPtr - maxLengthFixedHeader)
    (slice packet.buffer maxLengthFixedHeader (packet.bufPtr - maxLengthFixedHeader)) (by omega)
    (by simp) (by decide)
  simp only [wire, firstPacket, field, slice_length, Nat.le_refl, ↓reduceIte]
  rw [List.take_of_length_le (by simp), List.drop_of_length_le (by simp)]

end SendPacket

end CircleStdlib.Mqtt
