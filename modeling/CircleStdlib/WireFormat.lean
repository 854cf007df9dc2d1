import CircleStdlib.MqttProtocol

/-!
MQTT packets in a stream of bytes, as the 3.1.1 standard frames them and with
the restrictions of this client (no over-long length fields, topics of 7-bit
characters). Nothing here reads a buffer or can fail: these are the meanings
that the receiving and the sending code are compared with.
-/

namespace CircleStdlib.Mqtt

structure Packet where
  control : UInt8
  body : List UInt8
  deriving DecidableEq, Repr

def Packet.type (packet : Packet) : PacketType := PacketType.ofControl packet.control

def Packet.flags (packet : Packet) : UInt8 := packet.control &&& 0x0F

def Packet.qos (packet : Packet) : UInt8 := qosOfFlags packet.flags

-- The number at the start of the bytes, in groups of seven bits, and what
-- follows it. `again` is set behind the first byte, where a 0 would be idle.
def takeLength (again : Bool) : Nat → List UInt8 → Option (Nat × List UInt8)
  | 0, _ => none
  | _ + 1, [] => none
  | places + 1, byte :: rest =>
      if byte = 0 ∧ again then none
      else if byte.toNat < 128 then some (byte.toNat, rest)
      else (takeLength true places rest).map fun (value, after) =>
        (byte.toNat - 128 + 128 * value, after)

-- A length field that no further byte can repair: it goes on for too long, or it
-- ends in an idle byte.
def badLength (again : Bool) : Nat → List UInt8 → Bool
  | 0, _ => true
  | _ + 1, [] => false
  | places + 1, byte :: rest =>
      if byte = 0 ∧ again then true
      else if byte.toNat < 128 then false
      else badLength true places rest

def overlong : List UInt8 → Bool
  | [] => false
  | _ :: stream => badLength false 4 stream

def lengthField : Nat → Nat → List UInt8
  | 0, _ => []
  | places + 1, length =>
      if length < 128 then [UInt8.ofNat length]
      else UInt8.ofNat (length % 128 + 128) :: lengthField places (length / 128)

def firstPacket : List UInt8 → Option (Packet × List UInt8)
  | [] => none
  | control :: stream =>
      match takeLength false 4 stream with
      | none => none
      | some (length, after) =>
          if length ≤ after.length then some (⟨control, after.take length⟩, after.drop length)
          else none

-- A string of 7-bit characters with its length in front, not empty and not
-- longer than `limit`, and what follows it.
def takeTopic (limit : Nat) : List UInt8 → Option (List UInt8 × List UInt8)
  | high :: low :: tail =>
      let length := (word high low).toNat
      if 0 < length ∧ length ≤ limit ∧ length ≤ tail.length ∧
          ∀ char ∈ tail.take length, char.toNat < 128 then
        some (tail.take length, tail.drop length)
      else none
  | _ => none

theorem word_toNat (high low : UInt8) :
    (word high low).toNat = high.toNat * 256 + low.toNat := by
  have above : high.toNat < 256 := high.toNat_lt
  have below : low.toNat < 2 ^ 8 := low.toNat_lt
  have shifted : (high.toUInt16 <<< 8).toNat = high.toNat <<< 8 := by
    rw [UInt16.toNat_shiftLeft]
    simp only [UInt8.toNat_toUInt16, Nat.shiftLeft_eq]
    change high.toNat * 256 % 65536 = high.toNat * 256
    omega
  rw [word, UInt16.toNat_or, shifted, UInt8.toNat_toUInt16,
    ← Nat.shiftLeft_add_eq_or_of_lt below, Nat.shiftLeft_eq]

theorem lengthField_nonempty (places length : Nat) :
    0 < (lengthField (places + 1) length).length := by
  rw [lengthField]
  split <;> simp

/-- The number is told by one field only: a field that goes on longer ends in an idle byte. -/
theorem lengthField_of_taken (again : Bool) (places value : Nat) (stream after : List UInt8)
    (taken : takeLength again places stream = some (value, after)) :
    stream = lengthField places value ++ after ∧ (again = true → value ≠ 0) := by
  induction places generalizing again stream value with
  | zero => simp [takeLength] at taken
  | succ places ih =>
      cases stream with
      | nil => simp [takeLength] at taken
      | cons byte rest =>
          simp only [takeLength] at taken
          split at taken
          · cases taken
          · rename_i busy
            split at taken
            · rename_i single
              cases taken
              refine ⟨by simp [lengthField, single], ?_⟩
              intro second zero
              exact busy ⟨UInt8.toNat_inj.mp zero, second⟩
            · rename_i longer
              simp only [Option.map_eq_some_iff] at taken
              rcases taken with ⟨⟨inner, behind⟩, found, same⟩
              cases same
              rcases ih true inner rest found with ⟨split, positive⟩
              have some : inner ≠ 0 := positive rfl
              have bound : byte.toNat < 256 := byte.toNat_lt
              have low : (byte.toNat - 128 + 128 * inner) % 128 + 128 = byte.toNat := by omega
              have high : (byte.toNat - 128 + 128 * inner) / 128 = inner := by omega
              refine ⟨?_, by omega⟩
              rw [lengthField, if_neg (by omega), low, high, UInt8.ofNat_toNat, split]
              rfl

/-- The length field itself. -/
theorem takeLength_field (again : Bool) (places value : Nat) (stream after : List UInt8)
    (taken : takeLength again places stream = some (value, after)) :
    ∃ field, field ≠ [] ∧ stream = field ++ after := by
  cases places with
  | zero => simp [takeLength] at taken
  | succ places =>
      have field := (lengthField_of_taken again (places + 1) value stream after taken).1
      exact ⟨_, List.length_pos_iff.mp (lengthField_nonempty places value), field⟩

theorem badLength_of_taken (again : Bool) (places value : Nat) (stream after : List UInt8)
    (taken : takeLength again places stream = some (value, after)) :
    badLength again places stream = false := by
  induction places generalizing again stream value with
  | zero => simp [takeLength] at taken
  | succ places ih =>
      cases stream with
      | nil => simp [takeLength] at taken
      | cons byte rest =>
          simp only [takeLength] at taken
          simp only [badLength]
          split at taken
          · cases taken
          · rename_i busy
            rw [if_neg busy]
            split at taken
            · rename_i single
              rw [if_pos single]
            · rename_i more
              simp only [Option.map_eq_some_iff] at taken
              rcases taken with ⟨⟨inner, behind⟩, found, same⟩
              cases same
              rw [if_neg more]
              exact ih true inner rest found

theorem firstPacket_split (stream rest : List UInt8) (packet : Packet)
    (first : firstPacket stream = some (packet, rest)) :
    ∃ field, stream = packet.control :: (field ++ (packet.body ++ rest)) ∧
      takeLength false 4 (field ++ (packet.body ++ rest)) =
        some (packet.body.length, packet.body ++ rest) := by
  cases stream with
  | nil => cases first
  | cons control tail =>
      simp only [firstPacket] at first
      split at first
      · cases first
      · rename_i length after taken
        split at first
        · rename_i enough
          cases first
          rcases takeLength_field false 4 length tail after taken with ⟨field, -, split⟩
          have count : (after.take length).length = length := by
            rw [List.length_take]
            omega
          refine ⟨field, by simp [split], ?_⟩
          dsimp only
          rw [count, List.take_append_drop, ← split]
          exact taken
        · cases first

/-- What follows the length field does not change it. -/
theorem takeLength_append (again : Bool) (places value : Nat) (stream after more : List UInt8)
    (taken : takeLength again places stream = some (value, after)) :
    takeLength again places (stream ++ more) = some (value, after ++ more) := by
  induction places generalizing again stream value with
  | zero => simp [takeLength] at taken
  | succ places ih =>
      cases stream with
      | nil => simp [takeLength] at taken
      | cons byte rest =>
          simp only [takeLength, List.cons_append] at taken ⊢
          split at taken
          · cases taken
          · rename_i busy
            rw [if_neg busy]
            split at taken
            · rename_i single
              cases taken
              rw [if_pos single]
            · rename_i longer
              simp only [Option.map_eq_some_iff] at taken
              rcases taken with ⟨⟨inner, behind⟩, found, same⟩
              cases same
              rw [if_neg longer, ih true inner rest found]
              rfl

theorem badLength_append (again : Bool) (places : Nat) (stream more : List UInt8)
    (bad : badLength again places stream = true) :
    badLength again places (stream ++ more) = true := by
  induction places generalizing again stream with
  | zero => rfl
  | succ places ih =>
      cases stream with
      | nil => cases bad
      | cons byte rest =>
          simp only [badLength, List.cons_append] at bad ⊢
          split at bad
          · rename_i idle
            rw [if_pos idle]
          · rename_i busy
            rw [if_neg busy]
            split at bad
            · cases bad
            · rename_i longer
              rw [if_neg longer]
              exact ih true rest bad

theorem firstPacket_append (stream rest more : List UInt8) (packet : Packet)
    (first : firstPacket stream = some (packet, rest)) :
    firstPacket (stream ++ more) = some (packet, rest ++ more) := by
  rcases firstPacket_split stream rest packet first with ⟨field, split, taken⟩
  have longer := takeLength_append false 4 _ _ _ more taken
  rw [split]
  simp only [List.cons_append, firstPacket, longer]
  rw [if_pos (by simp), List.append_assoc, List.take_left, List.drop_left]

theorem overlong_append (stream more : List UInt8) (bad : overlong stream = true) :
    overlong (stream ++ more) = true := by
  cases stream with
  | nil => cases bad
  | cons control tail => exact badLength_append false 4 tail more bad

theorem overlong_of_packet (stream rest : List UInt8) (packet : Packet)
    (first : firstPacket stream = some (packet, rest)) : overlong stream = false := by
  rcases firstPacket_split stream rest packet first with ⟨field, rfl, taken⟩
  exact badLength_of_taken false 4 _ _ _ taken

/-- A part of a packet is no packet yet. -/
theorem part_unfinished (bytes : List UInt8) (packet : Packet) (count : Nat)
    (whole : firstPacket bytes = some (packet, [])) (less : count < bytes.length) :
    firstPacket (bytes.take count) = none ∧ overlong (bytes.take count) = false := by
  have split := List.take_append_drop count bytes
  constructor
  · cases found : firstPacket (bytes.take count) with
    | none => rfl
    | some early =>
        have again := firstPacket_append _ early.2 (bytes.drop count) early.1 found
        rw [split, whole] at again
        simp only [Option.some.injEq, Prod.mk.injEq] at again
        have rest := (List.append_eq_nil_iff.mp again.2.symm).2
        have none := List.drop_eq_nil_iff.mp rest
        omega
  · by_contra bad
    have again := overlong_append _ (bytes.drop count) (by simpa using bad)
    rw [split, overlong_of_packet bytes [] packet whole] at again
    cases again

theorem firstPacket_length (stream rest : List UInt8) (packet : Packet)
    (first : firstPacket stream = some (packet, rest)) :
    packet.body.length + rest.length + 2 ≤ stream.length := by
  rcases firstPacket_split stream rest packet first with ⟨field, split, taken⟩
  rcases takeLength_field false 4 _ _ _ taken with ⟨same, nonempty, equal⟩
  have whole : field = same := List.append_cancel_right equal
  have some : 0 < field.length := List.length_pos_iff.mpr (whole ▸ nonempty)
  rw [split]
  simp only [List.length_cons, List.length_append]
  omega

theorem takeLength_lengthField (again : Bool) (places length : Nat) (rest : List UInt8)
    (bound : length < 2 ^ (7 * places)) (busy : again = true → length ≠ 0) (room : places ≠ 0) :
    takeLength again places (lengthField places length ++ rest) = some (length, rest) := by
  induction places generalizing again length with
  | zero => exact absurd rfl room
  | succ places ih =>
      by_cases single : length < 128
      · have value : (UInt8.ofNat length).toNat = length := by
          rw [UInt8.toNat_ofNat']
          omega
        have busy : ¬ (UInt8.ofNat length = 0 ∧ again = true) := by
          rintro ⟨zero, second⟩
          rw [zero] at value
          exact busy second value.symm
        simp [lengthField, takeLength, single, value, busy]
      · have value : (UInt8.ofNat (length % 128 + 128)).toNat = length % 128 + 128 := by
          rw [UInt8.toNat_ofNat']
          omega
        have positive : UInt8.ofNat (length % 128 + 128) ≠ 0 := by
          intro zero
          rw [zero] at value
          simp at value
        have smaller : length / 128 < 2 ^ (7 * places) := by
          rw [Nat.div_lt_iff_lt_mul (by decide)]
          rw [Nat.mul_succ, Nat.pow_add] at bound
          exact bound
        have wide : places ≠ 0 := by
          rintro rfl
          omega
        have inner := ih true (length / 128) smaller (by omega) wide
        simp only [lengthField, single, ↓reduceIte, List.cons_append, takeLength, positive,
          false_and, value, inner, Option.map_some]
        rw [if_neg (by omega)]
        simp only [Option.some.injEq, Prod.mk.injEq, and_true]
        omega

/-- Bytes with the top bit set and one more: a field that is over-long or has no place. -/
theorem badLength_spelled (again : Bool) (places : Nat) (front rest : List UInt8) (last : UInt8)
    (goesOn : ∀ byte ∈ front, 128 ≤ byte.toNat)
    (bad : (again = true ∨ front ≠ []) ∧ last = 0 ∨ places ≤ front.length) :
    badLength again places (front ++ last :: rest) = true := by
  induction places generalizing again front with
  | zero => rfl
  | succ places ih =>
      cases front with
      | nil => simp_all [badLength]
      | cons byte front =>
          have large := goesOn byte (List.mem_cons_self ..)
          have busy : ¬ (byte = 0 ∧ again = true) := by
            rintro ⟨rfl, -⟩
            exact absurd large (by decide)
          rw [List.cons_append, badLength, if_neg busy, if_neg (by omega)]
          apply ih true front (fun other member => goesOn other (List.mem_cons_of_mem _ member))
          rcases bad with ⟨-, idle⟩ | long
          · exact Or.inl ⟨Or.inl rfl, idle⟩
          · exact Or.inr (by simpa using long)

theorem lengthField_length (places length : Nat) (bound : length < 2 ^ (7 * places)) :
    (lengthField places length).length ≤ places := by
  induction places generalizing length with
  | zero => simp [lengthField]
  | succ places ih =>
      simp only [lengthField]
      split
      · simp
      · have smaller : length / 128 < 2 ^ (7 * places) := by
          rw [Nat.div_lt_iff_lt_mul (by decide)]
          rw [Nat.mul_succ, Nat.pow_add] at bound
          exact bound
        have inner := ih (length / 128) smaller
        simp only [List.length_cons]
        omega

/-- A place that is not needed stays unused, -/
theorem lengthField_spare (places length : Nat) (bound : length < 2 ^ (7 * places))
    (room : places ≠ 0) : lengthField (places + 1) length = lengthField places length := by
  induction places generalizing length with
  | zero => exact absurd rfl room
  | succ places ih =>
      rw [lengthField, lengthField.eq_2 length places]
      split
      · rfl
      · have smaller : length / 128 < 2 ^ (7 * places) := by
          rw [Nat.div_lt_iff_lt_mul (by decide)]
          rw [Nat.mul_succ, Nat.pow_add] at bound
          exact bound
        have wide : places ≠ 0 := by
          rintro rfl
          omega
        rw [ih (length / 128) smaller wide]

/-- and one that is needed is used. -/
theorem lengthField_full (places length : Nat) (bound : 2 ^ (7 * places) ≤ length) :
    (lengthField (places + 1) length).length = places + 1 := by
  induction places generalizing length with
  | zero =>
      rw [lengthField]
      split <;> rfl
  | succ places ih =>
      rw [Nat.mul_succ, Nat.pow_add] at bound
      have positive : 0 < 2 ^ (7 * places) := Nat.pos_of_ne_zero (by simp)
      rw [lengthField, if_neg (by omega), List.length_cons, ih]
      rw [Nat.le_div_iff_mul_le (by decide)]
      exact bound

end CircleStdlib.Mqtt
