import CircleStdlib.WireFormat

/-!
The packets that a broker may send to a client, as the 3.1.1 standard lays them
out. Nothing of the client is in here: a remaining length may be encoded longer
than it has to be, names are UTF-8 without the null character and the two
wildcards, and reserved bits and values are not to be used.
-/

namespace CircleStdlib.Mqtt.BrokerPackets

inductive LengthField : List UInt8 → Nat → Prop where
  | last (byte : UInt8) (single : byte.toNat < 128) : LengthField [byte] byte.toNat
  | more (byte : UInt8) (field : List UInt8) (value : Nat) (longer : 128 ≤ byte.toNat)
      (rest : LengthField field value) :
      LengthField (byte :: field) (byte.toNat - 128 + 128 * value)

def TopicName (bytes : List UInt8) : Prop :=
  ∃ text : List Char, text ≠ [] ∧ bytes = text.flatMap String.utf8EncodeChar ∧
    ∀ char ∈ text, char.toNat ≠ 0 ∧ char ≠ '#' ∧ char ≠ '+'

/-- What the QoS calls for: an identifier, or no identifier and no repetition. -/
inductive Marked : (qos dup : Nat) → List UInt8 → Prop where
  | atMostOnce : Marked 0 0 []
  | acknowledged (qos dup : Nat) (high low : UInt8) (known : qos = 1 ∨ qos = 2)
      (some : ¬ (high = 0 ∧ low = 0)) : Marked qos dup [high, low]

inductive WellFormed : Packet → Prop where
  | connAck (flags code : UInt8) (reserved : flags.toNat ≤ 1) (known : code.toNat ≤ 5)
      (fresh : code ≠ 0 → flags = 0) : WellFormed ⟨0x20, [flags, code]⟩
  | publish (control high low : UInt8) (topic identifier payload : List UInt8)
      (type : control.toNat / 16 = 3) (length : high.toNat * 256 + low.toNat = topic.length)
      (name : TopicName topic)
      (marked : Marked (control.toNat / 2 % 4) (control.toNat / 8 % 2) identifier) :
      WellFormed ⟨control, high :: low :: (topic ++ (identifier ++ payload))⟩
  | acknowledgement (control high low : UInt8)
      (kind : control ∈ ([0x40, 0x50, 0x62, 0x70, 0xB0] : List UInt8))
      (some : ¬ (high = 0 ∧ low = 0)) : WellFormed ⟨control, [high, low]⟩
  | subAck (high low : UInt8) (codes : List UInt8) (some : ¬ (high = 0 ∧ low = 0))
      (nonempty : codes ≠ []) (known : ∀ code ∈ codes, code ∈ ([0, 1, 2, 0x80] : List UInt8)) :
      WellFormed ⟨0x90, high :: low :: codes⟩
  | pingResp : WellFormed ⟨0xD0, []⟩

/-- The stream begins with a packet that a broker must not send, or with the beginning of
one whose length no decoder can tell. -/
inductive Malformed : List UInt8 → Prop where
  | packet (control : UInt8) (field body rest : List UInt8) (few : field.length ≤ 4)
      (length : LengthField field body.length) (refused : ¬ WellFormed ⟨control, body⟩) :
      Malformed (control :: (field ++ (body ++ rest)))
  | length (control : UInt8) (field rest : List UInt8) (four : field.length = 4)
      (longer : ∀ byte ∈ field, 128 ≤ byte.toNat) : Malformed (control :: (field ++ rest))

theorem connAck_reserved (flags code : UInt8) (wellFormed : WellFormed ⟨0x20, [flags, code]⟩) :
    flags.toNat ≤ 1 := by
  generalize same : (⟨0x20, [flags, code]⟩ : Packet) = packet at wellFormed
  cases wellFormed with
  | connAck _ _ reserved =>
      cases same
      exact reserved
  | publish control _ _ _ _ _ type =>
      have byte : 0x20 = control := congrArg Packet.control same
      simp [← byte] at type
  | acknowledgement control _ _ kind =>
      have byte : 0x20 = control := congrArg Packet.control same
      simp [← byte] at kind
  | subAck | pingResp => cases same

theorem subAck_known (high low : UInt8) (codes : List UInt8)
    (wellFormed : WellFormed ⟨0x90, high :: low :: codes⟩) :
    ∀ code ∈ codes, code ∈ ([0, 1, 2, 0x80] : List UInt8) := by
  generalize same : (⟨0x90, high :: low :: codes⟩ : Packet) = packet at wellFormed
  cases wellFormed with
  | subAck _ _ _ _ _ known =>
      cases same
      exact known
  | publish control _ _ _ _ _ type =>
      have byte : 0x90 = control := congrArg Packet.control same
      simp [← byte] at type
  | acknowledgement control _ _ kind =>
      have byte : 0x90 = control := congrArg Packet.control same
      simp [← byte] at kind
  | connAck | pingResp => cases same

/-! The length field, as the client takes it. -/

/-- A length that the client does not take as such, it does not take at all. -/
theorem takeLength_or_bad (again : Bool) (places value : Nat) (field after : List UInt8)
    (length : LengthField field value) (few : field.length ≤ places) :
    takeLength again places (field ++ after) = some (value, after) ∨
      badLength again places (field ++ after) = true := by
  induction length generalizing again places with
  | last byte single =>
      cases places with
      | zero => exact absurd few (by simp)
      | succ places =>
          by_cases idle : byte = 0 ∧ again = true
          · exact Or.inr (by simp [badLength, idle])
          · exact Or.inl (by simp [takeLength, idle, single])
  | more byte field value longer rest ih =>
      cases places with
      | zero => exact absurd few (by simp)
      | succ places =>
          have wide : ¬ byte.toNat < 128 := by omega
          have busy : ¬ (byte = 0 ∧ again = true) := by
            rintro ⟨rfl, -⟩
            exact wide (by decide)
          simp only [List.length_cons, Nat.add_le_add_iff_right] at few
          rcases ih true places few with taken | bad
          · exact Or.inl (by simp [takeLength, busy, wide, taken])
          · exact Or.inr (by simp [badLength, busy, wide, bad])

theorem badLength_long (again : Bool) (places : Nat) (field after : List UInt8)
    (full : field.length = places) (longer : ∀ byte ∈ field, 128 ≤ byte.toNat) :
    badLength again places (field ++ after) = true := by
  induction field generalizing again places with
  | nil =>
      cases full
      rfl
  | cons byte field ih =>
      cases full
      have wide : ¬ byte.toNat < 128 := Nat.not_lt.mpr (longer byte (List.mem_cons_self ..))
      have later := ih true field.length rfl fun other member =>
        longer other (List.mem_cons_of_mem byte member)
      simp [badLength, wide, later]

theorem lengthField_of_takeLength (again : Bool) (places value : Nat) (stream after : List UInt8)
    (taken : takeLength again places stream = some (value, after)) :
    ∃ field, stream = field ++ after ∧ field.length ≤ places ∧ LengthField field value := by
  induction places generalizing again stream value with
  | zero => simp [takeLength] at taken
  | succ places ih =>
      cases stream with
      | nil => simp [takeLength] at taken
      | cons byte rest =>
          simp only [takeLength] at taken
          split at taken
          · cases taken
          · split at taken
            · rename_i single
              cases taken
              exact ⟨[byte], rfl, by simp, .last byte single⟩
            · rename_i wide
              simp only [Option.map_eq_some_iff] at taken
              obtain ⟨⟨inner, behind⟩, found, same⟩ := taken
              cases same
              obtain ⟨field, rfl, few, length⟩ := ih true inner rest found
              exact ⟨byte :: field, rfl, by simpa using few,
                .more byte field inner (by omega) length⟩

theorem malformed_cases (stream : List UInt8) (malformed : Malformed stream) :
    overlong stream = true ∨
      ∃ first rest, firstPacket stream = some (first, rest) ∧ ¬ WellFormed first := by
  cases malformed with
  | packet control field body rest few length refused =>
      rcases takeLength_or_bad false 4 body.length field (body ++ rest) length few with
        taken | bad
      · refine Or.inr ⟨⟨control, body⟩, rest, ?_, refused⟩
        simp [firstPacket, taken]
      · exact Or.inl bad
  | length control field rest four longer =>
      exact Or.inl (badLength_long false 4 field rest four longer)

theorem malformed_of_packet (stream rest : List UInt8) (first : Packet)
    (whole : firstPacket stream = some (first, rest)) (refused : ¬ WellFormed first) :
    Malformed stream := by
  obtain ⟨field, rfl, taken⟩ := firstPacket_split stream rest first whole
  obtain ⟨bytes, split, few, length⟩ := lengthField_of_takeLength false 4 _ _ _ taken
  cases List.append_cancel_right split
  exact .packet first.control field first.body rest few length refused

/-! Names of 7-bit characters. -/

theorem utf8EncodeChar_plain (char : Char) (plain : char.toNat < 128) :
    String.utf8EncodeChar char = [UInt8.ofNat char.toNat] := by
  have code : char.val.toNat = char.toNat := rfl
  fun_cases String.utf8EncodeChar char with
  | case1 => rfl
  | case2 | case3 | case4 => omega

theorem utf8EncodeChar_wide (char : Char) (wide : 128 ≤ char.toNat) :
    ∃ byte ∈ String.utf8EncodeChar char, 128 ≤ byte.toNat := by
  have code : char.val.toNat = char.toNat := rfl
  fun_cases String.utf8EncodeChar char with
  | case1 => omega
  | case2 | case3 | case4 =>
      refine ⟨_, List.mem_cons_self, ?_⟩
      simp only [UInt8.toNat_ofNat']
      omega

def Plain (byte : UInt8) : Prop := byte ≠ 0 ∧ byte ≠ 35 ∧ byte ≠ 43

theorem topicName_plain (topic : List UInt8) (nonempty : topic ≠ [])
    (narrow : ∀ byte ∈ topic, byte.toNat < 128) (plain : ∀ byte ∈ topic, Plain byte) :
    TopicName topic := by
  have faithful : ∀ byte : UInt8, byte.toNat < 128 → (Char.ofNat byte.toNat).toNat = byte.toNat :=
    fun byte low => by
      have valid : byte.toNat.isValidChar := Or.inl (by omega)
      simp [Char.ofNat, valid, Char.toNat, Char.ofNatAux]
  refine ⟨topic.map fun byte => Char.ofNat byte.toNat, by simpa using nonempty, ?_, ?_⟩
  · rw [List.flatMap_map]
    have bytes : ∀ byte ∈ topic, String.utf8EncodeChar (Char.ofNat byte.toNat) = [byte] := by
      intro byte member
      have same := faithful byte (narrow byte member)
      rw [utf8EncodeChar_plain _ (by rw [same]; exact narrow byte member), same, UInt8.ofNat_toNat]
    rw [List.flatMap_congr bytes]
    simp
  · intro char member
    obtain ⟨byte, inside, rfl⟩ := List.mem_map.mp member
    have same := faithful byte (narrow byte inside)
    obtain ⟨null, many, one⟩ := plain byte inside
    refine ⟨?_, ?_, ?_⟩
    · rw [same]
      exact fun zero => null (UInt8.toNat_inj.mp zero)
    · intro wildcard
      rw [wildcard] at same
      exact many (UInt8.toNat_inj.mp same.symm)
    · intro wildcard
      rw [wildcard] at same
      exact one (UInt8.toNat_inj.mp same.symm)

theorem plain_of_topicName (topic : List UInt8) (name : TopicName topic)
    (narrow : ∀ byte ∈ topic, byte.toNat < 128) : ∀ byte ∈ topic, Plain byte := by
  obtain ⟨text, -, rfl, allowed⟩ := name
  intro byte member
  obtain ⟨char, inside, coded⟩ := List.mem_flatMap.mp member
  have low : char.toNat < 128 := by
    by_contra wide
    obtain ⟨other, among, high⟩ := utf8EncodeChar_wide char (by omega)
    have bound := narrow other (List.mem_flatMap.mpr ⟨char, inside, among⟩)
    omega
  rw [utf8EncodeChar_plain char low, List.mem_singleton] at coded
  have same : byte.toNat = char.toNat := by
    rw [coded, UInt8.toNat_ofNat']
    omega
  obtain ⟨null, many, one⟩ := allowed char inside
  refine ⟨?_, ?_, ?_⟩
  · rintro rfl
    exact null same.symm
  · rintro rfl
    exact many (Char.toNat_inj.mp same.symm)
  · rintro rfl
    exact one (Char.toNat_inj.mp same.symm)

end CircleStdlib.Mqtt.BrokerPackets
