import CircleStdlib.GuardedAssertions

/-!
The CONNECT packet against the grammar of MQTT 3.1.1. `Connect` makes the flag
byte and the payload in two cascades of conditions over the same optional
arguments; `parseConnect` is the other side, which knows only the standard: it
takes what the flags announce and accepts nothing that is left over.
-/

namespace CircleStdlib.Mqtt.ConnectGrammar

open ByteMemory Checked CText

structure Will where
  topic : List UInt8
  message : List UInt8
  qos : Nat
  retain : Bool
  deriving DecidableEq

structure Parameters where
  cleanSession : Bool
  keepAlive : UInt16
  clientIdentifier : List UInt8
  will : Option Will
  username : Option (List UInt8)
  password : Option (List UInt8)
  deriving DecidableEq

def takeField : List UInt8 → Option (List UInt8 × List UInt8)
  | high :: low :: tail =>
      let length := (word high low).toNat
      if length ≤ tail.length then some (tail.take length, tail.drop length) else none
  | _ => none

def announces (flags : UInt8) (place : Nat) : Bool := flags.toNat.testBit place

def takeAnnounced (announced : Bool) (fields : List UInt8) :
    Option (Option (List UInt8) × List UInt8) :=
  if announced then (takeField fields).map fun (text, after) => (some text, after)
  else some (none, fields)

-- The QoS and the retain flag of the will are 0 where there is no will.
def takeWill (flags : UInt8) (fields : List UInt8) : Option (Option Will × List UInt8) :=
  let qos := flags.toNat / 8 % 4
  let retain := announces flags 5
  if announces flags 2 then do
    let (topic, fields) ← takeField fields
    let (message, fields) ← takeField fields
    if qos ≤ 2 then some (some ⟨topic, message, qos, retain⟩, fields) else none
  else if qos = 0 ∧ retain = false then some (none, fields)
  else none

-- The lowest flag is reserved, and there is no password without a user name.
def flagsAllowed (flags : UInt8) : Bool :=
  !announces flags 0 && (announces flags 7 || !announces flags 6)

def parsePayload (flags : UInt8) (keepAlive : UInt16) (fields : List UInt8) :
    Option Parameters := do
  let (clientIdentifier, fields) ← takeField fields
  let (will, fields) ← takeWill flags fields
  let (username, fields) ← takeAnnounced (announces flags 7) fields
  let (password, fields) ← takeAnnounced (announces flags 6) fields
  if fields = [] then
    some ⟨announces flags 1, keepAlive, clientIdentifier, will, username, password⟩
  else none

def parseConnect (body : List UInt8) : Option Parameters := do
  let (name, header) ← takeField body
  match header with
  | level :: flags :: high :: low :: payload =>
      if name = ascii "MQTT" ∧ level = 4 ∧ flagsAllowed flags = true then
        parsePayload flags (word high low) payload
      else none
  | _ => none

-- What the caller of `Connect` has asked for. A password without a user name is
-- not sent.
def asked (request : ConnectRequest) (input : ConnectInput) : Parameters where
  cleanSession := request.cleanSession
  keepAlive := request.keepAliveSeconds
  clientIdentifier := clientIdentifierText request input
  will := request.willTopic.map fun willTopic =>
    ⟨cstr willTopic, request.willPayload, request.willQoS.toNat, request.willRetain⟩
  username := request.username.map cstr
  password := if request.username.isSome then request.password.map cstr else none

structure Short (request : ConnectRequest) : Prop where
  clientIdentifier : ∀ text, request.clientIdentifier = some text → (cstr text).length < 65536
  username : ∀ text, request.username = some text → (cstr text).length < 65536
  password : ∀ text, request.password = some text → (cstr text).length < 65536
  willTopic : ∀ text, request.willTopic = some text → (cstr text).length < 65536
  willPayload : request.willPayload.length < 65536

def field (text : List UInt8) : List UInt8 := SendPacket.stringLength text.length ++ text

theorem field_length (text : List UInt8) : (field text).length = text.length + 2 := by
  simp only [field, SendPacket.stringLength, List.length_append, List.length_cons, List.length_nil]
  omega

theorem takeField_field (text rest : List UInt8) (short : text.length < 65536) :
    takeField (field text ++ rest) = some (text, rest) := by
  have length := SendPacket.word_stringLength text.length short
  simp only [field, SendPacket.stringLength, List.cons_append, List.nil_append, takeField, length]
  rw [if_pos (by simp), List.take_left, List.drop_left]

def optionalField (text : Option (List UInt8)) : List UInt8 :=
  match text with
  | none => []
  | some text => field text

-- The flag and the field are made from the same optional argument.
theorem takeAnnounced_optional (text : Option (List UInt8)) (rest : List UInt8)
    (short : ∀ found, text = some found → found.length < 65536) :
    takeAnnounced text.isSome (optionalField text ++ rest) = some (text, rest) := by
  cases text with
  | none => rfl
  | some text =>
      simp only [takeAnnounced, Option.isSome_some, optionalField, ↓reduceIte,
        takeField_field text rest (short text rfl), Option.map_some]

def willField (will : Option Will) : List UInt8 :=
  match will with
  | none => []
  | some will => field will.topic ++ field will.message

def payload (parameters : Parameters) : List UInt8 :=
  field parameters.clientIdentifier ++ (willField parameters.will ++
    (optionalField parameters.username ++ optionalField parameters.password))

structure Announced (flags : UInt8) (parameters : Parameters) : Prop where
  reserved : announces flags 0 = false
  cleanSession : announces flags 1 = parameters.cleanSession
  will : announces flags 2 = parameters.will.isSome
  qos : flags.toNat / 8 % 4 = (parameters.will.map Will.qos).getD 0
  retain : announces flags 5 = (parameters.will.map Will.retain).getD false
  password : announces flags 6 = parameters.password.isSome
  username : announces flags 7 = parameters.username.isSome
  dependent : parameters.password.isSome → parameters.username.isSome

structure Fitting (parameters : Parameters) : Prop where
  clientIdentifier : parameters.clientIdentifier.length < 65536
  will : ∀ will, parameters.will = some will →
    will.topic.length < 65536 ∧ will.message.length < 65536 ∧ will.qos ≤ 2
  username : ∀ text, parameters.username = some text → text.length < 65536
  password : ∀ text, parameters.password = some text → text.length < 65536

theorem takeWill_field (flags : UInt8) (parameters : Parameters) (rest : List UInt8)
    (announced : Announced flags parameters) (fitting : Fitting parameters) :
    takeWill flags (willField parameters.will ++ rest) = some (parameters.will, rest) := by
  simp only [takeWill, announced.will, announced.qos, announced.retain]
  cases found : parameters.will with
  | none => rfl
  | some will =>
      rcases fitting.will will found with ⟨topic, message, qos⟩
      have taken := takeField_field will.topic (field will.message ++ rest) topic
      have behind := takeField_field will.message rest message
      simp [willField, taken, behind, qos]

/-- The grammar reads back what stands in the payload. -/
theorem parsePayload_payload (flags : UInt8) (parameters : Parameters)
    (announced : Announced flags parameters) (fitting : Fitting parameters) :
    parsePayload flags parameters.keepAlive (payload parameters) = some parameters := by
  have identifier := takeField_field parameters.clientIdentifier
    (willField parameters.will ++ (optionalField parameters.username ++
      optionalField parameters.password)) fitting.clientIdentifier
  have will := takeWill_field flags parameters (optionalField parameters.username ++
    optionalField parameters.password) announced fitting
  have username := takeAnnounced_optional parameters.username
    (optionalField parameters.password) fitting.username
  have password := takeAnnounced_optional parameters.password [] fitting.password
  rw [List.append_nil] at password
  simp [parsePayload, payload, identifier, will, username, password, announced.username,
    announced.password, announced.cleanSession]

def body (flags : UInt8) (parameters : Parameters) : List UInt8 :=
  field (ascii "MQTT") ++ ([protocolLevel, flags] ++ (SendPacket.wordBytes parameters.keepAlive ++
    payload parameters))

theorem parseConnect_body (flags : UInt8) (parameters : Parameters)
    (announced : Announced flags parameters) (fitting : Fitting parameters) :
    parseConnect (body flags parameters) = some parameters := by
  have name := takeField_field (ascii "MQTT") ([protocolLevel, flags] ++
    (SendPacket.wordBytes parameters.keepAlive ++ payload parameters)) (by decide)
  have allowed : flagsAllowed flags = true := by
    have dependent := announced.dependent
    simp only [flagsAllowed, announced.reserved, announced.username, announced.password]
    cases found : parameters.password with
    | none => simp
    | some text => simp [dependent (by rw [found]; rfl)]
  rw [parseConnect, body, name]
  simp only [Option.bind_eq_bind, Option.bind_some, SendPacket.wordBytes, List.cons_append,
    List.nil_append]
  rw [if_pos ⟨trivial, rfl, allowed⟩, SendPacket.word_wordBytes]
  exact parsePayload_payload flags parameters announced fitting

/-! What `Connect` announces. -/

-- The source looks at the password only inside the branch for the user name.
theorem password_dependent (request : ConnectRequest) (input : ConnectInput)
    (there : (asked request input).password.isSome) : (asked request input).username.isSome := by
  simp only [asked] at there ⊢
  cases found : request.username with
  | none => simp [found] at there
  | some username => rfl

def flagByte (cleanSession will retain password username : Bool) (qos : Nat) : UInt8 :=
  UInt8.ofNat (2 * cleanSession.toNat + 4 * will.toNat + 8 * qos + 32 * retain.toNat +
    64 * password.toNat + 128 * username.toNat)

theorem flagByte_bits : ∀ cleanSession will retain password username : Bool, ∀ qos : Fin 3,
    let flags := flagByte cleanSession will retain password username qos
    announces flags 0 = false ∧ announces flags 1 = cleanSession ∧ announces flags 2 = will ∧
      flags.toNat / 8 % 4 = qos ∧ announces flags 5 = retain ∧ announces flags 6 = password ∧
      announces flags 7 = username := by
  decide +kernel

/-- The two nested conditions of the source set the bits independently. -/
theorem connectFlags_bits (request : ConnectRequest)
    (qos : request.willTopic.isSome → request.willQoS ≤ 2) :
    connectFlags request =
      flagByte request.cleanSession request.willTopic.isSome
        (request.willTopic.isSome && request.willRetain)
        (request.username.isSome && request.password.isSome) request.username.isSome
        (if request.willTopic.isSome then request.willQoS.toNat else 0) := by
  rcases request with ⟨clientIdentifier, username, password, keepAliveSeconds, cleanSession,
    willTopic, willQoS, willRetain, willPayload⟩
  cases willTopic with
  | none =>
      cases username <;> cases password <;> cases cleanSession <;>
        simp only [connectFlags, Option.isSome_none, Option.isSome_some, Bool.false_eq_true,
          ↓reduceIte, Bool.false_and, Bool.and_true, Bool.and_false] <;> decide
  | some willTopic =>
      have small : willQoS.toNat ≤ 2 := qos rfl
      have levels : willQoS = 0 ∨ willQoS = 1 ∨ willQoS = 2 := by
        simp only [← UInt8.toNat_inj]
        change willQoS.toNat = 0 ∨ willQoS.toNat = 1 ∨ willQoS.toNat = 2
        omega
      cases username <;> cases password <;> rcases levels with rfl | rfl | rfl <;>
        cases cleanSession <;> cases willRetain <;>
        simp only [connectFlags, Option.isSome_none, Option.isSome_some, Bool.false_eq_true,
          ↓reduceIte, Bool.and_true, Bool.and_false] <;> decide

theorem connectFlags_announce (request : ConnectRequest) (input : ConnectInput)
    (qos : request.willTopic.isSome → request.willQoS ≤ 2) :
    Announced (connectFlags request) (asked request input) := by
  have level : (if request.willTopic.isSome then request.willQoS.toNat else 0) < 3 := by
    split
    · rename_i there
      have small : request.willQoS.toNat ≤ 2 := qos there
      omega
    · decide
  rcases flagByte_bits request.cleanSession request.willTopic.isSome
    (request.willTopic.isSome && request.willRetain)
    (request.username.isSome && request.password.isSome) request.username.isSome ⟨_, level⟩ with
    ⟨reserved, cleanSession, will, willQoS, retain, password, username⟩
  rw [connectFlags_bits request qos]
  refine ⟨reserved, cleanSession, ?_, ?_, ?_, ?_, ?_, password_dependent request input⟩
  · rw [will, asked, Option.isSome_map]
  · rw [willQoS, asked]
    simp only
    split
    · rename_i there
      rcases Option.isSome_iff_exists.mp there with ⟨willTopic, found⟩
      simp [found]
    · rename_i missing
      simp only [Option.not_isSome_iff_eq_none] at missing
      simp [missing]
  · rw [retain, asked]
    cases request.willTopic <;> simp
  · rw [password, asked]
    cases request.username <;> simp
  · rw [username, asked, Option.isSome_map]

/-! What the appends of `Connect` write. -/

theorem appendString_field (platform : Platform) (packet next : SendPacket)
    (fields pString : List UInt8) (written : packet.Written fields)
    (short : (cstr pString).length < 65536) (room : fields.length < 2 ^ 20)
    (done : packet.appendString platform pString = .ok next) (clean : next.error = false) :
    next.Written (fields ++ field (cstr pString)) := by
  rw [SendPacket.appendString_cstr] at done
  have bufPtr := written.bufPtr
  simp only [maxLengthFixedHeader] at bufPtr
  exact (SendPacket.appendString_extends platform packet next fields (cstr pString) written
    (cstr_text pString) (by omega) done clean).1

-- An append that fails leaves a mark that no later append takes away.
theorem appendWill_clean (config : Config) (packet next : SendPacket) (request : ConnectRequest)
    (done : Client.appendWill config packet request = .ok next) (clean : next.error = false) :
    packet.error = false := by
  unfold Client.appendWill at done
  split at done
  · cases done
    exact clean
  · simp only [bind_ok, require_ok, pure_ok] at done
    rcases done with ⟨topical, topic, _, -, sized, size, filled⟩
    have sizedClean : sized.error = false := by
      split at filled
      · exact SendPacket.appendData_clean _ sized next _ filled clean
      · cases filled
        exact clean
    exact SendPacket.appendString_clean _ packet topical _ topic
      (SendPacket.appendWord_clean topical sized _ size sizedClean)

theorem appendLogin_clean (config : Config) (packet next : SendPacket) (request : ConnectRequest)
    (done : Client.appendLogin config packet request = .ok next) (clean : next.error = false) :
    packet.error = false := by
  unfold Client.appendLogin at done
  split at done
  · cases done
    exact clean
  · simp only [bind_ok, pure_ok] at done
    rcases done with ⟨named, name, rest⟩
    have namedClean : named.error = false := by
      split at rest
      · cases rest
        exact clean
      · exact SendPacket.appendString_clean _ named next _ rest clean
    exact SendPacket.appendString_clean _ packet named _ name namedClean

/-- The length of the will's message, written by `AppendWord`, is that of a field. -/
theorem wordBytes_length (length : Nat) (short : length < 65536) :
    SendPacket.wordBytes (UInt16.ofNat length) = SendPacket.stringLength length := by
  have value : (UInt16.ofNat length).toNat = length := UInt16.toNat_ofNat_of_lt short
  rw [SendPacket.wordBytes_stringLength, value]

section Payload

variable (config : Config) (packet next : SendPacket) (request : ConnectRequest)
  (input : ConnectInput) (fields : List UInt8)

theorem appendWill_written (written : packet.Written fields) (short : Short request)
    (room : fields.length < 2 ^ 19)
    (done : Client.appendWill config packet request = .ok next) (clean : next.error = false) :
    next.Written (fields ++ willField (asked request input).will) := by
  unfold Client.appendWill at done
  split at done
  · rename_i missing
    cases done
    simpa [asked, missing, willField] using written
  · rename_i willTopic found
    simp only [bind_ok, require_ok, pure_ok] at done
    rcases done with ⟨topical, topic, _, few, sized, size, filled⟩
    have sizedClean : sized.error = false := by
      split at filled
      · exact SendPacket.appendData_clean _ sized next _ filled clean
      · cases filled
        exact clean
    have first := appendString_field config.toPlatform packet topical fields willTopic written
      (short.willTopic willTopic found) (by omega) topic
      (SendPacket.appendWord_clean topical sized _ size sizedClean)
    have topicShort := short.willTopic willTopic found
    have topicPlace := first.bufPtr
    simp only [List.length_append, field_length, maxLengthFixedHeader] at topicPlace
    have second := (SendPacket.appendWord_extends topical sized _ _ first (by omega) size
      sizedClean).1
    rw [wordBytes_length _ few] at second
    have sizePlace := second.bufPtr
    simp only [List.length_append, field_length, SendPacket.stringLength, List.length_cons,
      List.length_nil, maxLengthFixedHeader] at sizePlace
    have will : willField (asked request input).will =
        field (cstr willTopic) ++ field request.willPayload := by
      simp [asked, found, willField]
    rw [will]
    split at filled
    · have third := (SendPacket.appendData_extends config.toPlatform sized next _
        request.willPayload second (by omega) filled clean).1
      simpa [field] using third
    · rename_i empty
      cases filled
      have none : request.willPayload = [] := List.length_eq_zero_iff.mp (by omega)
      simpa [field, none] using second

theorem appendLogin_written (written : packet.Written fields) (short : Short request)
    (room : fields.length < 2 ^ 19)
    (done : Client.appendLogin config packet request = .ok next) (clean : next.error = false) :
    next.Written (fields ++ (optionalField (asked request input).username ++
      optionalField (asked request input).password)) := by
  unfold Client.appendLogin at done
  split at done
  · rename_i missing
    cases done
    simpa [asked, missing, optionalField] using written
  · rename_i username found
    simp only [bind_ok, pure_ok] at done
    rcases done with ⟨named, name, rest⟩
    have nameShort := short.username username found
    split at rest
    · rename_i open_
      cases rest
      have first := appendString_field config.toPlatform packet next fields username written
        nameShort (by omega) name clean
      simpa [asked, found, open_, optionalField] using first
    · rename_i password secret
      have first := appendString_field config.toPlatform packet named fields username written
        nameShort (by omega) name
        (SendPacket.appendString_clean _ named next _ rest clean)
      have second := appendString_field config.toPlatform named next _ password first
        (short.password password secret)
        (by rw [List.length_append, field_length]; omega) rest clean
      simpa [asked, found, secret, optionalField] using second

end Payload

-- The identifier made from the serial number has 21 characters.
theorem clientIdentifierText_short (request : ConnectRequest) (input : ConnectInput)
    (short : Short request) :
    (clientIdentifierText request input).length < 65536 := by
  unfold clientIdentifierText
  split
  · rename_i text found
    exact short.clientIdentifier text found
  · simp [ascii, hexWord]

theorem hexDigit_nonzero (value : Nat) (small : value < 16) : hexDigit value ≠ 0 := by
  have table : ∀ digit : Fin 16, hexDigit digit ≠ 0 := by decide
  exact table ⟨value, small⟩

/-- The default identifier is a C string too. -/
theorem clientIdentifierText_whole (request : ConnectRequest) (input : ConnectInput) :
    cstr (clientIdentifierText request input) = clientIdentifierText request input := by
  unfold clientIdentifierText
  split
  · exact List.takeWhile_idem
  · have digits : ∀ word, ∀ char ∈ hexWord word, char ≠ 0 := by
      intro word char inside
      simp only [hexWord, List.mem_map] at inside
      rcases inside with ⟨index, -, rfl⟩
      exact hexDigit_nonzero _ (Nat.mod_lt _ (by decide))
    have name : ∀ char ∈ ascii "raspi", char ≠ 0 := by
      intro char inside
      rw [show ascii "raspi" = [114, 97, 115, 112, 105] from rfl] at inside
      simp only [List.mem_cons, List.not_mem_nil, or_false] at inside
      rcases inside with rfl | rfl | rfl | rfl | rfl <;> decide
    have whole : ∀ char ∈ ascii "raspi" ++ hexWord (input.serial.getD (0, 0)).2 ++
        hexWord (input.serial.getD (0, 0)).1, char ≠ 0 := by
      intro char inside
      rcases List.mem_append.mp inside with front | low
      · exact (List.mem_append.mp front).elim (name char) (digits _ char)
      · exact digits _ char low
    exact List.takeWhile_eq_self_iff.mpr fun char inside => by simpa using whole char inside

theorem asked_fitting (request : ConnectRequest) (input : ConnectInput) (short : Short request)
    (qos : request.willTopic.isSome → request.willQoS ≤ 2) : Fitting (asked request input) := by
  constructor
  · exact clientIdentifierText_short request input short
  · intro will found
    simp only [asked, Option.map_eq_some_iff] at found
    rcases found with ⟨willTopic, there, rfl⟩
    exact ⟨short.willTopic willTopic there, short.willPayload, qos (by rw [there]; rfl)⟩
  · intro text found
    simp only [asked, Option.map_eq_some_iff] at found
    rcases found with ⟨username, there, rfl⟩
    exact short.username username there
  · intro text found
    simp only [asked] at found
    split at found
    · rcases Option.map_eq_some_iff.mp found with ⟨password, there, rfl⟩
      exact short.password password there
    · cases found

theorem willField_length (parameters : Parameters) (fitting : Fitting parameters) :
    (willField parameters.will).length < 2 ^ 18 := by
  cases found : parameters.will with
  | none => decide
  | some will =>
      rcases fitting.will will found with ⟨topic, message, -⟩
      simp only [willField, List.length_append, field_length]
      omega

theorem connectPacket_written (config : Config) (request : ConnectRequest) (input : ConnectInput)
    (packet : SendPacket) (short : Short request)
    (built : Client.connectPacket config request input = .ok packet)
    (clean : packet.error = false) :
    (request.willTopic.isSome → request.willQoS ≤ 2) ∧
      packet.Written (body (connectFlags request) (asked request input)) := by
  simp only [Client.connectPacket, bind_ok, require_ok] at built
  rcases built with ⟨_, qos, named, name, leveled, level, flagged, flag, timed, time, identified,
    identifier, willed, will, login⟩
  refine ⟨qos, ?_⟩
  -- An append that fails stops all that follow, so none has failed.
  have willedClean := appendLogin_clean config willed packet request login clean
  have identifiedClean := appendWill_clean config identified willed request will willedClean
  have timedClean := SendPacket.appendString_clean _ timed identified _ identifier
    identifiedClean
  have flaggedClean := SendPacket.appendWord_clean flagged timed _ time timedClean
  have leveledClean := SendPacket.appendByte_clean leveled flagged _ flag flaggedClean
  have namedClean := SendPacket.appendByte_clean named leveled _ level leveledClean
  have startClean := SendPacket.appendString_clean _ _ named _ name namedClean
  cases given : input.send.memory with
  | none =>
      rw [given] at startClean
      cases startClean
  | some memory =>
      rw [given] at name
      have identifierShort := clientIdentifierText_short request input short
      have first := appendString_field config.toPlatform _ named [] (ascii "MQTT")
        (SendPacket.create_written .connect config.maxPacketSize memory) (by decide) (by decide)
        name namedClean
      rw [show cstr (ascii "MQTT") = ascii "MQTT" from rfl] at first
      have second := (SendPacket.appendByte_extends named leveled _ _ first
        (by rw [first.bufPtr]; decide) level leveledClean).1
      have third := (SendPacket.appendByte_extends leveled flagged _ _ second
        (by rw [second.bufPtr]; simp [field_length]; decide) flag flaggedClean).1
      have fourth := (SendPacket.appendWord_extends flagged timed _ _ third
        (by rw [third.bufPtr]; simp [field_length]; decide) time timedClean).1
      have fifth := appendString_field config.toPlatform timed identified _ _ fourth
        (by rw [clientIdentifierText_whole]; exact identifierShort)
        (by simp [field_length, SendPacket.wordBytes]; decide) identifier identifiedClean
      rw [clientIdentifierText_whole] at fifth
      have front : ((((([] ++ field (ascii "MQTT")) ++ [protocolLevel]) ++
          [connectFlags request]) ++ SendPacket.wordBytes request.keepAliveSeconds) ++
          field (clientIdentifierText request input)).length < 2 ^ 17 := by
        simp only [List.length_append, field_length, SendPacket.wordBytes, List.length_cons,
          List.length_nil, show (ascii "MQTT").length = 4 from rfl]
        omega
      have sixth := appendWill_written config identified willed request input _ fifth short
        (by omega) will willedClean
      have behind := willField_length (asked request input) (asked_fitting request input short qos)
      have whole := appendLogin_written config willed packet request input _ sixth short
        (by rw [List.length_append]; omega) login clean
      simpa only [body, payload, asked, List.append_assoc, List.nil_append, List.cons_append]
        using whole

/-! `Connect` hands no other bytes to the socket than those of this packet. -/

-- `CloseConnection` may follow the transmission, but it hands nothing to the socket.
theorem connect_handed (config : Config) (client next : Client) (request : ConnectRequest)
    (input : ConnectInput) (bytes : List UInt8) (accepted : Bool) (events : List Event)
    (done : client.connect config request input = .ok next)
    (log : next.log = client.log ++ events) (handed : .sent bytes accepted ∈ events) :
    ∃ packet, Client.connectPacket config request input = .ok packet ∧ packet.Ready ∧
      bytes = packet.wire := by
  rcases (Client.connect_outcome config client next request input done).2 with
    ⟨-, reason, -, rfl⟩ | ⟨-, packet, after, middle, sent, built, sending, ending⟩
  · rw [← List.append_cancel_left log] at handed
    simp at handed
  · refine ⟨packet, built, ?_⟩
    rcases Client.sendPacket_cases config.toPlatform _ middle packet after input.send sent
      sending with ⟨offline, -⟩ | ⟨-, -, result, send, -, -, -, grown, -⟩
    · cases offline
    · have tail : ∃ more, next.log = middle.log ++ more ∧ .sent bytes accepted ∉ more := by
        rcases ending with ⟨-, rfl⟩ | ⟨-, closing⟩
        · exact ⟨[], by simp, by simp⟩
        · rcases middle.closeConnection_cases next _ closing with ⟨-, rfl⟩ | ⟨-, -, rfl⟩
          · exact ⟨[], by simp, by simp⟩
          · exact ⟨[_], rfl, by simp⟩
      rcases tail with ⟨more, tailed, silent⟩
      rw [tailed, grown, List.append_assoc] at log
      rw [← List.append_cancel_left log] at handed
      cases given : result.handed with
      | none =>
          simp only [Sending.events, given, List.nil_append] at handed
          exact absurd handed silent
      | some found =>
          have same : bytes = found := by
            rcases List.mem_append.mp handed with own | other
            · simp only [Sending.events, given, List.mem_cons, Event.sent.injEq,
                List.not_mem_nil, or_false] at own
              exact own.1
            · exact absurd other silent
          rw [same]
          exact packet.send_handed input.send.socket result found send given

/-- Every packet that `Connect` hands to the socket is one CONNECT packet, and the
grammar reads from its body what the caller asked for. -/
theorem connect_wellFormed (config : Config) (client next : Client) (request : ConnectRequest)
    (input : ConnectInput) (bytes : List UInt8) (accepted : Bool) (events : List Event)
    (short : Short request) (done : client.connect config request input = .ok next)
    (log : next.log = client.log ++ events) (handed : .sent bytes accepted ∈ events) :
    ∃ first, firstPacket bytes = some (first, []) ∧ first.type = .connect ∧ first.flags = 0 ∧
      parseConnect first.body = some (asked request input) := by
  rcases connect_handed config client next request input bytes accepted events done log handed with
    ⟨packet, built, ready, rfl⟩
  have header := Client.connectPacket_same config request input packet built
  rcases connectPacket_written config request input packet short built ready.clean with
    ⟨qos, written⟩
  have count : packet.bufPtr - maxLengthFixedHeader =
      (body (connectFlags request) (asked request input)).length := by
    rw [written.bufPtr]
    omega
  have flags : packet.flags = 0 := by
    rw [header.flags]
    simp only [SendPacket.create]
    split <;> rfl
  rcases SendPacket.control_parts packet.type packet.flags (by rw [flags]; decide) with
    ⟨type, low⟩
  refine ⟨_, packet.firstPacket_wire ready, type.trans header.type, low.trans flags, ?_⟩
  rw [count, written.cells]
  exact parseConnect_body (connectFlags request) (asked request input)
    (connectFlags_announce request input qos) (asked_fitting request input short qos)

def fullRequest : ConnectRequest :=
  { clientIdentifier := some [99], username := some [117], password := some [112]
    keepAliveSeconds := 60, cleanSession := true, willTopic := some [119], willQoS := 1
    willRetain := true, willPayload := [98, 121, 101] }

theorem fullRequest_short : Short fullRequest where
  clientIdentifier := by
    rintro _ ⟨⟩
    decide
  username := by
    rintro _ ⟨⟩
    decide
  password := by
    rintro _ ⟨⟩
    decide
  willTopic := by
    rintro _ ⟨⟩
    decide
  willPayload := by decide

def fullConnect : List UInt8 :=
  [0x10, 27, 0, 4, 77, 81, 84, 84, 4, 0xEE, 0, 60, 0, 1, 99, 0, 1, 119, 0, 3, 98, 121, 101,
    0, 1, 117, 0, 1, 112]

theorem fullConnect_wellFormed :
    ∃ first, firstPacket fullConnect = some (first, []) ∧ first.type = .connect ∧
      first.flags = 0 ∧ parseConnect first.body = some (asked fullRequest smoothConnect) :=
  connect_wellFormed Config.default (Client.fresh Config.default) _ fullRequest smoothConnect
    fullConnect true [.sent fullConnect true] fullRequest_short rfl rfl (by simp)

end CircleStdlib.Mqtt.ConnectGrammar
