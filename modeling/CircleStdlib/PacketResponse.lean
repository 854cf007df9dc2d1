import CircleStdlib.ConnectionInvariant

/-!
What a received packet does to the client, apart from the receive buffer.
`respond` says so in terms of the packet alone: its type, its flags and its
body. Every handler is shown to do exactly that and to change nothing else but
the buffer. What the broker can bring about is read off here, not off the
handlers.
-/

namespace CircleStdlib.Mqtt

open Checked

def identifierOf : List UInt8 → UInt16
  | high :: low :: _ => word high low
  | _ => 0

-- The byte behind the identifier of a SUBACK, or the second one of a CONNACK.
def codeAt (position : Nat) (body : List UInt8) : UInt8 := body.getD position 0

namespace Client

def respondConnAck (client : Client) (uchConnAckFlags uchReturnCode : UInt8) :
    Except Fault Client :=
  if client.status ≠ .connectPending then client.closeConnection .invalidPacket
  else if uchReturnCode = 0 then
    .ok ({ client with status := .connected }.record
      (.onConnect (uchConnAckFlags &&& connackFlagSP != 0)))
  else client.closeConnection (DisconnectReason.ofReturnCode uchReturnCode)

def respondMessage (platform : Platform) (client : Client) (uchQoS : UInt8)
    (usPacketIdentifier : UInt16) (message : Message) (input : SendInput) :
    Except Fault Client := do
  if uchQoS = 0 then return client.record (.onMessage message)
  else if uchQoS = 1 then
    let (sent, client) ← client.answer platform .pubAck usPacketIdentifier input
    if sent then return client.record (.onMessage message)
    else client.closeConnection .sendFailed
  else
    let (sent, client) ← client.answer platform .pubRec usPacketIdentifier input
    if sent then
      if client.isPacketIdentifierInStore usPacketIdentifier then return client
      else
        return (client.insertPacketIdentifierIntoStore usPacketIdentifier).record
          (.onMessage message)
    else client.closeConnection .sendFailed

def respondPublish (config : Config) (client : Client) (first : Packet) (input : SendInput) :
    Except Fault Client :=
  match publishRead config.topicLimit first.flags first.body with
  | none => .error .consumedBeyondPacket
  | some (.refused reason) => client.closeConnection reason
  | some (.arrived usPacketIdentifier message) =>
      client.respondMessage config.toPlatform first.qos usPacketIdentifier message input

def respondPubRec (platform : Platform) (client : Client) (usPacketIdentifier : UInt16)
    (input : SendInput) : Except Fault Client :=
  let (found, client) := client.removePacketFromQueue usPacketIdentifier
  match found with
  | none => client.closeConnection .packetIdentifier
  | some packet =>
      if packet.qos ≠ 2 then client.closeConnection .packetIdentifier
      else do
        let packet ← (SendPacket.create .pubRel 128 input.memory).appendWord usPacketIdentifier
        client.sendAndQueue platform packet 2 usPacketIdentifier input

def respondPubRel (platform : Platform) (client : Client) (usPacketIdentifier : UInt16)
    (input : SendInput) : Except Fault Client := do
  if usPacketIdentifier = 0 then client.closeConnection .invalidPacket
  else
    let (sent, client) ← client.answer platform .pubComp usPacketIdentifier input
    if sent then return client.removePacketIdentifierFromStore usPacketIdentifier
    else client.closeConnection .sendFailed

def respondSubAck (client : Client) (usPacketIdentifier : UInt16) (uchReturnCode : UInt8) :
    Except Fault Client :=
  if uchReturnCode > 2 then client.closeConnection .subscribeError
  else client.release usPacketIdentifier 1

def respondPingResp (platform : Platform) (client : Client) (ticks : UInt32) : Client :=
  if client.keepAliveSeconds > 0 then
    { client with status := .connected }.startTimer (ticks + client.keepAliveSeconds * platform.hz)
  else { client with status := .connected }

def respond (config : Config) (client : Client) (first : Packet) (input : SendInput) :
    Except Fault Client :=
  match first.type with
  | .connAck => client.respondConnAck (codeAt 0 first.body) (codeAt 1 first.body)
  | .publish => client.respondPublish config first input
  | .pubAck => client.release (identifierOf first.body) 1
  | .pubRec => client.respondPubRec config.toPlatform (identifierOf first.body) input
  | .pubRel => client.respondPubRel config.toPlatform (identifierOf first.body) input
  | .pubComp => client.release (identifierOf first.body) 2
  | .subAck => client.respondSubAck (identifierOf first.body) (codeAt 2 first.body)
  | .unsubAck => client.release (identifierOf first.body) 1
  | .pingResp => .ok (client.respondPingResp config.toPlatform input.timerTicks)
  | _ => .error .unexpectedType

/-! What each of them can have done. -/

theorem respondConnAck_cases (client next : Client) (uchConnAckFlags uchReturnCode : UInt8)
    (done : client.respondConnAck uchConnAckFlags uchReturnCode = .ok next) :
    client.status ≠ .connectPending ∧ client.closeConnection .invalidPacket = .ok next ∨
      client.status = .connectPending ∧
        (uchReturnCode = 0 ∧ next = { client with status := .connected }.record
            (.onConnect (uchConnAckFlags &&& connackFlagSP != 0)) ∨
          uchReturnCode ≠ 0 ∧
            client.closeConnection (DisconnectReason.ofReturnCode uchReturnCode) = .ok next) := by
  unfold respondConnAck at done
  split at done
  · rename_i other
    exact Or.inl ⟨other, done⟩
  · rename_i pending
    refine Or.inr ⟨not_not.mp pending, ?_⟩
    split at done
    · rename_i zero
      cases done
      exact Or.inl ⟨zero, rfl⟩
    · rename_i refused
      exact Or.inr ⟨refused, done⟩

theorem respondPublish_cases (config : Config) (client next : Client) (first : Packet)
    (input : SendInput) (done : client.respondPublish config first input = .ok next) :
    (∃ reason, publishRead config.topicLimit first.flags first.body = some (.refused reason) ∧
        client.closeConnection reason = .ok next) ∨
      ∃ usPacketIdentifier message,
        publishRead config.topicLimit first.flags first.body =
          some (.arrived usPacketIdentifier message) ∧
        client.respondMessage config.toPlatform first.qos usPacketIdentifier message input =
          .ok next := by
  unfold respondPublish at done
  split at done
  · cases done
  · rename_i reason read
    exact Or.inl ⟨reason, read, done⟩
  · rename_i usPacketIdentifier message read
    exact Or.inr ⟨usPacketIdentifier, message, read, done⟩

/-- A message is told of at once, or behind its acknowledgement unless it is known. -/
theorem respondMessage_cases (platform : Platform) (client next : Client) (uchQoS : UInt8)
    (usPacketIdentifier : UInt16) (message : Message) (input : SendInput)
    (done : client.respondMessage platform uchQoS usPacketIdentifier message input = .ok next) :
    uchQoS = 0 ∧ next = client.record (.onMessage message) ∨
      uchQoS ≠ 0 ∧ ∃ sent middle,
        client.answer platform (if uchQoS = 1 then .pubAck else .pubRec) usPacketIdentifier input =
          .ok (sent, middle) ∧
        (sent = false ∧ middle.closeConnection .sendFailed = .ok next ∨
          sent = true ∧ uchQoS = 1 ∧ next = middle.record (.onMessage message) ∨
          sent = true ∧ uchQoS ≠ 1 ∧ middle.isPacketIdentifierInStore usPacketIdentifier = true ∧
            next = middle ∨
          sent = true ∧ uchQoS ≠ 1 ∧ middle.isPacketIdentifierInStore usPacketIdentifier = false ∧
            next = (middle.insertPacketIdentifierIntoStore usPacketIdentifier).record
              (.onMessage message)) := by
  simp only [respondMessage] at done
  split at done
  · rename_i plain
    cases done
    exact Or.inl ⟨plain, rfl⟩
  · rename_i asked
    refine Or.inr ⟨asked, ?_⟩
    split at done
    · rename_i once
      rcases (bind_ok _ _ _).mp done with ⟨⟨sent, middle⟩, answered, done⟩
      rw [if_pos once]
      refine ⟨sent, middle, answered, ?_⟩
      cases sent with
      | false => exact Or.inl ⟨rfl, done⟩
      | true =>
          cases done
          exact Or.inr (Or.inl ⟨rfl, once, rfl⟩)
    · rename_i twice
      rcases (bind_ok _ _ _).mp done with ⟨⟨sent, middle⟩, answered, done⟩
      rw [if_neg twice]
      refine ⟨sent, middle, answered, ?_⟩
      cases sent with
      | false => exact Or.inl ⟨rfl, done⟩
      | true =>
          simp only [↓reduceIte] at done
          split at done
          · rename_i known
            cases done
            exact Or.inr (Or.inr (Or.inl ⟨rfl, twice, known, rfl⟩))
          · rename_i fresh
            cases done
            exact Or.inr (Or.inr (Or.inr ⟨rfl, twice, by simpa using fresh, rfl⟩))

/-- The entry leaves the queue, and the connection ends if it is not the right one. -/
theorem release_cases (client next : Client) (usPacketIdentifier : UInt16) (uchQoS : UInt8)
    (done : client.release usPacketIdentifier uchQoS = .ok next) :
    (∀ entry, (client.removePacketFromQueue usPacketIdentifier).1 = some entry →
        entry.qos ≠ uchQoS) ∧
      (client.removePacketFromQueue usPacketIdentifier).2.closeConnection .packetIdentifier =
        .ok next ∨
    ∃ entry, (client.removePacketFromQueue usPacketIdentifier).1 = some entry ∧
      entry.qos = uchQoS ∧ next = (client.removePacketFromQueue usPacketIdentifier).2 := by
  simp only [release] at done
  split at done
  · rename_i missing
    refine Or.inl ⟨?_, done⟩
    intro entry found
    rw [missing] at found
    cases found
  · rename_i entry found
    split at done
    · rename_i other
      refine Or.inl ⟨?_, done⟩
      intro same again
      rw [found] at again
      cases again
      exact other
    · rename_i right
      cases done
      exact Or.inr ⟨entry, found, not_not.mp right, rfl⟩

theorem respondPubRec_cases (platform : Platform) (client next : Client)
    (usPacketIdentifier : UInt16) (input : SendInput)
    (done : client.respondPubRec platform usPacketIdentifier input = .ok next) :
    (∀ entry, (client.removePacketFromQueue usPacketIdentifier).1 = some entry →
        entry.qos ≠ 2) ∧
      (client.removePacketFromQueue usPacketIdentifier).2.closeConnection .packetIdentifier =
        .ok next ∨
    ∃ entry packet, (client.removePacketFromQueue usPacketIdentifier).1 = some entry ∧
      entry.qos = 2 ∧
      (SendPacket.create .pubRel 128 input.memory).appendWord usPacketIdentifier = .ok packet ∧
      (client.removePacketFromQueue usPacketIdentifier).2.sendAndQueue platform packet 2
        usPacketIdentifier input = .ok next := by
  simp only [respondPubRec] at done
  split at done
  · rename_i missing
    refine Or.inl ⟨?_, done⟩
    intro entry found
    rw [missing] at found
    cases found
  · rename_i entry found
    split at done
    · rename_i other
      refine Or.inl ⟨?_, done⟩
      intro same again
      rw [found] at again
      cases again
      exact other
    · rename_i right
      rcases (bind_ok _ _ _).mp done with ⟨packet, built, sent⟩
      exact Or.inr ⟨entry, packet, found, not_not.mp right, built, sent⟩

theorem respondPubRel_cases (platform : Platform) (client next : Client)
    (usPacketIdentifier : UInt16) (input : SendInput)
    (done : client.respondPubRel platform usPacketIdentifier input = .ok next) :
    usPacketIdentifier = 0 ∧ client.closeConnection .invalidPacket = .ok next ∨
      usPacketIdentifier ≠ 0 ∧ ∃ sent middle,
        client.answer platform .pubComp usPacketIdentifier input = .ok (sent, middle) ∧
        (sent = false ∧ middle.closeConnection .sendFailed = .ok next ∨
          sent = true ∧ next = middle.removePacketIdentifierFromStore usPacketIdentifier) := by
  simp only [respondPubRel] at done
  split at done
  · rename_i zero
    exact Or.inl ⟨zero, done⟩
  · rename_i some
    rcases (bind_ok _ _ _).mp done with ⟨⟨sent, middle⟩, answered, done⟩
    refine Or.inr ⟨some, sent, middle, answered, ?_⟩
    cases sent with
    | false => exact Or.inl ⟨rfl, done⟩
    | true =>
        cases done
        exact Or.inr ⟨rfl, rfl⟩

theorem respondSubAck_cases (client next : Client) (usPacketIdentifier : UInt16)
    (uchReturnCode : UInt8)
    (done : client.respondSubAck usPacketIdentifier uchReturnCode = .ok next) :
    uchReturnCode > 2 ∧ client.closeConnection .subscribeError = .ok next ∨
      ¬ uchReturnCode > 2 ∧ client.release usPacketIdentifier 1 = .ok next := by
  unfold respondSubAck at done
  split at done
  · rename_i refused
    exact Or.inl ⟨refused, done⟩
  · rename_i granted
    exact Or.inr ⟨granted, done⟩

/-! The operations that the handlers are made of do not look at the buffer. -/

theorem closeConnection_withPacket (client : Client) (packet : ReceivePacket)
    (reason : DisconnectReason) :
    (client.withPacket packet).closeConnection reason =
      (client.closeConnection reason).map (·.withPacket packet) := by
  unfold closeConnection
  by_cases offline : client.status = .disconnected
  · rw [if_pos offline, if_pos (show (client.withPacket packet).status = _ from offline)]
    rfl
  · rw [if_neg offline, if_neg (show ¬ (client.withPacket packet).status = _ from offline)]
    by_cases open_ : client.socket = true
    · rw [require_holds _ _ open_,
        require_holds _ _ (show (client.withPacket packet).socket = true from open_)]
      rfl
    · rw [require_fails _ _ open_,
        require_fails _ _ (show ¬ (client.withPacket packet).socket = true from open_)]
      rfl

theorem keepAlive_withPacket (platform : Platform) (client : Client) (packet : ReceivePacket)
    (type : PacketType) (ticks : UInt32) :
    (client.withPacket packet).keepAlive platform type ticks =
      (client.keepAlive platform type ticks).map (·.withPacket packet) := by
  have status : (client.withPacket packet).status = client.status := rfl
  have seconds : (client.withPacket packet).keepAliveSeconds = client.keepAliveSeconds := rfl
  have running : (client.withPacket packet).timerRunning = client.timerRunning := rfl
  cases type
  case pingReq =>
      simp only [keepAlive, status, seconds, running]
      cases require (client.keepAliveSeconds > 0) Fault.pingWithoutKeepAlive with
      | error fault => rfl
      | ok _ =>
          cases require (client.status = .connected) Fault.pingNotConnected with
          | error fault => rfl
          | ok _ =>
              cases require (client.timerRunning = false) Fault.timerRunning with
              | error fault => rfl
              | ok _ => rfl
  case reserved | connAck | subAck | unsubAck | pingResp | disconnect | unknown => rfl
  all_goals
    simp only [keepAlive, status, seconds]
    split <;> rfl

theorem sendPacket_withPacket (platform : Platform) (client : Client) (packet : ReceivePacket)
    (sent : SendPacket) (input : SendInput) :
    (client.withPacket packet).sendPacket platform sent input =
      (client.sendPacket platform sent input).map
        fun (result, after, next) => (result, after, next.withPacket packet) := by
  have status : (client.withPacket packet).status = client.status := rfl
  have socket : (client.withPacket packet).socket = client.socket := rfl
  unfold sendPacket
  rw [status, socket]
  split
  · rfl
  · cases require (client.socket = true) Fault.nullSocket with
    | error fault => rfl
    | ok _ =>
        cases sent.send input.socket with
        | error fault => rfl
        | ok sending =>
            have handed : (client.withPacket packet).recordHanded sending =
                (client.recordHanded sending).withPacket packet := by
              unfold recordHanded
              split <;> rfl
            simp only [ok_bind, handed, keepAlive_withPacket]
            split
            · cases (client.recordHanded sending).keepAlive platform sent.type input.timerTicks with
              | error fault => rfl
              | ok next => rfl
            · rfl

theorem answer_withPacket (platform : Platform) (client : Client) (packet : ReceivePacket)
    (type : PacketType) (usPacketIdentifier : UInt16) (input : SendInput) :
    (client.withPacket packet).answer platform type usPacketIdentifier input =
      (client.answer platform type usPacketIdentifier input).map
        fun (sent, next) => (sent, next.withPacket packet) := by
  unfold answer
  cases (SendPacket.create type 128 input.memory).appendWord usPacketIdentifier with
  | error fault => rfl
  | ok sent =>
      simp only [ok_bind, sendPacket_withPacket]
      cases client.sendPacket platform sent input with
      | error fault => rfl
      | ok result => rfl

theorem sendAndQueue_withPacket (platform : Platform) (client : Client) (packet : ReceivePacket)
    (queued : SendPacket) (uchQoS : UInt8) (usPacketIdentifier : UInt16) (input : SendInput) :
    (client.withPacket packet).sendAndQueue platform queued uchQoS usPacketIdentifier input =
      (client.sendAndQueue platform queued uchQoS usPacketIdentifier input).map
        (·.withPacket packet) := by
  unfold sendAndQueue
  rw [sendPacket_withPacket]
  cases client.sendPacket platform queued input with
  | error fault => rfl
  | ok result =>
      rcases result with ⟨sent, after, next⟩
      simp only [Except.map, ok_bind, closeConnection_withPacket]
      split
      · split <;> rfl
      · rfl

theorem release_withPacket (client : Client) (packet : ReceivePacket)
    (usPacketIdentifier : UInt16) (uchQoS : UInt8) :
    (client.withPacket packet).release usPacketIdentifier uchQoS =
      (client.release usPacketIdentifier uchQoS).map (·.withPacket packet) := by
  have removed : (client.withPacket packet).removePacketFromQueue usPacketIdentifier =
      ((client.removePacketFromQueue usPacketIdentifier).1,
        (client.removePacketFromQueue usPacketIdentifier).2.withPacket packet) := rfl
  simp only [release, removed, closeConnection_withPacket]
  split
  · rfl
  · split <;> rfl

theorem respondMessage_withPacket (platform : Platform) (client : Client) (packet : ReceivePacket)
    (uchQoS : UInt8) (usPacketIdentifier : UInt16) (message : Message) (input : SendInput) :
    (client.withPacket packet).respondMessage platform uchQoS usPacketIdentifier message input =
      (client.respondMessage platform uchQoS usPacketIdentifier message input).map
        (·.withPacket packet) := by
  simp only [respondMessage, answer_withPacket]
  split
  · rfl
  · split
    · cases client.answer platform .pubAck usPacketIdentifier input with
      | error fault => rfl
      | ok result =>
          simp only [Except.map, ok_bind, closeConnection_withPacket]
          split <;> rfl
    · cases client.answer platform .pubRec usPacketIdentifier input with
      | error fault => rfl
      | ok result =>
          have stored : (result.2.withPacket packet).isPacketIdentifierInStore usPacketIdentifier =
              result.2.isPacketIdentifierInStore usPacketIdentifier := rfl
          simp only [Except.map, ok_bind, closeConnection_withPacket, stored]
          split
          · split <;> rfl
          · rfl

theorem respondConnAck_withPacket (client : Client) (packet : ReceivePacket)
    (uchConnAckFlags uchReturnCode : UInt8) :
    (client.withPacket packet).respondConnAck uchConnAckFlags uchReturnCode =
      (client.respondConnAck uchConnAckFlags uchReturnCode).map (·.withPacket packet) := by
  have status : (client.withPacket packet).status = client.status := rfl
  simp only [respondConnAck, status, closeConnection_withPacket]
  split
  · rfl
  · split <;> rfl

theorem respondPubRec_withPacket (platform : Platform) (client : Client) (packet : ReceivePacket)
    (usPacketIdentifier : UInt16) (input : SendInput) :
    (client.withPacket packet).respondPubRec platform usPacketIdentifier input =
      (client.respondPubRec platform usPacketIdentifier input).map (·.withPacket packet) := by
  have removed : (client.withPacket packet).removePacketFromQueue usPacketIdentifier =
      ((client.removePacketFromQueue usPacketIdentifier).1,
        (client.removePacketFromQueue usPacketIdentifier).2.withPacket packet) := rfl
  simp only [respondPubRec, removed, closeConnection_withPacket]
  cases (client.removePacketFromQueue usPacketIdentifier).1 with
  | none => rfl
  | some entry =>
      dsimp only
      split
      · rfl
      · cases (SendPacket.create .pubRel 128 input.memory).appendWord usPacketIdentifier with
        | error fault => rfl
        | ok release => simp only [ok_bind, sendAndQueue_withPacket]

theorem respondPubRel_withPacket (platform : Platform) (client : Client) (packet : ReceivePacket)
    (usPacketIdentifier : UInt16) (input : SendInput) :
    (client.withPacket packet).respondPubRel platform usPacketIdentifier input =
      (client.respondPubRel platform usPacketIdentifier input).map (·.withPacket packet) := by
  simp only [respondPubRel, closeConnection_withPacket, answer_withPacket]
  split
  · rfl
  · cases client.answer platform .pubComp usPacketIdentifier input with
    | error fault => rfl
    | ok result =>
        simp only [Except.map, ok_bind, closeConnection_withPacket]
        split <;> rfl

theorem respondSubAck_withPacket (client : Client) (packet : ReceivePacket)
    (usPacketIdentifier : UInt16) (uchReturnCode : UInt8) :
    (client.withPacket packet).respondSubAck usPacketIdentifier uchReturnCode =
      (client.respondSubAck usPacketIdentifier uchReturnCode).map (·.withPacket packet) := by
  simp only [respondSubAck, closeConnection_withPacket, release_withPacket]
  split <;> rfl

theorem respondPingResp_withPacket (platform : Platform) (client : Client)
    (packet : ReceivePacket) (ticks : UInt32) :
    (client.withPacket packet).respondPingResp platform ticks =
      (client.respondPingResp platform ticks).withPacket packet := by
  have seconds : (client.withPacket packet).keepAliveSeconds = client.keepAliveSeconds := rfl
  simp only [respondPingResp, seconds]
  split <;> rfl

theorem respond_withPacket (config : Config) (client : Client) (packet : ReceivePacket)
    (first : Packet) (input : SendInput) :
    (client.withPacket packet).respond config first input =
      (client.respond config first input).map (·.withPacket packet) := by
  unfold respond
  cases first.type
  case connAck => exact respondConnAck_withPacket client packet _ _
  case publish =>
      simp only [respondPublish, closeConnection_withPacket, respondMessage_withPacket]
      split <;> rfl
  case pubRec => exact respondPubRec_withPacket config.toPlatform client packet _ input
  case pubRel => exact respondPubRel_withPacket config.toPlatform client packet _ input
  case subAck => exact respondSubAck_withPacket client packet _ _
  case pingResp =>
      exact congrArg Except.ok (respondPingResp_withPacket config.toPlatform client packet _)
  case pubAck | pubComp | unsubAck => exact release_withPacket client packet _ _
  all_goals rfl

def Responds (handled meant : Except Fault Client) : Prop :=
  ∃ packet, handled = meant.map (·.withPacket packet)

theorem responds_withPacket (handled meant : Except Fault Client) (packet : ReceivePacket)
    (responds : Responds handled (meant.map (·.withPacket packet))) : Responds handled meant := by
  rcases responds with ⟨final, rfl⟩
  refine ⟨final, ?_⟩
  cases meant with
  | error fault => rfl
  | ok next => rfl

theorem acknowledged_responds (client : Client) (uchQoS high low : UInt8) (rest : List UInt8)
    (linked : client.Linked) (reading : client.receivePacket.Reading [high, low] rest) :
    Responds (client.acknowledged uchQoS) (client.release (word high low) uchQoS) := by
  rcases takeIdentifier_handled client high low rest linked reading with ⟨packet, done, -⟩
  refine ⟨packet, ?_⟩
  simp only [acknowledged, done, ok_bind, release_withPacket]

theorem handleConnAck_responds (client : Client) (flags code : UInt8) (rest : List UInt8)
    (linked : client.Linked) (reading : client.receivePacket.Reading [flags, code] rest) :
    Responds client.handleConnAck (client.respondConnAck flags code) := by
  have first := client.receivePacket.getByte_reading flags [code] rest reading
  have halfway := client.receivePacket.reading_advance [flags] [code] rest reading
  have second := ReceivePacket.getByte_reading _ code [] rest halfway
  have after := ReceivePacket.reading_advance _ [code] [] rest halfway
  rcases complete_handled client ((client.receivePacket.advance 1).advance 1) [] rest linked
    ⟨rfl, rfl, rfl, rfl⟩ after with ⟨packet, done, -⟩
  refine ⟨packet, ?_⟩
  simp only [List.length_cons, List.length_nil, Nat.zero_add] at second
  simp only [handleConnAck, first, ok_bind, second, done]
  exact respondConnAck_withPacket client packet flags code

theorem handlePubRec_responds (platform : Platform) (client : Client) (input : SendInput)
    (high low : UInt8) (rest : List UInt8) (linked : client.Linked)
    (reading : client.receivePacket.Reading [high, low] rest) :
    Responds (client.handlePubRec platform input)
      (client.respondPubRec platform (word high low) input) := by
  rcases takeIdentifier_handled client high low rest linked reading with ⟨packet, done, -⟩
  refine ⟨packet, ?_⟩
  simp only [handlePubRec, done, ok_bind]
  exact respondPubRec_withPacket platform client packet (word high low) input

theorem handlePubRel_responds (platform : Platform) (client : Client) (input : SendInput)
    (high low : UInt8) (rest : List UInt8) (linked : client.Linked)
    (reading : client.receivePacket.Reading [high, low] rest) :
    Responds (client.handlePubRel platform input)
      (client.respondPubRel platform (word high low) input) := by
  rcases takeIdentifier_handled client high low rest linked reading with ⟨packet, done, -⟩
  refine ⟨packet, ?_⟩
  simp only [handlePubRel, done, ok_bind]
  exact respondPubRel_withPacket platform client packet (word high low) input

theorem handleSubAck_responds (client : Client) (high low code : UInt8) (more rest : List UInt8)
    (linked : client.Linked)
    (reading : client.receivePacket.Reading (high :: low :: code :: more) rest) :
    Responds client.handleSubAck (client.respondSubAck (word high low) code) := by
  have first := client.receivePacket.getWord_reading high low (code :: more) rest reading
  have halfway := client.receivePacket.reading_advance [high, low] (code :: more) rest reading
  have second := ReceivePacket.getByte_reading _ code more rest halfway
  have after := ReceivePacket.reading_advance _ [code] more rest halfway
  rcases complete_handled client ((client.receivePacket.advance 2).advance 1) more rest linked
    ⟨rfl, rfl, rfl, rfl⟩ after with ⟨packet, done, -⟩
  refine ⟨packet, ?_⟩
  simp only [List.length_cons, List.length_nil, Nat.zero_add] at second
  simp only [handleSubAck, first, ok_bind, second, done]
  exact respondSubAck_withPacket client packet (word high low) code

theorem handlePingResp_responds (platform : Platform) (client : Client) (ticks : UInt32)
    (rest : List UInt8) (linked : client.Linked)
    (reading : client.receivePacket.Reading [] rest) :
    Responds (client.handlePingResp platform ticks)
      (.ok (client.respondPingResp platform ticks)) := by
  rcases finish_handled client rest linked reading with ⟨packet, done, -⟩
  refine ⟨packet, ?_⟩
  simp only [handlePingResp, done, ok_bind]
  change _ = Except.ok ((client.respondPingResp platform ticks).withPacket packet)
  rw [← respondPingResp_withPacket]
  unfold respondPingResp
  split <;> rfl

/-- The end of a QoS branch, once the acknowledgement has been tried. -/
theorem unsent_responds (client : Client) (rest : List UInt8) (linked : client.Linked)
    (reading : client.receivePacket.Reading [] rest) :
    Responds (do
        let client ← client.completePacket
        client.closeConnection .sendFailed) (client.closeConnection .sendFailed) := by
  rcases finish_handled client rest linked reading with ⟨packet, done, -⟩
  exact ⟨packet, by rw [done, ok_bind, closeConnection_withPacket]⟩

theorem deliver_responds (platform : Platform) (client : Client) (uchQoS : UInt8)
    (usPacketIdentifier : UInt16) (message : Message) (input : SendInput) (rest : List UInt8)
    (linked : client.Linked) (reading : client.receivePacket.Reading [] rest)
    (valid : uchQoS ≤ 2) :
    Responds (client.deliver platform uchQoS usPacketIdentifier message input)
      (client.respondMessage platform uchQoS usPacketIdentifier message input) := by
  have told : ∀ client : Client, client.Linked → client.receivePacket.Reading [] rest →
      Responds ((client.record (.onMessage message)).completePacket)
        (.ok (client.record (.onMessage message))) := by
    intro client linked reading
    rcases finish_handled (client.record (.onMessage message)) rest linked reading with
      ⟨packet, done, -⟩
    exact ⟨packet, done⟩
  simp only [deliver, respondMessage]
  split
  · exact told client linked reading
  · rename_i answered
    split
    · rcases answer_total platform client .pubAck usPacketIdentifier input linked rfl with
        ⟨sent, acknowledged, sending, framed⟩
      have stays := linked_framed client acknowledged framed linked
      rw [← framed.receivePacket] at reading
      simp only [sending, ok_bind]
      split
      · exact told acknowledged stays reading
      · exact unsent_responds acknowledged rest stays reading
    · rename_i notOnce
      have twice : uchQoS = 2 :=
        ((qos_values uchQoS valid).resolve_left answered).resolve_left notOnce
      rcases answer_total platform client .pubRec usPacketIdentifier input linked rfl with
        ⟨sent, acknowledged, sending, framed⟩
      have stays := linked_framed client acknowledged framed linked
      rw [← framed.receivePacket] at reading
      simp only [twice, ↓reduceIte, sending, ok_bind]
      split
      · split
        · rcases finish_handled acknowledged rest stays reading with ⟨packet, done, -⟩
          exact ⟨packet, done⟩
        · exact told (acknowledged.insertPacketIdentifierIntoStore usPacketIdentifier) stays reading
      · exact unsent_responds acknowledged rest stays reading

theorem handlePublish_responds (config : Config) (client : Client) (input : SendInput)
    (first : Packet) (rest : List UInt8) (linked : client.Linked)
    (found : Found client.receivePacket first rest) (two : 2 ≤ first.body.length)
    (valid : first.qos ≤ 2) :
    Responds (client.handlePublish config input) (client.respondPublish config first input) := by
  have meaning := client.receivePacket.readPublish_meaning config.topicBufferSize first.body rest
    found.reading found.start two
  rw [found.flags] at meaning
  unfold respondPublish
  cases read : publishRead config.topicLimit first.flags first.body with
  | none =>
      rw [read] at meaning
      exact ⟨client.receivePacket, by simp only [handlePublish, meaning, error_bind]; rfl⟩
  | some result =>
      cases result with
      | refused reason =>
          rw [read] at meaning
          rcases meaning with ⟨packet, done, -⟩
          refine ⟨packet, ?_⟩
          simp only [handlePublish, done, ok_bind, closeConnection_withPacket]
      | arrived usPacketIdentifier message =>
          rw [read] at meaning
          have after := client.receivePacket.reading_advance first.body [] rest
            (by simpa using found.reading)
          have qos : qosOfFlags client.receivePacket.flags = first.qos := by
            rw [found.flags]
            rfl
          simp only [handlePublish, meaning, ok_bind, qos]
          apply responds_withPacket _ _ (client.receivePacket.advance first.body.length)
          rw [← respondMessage_withPacket]
          exact deliver_responds config.toPlatform
            (client.withPacket (client.receivePacket.advance first.body.length)) first.qos
            usPacketIdentifier message input rest linked after valid

/-- Every accepted packet has the effect that `respond` says. -/
theorem handlePacket_responds (config : Config) (client : Client) (input : SendInput)
    (first : Packet) (rest : List UInt8) (linked : client.Linked)
    (found : Found client.receivePacket first rest) (accepted : first.Accepted) :
    Responds (client.handlePacket config input) (client.respond config first input) := by
  have reading := found.reading
  unfold Packet.Accepted ReceivePacket.wellFormed at accepted
  unfold handlePacket respond
  rw [found.type]
  cases type : first.type <;> rw [type] at accepted <;>
    simp only [Bool.decide_and, Bool.and_eq_true, decide_eq_true_eq, Bool.false_eq_true]
      at accepted
  case connAck =>
      rcases two_bytes first.body accepted.2 with ⟨flags, code, body⟩
      rw [body] at reading ⊢
      exact handleConnAck_responds client flags code rest linked reading
  case publish =>
      have two : 2 ≤ first.body.length := by
        have enough := accepted.2
        split at enough <;> omega
      exact handlePublish_responds config client input first rest linked found two accepted.1
  case pubAck =>
      rcases two_bytes first.body accepted.2 with ⟨high, low, body⟩
      rw [body] at reading ⊢
      exact acknowledged_responds client 1 high low rest linked reading
  case pubRec =>
      rcases two_bytes first.body accepted.2 with ⟨high, low, body⟩
      rw [body] at reading ⊢
      exact handlePubRec_responds config.toPlatform client input high low rest linked reading
  case pubRel =>
      rcases two_bytes first.body accepted.2 with ⟨high, low, body⟩
      rw [body] at reading ⊢
      exact handlePubRel_responds config.toPlatform client input high low rest linked reading
  case pubComp =>
      rcases two_bytes first.body accepted.2 with ⟨high, low, body⟩
      rw [body] at reading ⊢
      exact acknowledged_responds client 2 high low rest linked reading
  case subAck =>
      match body : first.body, accepted.2 with
      | high :: low :: code :: more, _ =>
          rw [body] at reading
          exact handleSubAck_responds client high low code more rest linked reading
  case unsubAck =>
      rcases two_bytes first.body accepted.2 with ⟨high, low, body⟩
      rw [body] at reading ⊢
      exact acknowledged_responds client 1 high low rest linked reading
  case pingResp =>
      rw [List.length_eq_zero_iff.mp accepted.2] at reading
      exact handlePingResp_responds config.toPlatform client input.timerTicks rest linked reading

end Client

end CircleStdlib.Mqtt
