import CircleStdlib.Ledger
import CircleStdlib.LifeCycle

/-!
QoS 2 reception. Within a connection a PUBLISH with QoS 2 opens its identifier
and a PUBREL closes it; the identifier store keeps account of that history,
which begins anew with every connection. Whether `OnMessage` is called for a
PUBLISH can therefore be read off the packets that came before it.
-/

namespace CircleStdlib.Mqtt.ExactlyOnce

open Checked Execution Ledger LifeCycle

def handshake (config : Config) (first : Packet) : List (Entry UInt16) :=
  match first.type with
  | .publish =>
      if first.qos = 2 then
        match publishRead config.topicLimit first.flags first.body with
        | some (.arrived usPacketIdentifier _) => [.opened usPacketIdentifier]
        | _ => []
      else []
  | .pubRel => [.closed (identifierOf first.body)]
  | _ => []

def processed (config : Config) (client : Client) :
    Operation config.toPlatform → List (Entry UInt16)
  | .receiver input =>
      match client.front config input with
      | some (first, _) =>
          if first.Accepted then handshake config first else []
      | none => []
  | _ => []

/-- The clients that can be reached, with what has been processed since their
connection began. -/
inductive Session (config : Config) : Client → List (Entry UInt16) → Prop where
  | constructed (client : Client) (constructed : Constructed config client) :
      Session config client []
  | ended (client next : Client) (history : List (Entry UInt16))
      (operation : Operation config.toPlatform) (session : Session config client history)
      (done : perform config client operation = .ok (some next))
      (offline : next.status = .disconnected) : Session config next []
  | continued (client next : Client) (history : List (Entry UInt16))
      (operation : Operation config.toPlatform) (session : Session config client history)
      (done : perform config client operation = .ok (some next))
      (online : next.status ≠ .disconnected) :
      Session config next (history ++ processed config client operation)

def SameStore (client next : Client) : Prop :=
  next.status ≠ .disconnected → next.packetIdentifierStore = client.packetIdentifierStore

theorem sameStore_closed (client next other : Client) (reason : DisconnectReason)
    (done : client.closeConnection reason = .ok next) : SameStore other next := by
  intro online
  rcases client.closeConnection_cases next reason done with ⟨offline, rfl⟩ | ⟨-, -, rfl⟩
  · exact absurd offline online
  · exact absurd rfl online

theorem localMove_sameStore (config : Config) (client next : Client)
    (move : LocalMove config client next) : SameStore client next := by
  cases move with
  | transmission _ packet after input sent done =>
      intro _
      exact (client.sendPacket_framed _ next packet after input sent done).packetIdentifierStore
  | closing _ reason done => exact sameStore_closed client next client reason done
  | numbering | queueing _ _ _ _ | requeueing _ _ _ => exact fun _ => rfl
  | ping _ packet after input running type done =>
      intro _
      exact (client.stopTimer.sendPacket_framed _ next packet after input true
        done).packetIdentifierStore
  | expiry middle _ reason events running framed log silent closing =>
      exact sameStore_closed middle next client reason closing

theorem localMoves_sameStore (config : Config) (client next : Client)
    (moves : LocalMoves config client next) : SameStore client next := by
  induction moves with
  | refl => exact fun _ => rfl
  | tail _ move ih =>
      intro online
      have before := (move_continued config _ _ (Or.inl move)).offline
      rw [localMove_sameStore config _ _ move online]
      exact ih fun offline => online (before offline)

theorem release_sameStore (client next : Client) (usPacketIdentifier : UInt16) (uchQoS : UInt8)
    (done : client.release usPacketIdentifier uchQoS = .ok next) : SameStore client next := by
  rcases client.release_cases next usPacketIdentifier uchQoS done with
    ⟨-, closing⟩ | ⟨entry, -, -, rfl⟩
  · exact sameStore_closed _ next client _ closing
  · exact fun _ => rfl

theorem respondPubRec_sameStore (config : Config) (client next : Client)
    (usPacketIdentifier : UInt16) (input : SendInput)
    (done : client.respondPubRec config.toPlatform usPacketIdentifier input = .ok next) :
    SameStore client next := by
  rcases client.respondPubRec_cases config.toPlatform next usPacketIdentifier input done with
    ⟨-, closing⟩ | ⟨entry, packet, -, -, built, sent⟩
  · exact sameStore_closed _ next client _ closing
  · exact localMoves_sameStore config (client.removePacketFromQueue usPacketIdentifier).2 next
      (Client.sendAndQueue_moves config _ next packet 2 usPacketIdentifier input
        (fun _ => Client.pubRel_queueable input.memory packet usPacketIdentifier built) sent)

/-- A PUBLISH with another QoS leaves the store alone. -/
theorem respondMessage_sameStore (config : Config) (client next : Client) (uchQoS : UInt8)
    (usPacketIdentifier : UInt16) (message : Message) (input : SendInput) (valid : uchQoS ≤ 2)
    (other : uchQoS ≠ 2)
    (done : client.respondMessage config.toPlatform uchQoS usPacketIdentifier message input =
      .ok next) : SameStore client next := by
  rcases client.respondMessage_cases config.toPlatform next uchQoS usPacketIdentifier message input
    done with ⟨-, rfl⟩ | ⟨asked, sent, middle, answering, outcome⟩
  · exact fun _ => rfl
  · have framed := client.answer_framed config.toPlatform middle _ _ input sent answering
    have once : uchQoS = 1 := by
      rcases qos_values uchQoS valid with zero | one | two
      · exact absurd zero asked
      · exact one
      · exact absurd two other
    rcases outcome with ⟨-, closing⟩ | ⟨-, -, rfl⟩ | ⟨-, twice, -⟩ | ⟨-, twice, -⟩
    · exact sameStore_closed middle next client _ closing
    · exact fun _ => framed.packetIdentifierStore
    · exact absurd once twice
    · exact absurd once twice

/-- A packet that is not part of a QoS 2 reception leaves the store alone. -/
theorem respond_sameStore (config : Config) (client next : Client) (first : Packet)
    (input : SendInput) (valid : first.type = .publish → first.qos ≤ 2)
    (other : handshake config first = [])
    (done : client.respond config first input = .ok next) : SameStore client next := by
  unfold Client.respond at done
  unfold handshake at other
  cases type : first.type <;> rw [type] at done other <;> dsimp only at done other
  case connAck =>
      rcases client.respondConnAck_cases next _ _ done with
        ⟨-, closing⟩ | ⟨-, ⟨-, rfl⟩ | ⟨-, closing⟩⟩
      · exact sameStore_closed client next client _ closing
      · exact fun _ => rfl
      · exact sameStore_closed client next client _ closing
  case publish =>
      rcases client.respondPublish_cases config next first input done with
        ⟨reason, -, closing⟩ | ⟨usPacketIdentifier, message, read, told⟩
      · exact sameStore_closed client next client reason closing
      · have notTwice : first.qos ≠ 2 := by
          intro twice
          simp [twice, read] at other
        exact respondMessage_sameStore config client next first.qos usPacketIdentifier message
          input (valid type) notTwice told
  case pubRec => exact respondPubRec_sameStore config client next _ input done
  case pubRel => cases other
  case subAck =>
      rcases client.respondSubAck_cases next _ _ done with ⟨-, closing⟩ | ⟨-, released⟩
      · exact sameStore_closed client next client _ closing
      · exact release_sameStore client next _ 1 released
  case pingResp =>
      cases done
      unfold Client.respondPingResp
      split <;> exact fun _ => rfl
  case pubAck | pubComp | unsubAck => exact release_sameStore client next _ _ done
  all_goals cases done

structure Receives (client next : Client) (usPacketIdentifier : UInt16) (message : Message) :
    Prop where
  status : next.status = client.status
  store : next.packetIdentifierStore =
    if usPacketIdentifier ∈ client.packetIdentifierStore then client.packetIdentifierStore
    else usPacketIdentifier :: client.packetIdentifierStore
  log : next.log = client.log ++ .sent (Client.acknowledgement .pubRec usPacketIdentifier) true ::
    if usPacketIdentifier ∈ client.packetIdentifierStore then [] else [.onMessage message]

structure Releases (client next : Client) (usPacketIdentifier : UInt16) : Prop where
  status : next.status = client.status
  store : next.packetIdentifierStore = client.packetIdentifierStore.erase usPacketIdentifier
  log : next.log =
    client.log ++ [.sent (Client.acknowledgement .pubComp usPacketIdentifier) true]

theorem closes (client : Client) (reason : DisconnectReason) (linked : client.Linked) :
    ∃ next, client.closeConnection reason = .ok next ∧ next.status = .disconnected := by
  rcases client.closeConnection_total reason linked with ⟨next, done⟩
  exact ⟨next, done, (client.closeConnection_kept next reason linked done).2.2⟩

theorem respondMessage_receives (platform : Platform) (client : Client)
    (usPacketIdentifier : UInt16) (message : Message) (input : SendInput) (linked : client.Linked)
    (online : client.status ≠ .disconnected) :
    ∃ next, client.respondMessage platform 2 usPacketIdentifier message input = .ok next ∧
      (Client.Takes .pubRec usPacketIdentifier input →
        Receives client next usPacketIdentifier message) ∧
      (¬ Client.Takes .pubRec usPacketIdentifier input → next.status = .disconnected) := by
  rcases client.answer_outcome platform .pubRec usPacketIdentifier input linked online rfl with
    ⟨middle, answered, framed, status, accepted, -⟩
  have twice : ¬ (2 : UInt8) = 0 ∧ ¬ (2 : UInt8) = 1 := by decide
  simp only [Client.respondMessage, twice, ↓reduceIte, answered, ok_bind]
  by_cases takes : Client.Takes .pubRec usPacketIdentifier input
  · simp only [takes, decide_true, ↓reduceIte, Client.isPacketIdentifierInStore,
      framed.packetIdentifierStore, List.contains_iff_mem]
    by_cases known : usPacketIdentifier ∈ client.packetIdentifierStore
    · simp only [known, ↓reduceIte]
      refine ⟨middle, rfl, fun _ => ⟨status, ?_, ?_⟩, fun refused => absurd trivial refused⟩
      · simp [known, framed.packetIdentifierStore]
      · simp [known, accepted takes]
    · simp only [known, ↓reduceIte]
      refine ⟨_, rfl, fun _ => ⟨status, ?_, ?_⟩, fun refused => absurd trivial refused⟩
      · simp [known, Client.record, Client.insertPacketIdentifierIntoStore,
          framed.packetIdentifierStore]
      · simp [known, Client.record, Client.insertPacketIdentifierIntoStore, accepted takes]
  · simp only [takes, decide_false, Bool.false_eq_true, ↓reduceIte]
    rcases closes middle .sendFailed (client.linked_framed middle framed linked) with
      ⟨next, done, offline⟩
    exact ⟨next, done, fun sent => sent.elim, fun _ => offline⟩

theorem respondPubRel_releases (platform : Platform) (client : Client)
    (usPacketIdentifier : UInt16) (input : SendInput) (linked : client.Linked)
    (online : client.status ≠ .disconnected) :
    ∃ next, client.respondPubRel platform usPacketIdentifier input = .ok next ∧
      (usPacketIdentifier ≠ 0 → Client.Takes .pubComp usPacketIdentifier input →
        Releases client next usPacketIdentifier) ∧
      (usPacketIdentifier = 0 ∨ ¬ Client.Takes .pubComp usPacketIdentifier input →
        next.status = .disconnected) := by
  by_cases zero : usPacketIdentifier = 0
  · rcases closes client .invalidPacket linked with ⟨next, done, offline⟩
    refine ⟨next, ?_, fun some => absurd zero some, fun _ => offline⟩
    simp only [Client.respondPubRel, zero, ↓reduceIte]
    exact done
  · rcases client.answer_outcome platform .pubComp usPacketIdentifier input linked online rfl with
      ⟨middle, answered, framed, status, accepted, -⟩
    simp only [Client.respondPubRel, zero, ↓reduceIte, answered, ok_bind, false_or]
    by_cases takes : Client.Takes .pubComp usPacketIdentifier input
    · simp only [takes, decide_true, ↓reduceIte]
      refine ⟨_, rfl, fun _ _ => ⟨status, ?_, accepted takes⟩,
        fun refused => absurd trivial refused⟩
      simp [Client.removePacketIdentifierFromStore, framed.packetIdentifierStore]
    · simp only [takes, decide_false, Bool.false_eq_true, ↓reduceIte]
      rcases closes middle .sendFailed (client.linked_framed middle framed linked) with
        ⟨next, done, offline⟩
      exact ⟨next, done, fun _ sent => sent.elim, fun _ => offline⟩

theorem respond_accounts (config : Config) (client next : Client) (first : Packet)
    (input : SendInput) (history : List (Entry UInt16)) (linked : client.Linked)
    (online : client.status ≠ .disconnected) (accepted : first.Accepted)
    (done : client.respond config first input = .ok next)
    (still : next.status ≠ .disconnected)
    (accounts : Accounts client.packetIdentifierStore history) :
    Accounts next.packetIdentifierStore (history ++ handshake config first) := by
  have valid : first.type = .publish → first.qos ≤ 2 :=
    fun publish => (accepted_publish first accepted publish).1
  by_cases other : handshake config first = []
  · rw [other, List.append_nil,
      respond_sameStore config client next first input valid other done still]
    exact accounts
  · unfold handshake at other ⊢
    unfold Client.respond at done
    cases type : first.type <;> rw [type] at done other <;> dsimp only at done other ⊢
    case publish =>
        split at other
        · rename_i twice
          split at other
          · rename_i usPacketIdentifier message read
            simp only [Client.respondPublish, read, twice] at done
            rcases respondMessage_receives config.toPlatform client usPacketIdentifier message
              input linked online with ⟨result, again, received, refused⟩
            cases done.symm.trans again
            have takes : Client.Takes .pubRec usPacketIdentifier input := by
              by_contra not
              exact still (refused not)
            simp only [twice, ↓reduceIte]
            rw [(received takes).store]
            split
            · rename_i known
              exact accounts_reopened accounts usPacketIdentifier known
            · rename_i fresh
              exact accounts_opened accounts usPacketIdentifier fresh
          · exact absurd rfl other
        · exact absurd rfl other
    case pubRel =>
        rcases respondPubRel_releases config.toPlatform client (identifierOf first.body) input
          linked online with ⟨result, again, released, refused⟩
        cases done.symm.trans again
        have some : identifierOf first.body ≠ 0 := fun zero => still (refused (Or.inl zero))
        have takes : Client.Takes .pubComp (identifierOf first.body) input := by
          by_contra not
          exact still (refused (Or.inr not))
        rw [(released some takes).store]
        exact accounts_closed accounts (identifierOf first.body)
    all_goals exact absurd rfl other

/-- A round of `Receiver` that leaves the connection open. -/
theorem receiver_accounts (config : Config) (client next : Client)
    (input : ReceiveInput config.toPlatform) (more : Bool) (history : List (Entry UInt16))
    (sound : Sound config client) (done : client.receiverPass config input = .ok (more, next))
    (still : next.status ≠ .disconnected)
    (accounts : Accounts client.packetIdentifierStore history) :
    Accounts next.packetIdentifierStore
      (history ++ processed config client (.receiver input)) := by
  rcases client.receiverPass_cases config next input more sound done with
    ⟨missing, packet, rfl | ⟨reason, closed, -, closing, rfl⟩⟩ |
    ⟨first, rest, packet, result, there, accepted, online, responded, rfl⟩
  · have nothing : processed config client (.receiver input) = [] := by
      unfold processed
      dsimp only
      split
      · rename_i first rest there
        rw [if_neg (missing first rest there)]
      · rfl
    rw [nothing, List.append_nil]
    exact accounts
  · rcases closes client reason sound.linked with ⟨other, again, offline⟩
    cases closing.symm.trans again
    exact absurd offline still
  · have something : processed config client (.receiver input) = handshake config first := by
      unfold processed
      simp only [there]
      rw [if_pos accepted]
    rw [something]
    exact respond_accounts config client result first input.send history sound.linked
      (sound.linked.mp online) accepted responded still accounts

structure Held (config : Config) (client : Client) (history : List (Entry UInt16)) : Prop where
  kept : Kept config client
  stored : Stored client
  accounts : Accounts client.packetIdentifierStore history

/-- `Connect` begins with an empty store. -/
theorem begins_sameStore (config : Config) (client next : Client)
    (begins : Begins config client next) : SameStore client next := by
  rcases begins with ⟨middle, first, moves⟩
  cases first with
  | opening usKeepAliveSeconds offline =>
      exact localMoves_sameStore config (client.opened usKeepAliveSeconds) next moves
  | refusal reason offline =>
      exact localMoves_sameStore config (client.record (.onDisconnect reason)) next moves

theorem perform_accounts (config : Config) (client next : Client)
    (operation : Operation config.toPlatform) (history : List (Entry UInt16))
    (kept : Kept config client) (done : perform config client operation = .ok (some next))
    (still : next.status ≠ .disconnected)
    (accounts : Accounts client.packetIdentifierStore history) :
    Accounts next.packetIdentifierStore (history ++ processed config client operation) := by
  cases own : operation.isReceiver with
  | true =>
      cases perform_performs config client next operation done with
      | receiver input more _ done =>
          exact receiver_accounts config client next input more history kept.sound done still
            accounts
      | _ => cases own
  | false =>
      have nothing : processed config client operation = [] := by
        cases operation with
        | receiver input => cases own
        | _ => rfl
      have same : SameStore client next := by
        cases called : operation.isConnect with
        | true =>
            exact begins_sameStore config client next
              (connect_begins config client next operation called done)
        | false =>
            exact localMoves_sameStore config client next
              (perform_local config client next operation kept.queued called own done)
      rw [nothing, List.append_nil, same still]
      exact accounts

theorem session_held (config : Config) (client : Client) (history : List (Entry UInt16))
    (session : Session config client history) : Held config client history := by
  induction session with
  | constructed client constructed =>
      refine ⟨constructed_kept config client constructed,
        fun _ => constructed.packetIdentifierStore, ?_⟩
      rw [constructed.packetIdentifierStore]
      exact accounts_nil
  | ended client next history operation session done offline ih =>
      have stored := perform_stored config client next operation ih.kept ih.stored done
      refine ⟨perform_kept config client next operation ih.kept done, stored, ?_⟩
      rw [stored offline]
      exact accounts_nil
  | continued client next history operation session done online ih =>
      exact ⟨perform_kept config client next operation ih.kept done,
        perform_stored config client next operation ih.kept ih.stored done,
        perform_accounts config client next operation history ih.kept done online ih.accounts⟩

/-- The round of `Receiver` that finds this packet. -/
theorem receiver_responds (config : Config) (client : Client)
    (input : ReceiveInput config.toPlatform) (first : Packet) (rest : List UInt8)
    (sound : Sound config client) (there : client.front config input = some (first, rest))
    (accepted : first.Accepted) :
    client.status ≠ .disconnected ∧
      ∃ packet, client.receiverPass config input =
        (client.respond config first input.send).map
          fun next => (true, next.withPacket packet) := by
  cases arrived : client.arrival config input with
  | none =>
      rw [Client.front, arrived] at there
      cases there
  | some stream =>
      have whole : firstPacket stream = some (first, rest) := by
        rw [Client.front, arrived] at there
        exact there
      have open_ : client.socket = true := by
        by_contra closed
        simp [Client.arrival, closed] at arrived
      rcases client.round_accepted config input stream rest first sound arrived whole accepted with
        ⟨packet, pass, -⟩
      exact ⟨sound.linked.mp open_, packet, pass⟩

/-- A round of `Receiver` that finds a PUBLISH with QoS 2. -/
theorem publish_received (config : Config) (client : Client) (history : List (Entry UInt16))
    (held : Held config client history) (input : ReceiveInput config.toPlatform) (first : Packet)
    (rest : List UInt8) (usPacketIdentifier : UInt16) (message : Message)
    (there : client.front config input = some (first, rest)) (accepted : first.Accepted)
    (publish : first.type = .publish) (twice : first.qos = 2)
    (read : publishRead config.topicLimit first.flags first.body =
      some (.arrived usPacketIdentifier message))
    (takes : Client.Takes .pubRec usPacketIdentifier input.send) :
    ∃ next, client.receiverPass config input = .ok (true, next) ∧
      next.status = client.status ∧
      (Outstanding history usPacketIdentifier → next.log = client.log ++
        [.sent (Client.acknowledgement .pubRec usPacketIdentifier) true]) ∧
      (¬ Outstanding history usPacketIdentifier → next.log = client.log ++
        [.sent (Client.acknowledgement .pubRec usPacketIdentifier) true, .onMessage message]) := by
  rcases receiver_responds config client input first rest held.kept.sound there accepted with
    ⟨online, packet, pass⟩
  rcases respondMessage_receives config.toPlatform client usPacketIdentifier message input.send
    held.kept.sound.linked online with ⟨next, responded, received, -⟩
  have result : client.respond config first input.send = .ok next := by
    simp only [Client.respond, publish, Client.respondPublish, read, twice]
    exact responded
  have log := (received takes).log
  rw [result] at pass
  refine ⟨next.withPacket packet, pass, (received takes).status, ?_, ?_⟩
  · intro outstanding
    rw [if_pos ((held.accounts.exact usPacketIdentifier).mpr outstanding)] at log
    exact log
  · intro settled
    rw [if_neg fun known => settled ((held.accounts.exact usPacketIdentifier).mp known)] at log
    exact log

/-- Exactly once: in every session the store holds, each once, the identifiers that
were published and not released since the connection began. A PUBLISH with QoS 2
whose PUBREC can be sent is answered by it, and passed to `OnMessage` exactly when
its identifier is not one of them; a PUBREL is answered by one PUBCOMP. -/
theorem qos2_exactly_once (config : Config) (client : Client) (history : List (Entry UInt16))
    (session : Session config client history) :
    client.packetIdentifierStore.Nodup ∧
    (∀ usPacketIdentifier, usPacketIdentifier ∈ client.packetIdentifierStore ↔
      Outstanding history usPacketIdentifier) ∧
    ∀ (input : ReceiveInput config.toPlatform) (first : Packet) (rest : List UInt8),
      client.front config input = some (first, rest) → first.Accepted →
      (∀ usPacketIdentifier message, first.type = .publish → first.qos = 2 →
        publishRead config.topicLimit first.flags first.body =
          some (.arrived usPacketIdentifier message) →
        Client.Takes .pubRec usPacketIdentifier input.send →
        ∃ next, client.receiverPass config input = .ok (true, next) ∧
          next.status = client.status ∧
          (Outstanding history usPacketIdentifier → next.log = client.log ++
            [.sent (Client.acknowledgement .pubRec usPacketIdentifier) true]) ∧
          (¬ Outstanding history usPacketIdentifier → next.log = client.log ++
            [.sent (Client.acknowledgement .pubRec usPacketIdentifier) true,
              .onMessage message])) ∧
      (∀ usPacketIdentifier, first.type = .pubRel →
        identifierOf first.body = usPacketIdentifier → usPacketIdentifier ≠ 0 →
        Client.Takes .pubComp usPacketIdentifier input.send →
        ∃ next, client.receiverPass config input = .ok (true, next) ∧
          next.status = client.status ∧
          next.log = client.log ++
            [.sent (Client.acknowledgement .pubComp usPacketIdentifier) true]) := by
  have held := session_held config client history session
  refine ⟨held.accounts.once, held.accounts.exact, ?_⟩
  intro input first rest there accepted
  constructor
  · intro usPacketIdentifier message publish twice read takes
    exact publish_received config client history held input first rest usPacketIdentifier message
      there accepted publish twice read takes
  · rintro usPacketIdentifier release rfl some takes
    rcases receiver_responds config client input first rest held.kept.sound there accepted with
      ⟨online, packet, pass⟩
    rcases respondPubRel_releases config.toPlatform client (identifierOf first.body) input.send
      held.kept.sound.linked online with ⟨next, responded, released, -⟩
    have result : client.respond config first input.send = .ok next := by
      simp only [Client.respond, release]
      exact responded
    rw [result] at pass
    exact ⟨next.withPacket packet, pass, (released some takes).status, (released some takes).log⟩

def arriving : ReceiveInput Config.default.toPlatform :=
  delivers [0x34, 5, 0, 1, 97, 0, 1] (by decide)

def repeated : ReceiveInput Config.default.toPlatform :=
  delivers [0x3C, 5, 0, 1, 97, 0, 1] (by decide)

set_option maxRecDepth 2000 in
theorem repeated_not_delivered :
    ∃ client history next, Session Config.default client history ∧ Outstanding history 1 ∧
      client.receiverPass Config.default repeated = .ok (true, next) ∧
      next.log = client.log ++ [.sent (Client.acknowledgement .pubRec 1) true] := by
  have session : ∃ client, Session Config.default client ([] ++ [] ++ [] ++ [.opened 1]) ∧
      client.front Config.default repeated = some (⟨0x3C, [0, 1, 97, 0, 1]⟩, []) :=
    ⟨_, .continued _ _ _ (.receiver arriving)
      (.continued _ _ _ (.receiver (delivers [0x20, 2, 0, 0] connAck_short))
        (.continued _ _ _ (.connect plainRequest smoothConnect)
          (.constructed _ (fresh_constructed _)) rfl (by decide)) rfl (by decide)) rfl (by decide),
      rfl⟩
  rcases session with ⟨client, session, there⟩
  have outstanding : Outstanding ([] ++ [] ++ [] ++ [.opened 1]) (1 : UInt16) :=
    ⟨[], [], rfl, List.not_mem_nil⟩
  rcases ((qos2_exactly_once Config.default client _ session).2.2 repeated _ _ there (by decide)).1
    1 ⟨[97], some [], 0, false⟩ rfl rfl rfl (by decide) with ⟨next, pass, -, silent, -⟩
  exact ⟨client, _, next, session, outstanding, pass, silent outstanding⟩

inductive Since (config : Config) (opened : Client) : Client → List (Entry UInt16) → Prop where
  | begun : Since config opened opened []
  | continued (client next : Client) (history : List (Entry UInt16))
      (operation : Operation config.toPlatform) (since : Since config opened client history)
      (done : perform config client operation = .ok (some next))
      (online : next.status ≠ .disconnected) :
      Since config opened next (history ++ processed config client operation)

theorem since_session (config : Config) (opened client : Client) (history : List (Entry UInt16))
    (session : Session config opened []) (since : Since config opened client history) :
    Session config client history := by
  induction since with
  | begun => exact session
  | continued client next history operation since done online ih =>
      exact .continued client next history operation ih done online

/-- Without a connection nothing has been processed on it. -/
theorem session_offline (config : Config) (client : Client) (history : List (Entry UInt16))
    (session : Session config client history) (offline : client.status = .disconnected) :
    history = [] := by
  cases session with
  | constructed _ => rfl
  | ended _ _ _ _ _ _ => rfl
  | continued _ _ _ _ _ _ online => exact absurd offline online

/-- `Connect` brings nothing into the queue or the store. -/
theorem connect_cleared (config : Config) (client next : Client) (request : ConnectRequest)
    (input : ConnectInput) (queue : client.retransmissionQueue = [])
    (store : client.packetIdentifierStore = [])
    (done : client.connect config request input = .ok next) :
    next.retransmissionQueue = [] ∧ next.packetIdentifierStore = [] := by
  rcases client.connect_outcome config next request input done with
    ⟨-, ⟨-, reason, -, rfl⟩ | ⟨-, packet, after, middle, sent, -, sending, outcome⟩⟩
  · exact ⟨queue, store⟩
  · have framed := Client.sendPacket_framed config.toPlatform _ middle packet after input.send sent
      sending
    have cleared : middle.retransmissionQueue = [] ∧ middle.packetIdentifierStore = [] :=
      ⟨framed.retransmissionQueue.trans queue, framed.packetIdentifierStore.trans store⟩
    rcases outcome with ⟨-, rfl⟩ | ⟨-, closing⟩
    · exact cleared
    · rcases middle.closeConnection_cases next _ closing with ⟨-, rfl⟩ | ⟨-, -, rfl⟩
      · exact cleared
      · exact ⟨rfl, rfl⟩

/-- The session ends with the connection. Whatever was received, sent and left
unacknowledged before, and whatever clean session was asked for: a client without a
connection has nothing queued and no identifier stored, neither has one that connects
again, and a PUBLISH with QoS 2 is passed to `OnMessage` unless one with its identifier
is outstanding on the new connection itself. -/
theorem session_ends_with_connection (config : Config) (closed : Client)
    (earlier : List (Entry UInt16)) (session : Session config closed earlier)
    (offline : closed.status = .disconnected) :
    closed.retransmissionQueue = [] ∧ closed.packetIdentifierStore = [] ∧
    ∀ (request : ConnectRequest) (connection : ConnectInput) (opened : Client),
      closed.connect config request connection = .ok opened →
      opened.retransmissionQueue = [] ∧ opened.packetIdentifierStore = [] ∧
      ∀ (client : Client) (history : List (Entry UInt16)), Since config opened client history →
        ∀ (input : ReceiveInput config.toPlatform) (first : Packet) (rest : List UInt8)
          (usPacketIdentifier : UInt16) (message : Message),
          client.front config input = some (first, rest) → first.Accepted →
          first.type = .publish → first.qos = 2 →
          publishRead config.topicLimit first.flags first.body =
            some (.arrived usPacketIdentifier message) →
          Client.Takes .pubRec usPacketIdentifier input.send →
          ¬ Outstanding history usPacketIdentifier →
          ∃ next, client.receiverPass config input = .ok (true, next) ∧
            next.log = client.log ++
              [.sent (Client.acknowledgement .pubRec usPacketIdentifier) true,
                .onMessage message] := by
  have held := session_held config closed earlier session
  have queue := held.kept.queued.empty offline
  have store := held.stored offline
  refine ⟨queue, store, ?_⟩
  intro request connection opened done
  rcases connect_cleared config closed opened request connection queue store done with
    ⟨queued, stored⟩
  refine ⟨queued, stored, ?_⟩
  intro client history since input first rest usPacketIdentifier message there accepted publish
    twice read takes settled
  have performed : perform config closed (.connect request connection) = .ok (some opened) := by
    simp only [perform, done, ok_bind]
    rfl
  have before : Session config closed [] := by
    rw [← session_offline config closed earlier session offline]
    exact session
  have begun : Session config opened [] := by
    by_cases online : opened.status = .disconnected
    · exact .ended closed opened [] _ before performed online
    · exact .continued closed opened [] _ before performed online
  rcases publish_received config client history
    (session_held config client history (since_session config opened client history begun since))
    input first rest usPacketIdentifier message there accepted publish twice read takes with
    ⟨next, pass, -, -, delivered⟩
  exact ⟨next, pass, delivered settled⟩

def keepingRequest : ConnectRequest := { plainRequest with cleanSession := false }

/-- In such a session a message is received with QoS 2 and another one published with
QoS 1, -/
def unfinished : List (Operation Config.default.toPlatform) :=
  [.connect keepingRequest smoothConnect, .receiver (delivers [0x20, 2, 0, 0] connAck_short),
    .receiver arriving, .publish [98] [] 1 false .willing]

/-- and the broker takes up the session again. -/
def resumed : List (Operation Config.default.toPlatform) :=
  [.connect keepingRequest smoothConnect, .receiver (delivers [0x20, 2, 1, 0] (by decide)),
    .receiver repeated]

/-- The first message is passed on a second time, the second one is queued no longer. -/
theorem kept_session_lost :
    ∃ before closed last,
      run (step Config.default) (.running (Client.fresh Config.default)) unfinished =
        some (.running before) ∧
      .onMessage ⟨[97], some [], 0, false⟩ ∈ before.log ∧
      before.packetIdentifierStore = [1] ∧
      before.retransmissionQueue.map SendPacket.packetIdentifier = [1] ∧
      perform Config.default before (.disconnect true .willing) = .ok (some closed) ∧
      closed.retransmissionQueue = [] ∧
      run (step Config.default) (.running closed) resumed = some (.running last) ∧
      last.log.getLast? = some (.onMessage ⟨[97], some [], 0, false⟩) :=
  ⟨_, _, _, rfl, by decide, rfl, rfl, rfl, rfl, rfl, rfl⟩

set_option maxRecDepth 2000 in
theorem resumed_delivers_again :
    ∃ closed client next : Client, Session Config.default closed [] ∧
      closed.status = .disconnected ∧ closed.retransmissionQueue = [] ∧
      client.receiverPass Config.default repeated = .ok (true, next) ∧
      next.log = client.log ++ [.sent (Client.acknowledgement .pubRec 1) true,
        .onMessage ⟨[97], some [], 0, false⟩] := by
  have session : ∃ closed opened client : Client, Session Config.default closed [] ∧
      closed.status = .disconnected ∧
      closed.connect Config.default keepingRequest smoothConnect = .ok opened ∧
      Since Config.default opened client ([] ++ []) ∧
      client.front Config.default repeated = some (⟨0x3C, [0, 1, 97, 0, 1]⟩, []) := by
    refine ⟨_, _, _, .ended _ _ _ (.disconnect true .willing)
      (.continued _ _ _ (.receiver arriving)
        (.continued _ _ _ (.receiver (delivers [0x20, 2, 0, 0] connAck_short))
          (.continued _ _ _ (.connect keepingRequest smoothConnect)
            (.constructed _ (fresh_constructed _)) rfl (by decide)) rfl (by decide)) rfl
        (by decide)) rfl rfl, rfl, rfl,
      .continued _ _ _ (.receiver (delivers [0x20, 2, 1, 0] (by decide))) .begun rfl ?_, rfl⟩
    decide
  rcases session with ⟨closed, opened, client, session, offline, connected, since, there⟩
  rcases session_ends_with_connection Config.default closed [] session offline with
    ⟨queue, -, again⟩
  rcases (again keepingRequest smoothConnect opened connected).2.2 client _ since repeated _ _ 1
    ⟨[97], some [], 0, false⟩ there (by decide) rfl rfl rfl (by decide) (not_outstanding_nil 1) with
    ⟨next, pass, log⟩
  exact ⟨closed, client, next, session, offline, queue, pass, log⟩

end CircleStdlib.Mqtt.ExactlyOnce
