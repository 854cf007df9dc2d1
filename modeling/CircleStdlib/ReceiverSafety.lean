import CircleStdlib.MalformedPackets

/-!
Whether `Receiver` can fail an assertion, leave its buffer or let a malformed
packet pass, over every run of the client and every way the stream is cut into
reads. It can: the PUBLISH branch reads the identifier in front of the test that
would refuse a packet too short to hold one; the size of the buffer is a
`size_t` and may have wrapped; and some reserved bits and values are not looked
at. Everything else that is malformed makes it close the connection.
-/

namespace CircleStdlib.Mqtt.ReceiverSafety

open BrokerPackets Checked Execution MalformedPackets

/-- The read of the round ends behind the end of the buffer. -/
def Overruns (config : Config) (client : Client) (input : ReceiveInput config.toPlatform) : Prop :=
  client.arrival config input ≠ none ∧ ∃ bytes ∈ input.bytes,
    client.receivePacket.bufferSize < client.receivePacket.inPtr + bytes.length

instance (config : Config) (client : Client) (input : ReceiveInput config.toPlatform) :
    Decidable (Overruns config client input) :=
  inferInstanceAs (Decidable (_ ∧ ∃ bytes ∈ input.bytes, _))

/-- The machine that stops at such a read too, which no assertion guards. -/
def checkedStep (config : Config) : Machine → Operation config.toPlatform → Option Machine
  | .running client, .receiver input =>
      if Overruns config client input then some (.failed true .writeOutside)
      else step config (.running client) (.receiver input)
  | state, operation => step config state operation

/-- No assertion has failed in `Receiver`, and the buffer is filled within its size. -/
def Safe (config : Config) : Machine → Prop
  | .running client =>
      client.receivePacket.bufferSize = config.bufferSize ∧
        client.receivePacket.inPtr ≤ client.receivePacket.bufferSize
  | .failed inReceiver _ => inReceiver = false

def Refuses (config : Config) : Machine → Operation config.toPlatform → Prop
  | .running client, .receiver input =>
      ∀ stream, client.arrival config input = some stream → Malformed stream →
        ∃ next, checkedStep config (.running client) (.receiver input) = some (.running next) ∧
          next.socket = false
  | _, _ => True

/-- A read cannot leave the buffer: its size has not wrapped, or it has room for this read. -/
def Roomy (config : Config) (client : Client) (input : ReceiveInput config.toPlatform) : Prop :=
  config.fillLimit < 2 ^ config.sizeBits ∨ client.arrival config input = none ∨
    ∀ bytes ∈ input.bytes, client.receivePacket.inPtr + bytes.length ≤ config.bufferSize

/-- The round stays within the buffer, and the packet that it finds is neither a PUBLISH with
a cut identifier nor one of those that are overlooked. -/
def Sober (config : Config) : Machine → Operation config.toPlatform → Prop
  | .running client, .receiver input =>
      Roomy config client input ∧
        ∀ first rest, client.front config input = some (first, rest) →
          ¬ CutIdentifier config.topicLimit first ∧ ¬ Overlooked config client input.send first
  | _, _ => True

def Holding (config : Config) : Machine → Prop
  | .running client =>
      Standing config client ∧ client.receivePacket.inPtr ≤ client.receivePacket.bufferSize
  | .failed inReceiver _ => inReceiver = false

theorem holding_safe (config : Config) (state : Machine) (holding : Holding config state) :
    Safe config state := by
  cases state with
  | running client => exact ⟨holding.1.kept.sound.bounded.bufferSize, holding.2⟩
  | failed inReceiver fault => exact holding

theorem constructed_holding (config : Config) (client : Client)
    (constructed : Constructed config client) : Holding config (.running client) := by
  refine ⟨⟨constructed_kept config client constructed,
    fun online => absurd constructed.status online, ?_⟩, ?_⟩
  · simp [PacketIdentifiers.identifiers, constructed.retransmissionQueue]
  · rw [constructed.inPtr]
    exact Nat.zero_le _

theorem perform_standing (config : Config) (client next : Client)
    (operation : Operation config.toPlatform) (standing : Standing config client)
    (done : perform config client operation = .ok (some next)) : Standing config next := by
  have kept := perform_kept config client next operation standing.kept done
  have numbered := PublishRoundTrip.perform_numbered config client next operation standing.kept done
    standing.numbered
  refine ⟨kept, numbered, ?_⟩
  rcases PacketIdentifiers.perform_identifiers config client next operation standing.kept done with
    ⟨requests, joined⟩ | ⟨-, smaller, same, part⟩
  · obtain ⟨_, _, -, online, -⟩ := requests
    rw [joined.mem_iff, List.mem_cons, not_or]
    exact ⟨(standing.numbered online).symm, standing.nonzero⟩
  · rw [← same.mem_iff]
    exact fun member => standing.nonzero (part.subset member)

section Rounds
variable (config : Config) (client : Client) (input : ReceiveInput config.toPlatform)

theorem roomy_iff (standing : Standing config client) :
    Roomy config client input ↔ ¬ Overruns config client input := by
  have bounded := standing.kept.sound.bounded
  unfold Roomy Overruns
  rw [bounded.bufferSize]
  constructor
  · rintro roomy ⟨arrived, bytes, read, beyond⟩
    rcases roomy with whole | nothing | within
    · -- what may be queued and one read are the whole buffer
      rw [config.bufferSize_fillLimit, Nat.mod_eq_of_lt whole, Config.fillLimit] at beyond
      have short : bytes.length ≤ config.frameBufferSize := by
        obtain ⟨piece, -, rfl⟩ := Option.map_eq_some_iff.mp read
        exact piece.property
      unfold Client.arrival at arrived
      split at arrived
      · rename_i ready
        have room := ready.2.2
        rw [bounded.bufferSize, config.sizeSub_bufferSize] at room
        omega
      · exact arrived rfl
    · exact arrived nothing
    · exact absurd (within bytes read) (Nat.not_le_of_lt beyond)
  · intro inside
    by_cases nothing : client.arrival config input = none
    · exact Or.inr (Or.inl nothing)
    · refine Or.inr (Or.inr fun bytes read => ?_)
      by_contra beyond
      exact inside ⟨nothing, bytes, read, Nat.lt_of_not_le beyond⟩

/-- The checked machine takes the steps of the unchecked one. -/
theorem checkedStep_inside (operation : Operation config.toPlatform)
    (inside : ∀ input, operation = .receiver input → ¬ Overruns config client input) :
    checkedStep config (.running client) operation = step config (.running client) operation := by
  cases operation with
  | receiver input => exact if_neg (inside input rfl)
  | _ => rfl

variable (standing : Standing config client)

include standing

theorem invalid_closes (stream : List UInt8) (arrived : client.arrival config input = some stream)
    (invalid : Client.Invalid stream) :
    ∃ more next, client.receiverPass config input = .ok (more, next) ∧ next.socket = false := by
  have round := client.receiverPass_round config input standing.kept.sound
  generalize client.receiverPass config input = outcome at round
  have unstarted : ∀ first rest, firstPacket stream = some (first, rest) → ¬ first.Accepted := by
    intro first rest whole accepted
    rcases invalid with bad | ⟨other, tail, again, refused⟩
    · rw [overlong_of_packet stream rest first whole] at bad
      cases bad
    · cases again.symm.trans whole
      exact refused accepted
  cases round with
  | idle closed => simp [Client.arrival, closed] at arrived
  | unread open_ nothing => cases nothing.symm.trans arrived
  | waiting other packet open_ again unfinished fine =>
      cases again.symm.trans arrived
      rcases invalid with bad | ⟨first, rest, whole, -⟩
      · cases fine.symm.trans bad
      · cases unfinished.symm.trans whole
  | rejected other packet open_ again =>
      obtain ⟨next, done, shut⟩ := client.close_shut .invalidPacket standing.kept.sound.linked
      rw [done]
      exact ⟨false, next.withPacket packet, rfl, shut⟩
  | dispatched other first rest packet open_ again whole accepted =>
      cases again.symm.trans arrived
      exact absurd accepted (unstarted first rest whole)

/-- A malformed packet closes the connection, unless it is cut or overlooked. -/
theorem malformed_closes (stream : List UInt8)
    (arrived : client.arrival config input = some stream) (malformed : Malformed stream)
    (sober : ∀ first rest, client.front config input = some (first, rest) →
      ¬ CutIdentifier config.topicLimit first ∧ ¬ Overlooked config client input.send first) :
    ∃ more next, client.receiverPass config input = .ok (more, next) ∧ next.socket = false := by
  have sound := standing.kept.sound
  by_cases invalid : Client.Invalid stream
  · exact invalid_closes config client input standing stream arrived invalid
  · rcases malformed_cases stream malformed with bad | ⟨first, rest, whole, refused⟩
    · exact absurd (Or.inl bad) invalid
    · have accepted : first.Accepted := by
        by_contra unaccepted
        exact invalid (Or.inr ⟨first, rest, whole, unaccepted⟩)
      have there : client.front config input = some (first, rest) := by
        rw [Client.front, arrived]
        exact whole
      obtain ⟨more, next, pass⟩ := client.receiverPass_returns config input sound
        fun other tail found => (sober other tail found).1
      obtain ⟨packet, outcome, -⟩ := client.round_accepted config input stream rest first sound
        arrived whole accepted
      refine ⟨more, next, pass, ?_⟩
      rw [pass] at outcome
      obtain ⟨result, responded, same⟩ := Client.map_ok _ _ _ outcome.symm
      cases same
      have open_ : client.socket = true := by
        by_contra closed
        simp [Client.arrival, closed] at arrived
      exact respond_shut config client input.send result first standing (sound.linked.mp open_)
        accepted refused (sober first rest there).2 responded

theorem overlooked_stays (first : Packet) (rest : List UInt8)
    (there : client.front config input = some (first, rest))
    (seen : Overlooked config client input.send first) :
    ∃ stream more next, client.arrival config input = some stream ∧ Malformed stream ∧
      client.receiverPass config input = .ok (more, next) ∧ next.socket = true := by
  have sound := standing.kept.sound
  obtain ⟨stream, arrived, whole⟩ := Option.bind_eq_some_iff.mp there
  have malformed := malformed_of_packet stream rest first whole
    (overlooked_refused config client input.send first seen)
  have open_ : client.socket = true := by
    by_contra closed
    simp [Client.arrival, closed] at arrived
  obtain ⟨result, responded, online⟩ := overlooked_open config client input.send first sound.linked
    (sound.linked.mp open_) seen
  obtain ⟨packet, outcome, -, -, left⟩ := client.round_accepted config input stream rest first
    sound arrived whole (overlooked_accepted config client input.send first seen)
  rw [responded] at outcome
  exact ⟨stream, true, result.withPacket packet, arrived, malformed, outcome,
    (left result responded).1.mpr online⟩

/-- A round that returns within the buffer keeps the invariant. -/
theorem round_holding (next : Client) (more : Bool) (inside : ¬ Overruns config client input)
    (filled : client.receivePacket.inPtr ≤ client.receivePacket.bufferSize)
    (done : client.receiverPass config input = .ok (more, next)) :
    Holding config (.running next) := by
  have performed : perform config client (.receiver input) = .ok (some next) := by
    simp [perform, done]
  have after := perform_standing config client next (.receiver input) standing performed
  have size : next.receivePacket.bufferSize = client.receivePacket.bufferSize :=
    after.kept.sound.bounded.bufferSize.trans standing.kept.sound.bounded.bufferSize.symm
  refine ⟨after, ?_⟩
  rw [size]
  rcases client.receiverPass_filled config next input more standing.kept.sound done with
    smaller | ⟨stream, arrived, smaller⟩
  · exact smaller.trans filled
  · obtain ⟨bytes, read, length⟩ := client.arrival_length config input stream arrived
    have within : client.receivePacket.inPtr + bytes.length ≤ client.receivePacket.bufferSize := by
      by_contra beyond
      exact inside ⟨by simp [arrived], bytes, read, Nat.lt_of_not_le beyond⟩
    exact smaller.trans (length.trans within)

end Rounds

section Steps
variable (config : Config)

/-- A step outside `Receiver` cannot fail in it and does not fill the buffer. -/
theorem other_holding (client : Client) (next : Machine) (operation : Operation config.toPlatform)
    (holding : Holding config (.running client)) (other : operation.isReceiver = false)
    (taken : step config (.running client) operation = some next) : Holding config next := by
  rcases step_cases config _ next operation taken with
    ⟨same, equal, ⟨after, done, rfl⟩ | ⟨fault, failed, rfl⟩⟩
  · cases equal
    have standing := perform_standing config client after operation holding.1 done
    have untouched := perform_untouched config client after operation holding.1.kept.sound.linked
      other done
    have size : after.receivePacket.bufferSize = client.receivePacket.bufferSize :=
      standing.kept.sound.bounded.bufferSize.trans holding.1.kept.sound.bounded.bufferSize.symm
    refine ⟨standing, ?_⟩
    rw [size]
    rcases untouched.buffer with same | empty
    · rw [same]
      exact holding.2
    · rw [empty]
      exact Nat.zero_le _
  · exact other

theorem round_taken (client next : Client) (input : ReceiveInput config.toPlatform) (more : Bool)
    (inside : ¬ Overruns config client input)
    (done : client.receiverPass config input = .ok (more, next)) :
    checkedStep config (.running client) (.receiver input) = some (.running next) := by
  rw [checkedStep, if_neg inside]
  simp [step, perform, done]

theorem step_holding (state next : Machine) (operation : Operation config.toPlatform)
    (holding : Holding config state) (sober : Sober config state operation)
    (taken : checkedStep config state operation = some next) : Holding config next := by
  cases state with
  | failed inReceiver fault => cases operation <;> cases taken
  | running client =>
      cases operation with
      | receiver input =>
          have inside := (roomy_iff config client input holding.1).mp sober.1
          obtain ⟨more, after, pass⟩ := client.receiverPass_returns config input
            holding.1.kept.sound fun first rest there => (sober.2 first rest there).1
          cases (round_taken config client after input more inside pass).symm.trans taken
          exact round_holding config client input holding.1 after more inside holding.2 pass
      | _ => exact other_holding config client next _ holding rfl taken

/-- From a state of the invariant, the condition is what the step needs. -/
theorem sober_iff (state next : Machine) (operation : Operation config.toPlatform)
    (holding : Holding config state) (taken : checkedStep config state operation = some next) :
    Sober config state operation ↔ Safe config next ∧ Refuses config state operation := by
  constructor
  · intro sober
    refine ⟨holding_safe config next (step_holding config state next operation holding sober taken),
      ?_⟩
    cases state with
    | failed inReceiver fault => trivial
    | running client =>
        cases operation with
        | receiver input =>
            intro stream arrived malformed
            have inside := (roomy_iff config client input holding.1).mp sober.1
            obtain ⟨more, after, pass, shut⟩ := malformed_closes config client input holding.1
              stream arrived malformed sober.2
            exact ⟨after, round_taken config client after input more inside pass, shut⟩
        | _ => trivial
  · rintro ⟨safe, refuses⟩
    cases state with
    | failed inReceiver fault => trivial
    | running client =>
        cases operation with
        | receiver input =>
            have inside : ¬ Overruns config client input := by
              intro overruns
              rw [checkedStep, if_pos overruns] at taken
              cases taken
              cases safe
            refine ⟨(roomy_iff config client input holding.1).mpr inside, ?_⟩
            intro first rest there
            constructor
            · intro cut
              have fails := client.receiverPass_fails config input first rest
                holding.1.kept.sound there cut
              rw [checkedStep, if_neg inside] at taken
              simp only [step, perform, fails, error_bind, Option.some.injEq] at taken
              cases taken
              cases safe
            · intro seen
              obtain ⟨stream, more, after, arrived, malformed, pass, open_⟩ :=
                overlooked_stays config client input holding.1 first rest there seen
              obtain ⟨other, again, shut⟩ := refuses stream arrived malformed
              cases (round_taken config client after input more inside pass).symm.trans again
              cases open_.symm.trans shut
        | _ => trivial

end Steps

/-- In every run: no assertion fails in `Receiver`, nothing is read or written outside the
filled part of the buffer, and every malformed packet closes the connection, exactly when
all rounds are sober. -/
theorem receiver_safe_iff_sober (config : Config) (client : Client)
    (operations : List (Operation config.toPlatform)) (final : Machine)
    (constructed : Constructed config client)
    (reached : run (checkedStep config) (.running client) operations = some final) :
    Throughout (checkedStep config) (Safe config) (.running client) operations ∧
        Along (checkedStep config) (Refuses config) (.running client) operations ↔
      Along (checkedStep config) (Sober config) (.running client) operations :=
  throughout_and_along_iff (Sober config) (Refuses config) (Holding config) (Safe config)
    (holding_safe config)
    (fun state operation next holding sober =>
      step_holding config state next operation holding sober)
    (fun state operation next holding taken =>
      sober_iff config state next operation holding taken)
    (.running client) final operations (constructed_holding config client constructed) reached

/-- A CONNACK in two reads, and then a PUBLISH with QoS 3. -/
def partedConnAck : List (Operation Config.default.toPlatform) :=
  [.connect plainRequest smoothConnect, .receiver (delivers [0x20, 2] (by decide)),
    .receiver (delivers [0, 0] (by decide)),
    .receiver (delivers [0x36, 3, 0, 1, 97] (by decide))]

theorem partedConnAck_safe :
    Throughout (checkedStep Config.default) (Safe Config.default)
        (.running (Client.fresh Config.default)) partedConnAck ∧
      Along (checkedStep Config.default) (Refuses Config.default)
        (.running (Client.fresh Config.default)) partedConnAck := by
  have roomy : ∀ client input, Roomy Config.default client input := fun _ _ => Or.inl (by decide)
  refine (receiver_safe_iff_sober Config.default (Client.fresh Config.default) partedConnAck _
    (fresh_constructed Config.default) rfl).mpr ⟨trivial, ?_⟩
  intro connected taken
  cases taken
  refine ⟨⟨roomy _ _, fun first rest there => by cases there⟩, ?_⟩
  intro halfway taken
  cases taken
  refine ⟨⟨roomy _ _, fun first rest there => ?_⟩, ?_⟩
  · cases there
    refine ⟨fun cut => absurd cut.1 (by decide), fun seen => ?_⟩
    exact overlooked_refused _ _ _ _ seen (.connAck 0 0 (by decide) (by decide) fun _ => rfl)
  · intro acknowledged taken
    cases taken
    refine ⟨⟨roomy _ _, fun first rest there => ?_⟩, fun _ _ => trivial⟩
    cases there
    exact ⟨fun cut => absurd cut.2.1 (by decide),
      fun seen => absurd (overlooked_accepted _ _ _ _ seen) (by decide)⟩

def cutPublish : List (Operation Config.default.toPlatform) :=
  [.connect plainRequest smoothConnect, .receiver (delivers [0x20, 2, 0, 0] connAck_short),
    .receiver (delivers [0x32, 5, 0, 3, 97, 98, 99] (by decide))]

/-- A `size_t` of 32 bits, and a product that is one less than it can hold. -/
def wrapped : Config :=
  { Config.default with
    sizeBits := 32, maxPacketSize := 65535, maxPacketsQueued := 65537
    packetSize := by decide, packetsQueued := by decide }

def wholeFrame : ReceiveInput wrapped.toPlatform :=
  { read := some ⟨List.replicate 1600 0, List.length_replicate.le⟩, send := .willing }

def reservedConnAck : ReceiveInput Config.default.toPlatform :=
  delivers [0x20, 2, 0xFE, 0] (by decide)

theorem wholeFrame_overruns (client : Client)
    (opened : client.socket = true ∧ client.receivePacket.allocated = true)
    (size : client.receivePacket.bufferSize = wrapped.bufferSize)
    (empty : client.receivePacket.inPtr = 0) : Overruns wrapped client wholeFrame := by
  refine ⟨?_, List.replicate 1600 0, rfl, ?_⟩
  · rw [Client.arrival, if_pos ⟨opened.1, opened.2, empty ▸ Nat.zero_le _⟩]
    exact Option.some_ne_none _
  · rw [size, empty, List.length_replicate]
    decide

theorem receiver_unsafe :
    (∃ final, run (checkedStep Config.default) (.running (Client.fresh Config.default))
          cutPublish = some final ∧
        ¬ Throughout (checkedStep Config.default) (Safe Config.default)
          (.running (Client.fresh Config.default)) cutPublish) ∧
      (∃ final, run (checkedStep wrapped) (.running (Client.fresh wrapped))
          [.connect plainRequest smoothConnect, .receiver wholeFrame] = some final ∧
        ¬ Throughout (checkedStep wrapped) (Safe wrapped) (.running (Client.fresh wrapped))
          [.connect plainRequest smoothConnect, .receiver wholeFrame]) ∧
      ∃ final, run (checkedStep Config.default) (.running (Client.fresh Config.default))
          [.connect plainRequest smoothConnect, .receiver reservedConnAck] = some final ∧
        ¬ Along (checkedStep Config.default) (Refuses Config.default)
          (.running (Client.fresh Config.default))
          [.connect plainRequest smoothConnect, .receiver reservedConnAck] := by
  refine ⟨⟨_, rfl, ?_⟩, ?_, ⟨_, rfl, ?_⟩⟩
  · intro always
    have connected := always.2 _ rfl
    have acknowledged := connected.2 _ rfl
    have failed := acknowledged.2 _ rfl
    cases failed
  · obtain ⟨client, taken, opened, size, empty⟩ : ∃ client,
        checkedStep wrapped (.running (Client.fresh wrapped)) (.connect plainRequest smoothConnect) =
          some (.running client) ∧
        (client.socket = true ∧ client.receivePacket.allocated = true) ∧
        client.receivePacket.bufferSize = wrapped.bufferSize ∧ client.receivePacket.inPtr = 0 :=
      ⟨_, rfl, ⟨rfl, rfl⟩, rfl, rfl⟩
    have stops : checkedStep wrapped (.running client) (.receiver wholeFrame) =
        some (.failed true .writeOutside) :=
      if_pos (wholeFrame_overruns client opened size empty)
    refine ⟨.failed true .writeOutside, by simp [run, taken, stops], fun always => ?_⟩
    have connected := always.2 _ taken
    have failed := connected.2 _ stops
    cases failed
  · intro refuses
    have read := refuses.2 _ rfl
    obtain ⟨next, taken, shut⟩ := read.1 [0x20, 2, 0xFE, 0] rfl
      (.packet 0x20 [2] [0xFE, 0] [] (by decide) (.last 2 (by decide)) fun wellFormed =>
        absurd (connAck_reserved 0xFE 0 wellFormed) (by decide))
    cases taken
    cases shut

end CircleStdlib.Mqtt.ReceiverSafety
