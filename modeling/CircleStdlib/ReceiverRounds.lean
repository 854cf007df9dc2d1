import CircleStdlib.PacketResponse

/-!
The rounds of `Receiver`, in full. `Round` has one constructor for each way a
round can go: there is no connection; nothing was read; the buffer does not hold
a whole packet yet; what it holds is no packet; or a packet is dispatched, with
the effect that `respond` says. Whatever is to be proved about rounds is proved
by cases over it.
-/

namespace CircleStdlib.Mqtt

open Checked

/-- Why `Receive` did not get to parse anything. -/
def Client.unreadReason (config : Config) (client : Client) : DisconnectReason :=
  if client.receivePacket.allocated = false ∨
      client.receivePacket.inPtr >
        config.sizeSub client.receivePacket.bufferSize config.frameBufferSize then
    .insufficientResources
  else .fromPeer

inductive Round (config : Config) (client : Client) (input : ReceiveInput config.toPlatform) :
    Except Fault (Bool × Client) → Prop where
  | idle (closed : client.socket = false) : Round config client input (.ok (false, client))
  | unread (open_ : client.socket = true) (nothing : client.arrival config input = none) :
      Round config client input
        ((client.closeConnection (client.unreadReason config)).map fun next => (false, next))
  | waiting (stream : List UInt8) (packet : ReceivePacket) (open_ : client.socket = true)
      (arrived : client.arrival config input = some stream)
      (unfinished : firstPacket stream = none) (fine : overlong stream = false)
      (received : packet.received = stream) (bounded : Client.Bounded config packet)
      (allocated : packet.allocated = client.receivePacket.allocated) :
      Round config client input (.ok (false, client.withPacket packet))
  | rejected (stream : List UInt8) (packet : ReceivePacket) (open_ : client.socket = true)
      (arrived : client.arrival config input = some stream) (invalid : Client.Invalid stream)
      (bounded : Client.Bounded config packet)
      (allocated : packet.allocated = client.receivePacket.allocated) :
      Round config client input
        ((client.closeConnection .invalidPacket).map fun next => (false, next.withPacket packet))
  | dispatched (stream : List UInt8) (first : Packet) (rest : List UInt8) (packet : ReceivePacket)
      (open_ : client.socket = true) (arrived : client.arrival config input = some stream)
      (whole : firstPacket stream = some (first, rest)) (accepted : first.Accepted)
      (bounded : Client.Bounded config packet)
      (allocated : packet.allocated = client.receivePacket.allocated)
      (left : ∀ next, client.respond config first input.send = .ok next →
        next.Linked ∧ (next.socket = true → packet.received = leftover first rest)) :
      Round config client input
        ((client.respond config first input.send).map fun next => (true, next.withPacket packet))

namespace Client

theorem receiverPass_unread (config : Config) (client : Client)
    (input : ReceiveInput config.toPlatform) (open_ : client.socket = true)
    (nothing : client.arrival config input = none) :
    client.receiverPass config input =
      (client.closeConnection (client.unreadReason config)).map fun next => (false, next) := by
  have closes : ∀ reason : DisconnectReason, (do
        let next ← (client.withPacket client.receivePacket).closeConnection reason
        return (false, next)) =
      (client.closeConnection reason).map fun next => (false, next) := by
    intro reason
    change (client.closeConnection reason >>= _) = _
    cases client.closeConnection reason with
    | error fault => rfl
    | ok next => rfl
  unfold receiverPass unreadReason
  rw [if_neg (by simp [open_])]
  unfold ReceivePacket.receive
  by_cases missing : client.receivePacket.allocated = false
  · rw [if_pos missing, if_pos (Or.inl missing)]
    exact closes .insufficientResources
  · rw [if_neg missing]
    by_cases full : client.receivePacket.inPtr >
        config.sizeSub client.receivePacket.bufferSize config.frameBufferSize
    · rw [if_pos full, if_pos (Or.inr full)]
      exact closes .insufficientResources
    · rw [if_neg full, if_neg (by simp [missing, full])]
      cases read : input.bytes with
      | none => exact closes .fromPeer
      | some bytes =>
          have ready : client.socket = true ∧ client.receivePacket.allocated = true ∧
              client.receivePacket.inPtr ≤
                config.sizeSub client.receivePacket.bufferSize config.frameBufferSize :=
            ⟨open_, by simpa using missing, by omega⟩
          simp [arrival, ready, read] at nothing

theorem round_dispatched (config : Config) (client : Client)
    (input : ReceiveInput config.toPlatform) (stream rest : List UInt8) (first : Packet)
    (sound : Sound config client) (arrived : client.arrival config input = some stream)
    (whole : firstPacket stream = some (first, rest)) (accepted : first.Accepted) :
    Round config client input (client.receiverPass config input) := by
  have there : client.front config input = some (first, rest) := by
    rw [front, arrived]
    exact whole
  rcases client.receiverPass_found config input first rest sound.bounded there accepted with
    ⟨open_, found, inside, bounded, allocated, pass⟩
  rcases handlePacket_responds config (client.withPacket found) input.send first rest sound.linked
    inside accepted with ⟨packet, handled⟩
  rw [respond_withPacket] at handled
  cases meant : client.respond config first input.send with
  -- The handler fails an assertion, and nothing is said of a next client.
  | error fault =>
      have outcome : client.receiverPass config input =
          (client.respond config first input.send).map fun next =>
            (true, next.withPacket client.receivePacket) := by
        rw [pass, handled, meant]
        rfl
      rw [outcome]
      refine .dispatched stream first rest client.receivePacket open_ arrived whole accepted
        sound.bounded rfl ?_
      intro next done
      rw [meant] at done
      cases done
  | ok next =>
      have outcome : client.receiverPass config input =
          (client.respond config first input.send).map fun next =>
            (true, next.withPacket packet) := by
        rw [pass, handled, meant]
        rfl
      rw [meant] at handled
      -- otherwise the handler would have failed
      have uncut : ¬ CutIdentifier config.topicLimit first := by
        intro cut
        rw [handlePacket_cut config (client.withPacket found) input.send first rest inside cut]
          at handled
        cases handled
      rcases handlePacket_handled config (client.withPacket found) input.send first rest open_
        sound.linked inside accepted uncut with ⟨result, handling, paid⟩
      rw [handling] at handled
      cases handled
      rw [outcome]
      refine .dispatched stream first rest packet open_ arrived whole accepted
        ⟨paid.bufferSize.trans bounded.bufferSize, paid.inPtr.trans bounded.inPtr⟩
        (paid.allocated.trans allocated) ?_
      intro other done
      rw [meant] at done
      cases done
      exact ⟨paid.linked, paid.framed⟩

/-- Every round goes one of these ways. -/
theorem receiverPass_round (config : Config) (client : Client)
    (input : ReceiveInput config.toPlatform) (sound : Sound config client) :
    Round config client input (client.receiverPass config input) := by
  by_cases open_ : client.socket = true
  · cases arrived : client.arrival config input with
    | none =>
        rw [receiverPass_unread config client input open_ arrived]
        exact .unread open_ arrived
    | some stream =>
        rcases client.receive_arrival config input stream sound.bounded arrived with
          ⟨-, filled, received, size, allocated, receive⟩
        have pass : ∀ status packet, filled.parse = .ok (status, packet) →
            client.receivePacket.receive config.toPlatform input.bytes = .ok (status, packet) :=
          fun status packet parsed => receive.trans parsed
        by_cases invalid : Invalid stream
        · rcases parse_invalid filled (received ▸ invalid) with ⟨packet, parsed, kept⟩
          have outcome : client.receiverPass config input =
              (client.closeConnection .invalidPacket).map fun next =>
                (false, next.withPacket packet) := by
            simp only [receiverPass, open_, Bool.true_eq_false, ↓reduceIte, pass _ _ parsed,
              ok_bind, closeConnection_withPacket]
            cases client.closeConnection .invalidPacket with
            | error fault => rfl
            | ok next => rfl
          rw [outcome]
          exact .rejected stream packet open_ arrived invalid
            ⟨kept.bufferSize.trans size.bufferSize, kept.inPtr ▸ size.inPtr⟩
            (kept.allocated.trans allocated)
        · cases whole : firstPacket stream with
          | some found =>
              have accepted : found.1.Accepted := by
                by_contra refused
                exact invalid (Or.inr ⟨found.1, found.2, whole, refused⟩)
              exact round_dispatched config client input stream found.2 found.1 sound arrived whole
                accepted
          | none =>
              have fine : overlong stream = false := by
                by_contra bad
                exact invalid (Or.inl (by simpa using bad))
              rcases filled.parse_partial (received ▸ whole) with ⟨packet, parsed, kept⟩
              rw [received, fine, if_neg (by simp)] at parsed
              have outcome : client.receiverPass config input =
                  .ok (false, client.withPacket packet) := by
                simp only [receiverPass, open_, Bool.true_eq_false, ↓reduceIte, pass _ _ parsed,
                  ok_bind]
                rfl
              have same : packet.received = stream := by
                rw [ReceivePacket.received, kept.buffer, kept.inPtr]
                exact received
              rw [outcome]
              exact .waiting stream packet open_ arrived whole fine same
                ⟨kept.bufferSize.trans size.bufferSize, kept.inPtr ▸ size.inPtr⟩
                (kept.allocated.trans allocated)
  · have closed : client.socket = false := by simpa using open_
    have outcome : client.receiverPass config input = .ok (false, client) := by
      simp [receiverPass, closed]
    rw [outcome]
    exact .idle closed

/-! What a round does, read off the stream it finds. -/

theorem round_waiting (config : Config) (client : Client) (input : ReceiveInput config.toPlatform)
    (stream : List UInt8) (sound : Sound config client)
    (arrived : client.arrival config input = some stream) (unfinished : firstPacket stream = none)
    (fine : overlong stream = false) :
    ∃ packet, client.receiverPass config input = .ok (false, client.withPacket packet) ∧
      packet.received = stream ∧ Bounded config packet ∧
      packet.allocated = client.receivePacket.allocated := by
  have round := receiverPass_round config client input sound
  generalize client.receiverPass config input = outcome at round
  cases round with
  | idle closed => simp [arrival, closed] at arrived
  | unread open_ nothing => cases nothing.symm.trans arrived
  | waiting other packet open_ again _ _ received bounded allocated =>
      cases again.symm.trans arrived
      exact ⟨packet, rfl, received, bounded, allocated⟩
  | rejected other packet open_ again invalid =>
      cases again.symm.trans arrived
      rcases invalid with bad | ⟨first, rest, whole, -⟩
      · rw [fine] at bad
        cases bad
      · rw [unfinished] at whole
        cases whole
  | dispatched other first rest packet open_ again whole =>
      cases again.symm.trans arrived
      rw [unfinished] at whole
      cases whole

theorem round_accepted (config : Config) (client : Client) (input : ReceiveInput config.toPlatform)
    (stream rest : List UInt8) (first : Packet) (sound : Sound config client)
    (arrived : client.arrival config input = some stream)
    (whole : firstPacket stream = some (first, rest)) (accepted : first.Accepted) :
    ∃ packet, client.receiverPass config input =
        (client.respond config first input.send).map (fun next => (true, next.withPacket packet)) ∧
      Bounded config packet ∧ packet.allocated = client.receivePacket.allocated ∧
      ∀ next, client.respond config first input.send = .ok next →
        next.Linked ∧ (next.socket = true → packet.received = leftover first rest) := by
  have round := receiverPass_round config client input sound
  generalize client.receiverPass config input = outcome at round
  cases round with
  | idle closed => simp [arrival, closed] at arrived
  | unread open_ nothing => cases nothing.symm.trans arrived
  | waiting other packet open_ again unfinished =>
      cases again.symm.trans arrived
      rw [unfinished] at whole
      cases whole
  | rejected other packet open_ again invalid =>
      cases again.symm.trans arrived
      rcases invalid with bad | ⟨found, rest, there, refused⟩
      · rw [overlong_of_packet stream _ first whole] at bad
        cases bad
      · rw [whole] at there
        cases there
        exact absurd accepted refused
  | dispatched other found tail packet open_ again there _ bounded allocated left =>
      cases again.symm.trans arrived
      cases there.symm.trans whole
      exact ⟨packet, rfl, bounded, allocated, left⟩

theorem map_ok {Value Other : Type} (value : Except Fault Value) (change : Value → Other)
    (result : Other) (done : value.map change = .ok result) :
    ∃ middle, value = .ok middle ∧ change middle = result := by
  cases value with
  | error fault => cases done
  | ok middle => exact ⟨middle, rfl, Except.ok.inj done⟩

/-- A round that returns has dispatched the packet at the front, or it has found none
and has waited or closed the connection. -/
theorem receiverPass_cases (config : Config) (client next : Client)
    (input : ReceiveInput config.toPlatform) (more : Bool) (sound : Sound config client)
    (done : client.receiverPass config input = .ok (more, next)) :
    ((∀ first rest, client.front config input = some (first, rest) → ¬ first.Accepted) ∧
      ∃ packet, next = client.withPacket packet ∨
        ∃ reason closed, reason ≠ .packetIdentifier ∧
          client.closeConnection reason = .ok closed ∧ next = closed.withPacket packet) ∨
    ∃ first rest packet result, client.front config input = some (first, rest) ∧
      first.Accepted ∧ client.socket = true ∧
      client.respond config first input.send = .ok result ∧ next = result.withPacket packet := by
  have round := receiverPass_round config client input sound
  rw [done] at round
  generalize outcome : (Except.ok (more, next) : Except Fault (Bool × Client)) = result at round
  have unfound : ∀ stream, client.arrival config input = some stream →
      (firstPacket stream = none ∨ Invalid stream) →
      ∀ first rest, client.front config input = some (first, rest) → ¬ first.Accepted := by
    intro stream arrived missing first rest there accepted
    rw [front, arrived] at there
    have whole : firstPacket stream = some (first, rest) := there
    rcases missing with unfinished | bad | ⟨other, tail, again, refused⟩
    · cases unfinished.symm.trans whole
    · rw [overlong_of_packet stream rest first whole] at bad
      cases bad
    · cases again.symm.trans whole
      exact refused accepted
  have silent : client.arrival config input = none →
      ∀ first rest, client.front config input = some (first, rest) → ¬ first.Accepted := by
    intro nothing first rest there
    rw [front, nothing] at there
    cases there
  cases round with
  | idle closed =>
      cases outcome
      exact Or.inl ⟨silent (by simp [arrival, closed]), client.receivePacket, Or.inl rfl⟩
  | unread open_ nothing =>
      rcases map_ok _ _ _ outcome.symm with ⟨closed, closing, same⟩
      cases same
      refine Or.inl ⟨silent nothing, next.receivePacket, Or.inr ⟨_, next, ?_, closing, rfl⟩⟩
      unfold unreadReason
      split <;> decide
  | waiting stream packet open_ arrived unfinished =>
      cases outcome
      exact Or.inl ⟨unfound stream arrived (Or.inl unfinished), packet, Or.inl rfl⟩
  | rejected stream packet open_ arrived invalid =>
      rcases map_ok _ _ _ outcome.symm with ⟨closed, closing, same⟩
      cases same
      exact Or.inl ⟨unfound stream arrived (Or.inr invalid), packet,
        Or.inr ⟨_, closed, by decide, closing, rfl⟩⟩
  | dispatched stream first rest packet open_ arrived whole accepted =>
      rcases map_ok _ _ _ outcome.symm with ⟨handled, responded, same⟩
      cases same
      refine Or.inr ⟨first, rest, packet, handled, ?_, accepted, open_, responded, rfl⟩
      rw [front, arrived]
      exact whole

/-- Nothing but a cut identifier stops a round. -/
theorem receiverPass_returns (config : Config) (client : Client)
    (input : ReceiveInput config.toPlatform) (sound : Sound config client)
    (whole : ∀ first rest, client.front config input = some (first, rest) →
      ¬ CutIdentifier config.topicLimit first) :
    ∃ more next, client.receiverPass config input = .ok (more, next) := by
  by_cases found : ∃ first rest, client.front config input = some (first, rest) ∧ first.Accepted
  · rcases found with ⟨first, rest, there, accepted⟩
    rcases client.receiverPass_found config input first rest sound.bounded there accepted with
      ⟨open_, packet, inside, -, -, pass⟩
    rcases handlePacket_handled config (client.withPacket packet) input.send first rest open_
      sound.linked inside accepted (whole first rest there) with ⟨next, handling, -⟩
    rw [pass, handling]
    exact ⟨_, _, rfl⟩
  · have missing : ∀ first rest, client.front config input = some (first, rest) →
        ¬ first.Accepted := fun first rest there accepted => found ⟨first, rest, there, accepted⟩
    rcases client.receiverPass_unfound config input sound.linked sound.bounded missing with
      ⟨-, next, pass, -⟩
    exact ⟨_, _, pass⟩

theorem receiverPass_fails (config : Config) (client : Client)
    (input : ReceiveInput config.toPlatform) (first : Packet) (rest : List UInt8)
    (sound : Sound config client) (there : client.front config input = some (first, rest))
    (cut : CutIdentifier config.topicLimit first) :
    client.receiverPass config input = .error .consumedBeyondPacket := by
  rcases client.receiverPass_found config input first rest sound.bounded there cut.2.1 with
    ⟨-, packet, inside, -, -, pass⟩
  rw [pass, handlePacket_cut config (client.withPacket packet) input.send first rest inside cut]
  rfl

theorem closed_shut (client next : Client) (reason : DisconnectReason) (linked : client.Linked)
    (done : client.closeConnection reason = .ok next) : next.socket = false := by
  rcases client.closeConnection_kept next reason linked done with ⟨good, -, offline⟩
  by_contra open_
  exact good.mp (by simpa using open_) offline

theorem close_shut (client : Client) (reason : DisconnectReason) (linked : client.Linked) :
    ∃ next, client.closeConnection reason = .ok next ∧ next.socket = false := by
  rcases client.closeConnection_total reason linked with ⟨next, done⟩
  exact ⟨next, done, client.closed_shut next reason linked done⟩

/-! How far the buffer is filled. -/

theorem arrival_length (config : Config) (client : Client) (input : ReceiveInput config.toPlatform)
    (stream : List UInt8) (arrived : client.arrival config input = some stream) :
    ∃ bytes, input.bytes = some bytes ∧
      stream.length ≤ client.receivePacket.inPtr + bytes.length := by
  unfold arrival at arrived
  split at arrived
  · obtain ⟨bytes, read, rfl⟩ := Option.map_eq_some_iff.mp arrived
    refine ⟨bytes, read, ?_⟩
    rw [ReceivePacket.received_length]
    exact Nat.mod_le ..
  · cases arrived

/-- `Receive` leaves the buffer alone, or as full as the read has made it. -/
theorem receive_filled (config : Config) (client : Client) (input : ReceiveInput config.toPlatform)
    (status : ReceiveStatus) (packet : ReceivePacket) (open_ : client.socket = true)
    (bounded : Bounded config client.receivePacket)
    (done : client.receivePacket.receive config.toPlatform input.bytes = .ok (status, packet)) :
    packet = client.receivePacket ∨
      ∃ stream, client.arrival config input = some stream ∧ packet.inPtr = stream.length := by
  cases arrived : client.arrival config input with
  | none =>
      obtain ⟨_, received, -⟩ := client.receive_nothing config input open_ arrived
      cases received.symm.trans done
      exact Or.inl rfl
  | some stream =>
      obtain ⟨-, filled, received, -, -, receive⟩ :=
        client.receive_arrival config input stream bounded arrived
      have length : filled.inPtr = stream.length := by
        rw [← received, filled.received_length]
      refine Or.inr ⟨stream, rfl, ?_⟩
      rw [receive] at done
      cases whole : firstPacket stream with
      | none =>
          obtain ⟨next, parsed, kept⟩ := filled.parse_partial (received ▸ whole)
          cases parsed.symm.trans done
          exact kept.inPtr.trans length
      | some found =>
          obtain ⟨next, parsed, -, -, -, -, kept⟩ :=
            filled.parse_packet found.1 found.2 (received ▸ whole)
          cases parsed.symm.trans done
          exact kept.inPtr.trans length

theorem handlePacket_shorter (config : Config) (client next : Client)
    (input : ReceiveInput config.toPlatform) (packet : ReceivePacket) (sound : Sound config client)
    (received : client.receivePacket.receive config.toPlatform input.bytes =
      .ok (.packetOK, packet)) (open_ : client.socket = true)
    (done : (client.withPacket packet).handlePacket config input.send = .ok next) :
    next.receivePacket.inPtr ≤ packet.inPtr := by
  by_cases found : ∃ first rest, client.front config input = some (first, rest) ∧ first.Accepted
  · obtain ⟨first, rest, there, accepted⟩ := found
    obtain ⟨-, other, inside, -, -, again⟩ :=
      client.receive_found config input first rest sound.bounded there accepted
    cases received.symm.trans again
    have uncut : ¬ CutIdentifier config.topicLimit first := by
      intro cut
      rw [handlePacket_cut config _ input.send first rest inside cut] at done
      cases done
    obtain ⟨handled, handling, result⟩ := (client.withPacket packet).handlePacket_handled config
      input.send first rest open_ sound.linked inside accepted uncut
    cases handling.symm.trans done
    exact result.inPtr
  · obtain ⟨status, other, again, bad, -⟩ := client.receive_unfound config input open_ sound.bounded
      fun first rest there accepted => found ⟨first, rest, there, accepted⟩
    cases received.symm.trans again
    exact absurd rfl bad

theorem receiverPass_filled (config : Config) (client next : Client)
    (input : ReceiveInput config.toPlatform) (more : Bool) (sound : Sound config client)
    (done : client.receiverPass config input = .ok (more, next)) :
    next.receivePacket.inPtr ≤ client.receivePacket.inPtr ∨
      ∃ stream, client.arrival config input = some stream ∧
        next.receivePacket.inPtr ≤ stream.length := by
  unfold receiverPass at done
  split at done
  · cases done
    exact Or.inl le_rfl
  · rename_i closed
    have open_ : client.socket = true := by simpa using closed
    obtain ⟨⟨status, packet⟩, received, done⟩ := (bind_ok _ _ _).mp done
    have shorter : next.receivePacket.inPtr ≤ packet.inPtr := by
      have shut : ∀ reason, (do
          let closed ← (client.withPacket packet).closeConnection reason
          return (false, closed)) = Except.ok (more, next) →
          next.receivePacket.inPtr ≤ packet.inPtr := by
        intro reason closing
        obtain ⟨after, closing, same⟩ := (bind_ok _ _ _).mp closing
        cases same
        obtain ⟨-, same, -⟩ :=
          closeConnection_kept (client.withPacket packet) next reason sound.linked closing
        rw [same]
        exact le_rfl
      cases status with
      | «continue» =>
          cases done
          exact le_rfl
      | packetInvalid => exact shut .invalidPacket done
      | disconnect => exact shut .fromPeer done
      | notEnoughMemory => exact shut .insufficientResources done
      | packetOK =>
          obtain ⟨handled, handling, same⟩ := (bind_ok _ _ _).mp done
          cases same
          exact handlePacket_shorter config client next input packet sound received open_ handling
    rcases client.receive_filled config input status packet open_ sound.bounded received with
      rfl | ⟨stream, arrived, length⟩
    · exact Or.inl shorter
    · exact Or.inr ⟨stream, arrived, length ▸ shorter⟩

end Client

end CircleStdlib.Mqtt
