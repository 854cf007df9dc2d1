import CircleStdlib.ReceiverSteps

/-!
The client as a machine that stops at a failed assertion, and the invariant of
every run: the socket and the status agree, and the receive buffer keeps its
size and is filled at most by one read more than may be queued. No operation but
`Receiver` touches the buffer, except that `Connect` empties it.
-/

namespace CircleStdlib.Mqtt

open Checked Execution

structure Sound (config : Config) (client : Client) : Prop where
  linked : client.Linked
  bounded : Client.Bounded config client.receivePacket

/-- A run goes on with the client, or ends in a failed assertion: inside
`Receiver`, or in one of the other operations. -/
inductive Machine where
  | running (client : Client)
  | failed (inReceiver : Bool) (fault : Fault)

def Operation.isReceiver {platform : Platform} : Operation platform → Bool
  | .receiver _ => true
  | _ => false

def step (config : Config) : Machine → Operation config.toPlatform → Option Machine
  | .failed _ _, _ => none
  | .running client, operation =>
      match perform config client operation with
      | .ok none => none
      | .ok (some next) => some (.running next)
      | .error fault => some (.failed operation.isReceiver fault)

theorem constructed_sound (config : Config) (client : Client)
    (constructed : Constructed config client) : Sound config client := by
  refine ⟨?_, constructed.bufferSize, ?_⟩
  · unfold Client.Linked
    simp [constructed.socket, constructed.status]
  · rw [constructed.inPtr]
    exact Nat.zero_le _

structure Untouched (client next : Client) : Prop where
  linked : next.Linked
  buffer : next.receivePacket = client.receivePacket ∨
    next.receivePacket = client.receivePacket.reset

theorem Untouched.trans {client middle next : Client} (first : Untouched client middle)
    (second : Untouched middle next) : Untouched client next := by
  refine ⟨second.linked, ?_⟩
  rcases first.buffer with one | one <;> rcases second.buffer with two | two <;> rw [two, one]
  · exact Or.inl rfl
  · exact Or.inr rfl
  · exact Or.inr rfl
  · exact Or.inr rfl

theorem sound_untouched (config : Config) (client next : Client) (sound : Sound config client)
    (untouched : Untouched client next) : Sound config next := by
  refine ⟨untouched.linked, ?_⟩
  rcases untouched.buffer with same | empty
  · rw [same]
    exact sound.bounded
  · rw [empty]
    exact ⟨sound.bounded.bufferSize, Nat.zero_le _⟩

namespace Client

theorem framed_untouched (client next : Client) (linked : client.Linked)
    (framed : Framed client next) : Untouched client next :=
  ⟨linked_framed client next framed linked, Or.inl framed.receivePacket⟩

theorem close_untouched (client next : Client) (reason : DisconnectReason)
    (linked : client.Linked) (done : client.closeConnection reason = .ok next) :
    Untouched client next := by
  rcases closeConnection_kept client next reason linked done with ⟨good, same, -⟩
  exact ⟨good, Or.inl same⟩

theorem sendAndQueue_untouched (platform : Platform) (client next : Client) (packet : SendPacket)
    (uchQoS : UInt8) (usPacketIdentifier : UInt16) (input : SendInput) (linked : client.Linked)
    (done : client.sendAndQueue platform packet uchQoS usPacketIdentifier input = .ok next) :
    Untouched client next := by
  rcases sendAndQueue_kept platform client next packet uchQoS usPacketIdentifier input linked
    done with ⟨good, same⟩
  exact ⟨good, Or.inl same⟩

theorem subscribe_untouched (config : Config) (client next : Client) (pTopic : List UInt8)
    (uchQoS : UInt8) (input : SendInput) (linked : client.Linked)
    (done : client.subscribe config pTopic uchQoS input = .ok next) : Untouched client next := by
  simp only [subscribe, bind_ok] at done
  rcases done with ⟨_, -, packet, -, done⟩
  have sent := sendAndQueue_untouched config.toPlatform client.advanceIdentifier next packet 1 _
    input linked done
  exact ⟨sent.linked, sent.buffer⟩

theorem unsubscribe_untouched (config : Config) (client next : Client) (pTopic : List UInt8)
    (input : SendInput) (linked : client.Linked)
    (done : client.unsubscribe config pTopic input = .ok next) : Untouched client next := by
  simp only [unsubscribe, bind_ok] at done
  rcases done with ⟨packet, -, done⟩
  have sent := sendAndQueue_untouched config.toPlatform client.advanceIdentifier next packet 1 _
    input linked done
  exact ⟨sent.linked, sent.buffer⟩

theorem publish_untouched (config : Config) (client next : Client) (pTopic payload : List UInt8)
    (uchQoS : UInt8) (bRetain : Bool) (input : SendInput) (linked : client.Linked)
    (done : client.publish config pTopic payload uchQoS bRetain input = .ok next) :
    Untouched client next := by
  simp only [publish, bind_ok] at done
  rcases done with ⟨_, -, packet, -, done⟩
  have sent := sendAndQueue_untouched config.toPlatform client.advanceIdentifier next packet uchQoS
    _ input linked done
  exact ⟨sent.linked, sent.buffer⟩

theorem disconnect_untouched (config : Config) (client next : Client) (bForce : Bool)
    (input : SendInput) (linked : client.Linked)
    (done : client.disconnect config bForce input = .ok next) : Untouched client next := by
  unfold disconnect at done
  split at done
  · exact close_untouched client next _ linked done
  · simp only [bind_ok] at done
    rcases done with ⟨⟨sent, after, middle⟩, sending, closing⟩
    have framed := sendPacket_framed config.toPlatform client middle _ after input sent sending
    have first := framed_untouched client middle linked framed
    exact first.trans (close_untouched middle next _ first.linked closing)

theorem connect_untouched (config : Config) (client next : Client) (request : ConnectRequest)
    (input : ConnectInput) (linked : client.Linked)
    (done : client.connect config request input = .ok next) : Untouched client next := by
  rcases client.connect_outcome config next request input done with
    ⟨-, ⟨-, reason, -, rfl⟩ | ⟨-, packet, after, middle, sent, -, sending, outcome⟩⟩
  · exact ⟨linked, Or.inl rfl⟩
  · have opened : Untouched client (client.opened request.keepAliveSeconds) :=
      ⟨⟨fun _ => by simp [Client.opened], fun _ => rfl⟩, Or.inr rfl⟩
    have framed := sendPacket_framed config.toPlatform _ middle packet after input.send sent sending
    have first := opened.trans (framed_untouched _ middle opened.linked framed)
    rcases outcome with ⟨-, rfl⟩ | ⟨-, closing⟩
    · exact first
    · exact first.trans (close_untouched middle next _ first.linked closing)

theorem senderLoop_untouched (platform : Platform) (nTicks : UInt32) (client next : Client)
    (passed ahead : List SendPacket) (inputs : List SendInput) (linked : client.Linked)
    (done : client.senderLoop platform nTicks passed ahead inputs = .ok (some next)) :
    Untouched client next := by
  induction inputs generalizing client passed ahead with
  | nil =>
      unfold senderLoop at done
      split at done
      · cases done
        exact ⟨linked, Or.inl rfl⟩
      · split at done
        · cases done
          exact ⟨linked, Or.inl rfl⟩
        · cases done
  | cons input inputs ih =>
      unfold senderLoop at done
      split at done
      · cases done
        exact ⟨linked, Or.inl rfl⟩
      · split at done
        · cases done
          exact ⟨linked, Or.inl rfl⟩
        · simp only [bind_ok] at done
          rcases done with ⟨packet, -, ⟨sent, after, middle⟩, sending, done⟩
          have framed := sendPacket_framed platform _ middle packet after input sent sending
          have requeued : ∀ queue, Untouched client (client.withQueue queue) := fun _ =>
            ⟨linked, Or.inl rfl⟩
          have first := (requeued _).trans (framed_untouched _ middle (requeued _).linked framed)
          split at done
          · exact first.trans (ih middle _ _ first.linked done)
          · simp only [bind_ok, pure_ok, Except.ok.injEq, Option.some.injEq] at done
            rcases done with ⟨closed, closing, rfl⟩
            exact first.trans (close_untouched middle closed _ first.linked closing)

theorem keepAliveHandler_untouched (platform : Platform) (client next : Client) (ticks : UInt32)
    (input : SendInput) (linked : client.Linked)
    (done : client.keepAliveHandler platform ticks input = .ok next) : Untouched client next := by
  have stopped : Untouched client client.stopTimer := ⟨linked, Or.inl rfl⟩
  unfold keepAliveHandler at done
  split at done
  · dsimp only at done
    split at done
    · simp only [bind_ok] at done
      rcases done with ⟨⟨sent, after, middle⟩, sending, done⟩
      have framed := sendPacket_framed platform _ middle _ after input sent sending
      have first := stopped.trans (framed_untouched _ middle stopped.linked framed)
      split at done
      · cases done
        exact first
      · exact first.trans (close_untouched middle next _ first.linked done)
    · simp only [bind_ok] at done
      rcases done with ⟨_, -, closing⟩
      exact stopped.trans (close_untouched client.stopTimer next _ stopped.linked closing)
  · cases done
    exact ⟨linked, Or.inl rfl⟩

/-- A round of `Receiver` that returns, from the packet it found. -/
theorem receiverPass_sound (config : Config) (client next : Client)
    (input : ReceiveInput config.toPlatform) (more : Bool) (sound : Sound config client)
    (done : client.receiverPass config input = .ok (more, next)) : Sound config next := by
  by_cases found : ∃ first rest, client.front config input = some (first, rest) ∧ first.Accepted
  · rcases found with ⟨first, rest, whole, accepted⟩
    rcases receiverPass_found config client input first rest sound.bounded whole accepted with
      ⟨open_, packet, there, size, -, pass⟩
    rw [pass] at done
    by_cases cut : CutIdentifier config.topicLimit first
    · rw [handlePacket_cut config (client.withPacket packet) input.send first rest there cut]
        at done
      cases done
    · rcases handlePacket_handled config (client.withPacket packet) input.send first rest open_
        sound.linked there accepted cut with ⟨handled, handling, result⟩
      rw [handling] at done
      cases done
      exact ⟨result.linked, result.bufferSize.trans size.bufferSize,
        result.inPtr.trans size.inPtr⟩
  · have missing : ∀ first rest, client.front config input = some (first, rest) →
        ¬ first.Accepted := fun first rest whole accepted => found ⟨first, rest, whole, accepted⟩
    rcases receiverPass_unfound config client input sound.linked sound.bounded missing with
      ⟨packet, result, pass, size, kept⟩
    rw [pass] at done
    cases done
    rcases kept with rfl | ⟨reason, -, closing⟩
    · exact ⟨sound.linked, size⟩
    · exact sound_untouched config (client.withPacket packet) next ⟨sound.linked, size⟩
        (close_untouched _ next reason sound.linked closing)

end Client

theorem perform_untouched (config : Config) (client next : Client)
    (operation : Operation config.toPlatform) (linked : client.Linked)
    (other : operation.isReceiver = false)
    (done : perform config client operation = .ok (some next)) : Untouched client next := by
  cases perform_performs config client next operation done with
  | connect request input _ done =>
      exact client.connect_untouched config next request input linked done
  | disconnect bForce input _ done =>
      exact client.disconnect_untouched config next bForce input linked done
  | subscribe pTopic uchQoS input _ done =>
      exact client.subscribe_untouched config next pTopic uchQoS input linked done
  | unsubscribe pTopic input _ done =>
      exact client.unsubscribe_untouched config next pTopic input linked done
  | publish pTopic payload uchQoS bRetain input _ done =>
      exact client.publish_untouched config next pTopic payload uchQoS bRetain input linked done
  | receiver input more _ done => cases other
  | sender nTicks inputs _ done =>
      exact client.senderLoop_untouched config.toPlatform nTicks next _ _ inputs linked done
  | keepAliveHandler ticks input _ done =>
      exact client.keepAliveHandler_untouched config.toPlatform next ticks input linked done

theorem perform_sound (config : Config) (client next : Client)
    (operation : Operation config.toPlatform) (sound : Sound config client)
    (done : perform config client operation = .ok (some next)) : Sound config next := by
  cases receives : operation.isReceiver with
  | false =>
      exact sound_untouched config client next sound
        (perform_untouched config client next operation sound.linked receives done)
  | true =>
      cases perform_performs config client next operation done with
      | receiver input more _ done =>
          exact client.receiverPass_sound config next input more sound done
      | _ => cases receives

theorem step_cases (config : Config) (state next : Machine)
    (operation : Operation config.toPlatform) (taken : step config state operation = some next) :
    ∃ client, state = .running client ∧
      ((∃ after, perform config client operation = .ok (some after) ∧ next = .running after) ∨
        ∃ fault, perform config client operation = .error fault ∧
          next = .failed operation.isReceiver fault) := by
  unfold step at taken
  split at taken
  · cases taken
  · rename_i client
    refine ⟨client, rfl, ?_⟩
    split at taken <;> cases taken
    · rename_i after done
      exact Or.inl ⟨after, done, rfl⟩
    · rename_i fault failed
      exact Or.inr ⟨fault, failed, rfl⟩

theorem reached_sound (config : Config) (client last : Client)
    (operations : List (Operation config.toPlatform)) (constructed : Constructed config client)
    (reached : run (step config) (.running client) operations = some (.running last)) :
    Sound config last := by
  have kept := run_invariant
    (fun state => ∀ running, state = Machine.running running → Sound config running)
    (by
      intro state operation next sound taken running same
      subst same
      rcases step_cases config state _ operation taken with
        ⟨before, rfl, ⟨after, done, same⟩ | ⟨fault, -, same⟩⟩
      · cases same
        exact perform_sound config before running operation (sound before rfl) done
      · cases same)
    (.running client) (.running last) operations
    (by
      intro running same
      cases same
      exact constructed_sound config client constructed)
    reached
  exact kept last rfl

end CircleStdlib.Mqtt
