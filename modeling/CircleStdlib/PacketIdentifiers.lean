import CircleStdlib.Acknowledgements
import CircleStdlib.PublishRoundTrip
import Mathlib.Data.List.Nodup

/-!
The packet identifiers in the retransmission queue. They come from a counter of
16 bits that leaves out 0, and that QoS 0 messages advance as well; it is never
compared with what is still queued. What a step does to the identifiers in the
queue is said once; from it follows that they stay distinct exactly as long as no
request is sent with an identifier that is still there.
-/

namespace CircleStdlib.Mqtt.PacketIdentifiers

open Checked Execution Acknowledgements PublishRoundTrip

def identifiers (client : Client) : List UInt16 :=
  client.retransmissionQueue.map (·.packetIdentifier)

/-- An acknowledgement can only complete the operation that has its identifier. -/
structure Told (client : Client) : Prop where
  nonzero : 0 ∉ identifiers client
  distinct : (identifiers client).Nodup
  own : ∀ usPacketIdentifier entry, addressed client usPacketIdentifier = some entry →
    ∀ other ∈ client.retransmissionQueue, other.packetIdentifier = usPacketIdentifier →
      other = entry

def requested (config : Config) (client : Client) :
    Operation config.toPlatform → Option (Except Fault SendPacket × SendInput)
  | .publish pTopic payload uchQoS bRetain input =>
      if 1 ≤ uchQoS ∧ uchQoS ≤ 2 then
        some (Client.publishPacket config client.nextPacketIdentifier pTopic payload uchQoS bRetain
          input.memory, input)
      else none
  | .subscribe pTopic uchQoS input =>
      if uchQoS ≤ 2 then
        some (Client.subscribePacket config client.nextPacketIdentifier pTopic uchQoS input.memory,
          input)
      else none
  | .unsubscribe pTopic input =>
      some (Client.unsubscribePacket config client.nextPacketIdentifier pTopic input.memory, input)
  | _ => none

def Posted (client : Client) (packet : SendPacket) (input : SendInput) : Prop :=
  client.status ≠ .disconnected ∧ packet.Ready ∧ input.socket packet.wire = packet.wire.length

def Requests (config : Config) (client : Client) (operation : Operation config.toPlatform) : Prop :=
  ∃ packet input, requested config client operation = some (.ok packet, input) ∧
    Posted client packet input

def Fresh (config : Config) (state : Machine) (operation : Operation config.toPlatform) : Prop :=
  ∀ client, state = .running client → Requests config client operation →
    client.nextPacketIdentifier ∉ identifiers client

def AllTold (state : Machine) : Prop := ∀ client, state = .running client → Told client

theorem told_of_distinct (client : Client) (nonzero : 0 ∉ identifiers client)
    (distinct : (identifiers client).Nodup) : Told client := by
  refine ⟨nonzero, distinct, ?_⟩
  intro usPacketIdentifier entry found other member same
  have bears := List.find?_some found
  have id : entry.packetIdentifier = usPacketIdentifier := by simpa [Mqtt.bears] using bears
  exact List.inj_on_of_nodup_map distinct member (List.mem_of_find?_eq_some found)
    (same.trans id.symm)

/-! What a step does to the identifiers. -/

def Shrinks (client next : Client) : Prop := (identifiers next).Subperm (identifiers client)

theorem shrinks_same (client next : Client)
    (same : next.retransmissionQueue = client.retransmissionQueue) : Shrinks client next := by
  rw [Shrinks, identifiers, identifiers, same]

theorem Shrinks.trans {first second third : Client} (left : Shrinks first second)
    (right : Shrinks second third) : Shrinks first third :=
  List.Subperm.trans right left

theorem close_shrinks (client next : Client) (reason : DisconnectReason)
    (done : client.closeConnection reason = .ok next) : Shrinks client next := by
  rcases client.closeConnection_cases next reason done with ⟨-, rfl⟩ | ⟨-, -, rfl⟩
  · exact shrinks_same next next rfl
  · exact List.nil_subperm

theorem sent_iff_posted (platform : Platform) (client next : Client) (packet after : SendPacket)
    (input : SendInput) (sent : Bool)
    (done : client.sendPacket platform packet input = .ok (sent, after, next)) :
    sent = true ↔ Posted client packet input := by
  rcases client.sendPacket_cases platform next packet after input sent done with
    ⟨offline, rfl, -⟩ | ⟨online, -, sending, send, rfl, -⟩
  · constructor
    · intro accepted
      cases accepted
    · intro posted
      exact absurd offline posted.1
  · constructor
    · intro accepted
      have ready := (packet.send_accepted input.socket sending send accepted).1
      rcases packet.send_ready input.socket ready with ⟨_, same, -⟩
      rw [send] at same
      cases same
      exact ⟨online, ready, by simpa using accepted⟩
    · rintro ⟨-, ready, taken⟩
      rcases packet.send_ready input.socket ready with ⟨_, same, -⟩
      rw [send] at same
      cases same
      simpa using taken

theorem sendAndQueue_identifiers (platform : Platform) (client next : Client) (packet : SendPacket)
    (uchQoS : UInt8) (usPacketIdentifier : UInt16) (input : SendInput)
    (done : client.sendAndQueue platform packet uchQoS usPacketIdentifier input = .ok next) :
    (uchQoS ≥ 1 ∧ Posted client packet input ∧
        (identifiers next).Perm (usPacketIdentifier :: identifiers client)) ∨
      (¬ (uchQoS ≥ 1 ∧ Posted client packet input) ∧ Shrinks client next) := by
  simp only [Client.sendAndQueue, bind_ok] at done
  rcases done with ⟨⟨sent, after, middle⟩, sending, done⟩
  have posted := sent_iff_posted platform client middle packet after input sent sending
  have queue := (client.sendPacket_framed platform middle packet after input sent
    sending).retransmissionQueue
  split at done
  · rename_i accepted
    split at done
    · rename_i answered
      cases done
      refine Or.inl ⟨answered, posted.mp accepted, ?_⟩
      have joined := (Client.insertByTime_perm { after with
        qos := uchQoS, packetIdentifier := usPacketIdentifier
        scheduledTime := input.queueTicks + platform.resendTimeout }
        middle.retransmissionQueue).map (·.packetIdentifier)
      unfold identifiers
      rw [← queue]
      exact joined
    · rename_i plain
      cases done
      exact Or.inr ⟨fun both => plain both.1, shrinks_same client _ queue⟩
  · rename_i refused
    refine Or.inr ⟨fun both => refused (posted.mpr both.2), ?_⟩
    exact (shrinks_same client middle queue).trans (close_shrinks middle next _ done)

theorem answer_shrinks (platform : Platform) (client next : Client) (type : PacketType)
    (usPacketIdentifier : UInt16) (input : SendInput) (sent : Bool)
    (done : client.answer platform type usPacketIdentifier input = .ok (sent, next)) :
    Shrinks client next :=
  shrinks_same client next
    (client.answer_framed platform next type usPacketIdentifier input sent done).retransmissionQueue

theorem removed_shrinks (client : Client) (usPacketIdentifier : UInt16) :
    Shrinks client (client.removePacketFromQueue usPacketIdentifier).2 := by
  rw [client.removePacketFromQueue_eq]
  exact (List.eraseP_sublist.map _).subperm

theorem release_shrinks (client next : Client) (usPacketIdentifier : UInt16) (uchQoS : UInt8)
    (done : client.release usPacketIdentifier uchQoS = .ok next) : Shrinks client next := by
  have erased := removed_shrinks client usPacketIdentifier
  rcases client.release_cases next usPacketIdentifier uchQoS done with
    ⟨-, closing⟩ | ⟨entry, -, -, rfl⟩
  · exact erased.trans (close_shrinks _ next _ closing)
  · exact erased

/-- A PUBREC replaces the entry by one with the same identifier. -/
theorem respondPubRec_shrinks (platform : Platform) (client next : Client)
    (usPacketIdentifier : UInt16) (input : SendInput)
    (done : client.respondPubRec platform usPacketIdentifier input = .ok next) :
    Shrinks client next := by
  have erased := removed_shrinks client usPacketIdentifier
  rcases client.respondPubRec_cases platform next usPacketIdentifier input done with
    ⟨-, closing⟩ | ⟨entry, packet, found, -, -, sent⟩
  · exact erased.trans (close_shrinks _ next _ closing)
  · rcases sendAndQueue_identifiers platform _ next packet 2 usPacketIdentifier input sent with
      ⟨-, -, joined⟩ | ⟨-, left⟩
    · rw [client.removePacketFromQueue_eq] at found joined
      obtain ⟨same, before, after, -, bearing, whole, gone⟩ :=
        List.exists_of_eraseP (List.mem_of_find?_eq_some found) (List.find?_some found)
      have id : same.packetIdentifier = usPacketIdentifier := by simpa [bears] using bearing
      have back : (identifiers client).Perm (usPacketIdentifier :: identifiers
          (client.withQueue (client.retransmissionQueue.eraseP (bears usPacketIdentifier)))) := by
        simp only [identifiers, Client.withQueue, gone]
        rw [whole, List.map_append, List.map_cons, List.map_append, id]
        exact List.perm_middle
      exact (joined.trans back.symm).subperm
    · exact erased.trans left

theorem respondMessage_shrinks (platform : Platform) (client next : Client) (uchQoS : UInt8)
    (usPacketIdentifier : UInt16) (message : Message) (input : SendInput)
    (done : client.respondMessage platform uchQoS usPacketIdentifier message input = .ok next) :
    Shrinks client next := by
  rcases client.respondMessage_cases platform next uchQoS usPacketIdentifier message input done with
    ⟨-, rfl⟩ | ⟨-, sent, middle, answered, outcome⟩
  · exact shrinks_same client _ rfl
  · have first := answer_shrinks platform client middle _ _ input sent answered
    rcases outcome with ⟨-, closing⟩ | ⟨-, -, rfl⟩ | ⟨-, -, -, rfl⟩ | ⟨-, -, -, rfl⟩
    · exact first.trans (close_shrinks middle next _ closing)
    · exact first
    · exact first
    · exact first

theorem respond_shrinks (config : Config) (client next : Client) (first : Packet)
    (input : SendInput) (done : client.respond config first input = .ok next) :
    Shrinks client next := by
  unfold Client.respond at done
  split at done
  · rcases client.respondConnAck_cases next _ _ done with
      ⟨-, closing⟩ | ⟨-, ⟨-, rfl⟩ | ⟨-, closing⟩⟩
    · exact close_shrinks client next _ closing
    · exact shrinks_same client _ rfl
    · exact close_shrinks client next _ closing
  · rcases client.respondPublish_cases config next first input done with
      ⟨reason, -, closing⟩ | ⟨usPacketIdentifier, message, -, told⟩
    · exact close_shrinks client next reason closing
    · exact respondMessage_shrinks config.toPlatform client next _ _ message input told
  · exact release_shrinks client next _ 1 done
  · exact respondPubRec_shrinks config.toPlatform client next _ input done
  · rcases client.respondPubRel_cases config.toPlatform next _ input done with
      ⟨-, closing⟩ | ⟨-, sent, middle, answered, outcome⟩
    · exact close_shrinks client next _ closing
    · have answering := answer_shrinks config.toPlatform client middle _ _ input sent answered
      rcases outcome with ⟨-, closing⟩ | ⟨-, rfl⟩
      · exact answering.trans (close_shrinks middle next _ closing)
      · exact answering
  · exact release_shrinks client next _ 2 done
  · rcases client.respondSubAck_cases next _ _ done with ⟨-, closing⟩ | ⟨-, released⟩
    · exact close_shrinks client next _ closing
    · exact release_shrinks client next _ 1 released
  · exact release_shrinks client next _ 1 done
  · cases done
    unfold Client.respondPingResp
    split <;> exact shrinks_same client _ rfl
  · cases done

theorem connect_shrinks (config : Config) (client next : Client) (request : ConnectRequest)
    (input : ConnectInput) (done : client.connect config request input = .ok next) :
    Shrinks client next := by
  rcases client.connect_outcome config next request input done with
    ⟨-, ⟨-, reason, -, rfl⟩ | ⟨-, packet, after, middle, sent, -, sending, outcome⟩⟩
  · exact shrinks_same client _ rfl
  · have opened : Shrinks client middle := shrinks_same client middle
      (Client.sendPacket_framed config.toPlatform _ middle packet after input.send sent
        sending).retransmissionQueue
    rcases outcome with ⟨-, rfl⟩ | ⟨-, closing⟩
    · exact opened
    · exact opened.trans (close_shrinks middle next _ closing)

theorem disconnect_shrinks (config : Config) (client next : Client) (bForce : Bool)
    (input : SendInput) (done : client.disconnect config bForce input = .ok next) :
    Shrinks client next := by
  unfold Client.disconnect at done
  split at done
  · exact close_shrinks client next _ done
  · simp only [bind_ok] at done
    rcases done with ⟨⟨sent, after, middle⟩, sending, done⟩
    exact (shrinks_same client middle (client.sendPacket_framed config.toPlatform middle _ after
      input sent sending).retransmissionQueue).trans (close_shrinks middle next _ done)

theorem keepAliveHandler_shrinks (platform : Platform) (client next : Client) (ticks : UInt32)
    (input : SendInput) (done : client.keepAliveHandler platform ticks input = .ok next) :
    Shrinks client next := by
  unfold Client.keepAliveHandler at done
  split at done
  · dsimp only at done
    split at done
    · simp only [bind_ok] at done
      rcases done with ⟨⟨sent, after, middle⟩, sending, done⟩
      have first : Shrinks client middle := shrinks_same client middle
        (client.stopTimer.sendPacket_framed platform middle _ after input sent
          sending).retransmissionQueue
      split at done
      · cases done
        exact first
      · exact first.trans (close_shrinks middle next _ done)
    · simp only [bind_ok] at done
      rcases done with ⟨_, -, done⟩
      exact close_shrinks client.stopTimer next _ done
  · cases done
    exact shrinks_same client client rfl

/-- Everything a step can do to the identifiers. -/
theorem perform_identifiers (config : Config) (client next : Client)
    (operation : Operation config.toPlatform) (kept : Kept config client)
    (done : perform config client operation = .ok (some next)) :
    (Requests config client operation ∧
        (identifiers next).Perm (client.nextPacketIdentifier :: identifiers client)) ∨
      (¬ Requests config client operation ∧ Shrinks client next) := by
  have after := perform_kept config client next operation kept done
  cases perform_performs config client next operation done with
  | connect request input _ done =>
      exact Or.inr ⟨by simp [Requests, requested], connect_shrinks config client next _ input done⟩
  | disconnect bForce input _ done =>
      exact Or.inr ⟨by simp [Requests, requested],
        disconnect_shrinks config client next bForce input done⟩
  | receiver input more _ done =>
      refine Or.inr ⟨by simp [Requests, requested], ?_⟩
      rcases client.receiverPass_cases config next input more kept.sound done with
        ⟨-, packet, rfl | ⟨reason, closed, -, closing, rfl⟩⟩ |
        ⟨first, rest, packet, result, -, -, -, responded, rfl⟩
      · exact shrinks_same client _ rfl
      · exact close_shrinks client closed reason closing
      · exact respond_shrinks config client result first input.send responded
  -- `Sender` takes a packet out and puts it back with its identifier, or clears the queue.
  | sender nTicks inputs _ done =>
      refine Or.inr ⟨by simp [Requests, requested], ?_⟩
      by_cases open_ : next.socket = true
      · have same := senderLoop_keeps config nTicks client next [] _ inputs kept.sound.linked done
          open_
        have ids := (same.map fun (entry : PacketType × UInt16 × UInt8) => entry.2.1).symm.subperm
        simpa [outstanding, signature, Shrinks, identifiers, Function.comp_def] using ids
      · have offline : next.status = .disconnected :=
          not_not.mp fun online => open_ (after.sound.linked.mpr online)
        rw [Shrinks, identifiers, after.queued.empty offline]
        exact List.nil_subperm
  | keepAliveHandler ticks input _ done =>
      exact Or.inr ⟨by simp [Requests, requested],
        keepAliveHandler_shrinks config.toPlatform client next ticks input done⟩
  | subscribe pTopic uchQoS input _ done =>
      simp only [Client.subscribe, bind_ok, require_ok] at done
      rcases done with ⟨_, valid, packet, built, done⟩
      have posted : Requests config client (.subscribe pTopic uchQoS input) ↔
          Posted client packet input := by
        simp [Requests, requested, valid, built]
      rw [posted]
      rcases sendAndQueue_identifiers config.toPlatform client.advanceIdentifier next packet 1 _ input
        done with ⟨-, sent, joined⟩ | ⟨unsent, left⟩
      · exact Or.inl ⟨sent, joined⟩
      · exact Or.inr ⟨fun sent => unsent ⟨by decide, sent⟩, left⟩
  | unsubscribe pTopic input _ done =>
      simp only [Client.unsubscribe, bind_ok] at done
      rcases done with ⟨packet, built, done⟩
      have posted : Requests config client (.unsubscribe pTopic input) ↔
          Posted client packet input := by
        simp [Requests, requested, built]
      rw [posted]
      rcases sendAndQueue_identifiers config.toPlatform client.advanceIdentifier next packet 1 _ input
        done with ⟨-, sent, joined⟩ | ⟨unsent, left⟩
      · exact Or.inl ⟨sent, joined⟩
      · exact Or.inr ⟨fun sent => unsent ⟨by decide, sent⟩, left⟩
  | publish pTopic payload uchQoS bRetain input _ done =>
      simp only [Client.publish, bind_ok, require_ok] at done
      rcases done with ⟨_, valid, packet, built, done⟩
      have posted : Requests config client (.publish pTopic payload uchQoS bRetain input) ↔
          uchQoS ≥ 1 ∧ Posted client packet input := by
        by_cases answered : 1 ≤ uchQoS
        · simp [Requests, requested, valid, answered, built]
        · simp [Requests, requested, answered]
      rw [posted]
      rcases sendAndQueue_identifiers config.toPlatform client.advanceIdentifier next packet uchQoS _
        input done with ⟨answered, sent, joined⟩ | ⟨unsent, left⟩
      · exact Or.inl ⟨⟨answered, sent⟩, joined⟩
      · exact Or.inr ⟨unsent, left⟩

/-- A request that the socket takes goes through. -/
theorem requests_performed (config : Config) (client : Client)
    (operation : Operation config.toPlatform) (linked : client.Linked)
    (requests : Requests config client operation) :
    ∃ next, perform config client operation = .ok (some next) := by
  rcases requests with ⟨packet, input, asked, -, ready, -⟩
  have sent : ∀ uchQoS, Client.restartsTimer packet.type = true → ∃ next,
      client.advanceIdentifier.sendAndQueue config.toPlatform packet uchQoS
        client.nextPacketIdentifier input = .ok next :=
    fun uchQoS restarts => client.advanceIdentifier.sendAndQueue_total config.toPlatform packet
      uchQoS _ input linked (Or.inr ready) restarts
  cases operation with
  | publish pTopic payload uchQoS bRetain given =>
      simp only [requested] at asked
      split at asked
      · rename_i valid
        simp only [Option.some.injEq, Prod.mk.injEq] at asked
        rcases asked with ⟨built, rfl⟩
        have type := Client.publishPacket_type config _ _ _ _ _ _ packet built
        rcases sent uchQoS (by rw [type]; rfl) with ⟨next, done⟩
        exact ⟨next, by simp only [perform, Client.publish, require_holds _ _ valid.2, ok_bind,
          built, done]; rfl⟩
      · cases asked
  | subscribe pTopic uchQoS given =>
      simp only [requested] at asked
      split at asked
      · rename_i valid
        simp only [Option.some.injEq, Prod.mk.injEq] at asked
        rcases asked with ⟨built, rfl⟩
        have type := Client.subscribePacket_type config _ _ _ _ packet built
        rcases sent 1 (by rw [type]; rfl) with ⟨next, done⟩
        exact ⟨next, by simp only [perform, Client.subscribe, require_holds _ _ valid, ok_bind,
          built, done]; rfl⟩
      · cases asked
  | unsubscribe pTopic given =>
      simp only [requested, Option.some.injEq, Prod.mk.injEq] at asked
      rcases asked with ⟨built, rfl⟩
      have type := Client.unsubscribePacket_type config _ _ _ packet built
      rcases sent 1 (by rw [type]; rfl) with ⟨next, done⟩
      exact ⟨next, by simp only [perform, Client.unsubscribe, ok_bind, built, done]; rfl⟩
  | connect | disconnect | receiver | sender | keepAliveHandler => cases asked

structure Orderly (config : Config) (client : Client) : Prop where
  kept : Kept config client
  numbered : Numbered client
  told : Told client

theorem perform_orderly (config : Config) (client next : Client)
    (operation : Operation config.toPlatform) (orderly : Orderly config client)
    (fresh : Requests config client operation → client.nextPacketIdentifier ∉ identifiers client)
    (done : perform config client operation = .ok (some next)) : Orderly config next := by
  refine ⟨perform_kept config client next operation orderly.kept done,
    perform_numbered config client next operation orderly.kept done orderly.numbered, ?_⟩
  rcases perform_identifiers config client next operation orderly.kept done with
    ⟨requests, joined⟩ | ⟨-, smaller, same, part⟩
  · have online : client.status ≠ .disconnected := by
      rcases requests with ⟨_, _, -, online, -⟩
      exact online
    apply told_of_distinct
    · rw [joined.mem_iff, List.mem_cons, not_or]
      exact ⟨(orderly.numbered online).symm, orderly.told.nonzero⟩
    · rw [joined.nodup_iff, List.nodup_cons]
      exact ⟨fresh requests, orderly.told.distinct⟩
  · apply told_of_distinct
    · rw [← same.mem_iff]
      exact fun member => orderly.told.nonzero (part.subset member)
    · rw [← same.nodup_iff]
      exact orderly.told.distinct.sublist part

/-- In every run: the identifiers in the queue are never 0 and always distinct, so that
an acknowledgement can only complete the operation it names, exactly when no request
of the run is sent with an identifier that is still in the queue. -/
theorem identifiers_told_iff_fresh (config : Config) (client : Client) (final : Machine)
    (operations : List (Operation config.toPlatform)) (constructed : Constructed config client)
    (reached : run (step config) (.running client) operations = some final) :
    Throughout (step config) AllTold (.running client) operations ↔
      Along (step config) (Fresh config) (.running client) operations := by
  apply throughout_iff_along (Fresh config)
    (fun state => ∀ client, state = .running client → Orderly config client) AllTold
    ?_ ?_ ?_ (.running client) final operations ?_ reached
  · intro state orderly client same
    exact (orderly client same).told
  · intro state operation next orderly fresh taken after same
    subst same
    rcases step_cases config state _ operation taken with
      ⟨before, rfl, ⟨_, done, same⟩ | ⟨_, -, same⟩⟩
    · cases same
      exact perform_orderly config before after operation (orderly before rfl) (fresh before rfl)
        done
    · cases same
  · intro state operation next orderly stale taken told
    unfold Fresh at stale
    push Not at stale
    rcases stale with ⟨before, rfl, requests, used⟩
    have kept := (orderly before rfl).kept
    rcases requests_performed config before operation kept.sound.linked requests with ⟨after, done⟩
    rcases perform_identifiers config before after operation kept done with
      ⟨-, joined⟩ | ⟨silent, -⟩
    · have same : next = .running after := by
        simpa [step, done] using taken.symm
      have distinct := (told after same).distinct
      rw [joined.nodup_iff, List.nodup_cons] at distinct
      exact distinct.1 used
    · exact silent requests
  · intro start same
    cases same
    have empty : identifiers client = [] := by rw [identifiers, constructed.retransmissionQueue]; rfl
    refine ⟨constructed_kept config client constructed,
      fun online => absurd constructed.status online, told_of_distinct client ?_ ?_⟩
    · rw [empty]
      exact List.not_mem_nil
    · rw [empty]
      exact List.nodup_nil

def oneWaiting : List (Operation Config.default.toPlatform) :=
  [.connect plainRequest smoothConnect, .receiver (delivers [0x20, 2, 0, 0] connAck_short),
    .publish [97] [] 1 false .willing]

theorem twoWaiting_told :
    Throughout (step Config.default) AllTold (.running (Client.fresh Config.default))
      (oneWaiting ++ [.publish [97] [] 1 false .willing]) := by
  refine (identifiers_told_iff_fresh Config.default (Client.fresh Config.default) _ _
    (fresh_constructed Config.default) rfl).mpr ?_
  refine ⟨?_, ?_⟩
  · rintro client same ⟨_, _, asked, -⟩
    cases asked
  rintro connecting taken
  cases taken
  refine ⟨?_, ?_⟩
  · rintro client same ⟨_, _, asked, -⟩
    cases asked
  rintro connected taken
  cases taken
  refine ⟨?_, ?_⟩
  · rintro client same -
    cases same
    decide
  rintro waiting taken
  cases taken
  refine ⟨?_, fun _ _ => trivial⟩
  rintro client same -
  cases same
  decide

/-- A message on the topic `a` with nothing in it. -/
theorem emptyMessage_ready (usPacketIdentifier : UInt16) (uchQoS : UInt8)
    (low : uchQoS = 0 ∨ uchQoS = 1) :
    ∃ packet, Client.publishPacket Config.default usPacketIdentifier [97] [] uchQoS false
        SendInput.willing.memory = .ok packet ∧ packet.Ready ∧ packet.type = .publish := by
  obtain ⟨packet, built, clean, allocated, tries, length, type⟩ : ∃ packet,
      Client.publishPacket Config.default usPacketIdentifier [97] [] uchQoS false
        SendInput.willing.memory = .ok packet ∧
      packet.error = false ∧ packet.allocated = true ∧ packet.sendTries = mqttSendTries ∧
      packet.bufPtr = 10 ∧ packet.type = .publish := by
    rcases low with rfl | rfl <;> exact ⟨_, rfl, rfl, rfl, rfl, rfl, rfl⟩
  refine ⟨packet, built, ⟨clean, allocated, ?_, ?_, ?_⟩, type⟩
  · rw [tries]
    decide
  · rw [length]
    decide
  · rw [length]
    decide

def unanswered : Operation Config.default.toPlatform := .publish [97] [] 0 false .willing

theorem unanswered_step (client : Client) (linked : client.Linked)
    (online : client.status ≠ .disconnected) :
    ∃ next, step Config.default (.running client) unanswered = some (.running next) ∧
      next.Linked ∧ next.status ≠ .disconnected ∧ identifiers next = identifiers client ∧
      next.nextPacketIdentifier = client.advanceIdentifier.nextPacketIdentifier := by
  rcases emptyMessage_ready client.nextPacketIdentifier 0 (Or.inl rfl) with
    ⟨packet, built, ready, type⟩
  rcases Client.sendPacket_total Config.default.toPlatform client.advanceIdentifier packet .willing
    linked (Or.inr ready) (by rw [type]; rfl) with ⟨sent, after, next, sending⟩
  have framed := Client.sendPacket_framed Config.default.toPlatform _ next packet after .willing
    sent sending
  have taken : sent = true :=
    (sent_iff_posted Config.default.toPlatform _ next packet after .willing sent sending).mpr
      ⟨online, ready, rfl⟩
  subst taken
  refine ⟨next, ?_, Client.linked_framed _ next framed linked, framed.offline.not.mpr online, ?_,
    framed.nextPacketIdentifier⟩
  · have valid : (0 : UInt8) ≤ 2 := by decide
    simp only [step, unanswered, perform, Client.publish, require_holds _ _ valid, ok_bind, built,
      Client.sendAndQueue, sending]
    rfl
  · rw [identifiers, framed.retransmissionQueue]
    rfl

theorem unanswered_run (count : Nat) (client : Client) (linked : client.Linked)
    (online : client.status ≠ .disconnected)
    (below : client.nextPacketIdentifier.toNat + count < 2 ^ 16) :
    ∃ next, run (step Config.default) (.running client) (List.replicate count unanswered) =
        some (.running next) ∧
      next.Linked ∧ next.status ≠ .disconnected ∧ identifiers next = identifiers client ∧
      next.nextPacketIdentifier.toNat = client.nextPacketIdentifier.toNat + count := by
  induction count generalizing client with
  | zero => exact ⟨client, rfl, linked, online, rfl, rfl⟩
  | succ count following =>
      rcases unanswered_step client linked online with
        ⟨next, taken, nextLinked, nextOnline, same, id⟩
      have sum : (client.nextPacketIdentifier + 1).toNat =
          client.nextPacketIdentifier.toNat + 1 := by
        rw [UInt16.toNat_add, UInt16.toNat_one]
        omega
      have nonzero : client.nextPacketIdentifier + 1 ≠ 0 := by
        intro zero
        rw [zero] at sum
        simp at sum
      have advanced : next.nextPacketIdentifier.toNat = client.nextPacketIdentifier.toNat + 1 := by
        rw [id, Client.advanceIdentifier]
        dsimp only
        rw [if_neg nonzero, sum]
      rcases following next nextLinked nextOnline (by omega) with
        ⟨final, rest, finalLinked, finalOnline, still, total⟩
      refine ⟨final, ?_, finalLinked, finalOnline, still.trans same, by omega⟩
      rw [List.replicate_succ, run_cons]
      exact ⟨.running next, taken, rest⟩

/-- 65534 messages of QoS 0 use up the other identifiers: the next request gets the one
that is still waiting for its PUBACK. -/
theorem identifier_comes_back :
    ∃ final, run (step Config.default) (.running (Client.fresh Config.default))
        (oneWaiting ++ List.replicate 65533 unanswered ++ [unanswered] ++
          [.publish [97] [] 1 false .willing]) = some (.running final) ∧
      identifiers final = [1, 1] ∧ ¬ Told final := by
  obtain ⟨waiting, begun, linked, online, one, two⟩ : ∃ waiting,
      run (step Config.default) (.running (Client.fresh Config.default)) oneWaiting =
        some (.running waiting) ∧ waiting.Linked ∧ waiting.status ≠ .disconnected ∧
      identifiers waiting = [1] ∧ waiting.nextPacketIdentifier = 2 :=
    ⟨_, rfl, by unfold Client.Linked; decide, by decide, by decide, by decide⟩
  rcases unanswered_run 65533 waiting linked online (by rw [two]; decide) with
    ⟨late, counted, lateLinked, lateOnline, still, last⟩
  rcases unanswered_step late lateLinked lateOnline with ⟨around, taken, -, aroundOnline, same, id⟩
  have next : around.nextPacketIdentifier = 1 := by
    have highest : late.nextPacketIdentifier = 65535 := by
      apply UInt16.toNat_inj.mp
      rw [last, two]
      rfl
    rw [id, Client.advanceIdentifier, highest]
    rfl
  have before : run (step Config.default) (.running (Client.fresh Config.default))
      (oneWaiting ++ List.replicate 65533 unanswered ++ [unanswered]) = some (.running around) := by
    rw [run_append, run_append, begun, Option.bind_some, counted, Option.bind_some, run_cons]
    exact ⟨.running around, taken, rfl⟩
  have kept := reached_kept Config.default (Client.fresh Config.default) around _
    (fresh_constructed Config.default) before
  rcases emptyMessage_ready around.nextPacketIdentifier 1 (Or.inr rfl) with
    ⟨packet, built, ready, type⟩
  have requests : Requests Config.default around (.publish [97] [] 1 false .willing) := by
    refine ⟨packet, .willing, ?_, aroundOnline, ready, rfl⟩
    rw [requested, if_pos (by decide), built]
  rcases requests_performed Config.default around _ kept.sound.linked requests with ⟨final, done⟩
  rcases perform_identifiers Config.default around final _ kept done with
    ⟨-, joined⟩ | ⟨silent, -⟩
  · have twice : identifiers final = [1, 1] := by
      rw [next, same, still, one] at joined
      exact (List.perm_replicate (n := 2) (a := 1)).mp joined
    refine ⟨final, ?_, twice, ?_⟩
    · rw [run_append, before, Option.bind_some, run_cons]
      exact ⟨.running final, by rw [step, done], rfl⟩
    · intro told
      have distinct := told.distinct
      rw [twice] at distinct
      exact absurd distinct (by decide)
  · exact absurd requests silent

end CircleStdlib.Mqtt.PacketIdentifiers
