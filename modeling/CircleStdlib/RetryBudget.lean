import CircleStdlib.ClientDeeds

/-!
A request that the broker does not answer. Its entry stays in the retransmission queue, `Sender`
sends it again each time its turn comes, and each transmission costs one of its tries. Nothing
gives tries back, so that the turns are counted. The identifier of a request can be in use for
several entries; then their tries and their turns are taken together.
-/

namespace CircleStdlib.Mqtt

open Checked Execution Acknowledgements RetransmissionQueue

namespace RetryBudget

def budget (usPacketIdentifier : UInt16) (queue : List SendPacket) : Nat :=
  ((queue.filter (bears usPacketIdentifier)).map (·.sendTries)).sum

/-- How often the loop of `Sender` comes to an entry with this identifier that is due. -/
def visits (platform : Platform) (usPacketIdentifier : UInt16) (nTicks : UInt32)
    (client : Client) (passed ahead : List SendPacket) (inputs : List SendInput) : Nat :=
  match ahead with
  | [] => 0
  | packet :: rest =>
      if later packet.scheduledTime nTicks then 0
      else
        match inputs with
        | [] => 0
        | input :: inputs =>
            (bears usPacketIdentifier packet).toNat +
              match (client.withQueue (passed ++ rest)).sendAgain platform packet input with
              | .ok (true, packet, client) =>
                  let (passed, ahead) :=
                    Client.reinsert (packet.rescheduled platform input) passed rest
                  visits platform usPacketIdentifier nTicks client passed ahead inputs
              | _ => 0

def turn (config : Config) (usPacketIdentifier : UInt16) :
    Machine → Operation config.toPlatform → Nat
  | .running client, .sender nTicks inputs =>
      visits config.toPlatform usPacketIdentifier nTicks client [] client.retransmissionQueue
        inputs
  | _, _ => 0

def turns (config : Config) (usPacketIdentifier : UInt16) :
    Machine → List (Operation config.toPlatform) → Nat
  | _, [] => 0
  | state, operation :: rest =>
      turn config usPacketIdentifier state operation +
        match step config state operation with
        | some next => turns config usPacketIdentifier next rest
        | none => 0

/-- The operation is no `Connect`, no request takes the identifier, and no acknowledgement of
it is dispatched. -/
def Neglected (config : Config) (usPacketIdentifier : UInt16) :
    Machine → Operation config.toPlatform → Prop
  | .failed _ _, _ => True
  | .running client, operation =>
      operation.isConnect = false ∧
        (operation.asks = true → client.nextPacketIdentifier ≠ usPacketIdentifier) ∧
        ∀ first, Hears config client operation (some first) →
          (askedQoS first.type).isSome = true → identifierOf first.body ≠ usPacketIdentifier

section Budget

variable (usPacketIdentifier : UInt16)

theorem budget_perm (left right : List SendPacket) (perm : left.Perm right) :
    budget usPacketIdentifier left = budget usPacketIdentifier right :=
  ((perm.filter _).map _).sum_nat

theorem budget_bears (packet : SendPacket) (queue : List SendPacket)
    (own : bears usPacketIdentifier packet = true) :
    budget usPacketIdentifier (packet :: queue) =
      packet.sendTries + budget usPacketIdentifier queue := by
  simp [budget, own]

theorem budget_other (packet : SendPacket) (queue : List SendPacket)
    (other : bears usPacketIdentifier packet = false) :
    budget usPacketIdentifier (packet :: queue) = budget usPacketIdentifier queue := by
  simp [budget, other]

theorem budget_insert (packet : SendPacket) (queue : List SendPacket) :
    budget usPacketIdentifier (insertByTime packet queue) =
      budget usPacketIdentifier (packet :: queue) :=
  budget_perm usPacketIdentifier _ _ (Client.insertByTime_perm packet queue)

/-- Another identifier has been taken out of the queue. -/
theorem budget_erase (usOther : UInt16) (queue : List SendPacket)
    (other : usOther ≠ usPacketIdentifier) :
    budget usPacketIdentifier (queue.eraseP (bears usOther)) =
      budget usPacketIdentifier queue := by
  induction queue with
  | nil => rfl
  | cons packet rest ih =>
      by_cases taken : bears usOther packet = true
      · have apart : bears usPacketIdentifier packet = false := by
          simp only [bears, decide_eq_true_eq, decide_eq_false_iff_not] at taken ⊢
          rw [taken]
          exact other
        rw [List.eraseP_cons_of_pos taken, budget_other _ _ _ apart]
      · rw [List.eraseP_cons_of_neg taken]
        by_cases own : bears usPacketIdentifier packet = true
        · rw [budget_bears _ _ _ own, budget_bears _ _ _ own, ih]
        · have apart := Bool.eq_false_iff.mpr own
          rw [budget_other _ _ _ apart, budget_other _ _ _ apart, ih]

/-- An entry has been sent again. -/
theorem budget_repeated (before behind : List SendPacket) (packet entry : SendPacket)
    (queues : Queues (repeated packet) packet.qos packet.packetIdentifier entry) :
    budget usPacketIdentifier (entry :: (before ++ behind)) +
        (bears usPacketIdentifier packet).toNat =
      budget usPacketIdentifier (before ++ packet :: behind) := by
  have tries : entry.sendTries + 1 = packet.sendTries :=
    queues.sendTries.trans (Retransmissions.repeated_fields packet).2
  have same : bears usPacketIdentifier entry = bears usPacketIdentifier packet := by
    rw [bears, bears, queues.packetIdentifier]
  rw [budget_perm usPacketIdentifier (before ++ packet :: behind) _ List.perm_middle]
  cases own : bears usPacketIdentifier packet with
  | true =>
      rw [budget_bears _ _ _ (same.trans own), budget_bears _ _ _ own]
      simp only [Bool.toNat_true]
      omega
  | false => rw [budget_other _ _ _ (same.trans own), budget_other _ _ _ own, Bool.toNat_false,
      Nat.add_zero]

end Budget

variable {config : Config} {heard : Option Packet} {usPacketIdentifier : UInt16}

def Foreign (usPacketIdentifier : UInt16) (heard : Option Packet) : Prop :=
  ∀ first, heard = some first → (askedQoS first.type).isSome = true →
    identifierOf first.body ≠ usPacketIdentifier

/-- No tries come back. -/
theorem deed_budget (client next : Client) (deed : Deed config heard client next)
    (foreign : Foreign usPacketIdentifier heard) :
    next.status = .disconnected ∨ budget usPacketIdentifier next.retransmissionQueue ≤
      budget usPacketIdentifier client.retransmissionQueue := by
  cases deed with
  | aside | numbering | hearing | pinging | establishing => exact Or.inr (Nat.le_refl _)
  | sending packet ticks =>
      rw [spoken_queue]
      exact Or.inr (Nat.le_refl _)
  | repeating before behind packet entry nTicks ticks online queue due outgoing queues =>
      right
      have spent := budget_repeated usPacketIdentifier before behind packet entry queues
      change budget _ (insertByTime entry (before ++ behind)) ≤ _
      rw [budget_insert, queue]
      omega
  | settling first entry dispatched asked other found =>
      right
      have apart := foreign first dispatched (by rw [asked]; rfl)
      exact Nat.le_of_eq (budget_erase usPacketIdentifier _ _ apart)
  | releasing first entry packet release ticks memory dispatched type qos found online outgoing
      built queues =>
      right
      have apart := foreign first dispatched (by rw [type]; rfl)
      have other : bears usPacketIdentifier release = false := by
        simp only [bears, queues.packetIdentifier, decide_eq_false_iff_not]
        exact apart
      change budget _ (insertByTime release (client.retransmissionQueue.eraseP _)) ≤ _
      rw [budget_insert, budget_other _ _ _ other, budget_erase _ _ _ apart]
  | ponging first ticks =>
      right
      unfold Client.respondPingResp
      split <;> exact Nat.le_refl _
  | closing reason events => exact Or.inl rfl

theorem deeds_budget (client next : Client) (deeds : Deeds config heard client next)
    (foreign : Foreign usPacketIdentifier heard) :
    next.status = .disconnected ∨ budget usPacketIdentifier next.retransmissionQueue ≤
      budget usPacketIdentifier client.retransmissionQueue := by
  induction deeds with
  | refl => exact Or.inr (Nat.le_refl _)
  | tail _ deed ih =>
      rcases ih with offline | spent
      · exact Or.inl (deed_offline _ _ deed offline).1
      · exact (deed_budget _ _ deed foreign).imp_right fun less => Nat.le_trans less spent

theorem asking_budget (client next : Client) (operation : Operation config.toPlatform)
    (asking : Asking config client operation next)
    (other : client.nextPacketIdentifier ≠ usPacketIdentifier) :
    budget usPacketIdentifier next.retransmissionQueue =
      budget usPacketIdentifier client.retransmissionQueue := by
  cases asking with
  | asked packet entry uchQoS ticks online outgoing requested queues =>
      have apart : bears usPacketIdentifier entry = false := by
        simp only [bears, queues.packetIdentifier, decide_eq_false_iff_not]
        exact other
      change budget _ (insertByTime entry client.retransmissionQueue) = _
      rw [budget_insert, budget_other _ _ _ apart]

/-- A round of the loop: the entry is sent again for one of its tries, or the connection ends. -/
theorem round_budget (nTicks : UInt32) (client next : Client) (packet : SendPacket)
    (passed rest : List SendPacket) (input : SendInput) (inputs : List SendInput)
    (presentable : ∀ other ∈ passed ++ packet :: rest, Client.Presentable other)
    (online : client.status ≠ .disconnected) (due : later packet.scheduledTime nTicks = false)
    (done : client.senderLoop config.toPlatform nTicks passed (packet :: rest) (input :: inputs) =
      .ok (some next)) :
    (next.status = .disconnected ∧
      visits config.toPlatform usPacketIdentifier nTicks client passed (packet :: rest)
        (input :: inputs) = (bears usPacketIdentifier packet).toNat) ∨
    ∃ (middle : Client) (passed' ahead' : List SendPacket), middle.status ≠ .disconnected ∧
      (∀ other ∈ passed' ++ ahead', Client.Presentable other) ∧
      budget usPacketIdentifier (passed' ++ ahead') + (bears usPacketIdentifier packet).toNat =
        budget usPacketIdentifier (passed ++ packet :: rest) ∧
      middle.senderLoop config.toPlatform nTicks passed' ahead' inputs = .ok (some next) ∧
      visits config.toPlatform usPacketIdentifier nTicks client passed (packet :: rest)
          (input :: inputs) =
        (bears usPacketIdentifier packet).toNat +
          visits config.toPlatform usPacketIdentifier nTicks middle passed' ahead' inputs := by
  have own : Client.Presentable packet := presentable packet (by simp)
  rcases client.senderRound_cases nTicks next packet passed rest input inputs own online due
    done with ⟨after, middle, events, again, -, rfl⟩ | ⟨after, again, -, queues, done⟩
  · refine Or.inl ⟨rfl, ?_⟩
    simp [visits, due, again]
  · have place := reinsert_eq (after.rescheduled config.toPlatform input) passed rest
    refine Or.inr ⟨_, _, _, ?_, ?_, ?_, done, ?_⟩
    · rw [spoken_status]
      exact online
    · rw [place]
      exact Client.reinserted_presentable packet _ passed rest presentable queues
    · rw [place, budget_insert]
      exact budget_repeated usPacketIdentifier passed rest packet _ queues
    · simp [visits, due, again]

/-- The whole loop: as long as the connection lasts, every visit has cost a try. -/
theorem senderLoop_budget (nTicks : UInt32) (client next : Client)
    (passed ahead : List SendPacket) (inputs : List SendInput)
    (presentable : ∀ packet ∈ passed ++ ahead, Client.Presentable packet)
    (online : client.status ≠ .disconnected)
    (done : client.senderLoop config.toPlatform nTicks passed ahead inputs = .ok (some next)) :
    let turns := visits config.toPlatform usPacketIdentifier nTicks client passed ahead inputs
    turns ≤ budget usPacketIdentifier (passed ++ ahead) + 1 ∧
      (next.status = .disconnected ∨ budget usPacketIdentifier next.retransmissionQueue + turns ≤
        budget usPacketIdentifier (passed ++ ahead)) := by
  dsimp only
  induction inputs generalizing client passed ahead with
  | nil =>
      cases ahead with
      | nil =>
          cases done
          exact ⟨Nat.zero_le _, Or.inr (by simp [visits, Client.withQueue])⟩
      | cons packet rest =>
          by_cases early : later packet.scheduledTime nTicks = true
          · rw [Client.senderLoop, if_pos early] at done
            cases done
            simp [visits, early, Client.withQueue]
          · simp [Client.senderLoop, early] at done
  | cons input inputs ih =>
      cases ahead with
      | nil =>
          cases done
          exact ⟨Nat.zero_le _, Or.inr (by simp [visits, Client.withQueue])⟩
      | cons packet rest =>
          by_cases early : later packet.scheduledTime nTicks = true
          · rw [Client.senderLoop, if_pos early] at done
            cases done
            simp [visits, early, Client.withQueue]
          · rcases @round_budget config usPacketIdentifier nTicks client next packet passed rest
              input inputs presentable online (Bool.eq_false_iff.mpr early) done with
              ⟨offline, last⟩ | ⟨middle, passed', ahead', still, fit, spent, goes, more⟩
            · refine ⟨?_, Or.inl offline⟩
              have one := Bool.toNat_le (bears usPacketIdentifier packet)
              omega
            · rcases ih middle passed' ahead' fit still goes with ⟨few, end_⟩
              rw [more]
              refine ⟨by omega, end_.imp_right fun less => ?_⟩
              omega

/-- An operation that leaves the identifier alone takes a try each time it comes to it. -/
theorem perform_budget (client next : Client) (operation : Operation config.toPlatform)
    (settled : Settled config client)
    (neglected : Neglected config usPacketIdentifier (.running client) operation)
    (done : perform config client operation = .ok (some next)) :
    let turns := turn config usPacketIdentifier (.running client) operation
    turns ≤ budget usPacketIdentifier client.retransmissionQueue + 1 ∧
      (next.status = .disconnected ∨ budget usPacketIdentifier next.retransmissionQueue + turns ≤
        budget usPacketIdentifier client.retransmissionQueue) := by
  rcases neglected with ⟨other, unasked, unheard⟩
  have quiet : next.status = .disconnected ∨ budget usPacketIdentifier next.retransmissionQueue ≤
      budget usPacketIdentifier client.retransmissionQueue := by
    cases perform_course config client next operation settled.kept settled.tidy done with
    | opening called opening =>
        rw [other] at called
        cases called
    | asking _ asking =>
        have apart := unasked (asking_asks client next operation asking).1
        exact Or.inr (asking_budget client next operation asking apart).le
    | deeds _ heard _ hears deeds =>
        exact deeds_budget client next deeds fun first same => unheard first (same ▸ hears)
  cases perform_performs config client next operation done with
  | sender nTicks inputs _ done =>
      by_cases online : client.status = .disconnected
      · have empty := settled.kept.queued.empty online
        simp only [turn, empty, visits, Nat.add_zero, Nat.zero_le, true_and]
        rwa [empty] at quiet
      · have tidy : ∀ packet ∈ [] ++ client.retransmissionQueue, Client.Presentable packet :=
          settled.tidy
        exact senderLoop_budget nTicks client next [] _ inputs tidy online done
  | _ => exact ⟨Nat.zero_le _, quiet⟩

/-- A connection that is closed stays so, and there is nothing for `Sender` to come to. -/
theorem offline_turns (client last : Client) (operations : List (Operation config.toPlatform))
    (settled : Settled config client) (offline : client.status = .disconnected)
    (neglected : Along (step config) (Neglected config usPacketIdentifier) (.running client)
      operations)
    (goes : run (step config) (.running client) operations = some (.running last)) :
    last.status = .disconnected ∧
      turns config usPacketIdentifier (.running client) operations = 0 := by
  induction operations generalizing client with
  | nil =>
      cases goes
      exact ⟨offline, rfl⟩
  | cons operation rest ih =>
      rcases (run_cons _ (Machine.running last) operation rest).mp goes with ⟨next, taken, goes⟩
      rcases step_cases config _ next operation taken with
        ⟨_, ⟨⟩, ⟨after, done, rfl⟩ | ⟨fault, -, rfl⟩⟩
      · have still : after.status = .disconnected := by
          cases perform_course config client after operation settled.kept settled.tidy done with
          | opening called opening =>
              rw [neglected.1.1] at called
              cases called
          | asking _ asking =>
              cases asking with
              | asked packet entry uchQoS ticks online => exact absurd offline online
          | deeds _ heard _ hears deeds => exact deeds_offline client after deeds offline
        have behind := neglected.2 (.running after) taken
        rcases ih after (perform_settled config client after operation settled done) still behind
          goes with ⟨closed, none⟩
        have idle : turn config usPacketIdentifier (.running client) operation = 0 := by
          cases operation <;> simp [turn, settled.kept.queued.empty offline, visits]
        refine ⟨closed, ?_⟩
        simp only [turns, taken, idle, none]
      · cases rest <;> cases goes

theorem run_budget (client last : Client) (operations : List (Operation config.toPlatform))
    (settled : Settled config client)
    (neglected : Along (step config) (Neglected config usPacketIdentifier) (.running client)
      operations)
    (goes : run (step config) (.running client) operations = some (.running last)) :
    turns config usPacketIdentifier (.running client) operations ≤
        budget usPacketIdentifier client.retransmissionQueue + 1 ∧
      (last.status = .disconnected ∨ budget usPacketIdentifier last.retransmissionQueue +
        turns config usPacketIdentifier (.running client) operations ≤
          budget usPacketIdentifier client.retransmissionQueue) := by
  induction operations generalizing client with
  | nil =>
      cases goes
      exact ⟨Nat.zero_le _, Or.inr (Nat.le_refl _)⟩
  | cons operation rest ih =>
      rcases (run_cons _ (Machine.running last) operation rest).mp goes with ⟨next, taken, goes⟩
      rcases step_cases config _ next operation taken with
        ⟨_, ⟨⟩, ⟨after, done, rfl⟩ | ⟨fault, -, rfl⟩⟩
      · have still := perform_settled config client after operation settled done
        have behind := neglected.2 (.running after) taken
        simp only [turns, taken]
        rcases perform_budget client after operation settled neglected.1 done with
          ⟨few, offline | spent⟩
        · rcases offline_turns after last rest still offline behind goes with ⟨closed, none⟩
          exact ⟨by omega, Or.inl closed⟩
        · rcases ih after still behind goes with ⟨fewer, end_⟩
          exact ⟨by omega, end_.imp_right fun less => by omega⟩
      · cases rest <;> cases goes

/-- In every run: while nobody answers a request and its identifier is not taken again, `Sender`
comes to the entries of the identifier at most as often as they have tries left, and each time
they have one less. Once more, and the connection is closed. -/
theorem unanswered_request_gives_up (config : Config) (usPacketIdentifier : UInt16)
    (client waiting last : Client) (before during : List (Operation config.toPlatform))
    (constructed : Constructed config client)
    (reached : run (step config) (.running client) before = some (.running waiting))
    (neglected : Along (step config) (Neglected config usPacketIdentifier) (.running waiting)
      during)
    (goes : run (step config) (.running waiting) during = some (.running last)) :
    turns config usPacketIdentifier (.running waiting) during ≤
        budget usPacketIdentifier waiting.retransmissionQueue + 1 ∧
      (last.status = .disconnected ∨ budget usPacketIdentifier last.retransmissionQueue +
        turns config usPacketIdentifier (.running waiting) during ≤
          budget usPacketIdentifier waiting.retransmissionQueue) :=
  run_budget waiting last during (reached_settled config client waiting before constructed reached)
    neglected goes

theorem sender_neglected (usPacketIdentifier : UInt16) (state : Machine) (nTicks : UInt32)
    (inputs : List SendInput) :
    Neglected config usPacketIdentifier state (.sender nTicks inputs) := by
  cases state with
  | failed inReceiver fault => trivial
  | running client =>
      refine ⟨rfl, nofun, ?_⟩
      rintro first ⟨⟩
      contradiction

def asking : List (Operation Config.default.toPlatform) :=
  [.connect plainRequest smoothConnect, .receiver (delivers [0x20, 2, 0, 0] connAck_short),
    .publish [0x61] [] 1 false .willing]

def senders : List (Operation Config.default.toPlatform) :=
  List.replicate 5 (.sender 600 [.willing])

/-- Four tries are left to the message, and `Sender` comes to it five times. -/
theorem senders_give_up :
    ∃ waiting last, run (step Config.default) (.running (Client.fresh Config.default)) asking =
        some (.running waiting) ∧
      run (step Config.default) (.running waiting) senders = some (.running last) ∧
      budget 1 waiting.retransmissionQueue = 4 ∧
      turns Config.default 1 (.running waiting) senders = 5 ∧ last.status = .disconnected := by
  have asks : (run (step Config.default) (.running (Client.fresh Config.default)) asking).any
      (fun state => state.casesOn (fun waiting =>
        decide (budget 1 waiting.retransmissionQueue = 4 ∧
          turns Config.default 1 (.running waiting) senders = 5) &&
        (run (step Config.default) (.running waiting) senders).any
          (fun state => state.casesOn (fun _ => true) fun _ _ => false)) fun _ _ => false) =
      true := by
    decide +kernel
  rcases Option.any_eq_true _ _ |>.mp asks with ⟨_ | _, reached, facts⟩
  · rename_i waiting
    rcases Bool.and_eq_true_iff.mp facts with ⟨counts, runs⟩
    rcases of_decide_eq_true counts with ⟨tries, five⟩
    rcases Option.any_eq_true _ _ |>.mp runs with ⟨_ | _, goes, going⟩
    · rename_i last
      have ends := (unanswered_request_gives_up Config.default 1 (Client.fresh Config.default)
        waiting last asking senders (fresh_constructed Config.default) reached
        ⟨sender_neglected _ _ _ _, fun _ _ => ⟨sender_neglected _ _ _ _, fun _ _ =>
          ⟨sender_neglected _ _ _ _, fun _ _ => ⟨sender_neglected _ _ _ _, fun _ _ =>
            ⟨sender_neglected _ _ _ _, fun _ _ => trivial⟩⟩⟩⟩⟩ goes).2
      refine ⟨waiting, last, reached, goes, tries, five, ends.resolve_right ?_⟩
      rw [tries, five]
      omega
    · cases going
  · cases facts

end RetryBudget

end CircleStdlib.Mqtt
