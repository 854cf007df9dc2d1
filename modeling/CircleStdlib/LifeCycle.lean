import CircleStdlib.GuardedAssertions

/-!
The life of a client: `Connect` while it is disconnected, the other public
operations, and iterations of the loop in `Run`, in any order and with any outcome
of the network. `Life` adds to the client how often `Connect` has been called and
whether a connection has ever been opened. The constructor leaves the timer
undefined, so that nothing is known about it before that.
-/

namespace CircleStdlib.Mqtt

open Checked Execution

def Operation.isCalled {platform : Platform} : Operation platform → Bool
  | .connect _ _ | .disconnect _ _ | .subscribe _ _ _ | .unsubscribe _ _ | .publish _ _ _ _ _ =>
      true
  | _ => false

namespace LifeCycle

inductive Activity (platform : Platform) where
  | call (operation : Operation platform) (called : operation.isCalled = true)
  | runPass (input : RunInput platform)

structure Life where
  client : Client
  connects : Nat
  opened : Bool

def reaches (client : Client) (input : ConnectInput) : Bool :=
  client.topicBuffer && input.resolved &&
    !(input.useSSL && (decide (input.certificates < 0) || decide (input.setup ≠ 0))) &&
    decide (input.connect = 0)

def opens {platform : Platform} (client : Client) : Activity platform → Bool
  | .call (.connect _ input) _ => reaches client input
  | _ => false

def Activity.isConnect {platform : Platform} : Activity platform → Bool
  | .call operation _ => operation.isConnect
  | .runPass _ => false

def carryOut (config : Config) (client : Client) :
    Activity config.toPlatform → Except Fault (Option Client)
  | .call operation _ => perform config client operation
  | .runPass input => client.runPass config input

inductive State where
  | running (life : Life)
  | failed (fault : Fault)

-- `Connect` is called only while the client is disconnected.
def act (config : Config) : State → Activity config.toPlatform → Option State
  | .failed _, _ => none
  | .running life, activity =>
      if activity.isConnect ∧ life.client.status ≠ .disconnected then none
      else
        match carryOut config life.client activity with
        | .ok none => none
        | .ok (some client) =>
            some (.running ⟨client, life.connects + activity.isConnect.toNat,
              life.opened || opens life.client activity⟩)
        | .error fault => some (.failed fault)

def disconnects (log : List Event) : Nat :=
  log.countP fun event => match event with
    | .onDisconnect _ => true
    | _ => false

-- The calls of `OnDisconnect`, and one more while a connection is open.
def attempts (client : Client) : Nat :=
  disconnects client.log + if client.status = .disconnected then 0 else 1

theorem disconnects_append (log events : List Event) :
    disconnects (log ++ events) = disconnects log + disconnects events :=
  List.countP_append

theorem disconnects_silent (events : List Event) (silent : Silent events) :
    disconnects events = 0 := by
  apply List.countP_eq_zero.mpr
  intro event member
  rcases silent event member with ⟨bytes, accepted, rfl⟩
  simp

structure Continued (client next : Client) : Prop where
  attempts : attempts next = attempts client
  offline : client.status = .disconnected → next.status = .disconnected

theorem continued_trans {client middle next : Client} (left : Continued client middle)
    (right : Continued middle next) : Continued client next :=
  ⟨right.attempts.trans left.attempts, fun offline => right.offline (left.offline offline)⟩

/-- The connection is there as before, and `OnDisconnect` has not been called. -/
theorem continued_same (client next : Client)
    (status : next.status = .disconnected ↔ client.status = .disconnected)
    (log : disconnects next.log = disconnects client.log) : Continued client next := by
  refine ⟨?_, status.mpr⟩
  simp only [attempts, status, log]

theorem continued_closed (client next : Client) (reason : DisconnectReason)
    (done : client.closeConnection reason = .ok next) : Continued client next := by
  rcases client.closeConnection_cases next reason done with ⟨-, rfl⟩ | ⟨online, -, rfl⟩
  · exact continued_same next next Iff.rfl rfl
  · refine ⟨?_, fun offline => absurd offline online⟩
    simp [attempts, Client.closed, disconnects, online]

theorem continued_framed (client next : Client) (framed : Framed client next) (events : List Event)
    (silent : Silent events) (log : next.log = client.log ++ events) : Continued client next := by
  refine continued_same client next framed.offline ?_
  rw [log, disconnects_append, disconnects_silent events silent, Nat.add_zero]

theorem sendPacket_continued (platform : Platform) (client next : Client)
    (packet after : SendPacket) (input : SendInput) (sent : Bool)
    (done : client.sendPacket platform packet input = .ok (sent, after, next)) :
    Continued client next := by
  rcases client.sendPacket_cases platform next packet after input sent done with
    ⟨-, -, -, rfl⟩ | ⟨-, -, sending, -, -, -, framed, log, -⟩
  · exact continued_same next next Iff.rfl rfl
  · exact continued_framed client next framed sending.events (sending_silent sending) log

theorem move_continued (config : Config) (client next : Client) (move : Move config client next) :
    Continued client next := by
  have halted : Continued client client.stopTimer := continued_same client _ Iff.rfl rfl
  rcases move with own | brought
  · cases own with
    | transmission _ packet after input sent done =>
        exact sendPacket_continued config.toPlatform client next packet after input sent done
    | closing _ reason done => exact continued_closed client next reason done
    | numbering | queueing _ _ _ _ | requeueing _ _ _ =>
        exact continued_same client _ Iff.rfl rfl
    | ping _ packet after input running type done =>
        exact continued_trans halted
          (sendPacket_continued config.toPlatform _ next packet after input true done)
    | expiry middle _ reason events running framed log silent closing =>
        have stopped := continued_framed client.stopTimer middle framed events silent log
        exact continued_trans (continued_trans halted stopped)
          (continued_closed middle next reason closing)
  · cases brought with
    | pong ticks online =>
        unfold Client.respondPingResp
        split
        · exact continued_same client _ (by simp [Client.startTimer, online]) rfl
        · exact continued_same client _ (by simp [online]) rfl
    | message message online =>
        refine continued_same client _ Iff.rfl ?_
        simp [Client.record, disconnects]
    | dequeuing _ | storing _ _ _ | releasing _ | reading _ =>
        exact continued_same client _ Iff.rfl rfl

theorem moves_continued (config : Config) (client next : Client)
    (moves : Moves config client next) : Continued client next :=
  moves_invariant config (Continued client)
    (fun middle next move before => continued_trans before (move_continued config middle next move))
    client next moves (continued_same client client Iff.rfl rfl)

theorem perform_continued (config : Config) (client next : Client)
    (operation : Operation config.toPlatform) (kept : Kept config client)
    (other : operation.isConnect = false)
    (done : perform config client operation = .ok (some next)) : Continued client next := by
  rcases perform_moves config client next operation kept.sound kept.queued other done with
    moves | ⟨_, _, _, -, -, -, pending, -, -, sessionPresent, packet, rfl⟩
  · exact moves_continued config client next moves
  · refine continued_same client _ ?_ ?_
    · simp [Client.established, Client.withPacket, Client.record, pending]
    · simp [Client.established, Client.withPacket, Client.record, disconnects]

/-- One call of `Connect` is one attempt. -/
theorem connect_attempts (config : Config) (client next : Client)
    (operation : Operation config.toPlatform) (called : operation.isConnect = true)
    (done : perform config client operation = .ok (some next)) :
    attempts next = attempts client + 1 := by
  rcases connect_begins config client next operation called done with ⟨middle, first, moves⟩
  rw [(moves_continued config middle next moves.moves).attempts]
  cases first with
  | opening usKeepAliveSeconds offline => simp [attempts, Client.opened, offline]
  | refusal reason offline =>
      simp [attempts, Client.record, offline, disconnects]

def Stored (client : Client) : Prop :=
  client.status = .disconnected → client.packetIdentifierStore = []

theorem stored_framed (client next : Client) (framed : Framed client next)
    (stored : Stored client) : Stored next := by
  intro offline
  rw [framed.packetIdentifierStore]
  exact stored (framed.offline.mp offline)

theorem stored_closed (client next : Client) (reason : DisconnectReason)
    (done : client.closeConnection reason = .ok next) (stored : Stored client) : Stored next := by
  rcases client.closeConnection_cases next reason done with ⟨-, rfl⟩ | ⟨-, -, rfl⟩
  · exact stored
  · exact fun _ => rfl

theorem move_stored (config : Config) (client next : Client) (move : Move config client next)
    (stored : Stored client) : Stored next := by
  rcases move with own | brought
  · cases own with
    | transmission _ packet after input sent done =>
        exact stored_framed client next
          (client.sendPacket_framed _ next packet after input sent done) stored
    | closing _ reason done => exact stored_closed client next reason done stored
    | numbering | queueing _ _ _ _ | requeueing _ _ _ => exact stored
    | ping _ packet after input running type done =>
        exact stored_framed client.stopTimer next
          (client.stopTimer.sendPacket_framed _ next packet after input true done) stored
    | expiry middle _ reason events running framed log silent closing =>
        exact stored_closed middle next reason closing
          (stored_framed client.stopTimer middle framed stored)
  · cases brought with
    | pong ticks online =>
        unfold Client.respondPingResp
        split <;> exact fun offline => (by cases offline)
    | message _ _ | dequeuing _ | reading _ => exact stored
    | storing usPacketIdentifier online fresh => exact fun offline => absurd offline online
    | releasing usPacketIdentifier =>
        intro offline
        change client.packetIdentifierStore.erase usPacketIdentifier = []
        rw [stored offline]
        rfl

theorem connectMove_stored (client next : Client) (move : ConnectMove client next)
    (stored : Stored client) : Stored next := by
  cases move with
  | opening usKeepAliveSeconds offline => exact fun other => (by cases other)
  | refusal reason offline => exact stored

theorem perform_stored (config : Config) (client next : Client)
    (operation : Operation config.toPlatform) (kept : Kept config client) (stored : Stored client)
    (done : perform config client operation = .ok (some next)) : Stored next :=
  perform_invariant config Stored (move_stored config) connectMove_stored
    (fun _ _ _ _ _ offline => (by cases offline)) client next operation kept.sound kept.queued
    done stored

theorem clocked_sent (platform : Platform) (client next : Client) (packet after : SendPacket)
    (input : SendInput) (sent : Bool)
    (done : client.sendPacket platform packet input = .ok (sent, after, next))
    (clocked : client.Clocked) : next.Clocked := by
  rcases client.sendPacket_timer platform next packet after input sent done with ⟨period, timer⟩
  intro running
  rw [period]
  split at timer
  · rcases timer with ⟨-, positive, waiting, -⟩
    exact ⟨positive, by simp [Client.isConnected, waiting]⟩
  · rcases timer with ⟨status, same | ⟨connected, positive, -⟩⟩
    · rcases clocked (same ▸ running) with ⟨positive, before⟩
      exact ⟨positive, by rw [KeepAliveTimer.isConnected_of_status client next status, before]⟩
    · exact ⟨positive, by simp [Client.isConnected, status, connected]⟩

theorem clocked_closed (client next : Client) (reason : DisconnectReason)
    (done : client.closeConnection reason = .ok next) (clocked : client.Clocked) :
    next.Clocked := by
  rcases client.closeConnection_cases next reason done with ⟨-, rfl⟩ | ⟨-, -, rfl⟩
  · exact clocked
  · exact fun running => (by cases running)

theorem move_clocked (config : Config) (client next : Client) (move : Move config client next)
    (clocked : client.Clocked) : next.Clocked := by
  have halted : client.stopTimer.Clocked := fun running => (by cases running)
  rcases move with own | brought
  · cases own with
    | transmission _ packet after input sent done =>
        exact clocked_sent config.toPlatform client next packet after input sent done clocked
    | closing _ reason done => exact clocked_closed client next reason done clocked
    | numbering | queueing _ _ _ _ | requeueing _ _ _ => exact clocked
    | ping _ packet after input running type done =>
        exact clocked_sent config.toPlatform client.stopTimer next packet after input true done
          halted
    | expiry middle _ reason events running framed log silent closing =>
        rcases middle.closeConnection_cases next reason closing with ⟨offline, -⟩ | ⟨-, -, rfl⟩
        · have before : client.status = .disconnected := framed.offline.mp offline
          have connected := (clocked running).2
          simp [Client.isConnected, before] at connected
        · exact fun running => (by cases running)
  · cases brought with
    | pong ticks online =>
        unfold Client.respondPingResp
        split
        · rename_i positive
          exact fun _ => ⟨positive, rfl⟩
        · exact fun running => ⟨(clocked running).1, rfl⟩
    | message _ _ | dequeuing _ | storing _ _ _ | releasing _ | reading _ => exact clocked

theorem connectMove_clocked (client next : Client) (move : ConnectMove client next)
    (clocked : client.Clocked) : next.Clocked := by
  cases move with
  | opening usKeepAliveSeconds offline => exact fun running => (by cases running)
  | refusal reason offline => exact clocked

structure Lasting (config : Config) (opened : Bool) (client : Client) : Prop where
  kept : Kept config client
  stored : Stored client
  clocked : opened = true → client.Clocked

theorem perform_lasting (config : Config) (opened : Bool) (client next : Client)
    (operation : Operation config.toPlatform) (lasting : Lasting config opened client)
    (done : perform config client operation = .ok (some next)) : Lasting config opened next := by
  have kept := lasting.kept
  constructor
  · exact perform_kept config client next operation kept done
  · exact perform_stored config client next operation kept lasting.stored done
  · intro before
    exact perform_invariant config Client.Clocked (move_clocked config) connectMove_clocked
      (fun _ _ _ _ clocked running => ⟨(clocked running).1, rfl⟩) client next operation kept.sound
      kept.queued done (lasting.clocked before)

theorem reaches_iff (client : Client) (input : ConnectInput) :
    reaches client input = true ↔ client.Attains input := by
  unfold reaches Client.Attains
  cases client.topicBuffer <;> cases input.resolved <;> cases input.useSSL <;>
    simp [not_or, and_assoc]

/-- `Connect` reports a failure at once, or goes on from the opened connection. -/
theorem connect_cases (config : Config) (client next : Client) (request : ConnectRequest)
    (input : ConnectInput) (done : client.connect config request input = .ok next) :
    client.status = .disconnected ∧
      ((reaches client input = false ∧ ∃ reason, next = client.record (.onDisconnect reason)) ∨
        (reaches client input = true ∧
          LocalMoves config (client.opened request.keepAliveSeconds) next)) := by
  rcases client.connect_outcome config next request input done with
    ⟨offline, ⟨short, reason, -, same⟩ |
      ⟨attained, packet, after, middle, sent, -, sending, outcome⟩⟩
  · refine ⟨offline, Or.inl ⟨?_, reason, same⟩⟩
    by_contra reached
    exact short ((reaches_iff client input).mp (by simpa using reached))
  · refine ⟨offline, Or.inr ⟨(reaches_iff client input).mpr attained, ?_⟩⟩
    have first : LocalMoves config (client.opened request.keepAliveSeconds) middle :=
      .single (.transmission _ middle packet after input.send sent sending)
    rcases outcome with ⟨-, rfl⟩ | ⟨-, closing⟩
    · exact first
    · exact first.tail (.closing middle next _ closing)

/-- A connection that has just been opened has no timer yet. -/
theorem connect_clocked (config : Config) (client next : Client) (request : ConnectRequest)
    (input : ConnectInput) (reached : reaches client input = true)
    (done : client.connect config request input = .ok next) : next.Clocked := by
  rcases connect_cases config client next request input done with
    ⟨-, ⟨unreached, -⟩ | ⟨-, moves⟩⟩
  · rw [reached] at unreached
    cases unreached
  · exact moves_invariant config Client.Clocked (move_clocked config) _ next moves.moves
      fun running => (by cases running)

/-! An iteration of the loop in `Run`. -/

theorem receiver_invariant (config : Config) (invariant : Client → Prop)
    (preserved : ∀ client next input, invariant client →
      perform config client (.receiver input) = .ok (some next) → invariant next)
    (client next : Client) (inputs : List (ReceiveInput config.toPlatform))
    (done : client.receiver config inputs = .ok (some next)) (holds : invariant client) :
    invariant next := by
  induction inputs generalizing client with
  | nil => cases done
  | cons input inputs ih =>
      simp only [Client.receiver, bind_ok] at done
      rcases done with ⟨⟨more, middle⟩, pass, done⟩
      have first : invariant middle := by
        apply preserved client middle input holds
        simp only [perform, pass, ok_bind]
        rfl
      split at done
      · exact ih middle done first
      · cases done
        exact first

theorem runPass_invariant (config : Config) (invariant : Client → Prop)
    (preserved : ∀ client next operation, operation.isConnect = false → invariant client →
      perform config client operation = .ok (some next) → invariant next)
    (client next : Client) (input : RunInput config.toPlatform)
    (done : client.runPass config input = .ok (some next)) (holds : invariant client) :
    invariant next := by
  unfold Client.runPass at done
  split at done
  · simp only [bind_ok] at done
    rcases done with ⟨_ | received, receiving, done⟩
    · cases done
    · simp only [bind_ok] at done
      rcases done with ⟨_ | sent, sending, done⟩
      · cases done
      · simp only [bind_ok, pure_ok, Except.ok.injEq, Option.some.injEq] at done
        rcases done with ⟨_, pinging, rfl⟩
        have first := receiver_invariant config invariant
          (fun client next input => preserved client next (.receiver input) rfl) client received
          input.reads receiving holds
        have second := preserved received sent (.sender input.nTicks input.sends) rfl first sending
        refine preserved sent _ (.keepAliveHandler input.ticks input.ping) rfl second ?_
        simp only [perform, pinging, ok_bind]
        rfl
  · cases done
    exact holds

theorem receiver_spares (config : Config) (client : Client)
    (inputs : List (ReceiveInput config.toPlatform)) (lasting : Lasting config true client) :
    Spares Fault.guarded (client.receiver config inputs) := by
  induction inputs generalizing client with
  | nil => exact spares_ok _ _
  | cons input inputs ih =>
      unfold Client.receiver
      apply spares_bind _ _ _ (client.receiverPass_spares config input lasting.kept.sound)
      rintro ⟨more, middle⟩ pass
      dsimp only
      split
      · apply ih middle
        apply perform_lasting config true client middle (.receiver input) lasting
        simp only [perform, pass, ok_bind]
        rfl
      · exact spares_ok _ _

theorem sender_spares (config : Config) (client : Client) (nTicks : UInt32)
    (inputs : List SendInput) (kept : Kept config client) :
    Spares Fault.guarded (client.sender config.toPlatform nTicks inputs) := by
  apply client.senderLoop_spares config.toPlatform nTicks [] _ inputs kept.sound.linked
  intro packet member
  exact queueable_restarts packet.type packet.qos (kept.queued.fits packet member)

theorem runPass_spares (config : Config) (client : Client) (input : RunInput config.toPlatform)
    (lasting : Lasting config true client) :
    Spares Fault.guarded (client.runPass config input) := by
  unfold Client.runPass
  split
  · apply spares_bind _ _ _ (receiver_spares config client input.reads lasting)
    rintro (_ | received) receiving
    · exact spares_ok _ _
    · have first := receiver_invariant config (Lasting config true)
        (fun client next input before =>
          perform_lasting config true client next (.receiver input) before)
        client received input.reads receiving lasting
      apply spares_bind _ _ _ (sender_spares config received input.nTicks input.sends first.kept)
      rintro (_ | sent) sending
      · exact spares_ok _ _
      · have second := perform_lasting config true received sent
          (.sender input.nTicks input.sends) first sending
        apply spares_bind _ _ _ (sent.keepAliveHandler_spares config.toPlatform input.ticks
          input.ping second.kept.sound.linked (second.clocked rfl))
        intro _ _
        exact spares_ok _ _
  · exact spares_ok _ _

theorem call_spares (config : Config) (client : Client) (operation : Operation config.toPlatform)
    (called : operation.isCalled = true) (linked : client.Linked)
    (allowed : operation.isConnect = true → client.status = .disconnected) :
    Spares Fault.guarded (perform config client operation) := by
  have finish : ∀ value : Except Fault Client, Spares Fault.guarded value →
      Spares Fault.guarded (do return some (← value)) := by
    intro value fine
    apply spares_bind _ _ _ fine
    intro _ _
    exact spares_ok _ _
  cases operation with
  | connect request input =>
      exact finish _ (client.connect_spares config request input linked (allowed rfl))
  | disconnect bForce input => exact finish _ (client.disconnect_spares config bForce input linked)
  | subscribe pTopic uchQoS input =>
      exact finish _ (client.subscribe_spares config pTopic uchQoS input linked)
  | unsubscribe pTopic input =>
      exact finish _ (client.unsubscribe_spares config pTopic input linked)
  | publish pTopic payload uchQoS bRetain input =>
      exact finish _ (client.publish_spares config pTopic payload uchQoS bRetain input linked)
  | receiver _ | sender _ _ | keepAliveHandler _ _ => cases called

structure Proper (life : Life) : Prop where
  linked : life.client.status ≠ .disconnected ↔ life.client.socket = true
  cleared : life.client.status = .disconnected →
    life.client.retransmissionQueue = [] ∧ life.client.packetIdentifierStore = [] ∧
      (life.opened = true → life.client.timerRunning = false)
  timer : life.opened = true → life.client.timerRunning = true →
    life.client.keepAliveSeconds > 0 ∧
      (life.client.status = .connected ∨ life.client.status = .waitForPingResp)
  counted : disconnects life.client.log + (if life.client.status = .disconnected then 0 else 1) =
    life.connects

def Good : State → Prop
  | .running life => Proper life
  | .failed fault => fault.guarded = false

def Holding (config : Config) : State → Prop
  | .running life =>
      Lasting config life.opened life.client ∧ attempts life.client = life.connects ∧
        (life.client.status ≠ .disconnected → life.opened = true)
  | .failed fault => fault.guarded = false

theorem holding_good (config : Config) (state : State) (holding : Holding config state) :
    Good state := by
  cases state with
  | failed fault => exact holding
  | running life =>
      rcases holding with ⟨lasting, counted, -⟩
      have connected : life.opened = true → life.client.timerRunning = true →
          life.client.keepAliveSeconds > 0 ∧
            (life.client.status = .connected ∨ life.client.status = .waitForPingResp) := by
        intro opened running
        simpa [Client.isConnected] using lasting.clocked opened running
      refine ⟨lasting.kept.sound.linked.symm, ?_, connected, counted⟩
      intro offline
      refine ⟨lasting.kept.queued.empty offline, lasting.stored offline, ?_⟩
      intro opened
      by_contra running
      rcases (connected opened (by simpa using running)).2 with status | status <;>
        cases offline.symm.trans status

theorem carryOut_spares (config : Config) (life : Life) (activity : Activity config.toPlatform)
    (allowed : activity.isConnect = true → life.client.status = .disconnected)
    (holding : Holding config (.running life)) :
    Spares Fault.guarded (carryOut config life.client activity) := by
  rcases holding with ⟨lasting, -, live⟩
  cases activity with
  | call operation called =>
      exact call_spares config life.client operation called lasting.kept.sound.linked allowed
  | runPass input =>
      by_cases online : life.client.status ≠ .disconnected
      · rw [live online] at lasting
        exact runPass_spares config life.client input lasting
      · simp only [carryOut, Client.runPass, online, ↓reduceIte]
        exact spares_ok _ _

/-- A call of `Connect`: one attempt more, and the timer is known from here on if it opens
a connection. -/
theorem connect_holding (config : Config) (life : Life) (next : Client) (request : ConnectRequest)
    (input : ConnectInput)
    (done : perform config life.client (.connect request input) = .ok (some next))
    (holding : Holding config (.running life)) :
    Holding config
      (.running ⟨next, life.connects + 1, life.opened || reaches life.client input⟩) := by
  rcases holding with ⟨lasting, counted, live⟩
  have after := perform_lasting config life.opened life.client next _ lasting done
  have connected : life.client.connect config request input = .ok next := by
    cases perform_performs config life.client next _ done with
    | connect _ _ _ done => exact done
  refine ⟨⟨after.kept, after.stored, ?_⟩, ?_, ?_⟩
  · intro opened
    rcases Bool.or_eq_true _ _ ▸ opened with before | now
    · exact after.clocked before
    · exact connect_clocked config life.client next request input now connected
  · rw [connect_attempts config life.client next _ rfl done, counted]
  · intro online
    by_contra closed
    simp only [Bool.or_eq_true, not_or, Bool.not_eq_true] at closed
    rcases connect_cases config life.client next request input connected with
      ⟨offline, ⟨-, reason, rfl⟩ | ⟨reached, -⟩⟩
    · exact online offline
    · rw [reached] at closed
      cases closed.2

/-- Any other activity goes on with the connection there is. -/
theorem continued_holding (config : Config) (life : Life) (next : Client)
    (lasting : Lasting config life.opened next) (continued : Continued life.client next)
    (holding : Holding config (.running life)) :
    Holding config (.running ⟨next, life.connects, life.opened⟩) := by
  rcases holding with ⟨-, counted, live⟩
  exact ⟨lasting, continued.attempts.trans counted,
    fun online => live fun offline => online (continued.offline offline)⟩

/-- Everything an activity can lead to. -/
theorem act_cases (config : Config) (state next : State) (activity : Activity config.toPlatform)
    (taken : act config state activity = some next) :
    ∃ life, state = .running life ∧
      (activity.isConnect = true → life.client.status = .disconnected) ∧
      ((∃ client, carryOut config life.client activity = .ok (some client) ∧
          next = .running ⟨client, life.connects + activity.isConnect.toNat,
            life.opened || opens life.client activity⟩) ∨
        ∃ fault, carryOut config life.client activity = .error fault ∧ next = .failed fault) := by
  cases state with
  | failed fault => cases taken
  | running life =>
      refine ⟨life, rfl, ?_⟩
      simp only [act] at taken
      split at taken
      · cases taken
      · rename_i allowed
        constructor
        · intro connect
          by_contra online
          exact allowed ⟨connect, online⟩
        · split at taken
          · cases taken
          · rename_i client done
            exact Or.inl ⟨client, done, (Option.some.inj taken).symm⟩
          · rename_i fault failed
            exact Or.inr ⟨fault, failed, (Option.some.inj taken).symm⟩

theorem call_holding (config : Config) (life : Life) (next : Client)
    (operation : Operation config.toPlatform) (called : operation.isCalled = true)
    (done : perform config life.client operation = .ok (some next))
    (holding : Holding config (.running life)) :
    Holding config (.running ⟨next, life.connects + operation.isConnect.toNat,
      life.opened || opens life.client (.call operation called)⟩) := by
  by_cases connect : operation.isConnect = true
  · cases operation with
    | connect request input => exact connect_holding config life next request input done holding
    | _ => cases connect
  · have other : operation.isConnect = false := by simpa using connect
    have same : opens life.client (.call operation called) = false := by
      cases operation with
      | connect request input => exact absurd rfl connect
      | _ => rfl
    rw [same, Bool.or_false, other]
    exact continued_holding config life next
      (perform_lasting config life.opened life.client next operation holding.1 done)
      (perform_continued config life.client next operation holding.1.kept other done) holding

theorem runPass_holding (config : Config) (life : Life) (next : Client)
    (input : RunInput config.toPlatform)
    (done : life.client.runPass config input = .ok (some next))
    (holding : Holding config (.running life)) :
    Holding config (.running ⟨next, life.connects, life.opened⟩) := by
  have goes := runPass_invariant config
    (fun client => Lasting config life.opened client ∧ Continued life.client client)
    (fun client next operation other before done =>
      ⟨perform_lasting config life.opened client next operation before.1 done,
        continued_trans before.2
          (perform_continued config client next operation before.1.kept other done)⟩)
    life.client next input done
    ⟨holding.1, continued_same life.client life.client Iff.rfl rfl⟩
  exact continued_holding config life next goes.1 goes.2 holding

theorem act_holding (config : Config) (state next : State) (activity : Activity config.toPlatform)
    (holding : Holding config state) (taken : act config state activity = some next) :
    Holding config next := by
  rcases act_cases config state next activity taken with
    ⟨life, rfl, offline, ⟨client, done, rfl⟩ | ⟨fault, failed, rfl⟩⟩
  · cases activity with
    | call operation called => exact call_holding config life client operation called done holding
    | runPass input =>
        simp only [opens, Bool.or_false]
        exact runPass_holding config life client input done holding
  · exact carryOut_spares config life activity offline holding fault failed

def begun (client : Client) : State := .running ⟨client, 0, false⟩

theorem constructed_holding (config : Config) (client : Client)
    (constructed : Constructed config client) : Holding config (begun client) := by
  refine ⟨⟨constructed_kept config client constructed,
    fun _ => constructed.packetIdentifierStore, fun opened => (by cases opened)⟩, ?_, ?_⟩
  · simp [attempts, constructed.log, constructed.status, disconnects]
  · exact fun online => absurd constructed.status online

/-- The life cycle: in every order of activities, whatever the network does, the client is
a proper one after each of them and no assertion on the connection fails. -/
theorem life_cycle (config : Config) (client : Client)
    (activities : List (Activity config.toPlatform)) (constructed : Constructed config client) :
    Throughout (act config) Good (begun client) activities :=
  throughout_invariant (Holding config) Good (holding_good config)
    (fun state activity next holding => act_holding config state next activity holding)
    (begun client) activities (constructed_holding config client constructed)

-- The memory of this client was not zero where the timer is.
def uncleared : Client := { Client.fresh Config.default with timerRunning := true }

def unresolved : Activity Config.default.toPlatform :=
  .call (.connect plainRequest { smoothConnect with resolved := false }) rfl

theorem timer_undefined_before_connection :
    Constructed Config.default uncleared ∧
      ∃ life, run (act Config.default) (begun uncleared) [unresolved] = some (.running life) ∧
        life.client.timerRunning = true ∧ life.client.status = .disconnected :=
  ⟨⟨rfl, rfl, rfl, rfl, rfl, rfl, rfl⟩, _, rfl, rfl, rfl⟩

def visit : List (Activity Config.default.toPlatform) :=
  [.call (.connect plainRequest smoothConnect) rfl,
    .runPass ⟨[delivers [0x20, 2, 0, 0] connAck_short, delivers [] nothing_short], 0, [], 0,
    .willing⟩,
    .call (.publish [0x61] [] 1 false .willing) rfl,
    .call (.disconnect true .willing) rfl]

theorem visit_proper :
    (∃ life, run (act Config.default) (begun (Client.fresh Config.default)) visit =
        some (.running life) ∧ life.connects = 1 ∧ life.opened = true) ∧
      Throughout (act Config.default) Good (begun (Client.fresh Config.default)) visit :=
  ⟨⟨_, rfl, rfl, rfl⟩, life_cycle Config.default (Client.fresh Config.default) visit
    (fresh_constructed Config.default)⟩

end LifeCycle

end CircleStdlib.Mqtt
