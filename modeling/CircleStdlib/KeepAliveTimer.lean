import CircleStdlib.ClientMoves

/-!
The keep-alive timer. `Armed` is what the timer is for: with a keep-alive period
it runs whenever the client is connected. `Timed` is the other direction: while
there is a connection it runs only when it may. Every move preserves both; the
step that establishes the connection leaves the timer as it is, stopped, and so
breaks the first whenever there is a keep-alive period. The callbacks do not call
back into the client here.
-/

namespace CircleStdlib.Mqtt

open Checked Execution

namespace Client

def TimerKept (client next : Client) : Prop :=
  next.timerRunning = client.timerRunning ∨
    (client.status = .connected ∧ client.keepAliveSeconds > 0 ∧ next.timerRunning = true)

theorem keepAlive_timer (platform : Platform) (client next : Client) (type : PacketType)
    (ticks : UInt32) (done : client.keepAlive platform type ticks = .ok next) :
    next.keepAliveSeconds = client.keepAliveSeconds ∧
      if type = .pingReq then
        client.status = .connected ∧ client.keepAliveSeconds > 0 ∧
          next.status = .waitForPingResp ∧ next.timerRunning = true
      else next.status = client.status ∧ client.TimerKept next := by
  cases type
  case pingReq =>
      simp only [keepAlive, bind_ok, require_ok, pure_ok, Except.ok.injEq] at done
      rcases done with ⟨_, period, _, connected, _, -, rfl⟩
      exact ⟨rfl, connected, period, rfl, rfl⟩
  case disconnect =>
      cases done
      exact ⟨rfl, rfl, Or.inl rfl⟩
  case reserved | connAck | subAck | unsubAck | pingResp | unknown => cases done
  all_goals
    simp only [keepAlive] at done
    split at done
    · rename_i due
      cases done
      exact ⟨rfl, rfl, Or.inr ⟨due.1, due.2, rfl⟩⟩
    · cases done
      exact ⟨rfl, rfl, Or.inl rfl⟩

/-- What a transmission does to the status and the timer. -/
theorem sendPacket_timer (platform : Platform) (client next : Client) (packet after : SendPacket)
    (input : SendInput) (sent : Bool)
    (done : client.sendPacket platform packet input = .ok (sent, after, next)) :
    next.keepAliveSeconds = client.keepAliveSeconds ∧
      if sent = true ∧ packet.type = .pingReq then
        client.status = .connected ∧ client.keepAliveSeconds > 0 ∧
          next.status = .waitForPingResp ∧ next.timerRunning = true
      else next.status = client.status ∧ client.TimerKept next := by
  unfold sendPacket at done
  split at done
  · cases done
    exact ⟨rfl, rfl, Or.inl rfl⟩
  · simp only [bind_ok, require_ok, recordHanded_eq] at done
    rcases done with ⟨_, -, sending, -, done⟩
    split at done
    · simp only [bind_ok, pure_ok, Except.ok.injEq, Prod.mk.injEq] at done
      rcases done with ⟨timed, alive, rfl, rfl, rfl⟩
      rcases keepAlive_timer platform _ timed packet.type _ alive with ⟨period, timer⟩
      refine ⟨period, ?_⟩
      by_cases ping : packet.type = .pingReq
      · rw [if_pos ping] at timer
        rw [if_pos ⟨rfl, ping⟩]
        exact timer
      · rw [if_neg ping] at timer
        rw [if_neg fun both => ping both.2]
        exact timer
    · cases done
      exact ⟨rfl, rfl, Or.inl rfl⟩

end Client

namespace KeepAliveTimer

def Armed (client : Client) : Prop :=
  client.isConnected = true → client.keepAliveSeconds > 0 → client.timerRunning = true

def Timed (client : Client) : Prop :=
  client.status ≠ .disconnected → client.timerRunning = true →
    client.keepAliveSeconds > 0 ∧ client.isConnected = true

structure Timely (client : Client) : Prop where
  armed : Armed client
  timed : Timed client

theorem isConnected_of_status (client next : Client) (same : next.status = client.status) :
    next.isConnected = client.isConnected := by
  simp [Client.isConnected, same]

theorem timely_kept (client next : Client)
    (period : next.keepAliveSeconds = client.keepAliveSeconds)
    (status : next.status = client.status) (timer : client.TimerKept next)
    (timely : Timely client) : Timely next := by
  have connected := isConnected_of_status client next status
  rcases timer with same | ⟨established, due, started⟩
  · refine ⟨?_, ?_⟩
    · intro linked positive
      rw [same]
      exact timely.armed (connected ▸ linked) (period ▸ positive)
    · intro online running
      rw [connected, period]
      exact timely.timed (status ▸ online) (same ▸ running)
  · refine ⟨fun _ _ => started, fun _ _ => ⟨period ▸ due, ?_⟩⟩
    rw [connected]
    simp [Client.isConnected, established]

theorem transmission_timely (platform : Platform) (client next : Client)
    (packet after : SendPacket) (input : SendInput) (sent : Bool)
    (done : client.sendPacket platform packet input = .ok (sent, after, next))
    (timely : Timely client) : Timely next := by
  rcases client.sendPacket_timer platform next packet after input sent done with ⟨period, timer⟩
  split at timer
  · rcases timer with ⟨-, positive, waiting, running⟩
    exact ⟨fun _ _ => running,
      fun _ _ => ⟨period ▸ positive, by simp [Client.isConnected, waiting]⟩⟩
  · exact timely_kept client next period timer.1 timer.2 timely

theorem closed_timely (client next : Client) (reason : DisconnectReason)
    (done : client.closeConnection reason = .ok next) (timely : Timely client) : Timely next := by
  rcases client.closeConnection_cases next reason done with ⟨-, rfl⟩ | ⟨-, -, rfl⟩
  · exact timely
  · exact ⟨fun linked => (by cases linked), fun online => absurd rfl online⟩

theorem localMove_timely (config : Config) (client next : Client)
    (move : LocalMove config client next) (timely : Timely client) : Timely next := by
  cases move with
  | transmission _ packet after input sent done =>
      exact transmission_timely config.toPlatform client next packet after input sent done timely
  | closing _ reason done => exact closed_timely client next reason done timely
  | numbering => exact ⟨timely.armed, timely.timed⟩
  | queueing packet nScheduledTime online fits => exact ⟨timely.armed, timely.timed⟩
  | requeueing queue fits empty => exact ⟨timely.armed, timely.timed⟩
  | ping _ packet after input running type done =>
      rcases client.stopTimer.sendPacket_timer config.toPlatform next packet after input true done
        with ⟨period, timer⟩
      rw [if_pos ⟨rfl, type⟩] at timer
      rcases timer with ⟨-, positive, waiting, started⟩
      exact ⟨fun _ _ => started,
        fun _ _ => ⟨period ▸ positive, by simp [Client.isConnected, waiting]⟩⟩
  | expiry middle _ reason events running framed log silent closing =>
      -- The timer is stopped in between, but the connection is closed either way.
      rcases middle.closeConnection_cases next reason closing with ⟨offline, rfl⟩ | ⟨-, -, rfl⟩
      · refine ⟨?_, fun online => absurd offline online⟩
        intro linked
        simp [Client.isConnected, offline] at linked
      · exact ⟨fun linked => (by cases linked), fun online => absurd rfl online⟩

theorem connectMove_timely (client next : Client) (move : ConnectMove client next)
    (timely : Timely client) : Timely next := by
  cases move with
  | opening usKeepAliveSeconds offline =>
      exact ⟨fun linked => (by cases linked), fun _ running => (by cases running)⟩
  | refusal reason offline => exact ⟨timely.armed, timely.timed⟩

theorem brokerMove_timely (config : Config) (client next : Client)
    (move : BrokerMove config client next) (timely : Timely client) : Timely next := by
  cases move with
  | pong ticks online =>
      unfold Client.respondPingResp
      split
      · rename_i positive
        exact ⟨fun _ _ => rfl, fun _ _ => ⟨positive, rfl⟩⟩
      · rename_i none
        refine ⟨fun _ positive => absurd positive none, ?_⟩
        intro _ running
        exact absurd (timely.timed online running).1 none
  | message message online => exact ⟨timely.armed, timely.timed⟩
  | dequeuing usPacketIdentifier => exact ⟨timely.armed, timely.timed⟩
  | storing usPacketIdentifier online fresh => exact ⟨timely.armed, timely.timed⟩
  | releasing usPacketIdentifier => exact ⟨timely.armed, timely.timed⟩
  | reading packet => exact ⟨timely.armed, timely.timed⟩

def StartsConnection (config : Config) : Machine → Operation config.toPlatform → Prop
  | .running client, .receiver input =>
      client.status = .connectPending ∧ client.keepAliveSeconds > 0 ∧
        ∃ first rest, client.front config input = some (first, rest) ∧ first.Accepted ∧
          first.type = .connAck ∧ codeAt 1 first.body = 0
  | _, _ => False

def TimerArmed : Machine → Prop
  | .running client => Armed client
  | .failed _ _ => True

def Holding (config : Config) : Machine → Prop
  | .running client => Kept config client ∧ Timely client
  | .failed _ _ => True

/-- Without a keep-alive period there is no timer to start. -/
theorem established_timely (client : Client) (sessionPresent : Bool) (packet : ReceivePacket)
    (pending : client.status = .connectPending) (none : ¬ client.keepAliveSeconds > 0)
    (timely : Timely client) :
    Timely ((client.established sessionPresent).withPacket packet) := by
  refine ⟨fun _ positive => absurd positive none, ?_⟩
  intro _ running
  exact absurd (timely.timed (by rw [pending]; decide) running).1 none

theorem step_holding (config : Config) (state next : Machine)
    (operation : Operation config.toPlatform) (holding : Holding config state)
    (other : ¬ StartsConnection config state operation)
    (taken : step config state operation = some next) : Holding config next := by
  rcases step_cases config state next operation taken with
    ⟨client, rfl, ⟨after, done, rfl⟩ | ⟨fault, -, rfl⟩⟩
  · rcases holding with ⟨kept, timely⟩
    refine ⟨perform_kept config client after operation kept done, ?_⟩
    have moved : ∀ client next, Move config client next → Timely client → Timely next :=
      fun client next move timely => move.elim
        (fun own => localMove_timely config client next own timely)
        (fun brought => brokerMove_timely config client next brought timely)
    by_cases called : operation.isConnect = true
    · rcases connect_begins config client after operation called done with ⟨middle, first, moves⟩
      exact moves_invariant config Timely moved middle after moves.moves
        (connectMove_timely client middle first timely)
    rcases perform_moves config client after operation kept.sound kept.queued
      (by simpa using called) done with
      moves | ⟨input, first, rest, rfl, there, accepted, pending, type, zero, _, packet, rfl⟩
    · exact moves_invariant config Timely moved client after moves timely
    · have none : ¬ client.keepAliveSeconds > 0 := fun positive =>
        other ⟨pending, positive, first, rest, there, accepted, type, zero⟩
      exact established_timely client _ packet pending none timely
  · exact trivial

/-- The handler of the CONNACK does not start the timer, and it was not running. -/
theorem step_unarmed (config : Config) (state next : Machine)
    (operation : Operation config.toPlatform) (holding : Holding config state)
    (starts : ¬ ¬ StartsConnection config state operation)
    (taken : step config state operation = some next) : ¬ TimerArmed next := by
  rcases step_cases config state next operation taken with ⟨client, rfl, outcome⟩
  cases operation with
  | receiver input =>
      rcases not_not.mp starts with ⟨pending, positive, first, rest, there, accepted, type, zero⟩
      rcases Option.bind_eq_some_iff.mp there with ⟨stream, arrived, whole⟩
      rcases client.round_accepted config input stream rest first holding.1.sound arrived whole
        accepted with ⟨packet, pass, -⟩
      have responded : client.respond config first input.send =
          .ok (client.established (codeAt 0 first.body &&& connackFlagSP != 0)) := by
        unfold Client.respond
        rw [type]
        simp only [Client.respondConnAck, pending, zero, ne_eq, not_true_eq_false, ↓reduceIte]
        rfl
      rw [responded] at pass
      simp only [perform, pass] at outcome
      rcases outcome with ⟨after, done, rfl⟩ | ⟨fault, failed, -⟩
      · cases done
        intro armed
        have running : client.timerRunning = true := armed rfl positive
        have connected := (holding.2.timed (by rw [pending]; decide) running).2
        simp [Client.isConnected, pending] at connected
      · cases failed
  | _ => exact absurd id starts

/-- In every run: the timer is armed in all states between the operations exactly when
no CONNACK establishes a connection that has a keep-alive period. -/
theorem timer_armed_iff_no_connAck (config : Config) (client : Client)
    (operations : List (Operation config.toPlatform)) (final : Machine)
    (constructed : Constructed config client)
    (reached : run (step config) (.running client) operations = some final) :
    Throughout (step config) TimerArmed (.running client) operations ↔
      Along (step config) (fun state operation => ¬ StartsConnection config state operation)
        (.running client) operations := by
  have offline : client.isConnected ≠ true := by
    simp [Client.isConnected, constructed.status]
  refine throughout_iff_along _ (Holding config) TimerArmed ?_
    (fun state operation next holding other =>
      step_holding config state next operation holding other)
    (fun state operation next holding starts =>
      step_unarmed config state next operation holding starts)
    (.running client) final operations
    ⟨constructed_kept config client constructed, fun linked => absurd linked offline,
      fun online => absurd constructed.status online⟩ reached
  intro state holding
  cases state with
  | running client => exact holding.2.armed
  | failed inReceiver fault => exact trivial

def connecting : List (Operation Config.default.toPlatform) :=
  [.connect plainRequest smoothConnect, .receiver (delivers [0x20, 2, 0, 0] connAck_short)]

theorem connAck_unarmed :
    ∃ last, run (step Config.default) (.running (Client.fresh Config.default)) connecting =
        some (.running last) ∧
      last.isConnected = true ∧ last.keepAliveSeconds = 60 ∧ last.timerRunning = false :=
  ⟨_, rfl, rfl, rfl, rfl⟩

/-- The answer to a ping that was never sent, in the place of the CONNACK. -/
def earlyPong : List (Operation Config.default.toPlatform) :=
  [.connect plainRequest smoothConnect, .receiver (delivers [0xD0, 0] pingResp_short),
    .publish [97] [98] 0 false .willing]

theorem earlyPong_armed :
    (∃ last, run (step Config.default) (.running (Client.fresh Config.default)) earlyPong =
        some (.running last) ∧
      last.isConnected = true ∧ last.keepAliveSeconds = 60 ∧ last.timerRunning = true) ∧
    Throughout (step Config.default) TimerArmed (.running (Client.fresh Config.default))
      earlyPong := by
  refine ⟨⟨_, rfl, rfl, rfl, rfl⟩, ?_⟩
  refine (timer_armed_iff_no_connAck Config.default (Client.fresh Config.default) earlyPong _
    (fresh_constructed Config.default) rfl).mpr ⟨id, ?_⟩
  intro connected taken
  cases taken
  constructor
  · rintro ⟨-, -, first, rest, there, -, acknowledged, -⟩
    cases there
    exact absurd acknowledged (by decide)
  · intro online taken
    cases taken
    exact ⟨id, fun _ _ => trivial⟩

end KeepAliveTimer

end CircleStdlib.Mqtt
