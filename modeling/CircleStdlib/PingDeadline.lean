import CircleStdlib.ClientDeeds

/-!
The broker that does not answer. When the keep-alive period is over, `KeepAliveHandler` sends
PINGREQ and starts the timer again, for the time that the broker has for its PINGRESP. Nothing
that goes on meanwhile moves this deadline: neither the packets that the client sends, which do
restart the timer of a connected client, nor the packets that the broker sends, other than
PINGRESP itself.
-/

namespace CircleStdlib.Mqtt

open Checked Execution

namespace PingDeadline

structure AwaitsPing (nDeadline : UInt32) (client : Client) : Prop where
  status : client.status = .waitForPingResp
  running : client.timerRunning = true
  elapses : client.timerElapsesAt = nDeadline

structure Over (client : Client) : Prop where
  status : client.status = .disconnected
  stopped : client.timerRunning = false

def Waits (nDeadline : UInt32) (client : Client) : Prop :=
  Over client ∨ AwaitsPing nDeadline client

/-- The operation is no `Connect`, and no round of `Receiver` that dispatches a PINGRESP. -/
def Unanswered (config : Config) : Machine → Operation config.toPlatform → Prop
  | .failed _ _, _ => True
  | .running client, operation =>
      operation.isConnect = false ∧
        ∀ first, Hears config client operation (some first) → first.type ≠ .pingResp

variable {config : Config} {heard : Option Packet} {nDeadline : UInt32}

theorem awaits_spoken (platform : Platform) (client : Client) (packet : SendPacket)
    (ticks : UInt32) (awaits : AwaitsPing nDeadline client) :
    AwaitsPing nDeadline (client.spoken platform packet ticks) := by
  have same : client.spoken platform packet ticks = client.record (.sent packet.wire true) := by
    rw [Client.spoken, Client.restarted, if_neg]
    rintro ⟨connected, -⟩
    have status : client.status = .connected := connected
    rw [awaits.status] at status
    cases status
  rw [same]
  exact ⟨awaits.status, awaits.running, awaits.elapses⟩

theorem awaits_queue (client : Client) (queue : List SendPacket)
    (awaits : AwaitsPing nDeadline client) : AwaitsPing nDeadline (client.withQueue queue) :=
  ⟨awaits.status, awaits.running, awaits.elapses⟩

/-- Nothing but a PINGRESP moves the deadline. -/
theorem deed_awaits (client next : Client) (deed : Deed config heard client next)
    (silent : ∀ first, heard = some first → first.type ≠ .pingResp)
    (awaits : AwaitsPing nDeadline client) : Waits nDeadline next := by
  cases deed with
  | aside packet store => exact Or.inr ⟨awaits.status, awaits.running, awaits.elapses⟩
  | numbering => exact Or.inr ⟨awaits.status, awaits.running, awaits.elapses⟩
  | sending packet ticks => exact Or.inr (awaits_spoken _ client packet ticks awaits)
  | pinging packet now ticks connected =>
      rw [awaits.status] at connected
      cases connected
  | repeating before behind packet entry nTicks ticks =>
      exact Or.inr (awaits_queue _ _ (awaits_spoken _ client _ ticks awaits))
  | settling => exact Or.inr (awaits_queue client _ awaits)
  | releasing first entry packet release ticks =>
      exact Or.inr (awaits_queue _ _ (awaits_spoken _ client packet ticks awaits))
  | hearing message => exact Or.inr ⟨awaits.status, awaits.running, awaits.elapses⟩
  | ponging first ticks dispatched type => exact absurd type (silent first dispatched)
  | establishing first sessionPresent dispatched type pending =>
      rw [awaits.status] at pending
      cases pending
  | closing reason events => exact Or.inl ⟨rfl, rfl⟩

theorem deeds_waits (client next : Client) (deeds : Deeds config heard client next)
    (silent : ∀ first, heard = some first → first.type ≠ .pingResp)
    (waits : Waits nDeadline client) : Waits nDeadline next := by
  refine deeds_invariant (Waits nDeadline) ?_ client next deeds waits
  intro client next deed waits
  rcases waits with ⟨offline, stopped⟩ | awaits
  · rcases deed_offline client next deed offline with ⟨still, timer⟩
    exact Or.inl ⟨still, timer.trans stopped⟩
  · exact deed_awaits client next deed silent awaits

theorem asking_awaits (client next : Client) (operation : Operation config.toPlatform)
    (asking : Asking config client operation next) (waits : Waits nDeadline client) :
    Waits nDeadline next := by
  cases asking with
  | asked packet entry uchQoS ticks online =>
      rcases waits with ⟨offline, -⟩ | awaits
      · exact absurd offline online
      · have kept : AwaitsPing nDeadline client.advanceIdentifier :=
          ⟨awaits.status, awaits.running, awaits.elapses⟩
        exact Or.inr (awaits_queue _ _ (awaits_spoken _ _ packet ticks kept))

theorem course_waits (client next : Client) (operation : Operation config.toPlatform)
    (unanswered : Unanswered config (.running client) operation)
    (course : Course config client operation next) (waits : Waits nDeadline client) :
    Waits nDeadline next := by
  cases course with
  | opening called opening =>
      rw [unanswered.1] at called
      cases called
  | asking other asking => exact asking_awaits client next operation asking waits
  | deeds other heard unasked hears deeds =>
      exact deeds_waits client next deeds
        (fun first told => unanswered.2 first (told ▸ hears)) waits

def expired (client : Client) : Client :=
  if client.status = .disconnected then client else client.closed .pingFailed

/-- At the deadline the handler closes the connection. -/
theorem handler_closes (client : Client) (ticks : UInt32) (input : SendInput)
    (linked : client.Linked) (waits : Waits nDeadline client)
    (elapsed : later nDeadline ticks = false) :
    client.keepAliveHandler config.toPlatform ticks input = .ok (expired client) := by
  rcases waits with ⟨offline, stopped⟩ | awaits
  · rw [expired, if_pos offline, Client.keepAliveHandler, if_neg]
    rintro ⟨running, -⟩
    rw [stopped] at running
    cases running
  · have status : client.stopTimer.status = .waitForPingResp := awaits.status
    have online : client.status ≠ .disconnected := by rw [awaits.status]; decide
    have due : client.timerRunning ∧ ¬ later client.timerElapsesAt ticks := by
      rw [awaits.elapses, elapsed]
      exact ⟨awaits.running, by decide⟩
    rcases client.stopTimer.closeConnection_total .pingFailed linked with ⟨next, closing⟩
    rw [expired, if_neg online, Client.keepAliveHandler, if_pos due]
    dsimp only
    rw [if_neg (by rw [status]; decide), require_holds _ _ status, ok_bind, closing]
    rcases client.stopTimer.closeConnection_cases next .pingFailed closing with
      ⟨offline, -⟩ | ⟨-, -, rfl⟩
    · exact absurd offline online
    · rfl

theorem pinged_awaits (platform : Platform) (client : Client) (packet : SendPacket)
    (ticks : UInt32) :
    AwaitsPing (ticks + platform.pingTimeout) (client.pinged platform packet ticks) :=
  ⟨rfl, rfl, rfl⟩

/-- What the handler does when the keep-alive period of a connected client is over. -/
theorem handler_asks (client next : Client) (now : UInt32) (ping : SendInput)
    (connected : client.status = .connected) (running : client.timerRunning = true)
    (elapsed : later client.timerElapsesAt now = false)
    (done : client.keepAliveHandler config.toPlatform now ping = .ok next) :
    (∃ events, Parting events ∧ next = (client.logged events).closed .sendFailed) ∨
      ∃ packet, Outgoing packet ∧ packet.type = .pingReq ∧
        next = client.pinged config.toPlatform packet ping.timerTicks := by
  rcases client.keepAliveHandler_cases next now ping done with
    ⟨early, -⟩ | ⟨-, ⟨-, -, asked⟩ | ⟨-, failed⟩ | ⟨waiting, -⟩⟩
  · exact absurd ⟨running, by rw [elapsed]; decide⟩ early
  · exact Or.inr asked
  · exact Or.inl failed
  · rw [connected] at waiting
    cases waiting

/-- In every run: a connected client whose keep-alive period is over sends a PINGREQ or gives up.
When no PINGRESP comes, then whatever else the client and the broker do, the connection is closed
at the latest by the first call of the handler behind the ping timeout. -/
theorem silent_broker_disconnects (config : Config) (client asking next waiting : Client)
    (before during : List (Operation config.toPlatform)) (now ticks : UInt32)
    (ping input : SendInput) (constructed : Constructed config client)
    (reached : run (step config) (.running client) before = some (.running asking))
    (connected : asking.status = .connected) (running : asking.timerRunning = true)
    (elapsed : later asking.timerElapsesAt now = false)
    (asks : step config (.running asking) (.keepAliveHandler now ping) = some (.running next))
    (silent : Along (step config) (Unanswered config) (.running next) during)
    (goes : run (step config) (.running next) during = some (.running waiting))
    (late : later (ping.timerTicks + config.pingTimeout) ticks = false) :
    ((∃ events, Parting events ∧ next = (asking.logged events).closed .sendFailed) ∨
      ∃ packet, Outgoing packet ∧ packet.type = .pingReq ∧
        next.log = asking.log ++ [.sent packet.wire true]) ∧
    step config (.running waiting) (.keepAliveHandler ticks input) =
      some (.running (expired waiting)) ∧ (expired waiting).status = .disconnected := by
  have settled := reached_settled config client asking before constructed reached
  rcases step_cases config _ _ _ asks with ⟨client, ⟨⟩, ⟨after, done, ⟨⟩⟩ | ⟨fault, -, failed⟩⟩
  swap
  · cases failed
  have handled : asking.keepAliveHandler config.toPlatform now ping = .ok next := by
    simpa only [perform, bind_ok, pure_ok, Except.ok.injEq, Option.some.injEq,
      exists_eq_right] using done
  have outcome := handler_asks asking next now ping connected running elapsed handled
  have waits : Waits (ping.timerTicks + config.pingTimeout) next := by
    rcases outcome with ⟨events, -, rfl⟩ | ⟨packet, -, -, rfl⟩
    · exact Or.inl ⟨rfl, rfl⟩
    · exact Or.inr (pinged_awaits config.toPlatform asking packet ping.timerTicks)
  rcases along_courses config (Unanswered config) (Waits (ping.timerTicks + config.pingTimeout))
    (fun client next operation _ => course_waits client next operation)
    next waiting during (perform_settled config asking next _ settled done) waits silent goes with
    ⟨sound, behind⟩
  refine ⟨outcome.imp_right ?_, ?_, ?_⟩
  · rintro ⟨packet, outgoing, type, rfl⟩
    exact ⟨packet, outgoing, type, rfl⟩
  · have closes : waiting.keepAliveHandler config.toPlatform ticks input = .ok (expired waiting) :=
      handler_closes waiting ticks input sound.kept.sound.linked behind late
    simp only [step, perform, closes, ok_bind]
    rfl
  · rw [expired]
    split
    · assumption
    · rfl

def talking : List (Operation Config.default.toPlatform) :=
  [.connect plainRequest smoothConnect, .receiver (delivers [0x20, 2, 0, 0] connAck_short),
    .publish [0x61] [] 0 false .willing]

def unheard : List (Operation Config.default.toPlatform) := [.publish [0x61] [] 0 false .willing]

theorem unheard_disconnects :
    ∃ asking next waiting, run (step Config.default) (.running (Client.fresh Config.default))
        talking = some (.running asking) ∧
      step Config.default (.running asking) (.keepAliveHandler 6000 .willing) =
        some (.running next) ∧
      run (step Config.default) (.running next) unheard = some (.running waiting) ∧
      step Config.default (.running waiting) (.keepAliveHandler 6000 .willing) =
        some (.running (expired waiting)) ∧ (expired waiting).status = .disconnected := by
  refine ⟨_, _, _, rfl, rfl, rfl, (silent_broker_disconnects Config.default
    (Client.fresh Config.default) _ _ _ talking unheard 6000 6000 .willing .willing
    (fresh_constructed Config.default) rfl rfl rfl (by decide +kernel) rfl ?_ rfl
    (by decide +kernel)).2⟩
  refine ⟨⟨rfl, ?_⟩, fun _ _ => trivial⟩
  rintro first ⟨⟩
  contradiction

end PingDeadline

end CircleStdlib.Mqtt
