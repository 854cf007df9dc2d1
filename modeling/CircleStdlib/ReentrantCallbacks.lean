import CircleStdlib.LifeCycle

/-!
The client when `OnConnect`, `OnMessage` and `OnDisconnect` call it back. `OnConnect` and
`OnDisconnect` are the last thing that the operation does which calls them, also in
`CloseConnection` and in whatever calls it. `OnMessage` is not: the PUBLISH branch of
`Receiver` completes the packet behind it. A callback is therefore a frame on the stack of
the client's task, and what it calls are steps of the machine, nested to any depth.
-/

namespace CircleStdlib.Mqtt

open Checked CText Execution

namespace Client

-- `deliver` up to its callback, and whether `Complete` is still to come.
def deliverToCallback (platform : Platform) (client : Client) (uchQoS : UInt8)
    (usPacketIdentifier : UInt16) (message : Message) (input : SendInput) :
    Except Fault (Bool × Client) := do
  if uchQoS = 0 then return (true, client.record (.onMessage message))
  else if uchQoS = 1 then
    let (sent, client) ← client.answer platform .pubAck usPacketIdentifier input
    if sent then return (true, client.record (.onMessage message))
    else
      let client ← client.completePacket
      return (false, ← client.closeConnection .sendFailed)
  else if uchQoS = 2 then
    let (sent, client) ← client.answer platform .pubRec usPacketIdentifier input
    if sent then
      if client.isPacketIdentifierInStore usPacketIdentifier then
        return (false, ← client.completePacket)
      else
        let client := client.insertPacketIdentifierIntoStore usPacketIdentifier
        return (true, client.record (.onMessage message))
    else
      let client ← client.completePacket
      return (false, ← client.closeConnection .sendFailed)
  else return (false, client)

def handlePublishToCallback (config : Config) (client : Client) (input : SendInput) :
    Except Fault (Bool × Client) := do
  let uchQoS := qosOfFlags client.receivePacket.flags
  let (read, packet) ← client.receivePacket.readPublish config.topicBufferSize
  let client := client.withPacket packet
  match read with
  | .refused reason => return (false, ← client.closeConnection reason)
  | .arrived usPacketIdentifier message =>
      client.deliverToCallback config.toPlatform uchQoS usPacketIdentifier message input

-- The other handlers complete the packet before they call back.
def handlePacketToCallback (config : Config) (client : Client) (input : SendInput) :
    Except Fault (Bool × Client) :=
  if client.receivePacket.type = .publish then client.handlePublishToCallback config input
  else do return (false, ← client.handlePacket config input)

def resume (pending : Bool) (client : Client) : Except Fault Client :=
  if pending then client.completePacket else .ok client

def receiverToCallback (config : Config) (client : Client)
    (input : ReceiveInput config.toPlatform) : Except Fault (Bool × Bool × Client) :=
  if client.socket = false then .ok (false, false, client)
  else do
    let (status, packet) ← client.receivePacket.receive config.toPlatform input.bytes
    let client := client.withPacket packet
    match status with
    | .continue => return (false, false, client)
    | .packetInvalid => return (false, false, ← client.closeConnection .invalidPacket)
    | .disconnect => return (false, false, ← client.closeConnection .fromPeer)
    | .notEnoughMemory => return (false, false, ← client.closeConnection .insufficientResources)
    | .packetOK =>
        let (pending, client) ← client.handlePacketToCallback config input.send
        return (pending, true, client)

/-! With a callback that returns at once this is the round of `receiverPass`. -/

theorem unsent_resumes (client : Client) :
    (do
      let client ← client.completePacket
      client.closeConnection .sendFailed) = (do
      let (pending, client) ← (do
        let client ← client.completePacket
        return (false, ← client.closeConnection .sendFailed) : Except Fault (Bool × Client))
      client.resume pending) := by
  cases client.completePacket with
  | error fault => rfl
  | ok completed =>
      simp only [ok_bind]
      cases completed.closeConnection .sendFailed <;> rfl

theorem deliver_resumes (platform : Platform) (client : Client) (uchQoS : UInt8)
    (usPacketIdentifier : UInt16) (message : Message) (input : SendInput) :
    client.deliver platform uchQoS usPacketIdentifier message input = (do
      let (pending, client) ←
        client.deliverToCallback platform uchQoS usPacketIdentifier message input
      client.resume pending) := by
  unfold deliver deliverToCallback
  split
  · rfl
  · split
    · cases client.answer platform .pubAck usPacketIdentifier input with
      | error fault => rfl
      | ok answered =>
          rcases answered with ⟨_ | _, answered⟩
          · exact unsent_resumes answered
          · rfl
    · split
      · cases client.answer platform .pubRec usPacketIdentifier input with
        | error fault => rfl
        | ok answered =>
            rcases answered with ⟨_ | _, answered⟩
            · exact unsent_resumes answered
            · simp only [ok_bind, ↓reduceIte]
              split
              · cases answered.completePacket <;> rfl
              · rfl
      · rfl

theorem handlePublish_resumes (config : Config) (client : Client) (input : SendInput) :
    client.handlePublish config input = (do
      let (pending, client) ← client.handlePublishToCallback config input
      client.resume pending) := by
  unfold handlePublish handlePublishToCallback
  cases client.receivePacket.readPublish config.topicBufferSize with
  | error fault => rfl
  | ok result =>
      rcases result with ⟨refused | arrived, packet⟩
      · simp only [ok_bind]
        cases (client.withPacket packet).closeConnection refused <;> rfl
      · exact deliver_resumes config.toPlatform (client.withPacket packet) _ _ _ input

theorem handlePacket_resumes (config : Config) (client : Client) (input : SendInput) :
    client.handlePacket config input = (do
      let (pending, client) ← client.handlePacketToCallback config input
      client.resume pending) := by
  unfold handlePacketToCallback
  split
  · rename_i publish
    rw [handlePacket, publish]
    exact handlePublish_resumes config client input
  · cases client.handlePacket config input <;> rfl

theorem receiverPass_resumes (config : Config) (client : Client)
    (input : ReceiveInput config.toPlatform) :
    client.receiverPass config input = (do
      let (pending, more, client) ← client.receiverToCallback config input
      return (more, ← client.resume pending)) := by
  unfold receiverPass receiverToCallback
  split
  · rfl
  · cases client.receivePacket.receive config.toPlatform input.bytes with
    | error fault => rfl
    | ok received =>
        rcases received with ⟨status, packet⟩
        simp only [ok_bind]
        cases status with
        | «continue» => rfl
        | packetInvalid => cases (client.withPacket packet).closeConnection .invalidPacket <;> rfl
        | disconnect => cases (client.withPacket packet).closeConnection .fromPeer <;> rfl
        | notEnoughMemory =>
            cases (client.withPacket packet).closeConnection .insufficientResources <;> rfl
        | packetOK =>
            simp only [handlePacket_resumes]
            cases (client.withPacket packet).handlePacketToCallback config input.send with
            | error fault => rfl
            | ok handled => rfl

theorem deliverToCallback_pending (platform : Platform) (client next : Client) (uchQoS : UInt8)
    (usPacketIdentifier : UInt16) (message : Message) (input : SendInput)
    (done : client.deliverToCallback platform uchQoS usPacketIdentifier message input =
      .ok (true, next)) : next.receivePacket = client.receivePacket := by
  unfold deliverToCallback at done
  split at done
  · cases done
    rfl
  · split at done
    · simp only [bind_ok] at done
      rcases done with ⟨⟨sent, answered⟩, answer, done⟩
      have framed := answer_framed platform client answered .pubAck _ input sent answer
      cases sent with
      | true =>
          cases done
          exact framed.receivePacket
      | false => simp [bind_ok] at done
    · split at done
      · simp only [bind_ok] at done
        rcases done with ⟨⟨sent, answered⟩, answer, done⟩
        have framed := answer_framed platform client answered .pubRec _ input sent answer
        cases sent with
        | true =>
            simp only [↓reduceIte] at done
            split at done
            · simp [bind_ok] at done
            · cases done
              exact framed.receivePacket
        | false => simp [bind_ok] at done
      · cases done

/-- Where the PUBLISH branch calls back, the whole packet has been read. -/
theorem handlePublishToCallback_pending (config : Config) (client next : Client)
    (input : SendInput) (body rest : List UInt8)
    (reading : client.receivePacket.Reading body rest)
    (start : client.receivePacket.bytesConsumed = 0) (two : 2 ≤ body.length)
    (done : client.handlePublishToCallback config input = .ok (true, next)) :
    next.receivePacket = client.receivePacket.advance body.length := by
  have meaning := client.receivePacket.readPublish_meaning config.topicBufferSize body rest reading
    start two
  simp only [handlePublishToCallback, bind_ok] at done
  rcases done with ⟨⟨read, packet⟩, taken, done⟩
  cases read with
  | refused reason => simp [bind_ok] at done
  | arrived usPacketIdentifier message =>
      have same := deliverToCallback_pending config.toPlatform (client.withPacket packet) next _
        usPacketIdentifier message input done
      split at meaning
      · rw [taken] at meaning
        cases meaning
      · rcases meaning with ⟨_, read, -⟩
        rw [taken] at read
        cases read
      · rw [taken] at meaning
        cases meaning
        exact same

/-- Where a round of `Receiver` leaves `Complete` to be done, its assertion holds. -/
theorem receiverToCallback_pending (config : Config) (client next : Client)
    (input : ReceiveInput config.toPlatform) (more : Bool)
    (bounded : Bounded config client.receivePacket)
    (done : client.receiverToCallback config input = .ok (true, more, next)) :
    client.socket = true ∧ Bounded config next.receivePacket ∧ 0 < next.receivePacket.outPtr ∧
      next.receivePacket.outPtr ≤ next.receivePacket.inPtr := by
  have open_ : client.socket = true := by
    cases socket : client.socket with
    | true => rfl
    | false => simp [receiverToCallback, socket] at done
  have received : ∃ packet, client.receivePacket.receive config.toPlatform input.bytes =
      .ok (.packetOK, packet) ∧
      (client.withPacket packet).handlePacketToCallback config input.send = .ok (true, next) := by
    simp only [receiverToCallback, open_, Bool.true_eq_false, ↓reduceIte, bind_ok] at done
    rcases done with ⟨⟨status, packet⟩, receive, done⟩
    cases status with
    | packetOK =>
        simp only [bind_ok, pure_ok, Except.ok.injEq, Prod.mk.injEq] at done
        rcases done with ⟨⟨pending, after⟩, handling, rfl, -, rfl⟩
        exact ⟨packet, receive, handling⟩
    | _ => simp [bind_ok] at done
  rcases received with ⟨packet, receive, handling⟩
  have there : ∃ first rest, client.front config input = some (first, rest) ∧ first.Accepted := by
    by_contra missing
    rcases receive_unfound config client input open_ bounded
      (fun first rest front accepted => missing ⟨first, rest, front, accepted⟩) with
      ⟨status, other, unfound, bad, -⟩
    rw [receive] at unfound
    cases unfound
    exact bad rfl
  rcases there with ⟨first, rest, front, accepted⟩
  rcases receive_found config client input first rest bounded front accepted with
    ⟨-, other, found, size, -, again⟩
  rw [receive] at again
  cases again
  have publish : packet.type = .publish := by
    by_contra different
    have apart : ¬ (client.withPacket packet).receivePacket.type = .publish := different
    simp [handlePacketToCallback, apart, bind_ok] at handling
  have two := (accepted_publish first accepted (found.type.symm.trans publish)).2
  have own : (client.withPacket packet).receivePacket.type = .publish := publish
  simp only [handlePacketToCallback, own, ↓reduceIte] at handling
  have read := handlePublishToCallback_pending config (client.withPacket packet) next input.send
    first.body rest found.reading found.start two handling
  have position := found.reading.position
  rw [read]
  refine ⟨open_, ⟨size.bufferSize, size.inPtr⟩, ?_, ?_⟩
  · show 0 < packet.outPtr + first.body.length
    omega
  · show packet.outPtr + first.body.length ≤ packet.inPtr
    omega

end Client

namespace ReentrantCallbacks

inductive Point where
  | idle
  | receiving
  | sending
  | pinging
  deriving DecidableEq, Repr

/-- A callback that has not returned; `OnMessage` with the number of connections that had
been opened when it was called. -/
inductive Frame where
  | onConnect
  | onMessage (connections : Nat)
  | onDisconnect
  deriving DecidableEq, Repr

/-- The client and its task, with the callbacks that the task is in. Not stored by the code
are how many connections have been opened, and whether the last one has not been read from. -/
structure Task where
  client : Client
  point : Point
  frames : List Frame
  connections : Nat
  unread : Bool

/-- What a callback calls, and what other tasks call; the callback returns; and the steps of
the loop in `Run`, outside of callbacks. -/
inductive Label (platform : Platform) where
  | call (operation : Operation platform) (called : operation.isCalled = true)
  | elsewhere (operation : Operation platform) (called : operation.isCalled = true)
  | returns
  | begin
  | receiver (input : ReceiveInput platform)
  | sender (nTicks : UInt32) (inputs : List SendInput)
  | keepAliveHandler (ticks : UInt32) (input : SendInput)

def frame : Event → Option Frame
  | .onConnect _ => some .onConnect
  | .onDisconnect _ => some .onDisconnect
  | _ => none

def callbacks (client next : Client) : List Frame :=
  (next.log.drop client.log.length).filterMap frame

-- `Connect` is called only while the client is disconnected.
def allowed {platform : Platform} (client : Client) (operation : Operation platform) : Bool :=
  !operation.isConnect || decide (client.status = .disconnected)

namespace Task

def call (config : Config) (task : Task) (operation : Operation config.toPlatform)
    (called : operation.isCalled = true) : Except Fault (Option Task) :=
  if allowed task.client operation then do
    let some next ← perform config task.client operation | return none
    let opens := LifeCycle.opens task.client (.call operation called)
    return some { task with
      client := next
      connections := task.connections + opens.toNat
      unread := task.unread || opens }
  else .ok none

def returns (task : Task) : Except Fault (Option Task) :=
  match task.frames with
  | [] => .ok none
  | .onMessage _ :: rest => do
      let next ← task.client.completePacket
      return some { task with client := next, frames := rest }
  | _ :: rest => .ok (some { task with frames := rest })

def receiver (config : Config) (task : Task) (input : ReceiveInput config.toPlatform) :
    Except Fault (Option Task) := do
  let (pending, more, next) ← task.client.receiverToCallback config input
  return some { task with
    client := next
    point := if more then .receiving else .sending
    frames := if pending then [.onMessage task.connections] else callbacks task.client next
    unread := task.unread && !task.client.socket }

end Task

def carryOut (config : Config) (task : Task) :
    Label config.toPlatform → Except Fault (Option Task)
  | .call operation called =>
      if task.frames = [] then .ok none
      else do
        let some next ← task.call config operation called | return none
        return some { next with frames := callbacks task.client next.client ++ task.frames }
  | .elsewhere operation called => task.call config operation called
  | .returns => task.returns
  | .begin =>
      if task.frames = [] ∧ task.point = .idle ∧ task.client.status ≠ .disconnected then
        .ok (some { task with point := .receiving })
      else .ok none
  | .receiver input =>
      if task.frames = [] ∧ task.point = .receiving then task.receiver config input else .ok none
  | .sender nTicks inputs =>
      if task.frames = [] ∧ task.point = .sending then do
        let some next ← task.client.sender config.toPlatform nTicks inputs | return none
        return some { task with
          client := next, point := .pinging, frames := callbacks task.client next }
      else .ok none
  | .keepAliveHandler ticks input =>
      if task.frames = [] ∧ task.point = .pinging then do
        let next ← task.client.keepAliveHandler config.toPlatform ticks input
        return some { task with
          client := next, point := .idle, frames := callbacks task.client next }
      else .ok none

inductive State where
  | running (task : Task)
  | failed (inReceiver : Bool) (fault : Fault)

-- `Receiver` runs in its rounds, and from the return of `OnMessage` on.
def Label.inReceiver {platform : Platform} : Label platform → Bool
  | .receiver _ | .returns => true
  | _ => false

def step (config : Config) : State → Label config.toPlatform → Option State
  | .failed _ _, _ => none
  | .running task, label =>
      match carryOut config task label with
      | .ok none => none
      | .ok (some next) => some (.running next)
      | .error fault => some (.failed label.inReceiver fault)

def begun (client : Client) : State := .running ⟨client, .idle, [], 0, false⟩

-- No assertion of `Receiver` has failed and none on the connection, and the buffer is empty
-- until the first bytes of a new connection are read.
def Safe : State → Prop
  | .running task => task.unread = true → task.client.receivePacket.inPtr = 0
  | .failed inReceiver fault => inReceiver = false ∧ fault.guarded = false

-- No connection has been opened since an `OnMessage` that returns was called, and no
-- PUBLISH with a cut identifier is found.
def Proper (config : Config) : State → Label config.toPlatform → Prop
  | .running task, .returns =>
      ∀ connections rest, task.frames = .onMessage connections :: rest →
        task.connections = connections
  | .running task, .receiver input =>
      ∀ first rest, task.client.front config input = some (first, rest) →
        ¬ CutIdentifier config.topicLimit first
  | _, _ => True

instance decidableCut (limit : Nat) (first : Packet) : Decidable (CutIdentifier limit first) :=
  decidable_of_iff (first.type = .publish ∧ first.Accepted ∧ first.qos > 0 ∧
    ∃ found ∈ takeTopic limit first.body, found.2.length < 2) (by simp [CutIdentifier])

instance decidableProper (config : Config) :
    ∀ state label, Decidable (Proper config state label)
  | .failed _ _, _ => .isTrue trivial
  | .running task, .returns =>
      decidable_of_iff (∀ frame ∈ task.frames.head?, frame = .onConnect ∨ frame = .onDisconnect ∨
        frame = .onMessage task.connections) (by
          cases frames : task.frames with
          | nil => simp [Proper, frames]
          | cons frame rest => cases frame <;> simp [Proper, frames, eq_comm])
  | .running task, .receiver input =>
      decidable_of_iff (∀ found ∈ task.client.front config input,
        ¬ CutIdentifier config.topicLimit found.1) (by simp [Proper])
  | .running _, .call _ _ | .running _, .elsewhere _ _ | .running _, .begin
  | .running _, .sender _ _ | .running _, .keepAliveHandler _ _ => .isTrue trivial

/-! What the steps keep. -/

def Nested (waits : Nat → Prop) : List Frame → Prop
  | [] => True
  | .onMessage connections :: rest => rest = [] ∧ waits connections
  | _ :: rest => Nested waits rest

-- The packet that `Complete` will remove is in the buffer, unless a connection has been
-- opened since `OnMessage` was called.
def Waits (task : Task) (connections : Nat) : Prop :=
  0 < task.client.receivePacket.outPtr ∧
    ((task.connections = connections ∧ task.unread = false ∧
        task.client.receivePacket.outPtr ≤ task.client.receivePacket.inPtr) ∨
      (connections < task.connections ∧ task.client.receivePacket.inPtr = 0))

structure Held (config : Config) (task : Task) : Prop where
  lasting : LifeCycle.Lasting config (decide (0 < task.connections)) task.client
  live : task.client.status ≠ .disconnected → 0 < task.connections
  working : task.point ≠ .idle → 0 < task.connections
  fresh : task.unread = true → task.client.receivePacket.inPtr = 0
  nested : Nested (Waits task) task.frames

theorem nested_weaken (waits others : Nat → Prop) (frames : List Frame)
    (weaker : ∀ connections, waits connections → others connections)
    (nested : Nested waits frames) : Nested others frames := by
  induction frames with
  | nil => trivial
  | cons frame rest ih =>
      cases frame with
      | onMessage connections => exact ⟨nested.1, weaker connections nested.2⟩
      | onConnect => exact ih nested
      | onDisconnect => exact ih nested

/-- The callbacks of an operation are nested in those that the task is in. -/
theorem nested_callbacks (waits : Nat → Prop) (client next : Client) (frames : List Frame)
    (nested : Nested waits frames) : Nested waits (callbacks client next ++ frames) := by
  unfold callbacks
  induction next.log.drop client.log.length with
  | nil => exact nested
  | cons event events ih => cases event <;> exact ih

theorem localMove_buffer (config : Config) (client next : Client)
    (move : LocalMove config client next) : next.receivePacket = client.receivePacket := by
  have closed : ∀ (client next : Client) (reason : DisconnectReason),
      client.closeConnection reason = .ok next → next.receivePacket = client.receivePacket := by
    intro client next reason done
    rcases client.closeConnection_cases next reason done with ⟨-, rfl⟩ | ⟨-, -, rfl⟩ <;> rfl
  cases move with
  | transmission _ packet after input sent done =>
      exact (client.sendPacket_framed config.toPlatform next packet after input sent
        done).receivePacket
  | closing _ reason done => exact closed client next reason done
  | numbering | queueing | requeueing => rfl
  | ping _ packet after input running type done =>
      exact (client.stopTimer.sendPacket_framed config.toPlatform next packet after input true
        done).receivePacket
  | expiry middle _ reason events running framed log silent closing =>
      exact (closed middle next reason closing).trans framed.receivePacket

theorem localMoves_buffer (config : Config) (client next : Client)
    (moves : LocalMoves config client next) : next.receivePacket = client.receivePacket :=
  localMoves_invariant config (·.receivePacket = client.receivePacket)
    (fun middle next move same => (localMove_buffer config middle next move).trans same)
    client next moves rfl

/-- Of what the application calls, only a new connection touches the buffer: it empties it. -/
theorem call_buffer (config : Config) (client next : Client)
    (operation : Operation config.toPlatform) (called : operation.isCalled = true)
    (queued : Queued client) (done : perform config client operation = .ok (some next)) :
    next.receivePacket = if LifeCycle.opens client (.call operation called) then
      client.receivePacket.reset else client.receivePacket := by
  cases operation with
  | connect request input =>
      have connected : client.connect config request input = .ok next := by
        cases perform_performs config client next _ done with
        | connect _ _ _ done => exact done
      rcases LifeCycle.connect_cases config client next request input connected with
        ⟨-, ⟨short, reason, rfl⟩ | ⟨reached, moves⟩⟩
      · simp [LifeCycle.opens, short, Client.record]
      · simp only [LifeCycle.opens, reached, ↓reduceIte]
        exact localMoves_buffer config _ next moves
  | disconnect | subscribe | unsubscribe | publish =>
      exact localMoves_buffer config client next
        (perform_local config client next _ queued rfl rfl done)
  | receiver | sender | keepAliveHandler => cases called

/-- A call leaves the task where it was, whoever makes it. -/
theorem call_held (config : Config) (task next : Task) (operation : Operation config.toPlatform)
    (called : operation.isCalled = true) (held : Held config task)
    (done : task.call config operation called = .ok (some next)) :
    Held config next ∧ next.frames = task.frames := by
  unfold Task.call at done
  split at done
  · simp only [bind_ok] at done
    rcases done with ⟨_ | client, performed, done⟩
    · cases done
    · cases done
      have buffer := call_buffer config task.client client operation called
        held.lasting.kept.queued performed
      have life := LifeCycle.call_holding config
        ⟨task.client, LifeCycle.attempts task.client, decide (0 < task.connections)⟩ client
        operation called performed ⟨held.lasting, rfl, fun online => by simpa using held.live online⟩
      rcases life with ⟨lasting, -, live⟩
      generalize LifeCycle.opens task.client (.call operation called) = opens at *
      have counted : decide (0 < task.connections + opens.toNat) =
          (decide (0 < task.connections) || opens) := by
        cases opens <;> simp
      refine ⟨⟨?_, ?_, ?_, ?_, ?_⟩, rfl⟩
      · rw [counted]
        exact lasting
      · intro online
        apply of_decide_eq_true
        rw [counted]
        exact live online
      · exact fun working => Nat.lt_of_lt_of_le (held.working working) (Nat.le_add_right _ _)
      · intro unread
        cases opens with
        | true =>
            rw [buffer]
            rfl
        | false =>
            rw [buffer]
            exact held.fresh (by simpa using unread)
      · refine nested_weaken (Waits task) _ task.frames ?_ held.nested
        intro connections waits
        cases opens with
        | true =>
            -- The callback was called before this connection, which has emptied the buffer.
            have before : connections ≤ task.connections := by
              rcases waits.2 with ⟨same, -⟩ | ⟨less, -⟩ <;> omega
            refine ⟨?_, Or.inr ⟨Nat.lt_succ_of_le before, ?_⟩⟩
            · rw [buffer]
              exact waits.1
            · rw [buffer]
              rfl
        | false =>
            simp only [Waits, buffer, Bool.or_false]
            exact waits
  · cases done

/-- Another receive packet, within the same bounds. -/
theorem lasting_withPacket (config : Config) (opened : Bool) (client : Client)
    (packet : ReceivePacket) (lasting : LifeCycle.Lasting config opened client)
    (bounded : Client.Bounded config packet) :
    LifeCycle.Lasting config opened (client.withPacket packet) :=
  ⟨⟨⟨lasting.kept.sound.linked, bounded⟩, ⟨lasting.kept.queued.fits, lasting.kept.queued.empty⟩⟩,
    lasting.stored, lasting.clocked⟩

theorem completePacket_ok (client : Client)
    (ahead : client.receivePacket.outPtr ≤ client.receivePacket.inPtr) :
    ∃ packet, client.completePacket = .ok (client.withPacket packet) ∧
      packet.bufferSize = client.receivePacket.bufferSize ∧
      packet.inPtr ≤ client.receivePacket.inPtr := by
  simp only [Client.completePacket, ReceivePacket.complete, require_holds _ _ ahead, ok_bind]
  exact ⟨_, rfl, rfl, Nat.sub_le _ _⟩

theorem completePacket_error (client : Client)
    (behind : ¬ client.receivePacket.outPtr ≤ client.receivePacket.inPtr) :
    client.completePacket = .error .inBeforeOut := by
  rw [Client.completePacket, ReceivePacket.complete, require_fails _ _ behind]
  rfl

/-- A callback that returns with the connection there was when it was called. -/
theorem returns_held (config : Config) (task : Task) (held : Held config task)
    (proper : Proper config (.running task) .returns) :
    task.returns = .ok none ∨ ∃ next, task.returns = .ok (some next) ∧ Held config next := by
  have nested := held.nested
  unfold Task.returns
  cases frames : task.frames with
  | nil => exact Or.inl rfl
  | cons frame rest =>
      rw [frames] at nested
      cases frame with
      | onMessage connections =>
          rcases nested with ⟨rfl, ready, waiting⟩
          have same := proper connections [] frames
          rcases waiting with ⟨-, read, ahead⟩ | ⟨less, -⟩
          · rcases completePacket_ok task.client ahead with ⟨packet, completed, size, shorter⟩
            refine Or.inr ⟨_, by rw [completed]; rfl, ?_⟩
            have bounded := held.lasting.kept.sound.bounded
            have fits : Client.Bounded config packet :=
              ⟨size.trans bounded.bufferSize, shorter.trans bounded.inPtr⟩
            refine ⟨lasting_withPacket config _ task.client packet held.lasting fits, held.live,
              held.working, ?_, trivial⟩
            intro unread
            cases read.symm.trans unread
          · omega
      | onConnect | onDisconnect =>
          exact Or.inr ⟨_, rfl, held.lasting, held.live, held.working, held.fresh, nested⟩

/-- A connection opened inside `OnMessage` leaves nothing that could be completed. -/
theorem returns_fails (config : Config) (task : Task) (held : Held config task)
    (replaced : ¬ Proper config (.running task) .returns) :
    task.returns = .error .inBeforeOut := by
  simp only [Proper, not_forall] at replaced
  rcases replaced with ⟨connections, rest, frames, different⟩
  have nested := held.nested
  rw [frames] at nested
  rcases nested with ⟨-, ready, ⟨same, -⟩ | ⟨-, empty⟩⟩
  · exact absurd same different
  · have behind : ¬ task.client.receivePacket.outPtr ≤ task.client.receivePacket.inPtr := by omega
    simp only [Task.returns, frames, completePacket_error task.client behind, error_bind]

/-- A round of `Receiver` as far as its callback is one of the client that nobody calls. -/
theorem receiverToCallback_lasting (config : Config) (opened : Bool) (client : Client)
    (input : ReceiveInput config.toPlatform) (lasting : LifeCycle.Lasting config opened client)
    (whole : ∀ first rest, client.front config input = some (first, rest) →
      ¬ CutIdentifier config.topicLimit first) :
    ∃ pending more next, client.receiverToCallback config input = .ok (pending, more, next) ∧
      LifeCycle.Lasting config opened next := by
  rcases client.receiverPass_returns config input lasting.kept.sound whole with
    ⟨more, next, pass⟩
  have after : LifeCycle.Lasting config opened next := by
    apply LifeCycle.perform_lasting config opened client next (.receiver input) lasting
    simp only [perform, pass, ok_bind]
    rfl
  rw [Client.receiverPass_resumes, bind_ok] at pass
  rcases pass with ⟨⟨pending, goes, middle⟩, done, resumed⟩
  refine ⟨pending, goes, middle, done, ?_⟩
  cases pending with
  | false =>
      cases resumed
      exact after
  | true =>
      rcases client.receiverToCallback_pending config middle input goes lasting.kept.sound.bounded
        done with ⟨-, bounded, -, ahead⟩
      rcases completePacket_ok middle ahead with ⟨packet, completed, -⟩
      simp only [Client.resume, ↓reduceIte, completed, ok_bind] at resumed
      cases resumed
      exact lasting_withPacket config opened (middle.withPacket packet) middle.receivePacket after
        bounded

theorem receiver_held (config : Config) (task : Task) (input : ReceiveInput config.toPlatform)
    (held : Held config task) (receiving : task.point = .receiving)
    (whole : Proper config (.running task) (.receiver input)) :
    ∃ next, task.receiver config input = .ok (some next) ∧ Held config next := by
  rcases receiverToCallback_lasting config _ task.client input held.lasting whole with
    ⟨pending, more, client, done, lasting⟩
  have opened : 0 < task.connections := held.working (by simp [receiving])
  have round : task.receiver config input = .ok (some { task with
      client := client
      point := if more then .receiving else .sending
      frames := if pending then [.onMessage task.connections] else callbacks task.client client
      unread := task.unread && !task.client.socket }) := by
    rw [Task.receiver, done]
    rfl
  refine ⟨_, round, lasting, fun _ => opened, fun _ => opened, ?_, ?_⟩
  · intro unread
    simp only [Bool.and_eq_true, Bool.not_eq_eq_eq_not, Bool.not_true] at unread
    rcases unread with ⟨unread, closed⟩
    simp only [Client.receiverToCallback, closed, ↓reduceIte, Except.ok.injEq,
      Prod.mk.injEq] at done
    rw [← done.2.2]
    exact held.fresh unread
  · cases pending with
    | false => simpa using nested_callbacks _ task.client client [] trivial
    | true =>
        rcases task.client.receiverToCallback_pending config client input more
          held.lasting.kept.sound.bounded done with ⟨open_, -, read, ahead⟩
        refine ⟨rfl, read, Or.inl ⟨rfl, ?_, ahead⟩⟩
        simp [open_]

/-- The round of `Receiver` fails as it does without callbacks. -/
theorem receiver_fails (config : Config) (task : Task) (input : ReceiveInput config.toPlatform)
    (held : Held config task) (cut : ¬ Proper config (.running task) (.receiver input)) :
    ∃ fault, task.receiver config input = .error fault := by
  simp only [Proper, not_forall, not_not] at cut
  rcases cut with ⟨first, rest, there, short⟩
  have fails := task.client.receiverPass_fails config input first rest
    held.lasting.kept.sound there short
  rw [Client.receiverPass_resumes] at fails
  cases done : task.client.receiverToCallback config input with
  | error fault => exact ⟨fault, by rw [Task.receiver, done]; rfl⟩
  | ok result =>
      rcases result with ⟨_ | _, more, middle⟩
      · rw [done] at fails
        cases fails
      · rcases task.client.receiverToCallback_pending config middle input more
          held.lasting.kept.sound.bounded done with ⟨-, -, -, ahead⟩
        rcases completePacket_ok middle ahead with ⟨packet, completed, -⟩
        simp only [done, ok_bind, Client.resume, ↓reduceIte, completed] at fails
        cases fails

/-- `Sender` and `KeepAliveHandler` leave the buffer alone. -/
theorem quiet_held (config : Config) (task : Task) (client : Client) (point : Point)
    (operation : Operation config.toPlatform) (held : Held config task)
    (opened : 0 < task.connections) (other : operation.isConnect = false)
    (own : operation.isReceiver = false)
    (done : perform config task.client operation = .ok (some client)) :
    Held config
      { task with client := client, point := point, frames := callbacks task.client client } := by
  have moves := perform_local config task.client client operation held.lasting.kept.queued other own
    done
  refine ⟨LifeCycle.perform_lasting config _ task.client client operation held.lasting done,
    fun _ => opened, fun _ => opened, ?_, ?_⟩
  · intro unread
    rw [localMoves_buffer config task.client client moves]
    exact held.fresh unread
  · simpa using nested_callbacks _ task.client client [] trivial

theorem carryOut_held (config : Config) (task next : Task) (label : Label config.toPlatform)
    (held : Held config task) (proper : Proper config (.running task) label)
    (done : carryOut config task label = .ok (some next)) : Held config next := by
  cases label with
  | call operation called =>
      simp only [carryOut] at done
      split at done
      · cases done
      · simp only [bind_ok] at done
        rcases done with ⟨_ | middle, calling, done⟩
        · cases done
        · cases done
          rcases call_held config task middle operation called held calling with ⟨after, same⟩
          have nested := after.nested
          rw [same] at nested
          exact ⟨after.lasting, after.live, after.working, after.fresh,
            nested_callbacks _ task.client middle.client task.frames nested⟩
  | elsewhere operation called => exact (call_held config task next operation called held done).1
  | returns =>
      rcases returns_held config task held proper with nothing | ⟨after, returned, good⟩
      · cases nothing.symm.trans done
      · cases returned.symm.trans done
        exact good
  | begin =>
      simp only [carryOut] at done
      split at done
      · rename_i ready
        cases done
        have opened := held.live ready.2.2
        exact ⟨held.lasting, held.live, fun _ => opened, held.fresh, held.nested⟩
      · cases done
  | receiver input =>
      simp only [carryOut] at done
      split at done
      · rename_i ready
        rcases receiver_held config task input held ready.2 proper with ⟨after, round, good⟩
        cases round.symm.trans done
        exact good
      · cases done
  | sender nTicks inputs =>
      simp only [carryOut] at done
      split at done
      · rename_i ready
        simp only [bind_ok] at done
        rcases done with ⟨_ | client, sending, done⟩
        · cases done
        · cases done
          exact quiet_held config task client .pinging (.sender nTicks inputs) held
            (held.working (by simp [ready.2])) rfl rfl sending
      · cases done
  | keepAliveHandler ticks input =>
      simp only [carryOut] at done
      split at done
      · rename_i ready
        simp only [bind_ok] at done
        rcases done with ⟨client, pinging, done⟩
        cases done
        refine quiet_held config task client .idle (.keepAliveHandler ticks input) held
          (held.working (by simp [ready.2])) rfl rfl ?_
        simp only [perform, pinging, ok_bind]
        rfl
      · cases done

theorem call_spares (config : Config) (task : Task) (operation : Operation config.toPlatform)
    (called : operation.isCalled = true) (held : Held config task) :
    Spares Fault.guarded (task.call config operation called) := by
  unfold Task.call
  split
  · rename_i permitted
    apply spares_bind
    · apply LifeCycle.call_spares config task.client operation called
        held.lasting.kept.sound.linked
      intro connect
      simpa [allowed, connect] using permitted
    · rintro (_ | next) _ <;> exact spares_ok _ _
  · exact spares_ok _ _

/-- An assertion that fails in a proper step speaks of what the application has passed. -/
theorem carryOut_spares (config : Config) (task : Task) (label : Label config.toPlatform)
    (fault : Fault) (held : Held config task) (proper : Proper config (.running task) label)
    (failed : carryOut config task label = .error fault) :
    label.inReceiver = false ∧ fault.guarded = false := by
  cases label with
  | call operation called =>
      refine ⟨rfl, ?_⟩
      simp only [carryOut] at failed
      split at failed
      · cases failed
      · refine spares_bind _ _ _ (call_spares config task operation called held) ?_ fault failed
        rintro (_ | next) _ <;> exact spares_ok _ _
  | elsewhere operation called =>
      exact ⟨rfl, call_spares config task operation called held fault failed⟩
  | returns =>
      rcases returns_held config task held proper with nothing | ⟨after, returned, -⟩
      · cases nothing.symm.trans failed
      · cases returned.symm.trans failed
  | begin =>
      simp only [carryOut] at failed
      split at failed <;> cases failed
  | receiver input =>
      simp only [carryOut] at failed
      split at failed
      · rename_i ready
        rcases receiver_held config task input held ready.2 proper with ⟨after, round, -⟩
        cases round.symm.trans failed
      · cases failed
  | sender nTicks inputs =>
      refine ⟨rfl, ?_⟩
      simp only [carryOut] at failed
      split at failed
      · refine spares_bind _ _ _
          (LifeCycle.sender_spares config task.client nTicks inputs held.lasting.kept) ?_ fault
          failed
        rintro (_ | next) _ <;> exact spares_ok _ _
      · cases failed
  | keepAliveHandler ticks input =>
      refine ⟨rfl, ?_⟩
      simp only [carryOut] at failed
      split at failed
      · rename_i ready
        have opened := held.working (by simp [ready.2])
        refine spares_bind _ _ _ (task.client.keepAliveHandler_spares config.toPlatform ticks input
          held.lasting.kept.sound.linked (held.lasting.clocked (by simpa using opened))) ?_ fault
          failed
        intro _ _
        exact spares_ok _ _
      · cases failed

def Holding (config : Config) : State → Prop
  | .running task => Held config task
  | .failed inReceiver fault => inReceiver = false ∧ fault.guarded = false

theorem holding_safe (config : Config) (state : State) (holding : Holding config state) :
    Safe state := by
  cases state with
  | running task => exact holding.fresh
  | failed inReceiver fault => exact holding

theorem step_cases (config : Config) (state next : State) (label : Label config.toPlatform)
    (taken : step config state label = some next) :
    ∃ task, state = .running task ∧
      ((∃ after, carryOut config task label = .ok (some after) ∧ next = .running after) ∨
        ∃ fault, carryOut config task label = .error fault ∧
          next = .failed label.inReceiver fault) := by
  cases state with
  | failed inReceiver fault => cases taken
  | running task =>
      refine ⟨task, rfl, ?_⟩
      simp only [step] at taken
      split at taken
      · cases taken
      · rename_i after done
        exact Or.inl ⟨after, done, (Option.some.inj taken).symm⟩
      · rename_i fault failed
        exact Or.inr ⟨fault, failed, (Option.some.inj taken).symm⟩

theorem step_holding (config : Config) (state next : State) (label : Label config.toPlatform)
    (holding : Holding config state) (proper : Proper config state label)
    (taken : step config state label = some next) : Holding config next := by
  rcases step_cases config state next label taken with
    ⟨task, rfl, ⟨after, done, rfl⟩ | ⟨fault, failed, rfl⟩⟩
  · exact carryOut_held config task after label holding proper done
  · exact carryOut_spares config task label fault holding proper failed

theorem step_unsafe (config : Config) (state next : State) (label : Label config.toPlatform)
    (holding : Holding config state) (improper : ¬ Proper config state label)
    (taken : step config state label = some next) : ¬ Safe next := by
  rcases step_cases config state next label taken with ⟨task, rfl, outcome⟩
  have fails : label.inReceiver = true ∧ ∀ after, carryOut config task label ≠ .ok (some after) := by
    cases label with
    | returns =>
        refine ⟨rfl, ?_⟩
        intro after done
        cases (returns_fails config task holding improper).symm.trans done
    | receiver input =>
        refine ⟨rfl, ?_⟩
        intro after done
        simp only [carryOut] at done
        split at done
        · rcases receiver_fails config task input holding improper with ⟨fault, failed⟩
          cases failed.symm.trans done
        · cases done
    | _ => exact absurd trivial improper
  rcases outcome with ⟨after, done, -⟩ | ⟨fault, -, rfl⟩
  · exact absurd done (fails.2 after)
  · intro safe
    cases fails.1.symm.trans safe.1

theorem constructed_held (config : Config) (client : Client)
    (constructed : Constructed config client) : Holding config (begun client) := by
  rcases LifeCycle.constructed_holding config client constructed with ⟨lasting, -, -⟩
  refine ⟨lasting, fun online => absurd constructed.status online, ?_, ?_, trivial⟩
  · exact fun working => absurd rfl working
  · intro unread
    cases unread

/-- In every run, whatever the callbacks call and however deep they are nested: `Receiver`
is safe in every state reached exactly when no connection is opened between the call of
`OnMessage` and its return, and no PUBLISH with a cut identifier is found. -/
theorem receiver_reentrant_iff_proper (config : Config) (client : Client)
    (labels : List (Label config.toPlatform)) (final : State)
    (constructed : Constructed config client)
    (reached : run (step config) (begun client) labels = some final) :
    Throughout (step config) Safe (begun client) labels ↔
      Along (step config) (Proper config) (begun client) labels :=
  throughout_iff_along (Proper config) (Holding config) Safe (holding_safe config)
    (fun state label next holding proper =>
      step_holding config state next label holding proper)
    (fun state label next holding improper =>
      step_unsafe config state next label holding improper)
    (begun client) final labels (constructed_held config client constructed) reached

theorem connect_called : Operation.isCalled
    (.connect plainRequest smoothConnect : Operation Config.default.toPlatform) = true := rfl

theorem disconnect_called : Operation.isCalled
    (.disconnect true .willing : Operation Config.default.toPlatform) = true := rfl

def upToMessage : List (Label Config.default.toPlatform) :=
  [.elsewhere (.connect plainRequest smoothConnect) connect_called, .begin,
    .receiver (delivers [0x20, 2, 0, 0] connAck_short), .call (.subscribe [0x61] 0 .willing) rfl,
    .returns, .receiver (delivers [0x30, 4, 0, 1, 0x61, 0x62] (by decide))]

-- `OnMessage` publishes; then the broker closes the connection, and `OnDisconnect` opens a
-- new one.
def publishes : List (Label Config.default.toPlatform) :=
  [.call (.publish [0x61] [0x63] 1 false .willing) rfl, .returns, .receiver ⟨none, .willing⟩,
    .call (.connect plainRequest smoothConnect) connect_called, .returns]

theorem publishes_safe :
    Throughout (step Config.default) Safe (begun (Client.fresh Config.default))
        (upToMessage ++ publishes) ∧
      ∃ task, run (step Config.default) (begun (Client.fresh Config.default))
          (upToMessage ++ publishes) = some (.running task) ∧
        task.unread = true ∧ task.connections = 2 ∧ task.frames = [] := by
  refine ⟨?_, _, rfl, rfl, rfl, rfl⟩
  apply (receiver_reentrant_iff_proper Config.default (Client.fresh Config.default)
    (upToMessage ++ publishes) _ (fresh_constructed Config.default) rfl).mpr
  decide +kernel

def reconnects : List (Label Config.default.toPlatform) :=
  [.call (.disconnect true .willing) disconnect_called,
    .call (.connect plainRequest smoothConnect) connect_called, .returns, .returns]

theorem reconnects_fails :
    ∃ final, run (step Config.default) (begun (Client.fresh Config.default))
        (upToMessage ++ reconnects) = some final ∧ final = .failed true .inBeforeOut ∧
      ¬ Safe final := by
  refine ⟨_, rfl, rfl, ?_⟩
  intro safe
  cases safe.1

end ReentrantCallbacks

end CircleStdlib.Mqtt
