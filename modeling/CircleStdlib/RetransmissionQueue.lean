import CircleStdlib.Execution
import CircleStdlib.StableInsertion
import CircleStdlib.ClientMoves

/-!
`InsertPacketIntoQueue`, `RemovePacketFromQueue` and `Sender` on the retransmission
queue. Tick counts wrap around at 2^32 and are compared by the sign of their difference;
as long as all times at hand lie within an arc of less than 2^31 ticks, this is the order
of their distances from its begin. A state keeps, besides the client, the packets that
`InsertPacketIntoQueue` has put into the queue so far.
-/

namespace CircleStdlib.Mqtt.RetransmissionQueue

open ByteMemory Checked Execution StableInsertion

def Window (times : List UInt32) : Prop :=
  ∃ origin : UInt32, ∀ time ∈ times, (time - origin).toNat < 2 ^ 31

def times (queue : List SendPacket) : List UInt32 := queue.map (·.scheduledTime)

def Earlier (packet other : SendPacket) : Prop :=
  later other.scheduledTime packet.scheduledTime = true

instance : DecidableRel Earlier := fun packet other =>
  inferInstanceAs (Decidable (later other.scheduledTime packet.scheduledTime = true))

def sinceOrigin (origin : UInt32) (packet : SendPacket) : Nat :=
  (packet.scheduledTime - origin).toNat

def due (nTicks : UInt32) (queue : List SendPacket) : List SendPacket :=
  queue.filter fun packet => !later packet.scheduledTime nTicks

def notDue (nTicks : UInt32) (queue : List SendPacket) : List SendPacket :=
  queue.filter fun packet => later packet.scheduledTime nTicks

def repeated (packet : SendPacket) : SendPacket :=
  if packet.type = .publish then { packet with flags := packet.flags ||| flagDup } else packet

def resent (platform : Platform) (packet : SendPacket) (input : SendInput) : SendPacket :=
  match (repeated packet).send input.socket with
  | .ok sending =>
      { sending.packet with scheduledTime := input.queueTicks + platform.resendTimeout }
  | .error _ => packet

structure SamePacket (packet after : SendPacket) : Prop where
  type : after.type = packet.type
  packetIdentifier : after.packetIdentifier = packet.packetIdentifier
  qos : after.qos = packet.qos
  bufPtr : after.bufPtr = packet.bufPtr
  body : slice after.buffer maxLengthFixedHeader (after.bufPtr - maxLengthFixedHeader) =
    slice packet.buffer maxLengthFixedHeader (packet.bufPtr - maxLengthFixedHeader)

def resentAll (platform : Platform) (packets : List SendPacket) (inputs : List SendInput) :
    List SendPacket :=
  (packets.zip inputs).map fun pair => resent platform pair.1 pair.2

def accepted (client : Client) (packet : SendPacket) (input : SendInput) : Bool :=
  match (repeated packet).send input.socket with
  | .ok sending => decide (client.status ≠ .disconnected) && sending.result
  | .error _ => false

def AllAccepted (client : Client) (packets : List SendPacket) (inputs : List SendInput) : Prop :=
  ∀ pair ∈ packets.zip inputs, accepted client pair.1 pair.2 = true

-- The packets that `Sender` inserts again: of those that are due, the ones it sends before
-- a failure.
def putBack (platform : Platform) (client : Client) (nTicks : UInt32) (inputs : List SendInput) :
    List SendPacket :=
  (((due nTicks client.retransmissionQueue).zip inputs).takeWhile fun pair =>
    accepted client pair.1 pair.2).map fun pair => resent platform pair.1 pair.2

inductive QueueCall where
  | insert (packet : SendPacket) (nScheduledTime : UInt32)
  | remove (usPacketIdentifier : UInt16)
  | sender (nTicks : UInt32) (inputs : List SendInput)

structure Traced where
  client : Client
  inserted : List SendPacket

def Traced.queue (state : Traced) : List SendPacket := state.client.retransmissionQueue

-- One call; there is no next state when `Sender` fails an assertion or has too few inputs.
def step (platform : Platform) (state : Traced) : QueueCall → Option Traced
  | .insert packet nScheduledTime =>
      some ⟨state.client.insertPacketIntoQueue packet nScheduledTime,
        state.inserted ++ [{ packet with scheduledTime := nScheduledTime }]⟩
  | .remove usPacketIdentifier =>
      some ⟨(state.client.removePacketFromQueue usPacketIdentifier).2, state.inserted⟩
  | .sender nTicks inputs =>
      match state.client.sender platform nTicks inputs with
      | .ok (some next) =>
          some ⟨next, state.inserted ++ putBack platform state.client nTicks inputs⟩
      | _ => none

/-- What callers promise of a packet that they insert: it has been sent before. -/
structure Insertable (packet : SendPacket) : Prop where
  restarts : Client.restartsTimer packet.type = true
  flags : packet.type = .publish → packet.flags ≤ 0x0F
  allocated : packet.allocated = true
  header : maxLengthFixedHeader ≤ packet.bufPtr
  short : packet.bufPtr - maxLengthFixedHeader < 2 ^ 21

def ticksRead (nTicks : UInt32) (inputs : List SendInput) : List UInt32 :=
  nTicks :: inputs.map (·.queueTicks)

/-- All times involved lie in one window and the ticks do not run backwards. -/
structure SenderTimely (platform : Platform) (queue : List SendPacket) (nTicks : UInt32)
    (inputs : List SendInput) : Prop where
  window : Window (times queue ++ ticksRead nTicks inputs ++
    inputs.map fun input => input.queueTicks + platform.resendTimeout)
  forwards : (ticksRead nTicks inputs).Pairwise fun first second => later first second = false

-- What is assumed of a call. Only the inputs of packets that are due are read.
def Timely (platform : Platform) (state : Traced) : QueueCall → Prop
  | .insert packet nScheduledTime =>
      Insertable packet ∧ Window (nScheduledTime :: times state.queue)
  | .remove _ => True
  | .sender nTicks inputs =>
      SenderTimely platform state.queue nTicks (inputs.take (due nTicks state.queue).length)

-- A call of `Sender` with an input for each packet that is due returns and, if all its
-- sends succeed, has sent these packets in their order and only rescheduled them.
def Resends (platform : Platform) (client : Client) (nTicks : UInt32) (inputs : List SendInput) :
    Prop :=
  ∃ next, client.sender platform nTicks inputs = .ok (some next) ∧
    (AllAccepted client (due nTicks client.retransmissionQueue) inputs →
      next.log = client.log ++ (due nTicks client.retransmissionQueue).map
        (fun packet => .sent (repeated packet).wire true) ∧
      next.retransmissionQueue.Perm
        (resentAll platform (due nTicks client.retransmissionQueue) inputs ++
          notDue nTicks client.retransmissionQueue) ∧
      ∀ pair ∈ (due nTicks client.retransmissionQueue).zip inputs,
        SamePacket pair.1 (resent platform pair.1 pair.2) ∧
        (resent platform pair.1 pair.2).scheduledTime =
          pair.2.queueTicks + platform.resendTimeout)

/-- What holds of the queue in every state: it is sorted, packets with equal times are in
the order in which they were inserted, and `Sender` does what it is for. -/
structure Orderly (platform : Platform) (state : Traced) : Prop where
  sorted : state.queue.Pairwise fun first second =>
    later first.scheduledTime second.scheduledTime = false
  stable : ∀ time, (state.queue.filter (·.scheduledTime = time)).Sublist
    (state.inserted.filter (·.scheduledTime = time))
  resends : ∀ nTicks inputs, Timely platform state (.sender nTicks inputs) →
    (due nTicks state.queue).length ≤ inputs.length → Resends platform state.client nTicks inputs

theorem later_iff (origin left right : UInt32) (leftIn : (left - origin).toNat < 2 ^ 31)
    (rightIn : (right - origin).toNat < 2 ^ 31) :
    later left right = true ↔ (right - origin).toNat < (left - origin).toNat := by
  have leftSmall := left.toNat_lt
  have rightSmall := right.toNat_lt
  have originSmall := origin.toNat_lt
  simp only [UInt32.toNat_sub] at leftIn rightIn
  simp only [later, UInt32.toNat_sub, Bool.and_eq_true, decide_eq_true_eq]
  omega

theorem later_false_iff (origin left right : UInt32) (leftIn : (left - origin).toNat < 2 ^ 31)
    (rightIn : (right - origin).toNat < 2 ^ 31) :
    later left right = false ↔ (left - origin).toNat ≤ (right - origin).toNat := by
  rw [← Bool.not_eq_true, later_iff origin left right leftIn rightIn, not_lt]

/-! The queue as a list ordered by time. -/

theorem insertByTime_eq (packet : SendPacket) (queue : List SendPacket) :
    insertByTime packet queue = queue.orderedInsert Earlier packet := by
  induction queue with
  | nil => rfl
  | cons other rest ih =>
      rw [insertByTime, List.orderedInsert_cons, ih]
      rfl

/-- Where `Sender` stands in the list makes no difference for the list. -/
theorem reinsert_eq (packet : SendPacket) (passed ahead : List SendPacket) :
    (Client.reinsert packet passed ahead).1 ++ (Client.reinsert packet passed ahead).2 =
      insertByTime packet (passed ++ ahead) := by
  simp only [insertByTime_eq]
  unfold Client.reinsert
  split
  · rename_i some
    induction passed with
    | nil => cases some
    | cons other rest ih =>
        simp only [insertByTime_eq] at ih ⊢
        rw [List.cons_append, List.orderedInsert_cons, List.orderedInsert_cons]
        split
        · rfl
        · rename_i behind
          rw [List.any_cons, Bool.or_eq_true] at some
          rw [List.cons_append, ih (some.resolve_left behind)]
  · rename_i none
    have passes : ∀ other ∈ passed, ¬ Earlier packet other := by
      intro other member before
      exact none (List.any_eq_true.mpr ⟨other, member, before⟩)
    rw [orderedInsert_append Earlier packet passed ahead passes]
    cases ahead with
    | nil => simp
    | cons other rest =>
        rw [List.orderedInsert_cons]
        dsimp only
        split
        · rename_i before
          have first : Earlier packet other := before
          rw [if_pos first, List.append_assoc]
          rfl
        · rename_i behind
          have second : ¬ Earlier packet other := behind
          rw [if_neg second, insertByTime_eq]

theorem keyed_of_window (origin : UInt32) (queue : List SendPacket)
    (within : ∀ time ∈ times queue, (time - origin).toNat < 2 ^ 31) :
    KeyedBy Earlier (sinceOrigin origin) queue := by
  intro left leftMember right rightMember
  exact later_iff origin right.scheduledTime left.scheduledTime
    (within _ (List.mem_map_of_mem rightMember)) (within _ (List.mem_map_of_mem leftMember))

/-! One retransmission. -/

theorem send_unchanged (packet : SendPacket) (socket : List UInt8 → Int) (sending : Sending)
    (done : packet.send socket = .ok sending) :
    SamePacket packet sending.packet ∧ sending.packet.flags = packet.flags ∧
      sending.packet.allocated = packet.allocated := by
  unfold SendPacket.send at done
  split at done
  · cases done
    exact ⟨⟨rfl, rfl, rfl, rfl, rfl⟩, rfl, rfl⟩
  · split at done
    · cases done
      exact ⟨⟨rfl, rfl, rfl, rfl, rfl⟩, rfl, rfl⟩
    · simp only [bind_ok, require_ok, pure_ok, Except.ok.injEq] at done
      rcases done with ⟨_, -, encoded, -, _, some, _, few, _, -, rfl⟩
      refine ⟨⟨rfl, rfl, rfl, rfl, ?_⟩, rfl, rfl⟩
      -- The header is written in front of the body.
      simp only [maxLengthFixedHeader] at some few ⊢
      rw [slice_write_after _ _ _ _ _ (by simp only [List.length_singleton]; omega),
        slice_write_after _ _ _ _ _ (by omega)]

theorem insertable_same (packet after : SendPacket) (same : SamePacket packet after)
    (flags : after.flags = packet.flags) (allocated : after.allocated = packet.allocated)
    (insertable : Insertable packet) : Insertable after :=
  ⟨by rw [same.type]; exact insertable.restarts,
    by rw [same.type, flags]; exact insertable.flags, allocated.trans insertable.allocated,
    by rw [same.bufPtr]; exact insertable.header, by rw [same.bufPtr]; exact insertable.short⟩

/-- What the caller notes in the object before it goes into the queue does not matter. -/
theorem insertable_noted (packet : SendPacket) (uchQoS : UInt8) (usPacketIdentifier : UInt16)
    (nScheduledTime : UInt32) (insertable : Insertable packet) :
    Insertable { packet with
      qos := uchQoS
      packetIdentifier := usPacketIdentifier
      scheduledTime := nScheduledTime } :=
  ⟨insertable.restarts, insertable.flags, insertable.allocated, insertable.header,
    insertable.short⟩

theorem send_insertable (packet : SendPacket) (socket : List UInt8 → Int)
    (insertable : Insertable packet) :
    ∃ sending, packet.send socket = .ok sending ∧ Insertable sending.packet ∧
      (sending.result = true → sending.events = [.sent packet.wire true]) := by
  obtain ⟨sending, sent⟩ : ∃ sending, packet.send socket = .ok sending := by
    by_cases failed : packet.error = true
    · exact ⟨_, by rw [SendPacket.send, if_pos failed]⟩
    · by_cases spent : packet.sendTries = 0
      · exact ⟨_, by rw [SendPacket.send, if_neg failed, if_pos spent]⟩
      · have ready : packet.Ready := ⟨by simpa using failed, insertable.allocated, spent,
          insertable.header, insertable.short⟩
        rcases packet.send_ready socket ready with ⟨_, sent, -⟩
        exact ⟨_, sent⟩
  rcases send_unchanged packet socket sending sent with ⟨same, flags, allocated⟩
  refine ⟨sending, sent, insertable_same packet _ same flags allocated insertable, ?_⟩
  intro taken
  have handed := (packet.send_accepted socket sending sent taken).2
  rw [Sending.events, handed, taken]

theorem dup_small (flags : UInt8) (small : flags ≤ 0x0F) : flags ||| flagDup ≤ 0x0F := by
  rw [UInt8.le_iff_toNat_le] at small ⊢
  rw [UInt8.toNat_or]
  exact Nat.le_of_lt_succ (Nat.or_lt_two_pow (n := 4) (Nat.lt_succ_of_le small) (by decide))

theorem markRepeated_eq (packet : SendPacket) (insertable : Insertable packet) :
    Client.markRepeated packet = .ok (repeated packet) := by
  unfold Client.markRepeated repeated
  split
  · rename_i publish
    rw [SendPacket.setFlags, require_holds _ _ publish, ok_bind,
      require_holds _ _ (dup_small packet.flags (insertable.flags publish))]
    rfl
  · rfl

theorem repeated_insertable (packet : SendPacket) (insertable : Insertable packet) :
    Insertable (repeated packet) := by
  unfold repeated
  split
  · exact ⟨insertable.restarts, fun publish => dup_small packet.flags (insertable.flags publish),
      insertable.allocated, insertable.header, insertable.short⟩
  · exact insertable

theorem repeated_same (packet : SendPacket) : SamePacket packet (repeated packet) := by
  unfold repeated
  split <;> exact ⟨rfl, rfl, rfl, rfl, rfl⟩

theorem resent_insertable (platform : Platform) (packet : SendPacket) (input : SendInput)
    (insertable : Insertable packet) : Insertable (resent platform packet input) := by
  rcases send_insertable (repeated packet) input.socket (repeated_insertable packet insertable) with
    ⟨sending, sent, after, -⟩
  rw [resent, sent]
  exact insertable_noted _ _ _ _ after

/-- The packet goes back as it was, with its new time. -/
theorem resent_same (platform : Platform) (packet : SendPacket) (input : SendInput)
    (insertable : Insertable packet) :
    SamePacket packet (resent platform packet input) ∧
      (resent platform packet input).scheduledTime =
        input.queueTicks + platform.resendTimeout := by
  rcases send_insertable (repeated packet) input.socket (repeated_insertable packet insertable) with
    ⟨sending, sent, -⟩
  have marked := repeated_same packet
  have same := (send_unchanged (repeated packet) input.socket sending sent).1
  rw [resent, sent]
  exact ⟨⟨same.type.trans marked.type, same.packetIdentifier.trans marked.packetIdentifier,
    same.qos.trans marked.qos, same.bufPtr.trans marked.bufPtr, same.body.trans marked.body⟩, rfl⟩

theorem sendPacket_repeated (platform : Platform) (client : Client) (packet : SendPacket)
    (input : SendInput) (linked : client.Linked) (insertable : Insertable packet) :
    ∃ after middle, client.sendPacket platform (repeated packet) input =
        .ok (accepted client packet input, after, middle) ∧
      Framed client middle ∧ middle.status = client.status ∧
      (accepted client packet input = true →
        { after with scheduledTime := input.queueTicks + platform.resendTimeout } =
          resent platform packet input ∧
        middle.log = client.log ++ [.sent (repeated packet).wire true]) := by
  have marked := repeated_insertable packet insertable
  rcases send_insertable (repeated packet) input.socket marked with ⟨sending, sent, -, events⟩
  obtain ⟨taken, after, middle, done⟩ : ∃ taken after middle,
      client.sendPacket platform (repeated packet) input = .ok (taken, after, middle) := by
    unfold Client.sendPacket
    split
    · exact ⟨_, _, _, rfl⟩
    · rename_i online
      rw [require_holds _ _ (linked.mpr online), ok_bind, sent, ok_bind]
      dsimp only
      split
      · rcases Client.keepAlive_total platform (client.recordHanded sending) (repeated packet).type
          input.timerTicks marked.restarts with ⟨next, alive⟩
        rw [alive]
        exact ⟨_, _, _, rfl⟩
      · exact ⟨_, _, _, rfl⟩
  rcases client.sendPacket_cases platform middle (repeated packet) after input taken done with
    ⟨offline, rfl, rfl, rfl⟩ | ⟨online, -, same, send, rfl, rfl, framed, log, status⟩
  · have refused : accepted middle packet input = false := by
      simp [accepted, sent, offline]
    rw [refused]
    refine ⟨_, _, done, middle.framed_refl, rfl, ?_⟩
    intro taken
    cases taken
  · rw [sent] at send
    cases send
    have result : accepted client packet input = sending.result := by
      simp [accepted, sent, online]
    have type : (repeated packet).type ≠ .pingReq := by
      intro ping
      have restarts := marked.restarts
      rw [ping] at restarts
      cases restarts
    rw [result]
    refine ⟨_, _, done, framed, status type, ?_⟩
    intro taken
    rw [log, events taken, resent, sent]
    exact ⟨rfl, rfl⟩

theorem senderLoop_done (platform : Platform) (nTicks : UInt32) (client : Client)
    (passed ahead : List SendPacket) (inputs : List SendInput)
    (notYet : ∀ packet ∈ ahead, later packet.scheduledTime nTicks = true) :
    client.senderLoop platform nTicks passed ahead inputs =
      .ok (some (client.withQueue (passed ++ ahead))) := by
  unfold Client.senderLoop
  cases ahead with
  | nil => rw [List.append_nil]
  | cons packet rest =>
      dsimp only
      rw [if_pos (notYet packet (List.mem_cons_self ..))]

theorem senderLoop_cons (platform : Platform) (nTicks : UInt32) (client middle : Client)
    (passed rest : List SendPacket) (packet after : SendPacket) (input : SendInput)
    (inputs : List SendInput) (sent : Bool) (insertable : Insertable packet)
    (now : later packet.scheduledTime nTicks = false)
    (sending : (client.withQueue (passed ++ rest)).sendPacket platform (repeated packet) input =
      .ok (sent, after, middle)) :
    client.senderLoop platform nTicks passed (packet :: rest) (input :: inputs) =
      if sent then
        middle.senderLoop platform nTicks
          (Client.reinsert { after with
            scheduledTime := input.queueTicks + platform.resendTimeout } passed rest).1
          (Client.reinsert { after with
            scheduledTime := input.queueTicks + platform.resendTimeout } passed rest).2 inputs
      else do return some (← middle.closeConnection .sendFailed) := by
  conv =>
    lhs
    unfold Client.senderLoop
  simp only [now, Bool.false_eq_true, ↓reduceIte, markRepeated_eq packet insertable, ok_bind,
    sending]

theorem insertByTime_late (nTicks : UInt32) (packet : SendPacket) (others : List SendPacket)
    (late : later packet.scheduledTime nTicks = true)
    (notYet : ∀ other ∈ others, later other.scheduledTime nTicks = true) :
    ∀ other ∈ insertByTime packet others, later other.scheduledTime nTicks = true := by
  intro other member
  rw [insertByTime_eq, List.mem_orderedInsert] at member
  rcases member with rfl | old
  · exact late
  · exact notYet other old

/-- As long as packets that are due are left, a packet goes back among the others. -/
theorem senderLoop_reinsert (platform : Platform) (nTicks : UInt32) (client : Client)
    (packet : SendPacket) (rest others : List SendPacket) (inputs : List SendInput)
    (late : later packet.scheduledTime nTicks = true)
    (behind : ∀ other ∈ rest, ¬ Earlier packet other)
    (notYet : ∀ other ∈ others, later other.scheduledTime nTicks = true) :
    client.senderLoop platform nTicks (Client.reinsert packet [] (rest ++ others)).1
        (Client.reinsert packet [] (rest ++ others)).2 inputs =
      client.senderLoop platform nTicks [] (rest ++ insertByTime packet others) inputs := by
  cases rest with
  | nil =>
      -- Nothing is due any more: both sides leave the loop with the same queue.
      have inserted := reinsert_eq packet [] others
      have notYetInserted := insertByTime_late nTicks packet others late notYet
      rw [List.nil_append] at inserted
      rw [List.nil_append, List.nil_append, senderLoop_done platform nTicks client _ _ inputs ?_,
        senderLoop_done platform nTicks client [] _ inputs notYetInserted, inserted, List.nil_append]
      intro other member
      apply notYetInserted
      rw [← inserted]
      exact List.mem_append_right _ member
  | cons other rest =>
      have passes : ¬ later other.scheduledTime packet.scheduledTime = true :=
        behind other (List.mem_cons_self ..)
      have unfolded : Client.reinsert packet [] (other :: rest ++ others) =
          ([], other :: insertByTime packet (rest ++ others)) := by
        unfold Client.reinsert
        rw [List.any_nil, if_neg (by decide), List.cons_append]
        exact if_neg passes
      rw [unfolded, insertByTime_eq, insertByTime_eq, orderedInsert_append Earlier packet rest others
        fun other member => behind other (List.mem_cons_of_mem _ member)]
      rfl

theorem accepted_status (client other : Client) (packet : SendPacket) (input : SendInput)
    (same : other.status = client.status) :
    accepted other packet input = accepted client packet input := by
  rw [accepted, accepted, same]

theorem online_of_accepted (client : Client) (packet : SendPacket) (input : SendInput)
    (taken : accepted client packet input = true) : client.status ≠ .disconnected := by
  unfold accepted at taken
  split at taken
  · intro offline
    simp [offline] at taken
  · cases taken

theorem allAccepted_cons (client middle : Client) (packet : SendPacket) (rest : List SendPacket)
    (input : SendInput) (inputs : List SendInput) (same : middle.status = client.status) :
    AllAccepted client (packet :: rest) (input :: inputs) ↔
      accepted client packet input = true ∧ AllAccepted middle rest inputs := by
  unfold AllAccepted
  simp only [List.zip_cons_cons, List.forall_mem_cons]
  simp only [accepted_status client middle _ _ same]

/-- What the loop of `Sender` does with packets that are due, in front of others that are
not. New times are later than the tick and than the times of the packets that are due. -/
theorem senderLoop_due (platform : Platform) (nTicks : UInt32) (ready others : List SendPacket)
    (client : Client) (inputs : List SendInput) (linked : client.Linked)
    (insertable : ∀ packet ∈ ready, Insertable packet)
    (now : ∀ packet ∈ ready, later packet.scheduledTime nTicks = false)
    (notYet : ∀ packet ∈ others, later packet.scheduledTime nTicks = true)
    (after : ∀ input ∈ inputs.take ready.length,
      later (input.queueTicks + platform.resendTimeout) nTicks = true ∧
      ∀ packet ∈ ready,
        later packet.scheduledTime (input.queueTicks + platform.resendTimeout) = false) :
    client.senderLoop platform nTicks [] (ready ++ others) inputs = .ok none ∧
      inputs.length < ready.length ∨
    ∃ next, client.senderLoop platform nTicks [] (ready ++ others) inputs = .ok (some next) ∧
      next.Linked ∧
      (AllAccepted client ready inputs →
        next.log = client.log ++ ready.map (fun packet => .sent (repeated packet).wire true) ∧
        next.retransmissionQueue = (resentAll platform ready inputs).foldl
          (fun queue packet => insertByTime packet queue) others) ∧
      (¬ AllAccepted client ready inputs → next.retransmissionQueue = [] ∨
        client.status = .disconnected ∧ next.retransmissionQueue.Sublist (ready ++ others)) := by
  induction ready generalizing client others inputs with
  | nil =>
      refine Or.inr ⟨_, senderLoop_done platform nTicks client [] others inputs notYet, linked,
        ?_, ?_⟩
      · intro _
        simp [Client.withQueue, resentAll]
      · intro refused
        exact absurd (fun pair member => nomatch member) refused
  | cons packet rest ih =>
      cases inputs with
      | nil =>
          left
          unfold Client.senderLoop
          simp [now packet]
      | cons input inputs =>
          have first := insertable packet (List.mem_cons_self ..)
          have here := now packet (List.mem_cons_self ..)
          have times := after input (by simp)
          rcases sendPacket_repeated platform (client.withQueue (rest ++ others)) packet input
            linked first with ⟨back, middle, sending, framed, status, success⟩
          have steady : middle.status = client.status := status
          have nowLinked : middle.Linked := Client.linked_framed _ middle framed linked
          rw [List.cons_append, senderLoop_cons platform nTicks client middle [] (rest ++ others)
            packet back input inputs _ first here sending,
            accepted_status client (client.withQueue (rest ++ others)) packet input rfl,
            allAccepted_cons client middle packet rest input inputs steady]
          -- The packet goes behind all that are due, since its new time is later than theirs.
          by_cases taken : accepted client packet input = true
          · rw [if_pos taken]
            rcases success taken with ⟨again, log⟩
            rw [again]
            have late : later (resent platform packet input).scheduledTime nTicks = true := by
              rw [(resent_same platform packet input first).2]
              exact times.1
            have behind : ∀ other ∈ rest, ¬ Earlier (resent platform packet input) other := by
              intro other member
              rw [Earlier, (resent_same platform packet input first).2, Bool.not_eq_true]
              exact times.2 other (List.mem_cons_of_mem _ member)
            rw [senderLoop_reinsert platform nTicks middle _ rest others inputs late behind notYet]
            rcases ih (insertByTime (resent platform packet input) others) middle inputs nowLinked
              (fun other member => insertable other (List.mem_cons_of_mem _ member))
              (fun other member => now other (List.mem_cons_of_mem _ member))
              (insertByTime_late nTicks _ others late notYet)
              (fun other member => ⟨(after other (by simp [member])).1, fun packet inRest =>
                (after other (by simp [member])).2 packet (List.mem_cons_of_mem _ inRest)⟩)
              with ⟨unread, few⟩ | ⟨next, done, nextLinked, succeeded, failed⟩
            · exact Or.inl ⟨unread, by simpa using few⟩
            refine Or.inr ⟨next, done, nextLinked, ?_, ?_⟩
            · intro all
              rcases succeeded all.2 with ⟨nextLog, queue⟩
              refine ⟨?_, queue⟩
              rw [nextLog, log, List.map_cons, List.append_assoc]
              rfl
            · intro refused
              rcases failed fun all => refused ⟨taken, all⟩ with empty | ⟨offline, -⟩
              · exact Or.inl empty
              · exact absurd (steady ▸ offline) (online_of_accepted client packet input taken)
          · rw [if_neg taken]
            rcases middle.closeConnection_total .sendFailed nowLinked with ⟨next, closing⟩
            rw [closing]
            refine Or.inr ⟨next, rfl, (middle.closeConnection_kept next _ nowLinked closing).1,
              ?_, ?_⟩
            · intro all
              exact absurd all.1 taken
            · intro _
              rcases middle.closeConnection_cases next _ closing with ⟨offline, rfl⟩ | ⟨-, -, rfl⟩
              · refine Or.inr ⟨steady ▸ offline, ?_⟩
                rw [framed.retransmissionQueue]
                exact List.sublist_cons_self _ _
              · exact Or.inl rfl

/-! Whole calls. -/

def Sorted (queue : List SendPacket) : Prop :=
  queue.Pairwise fun first second => later first.scheduledTime second.scheduledTime = false

theorem sorted_iff (queue : List SendPacket) : Sorted queue ↔ InOrder Earlier queue := by
  simp only [Sorted, InOrder, Earlier, Bool.not_eq_true]

section Arc
variable (origin : UInt32)

def Within (times : List UInt32) : Prop := ∀ time ∈ times, (time - origin).toNat < 2 ^ 31

theorem insertByTime_ordered (packet : SendPacket) (queue : List SendPacket)
    (within : Within origin (times (packet :: queue))) (sorted : Sorted queue) :
    Sorted (insertByTime packet queue) ∧
      ∀ time, (insertByTime packet queue).filter (·.scheduledTime = time) =
        queue.filter (·.scheduledTime = time) ++ [packet].filter (·.scheduledTime = time) := by
  have keyed := keyed_of_window origin (packet :: queue) within
  rw [sorted_iff] at sorted
  rw [sorted_iff, insertByTime_eq]
  refine ⟨orderedInsert_inOrder Earlier (sinceOrigin origin) packet queue keyed sorted, ?_⟩
  intro time
  apply filter_orderedInsert Earlier (sinceOrigin origin) _ packet queue keyed sorted
  intro other _ hit chosen
  have equal : other.scheduledTime = packet.scheduledTime :=
    (of_decide_eq_true hit).trans (of_decide_eq_true chosen).symm
  rw [sinceOrigin, sinceOrigin, equal]

theorem insertAll_ordered (back queue : List SendPacket)
    (within : Within origin (times (back ++ queue))) (sorted : Sorted queue) :
    Sorted (back.foldl (fun queue packet => insertByTime packet queue) queue) ∧
      (back.foldl (fun queue packet => insertByTime packet queue) queue).Perm (back ++ queue) ∧
      ∀ time, (back.foldl (fun queue packet => insertByTime packet queue) queue).filter
          (·.scheduledTime = time) =
        queue.filter (·.scheduledTime = time) ++ back.filter (·.scheduledTime = time) := by
  induction back generalizing queue with
  | nil => exact ⟨sorted, .refl _, fun time => by simp⟩
  | cons packet rest ih =>
      have joined := Client.insertByTime_perm packet queue
      have here : Within origin (times (packet :: queue)) := by
        intro time member
        apply within time
        simp only [times, List.map_cons, List.map_append, List.mem_cons, List.mem_append] at member ⊢
        tauto
      have others : Within origin (times (rest ++ insertByTime packet queue)) := by
        intro time member
        apply within time
        simp only [times, List.map_append, List.mem_append, (joined.map _).mem_iff] at member
        simp only [times, List.map_cons, List.map_append, List.mem_cons, List.mem_append] at member ⊢
        tauto
      rcases insertByTime_ordered origin packet queue here sorted with ⟨first, kept⟩
      rcases ih (insertByTime packet queue) others first with ⟨final, perm, all⟩
      refine ⟨final, (perm.trans (joined.append_left rest)).trans List.perm_middle, ?_⟩
      intro time
      rw [List.foldl_cons, all time, kept time, List.append_assoc, ← List.filter_append]
      rfl

/-- In a sorted queue the packets that are due come first. -/
theorem due_first (nTicks : UInt32) (queue : List SendPacket)
    (within : Within origin (nTicks :: times queue)) (sorted : Sorted queue) :
    queue = due nTicks queue ++ notDue nTicks queue := by
  induction queue with
  | nil => rfl
  | cons packet rest ih =>
      rcases List.pairwise_cons.mp sorted with ⟨least, ordered⟩
      have tick := within nTicks (List.mem_cons_self ..)
      have here := within packet.scheduledTime (by simp [times])
      by_cases waits : later packet.scheduledTime nTicks = true
      · have all : ∀ other ∈ packet :: rest, later other.scheduledTime nTicks = true := by
          intro other member
          rcases List.mem_cons.mp member with rfl | inRest
          · exact waits
          · have there := within other.scheduledTime
              (List.mem_cons_of_mem _ (List.mem_map_of_mem member))
            have before := least other inRest
            rw [later_iff origin _ _ here tick] at waits
            rw [later_false_iff origin _ _ here there] at before
            rw [later_iff origin _ _ there tick]
            omega
        have none : due nTicks (packet :: rest) = [] := by
          rw [due, List.filter_eq_nil_iff]
          intro other member
          simp [all other member]
        have rest : notDue nTicks (packet :: rest) = packet :: rest :=
          List.filter_eq_self.mpr all
        rw [none, rest, List.nil_append]
      · have fewer : Within origin (nTicks :: times rest) := by
          intro time member
          apply within time
          simp only [times, List.map_cons, List.mem_cons] at member ⊢
          tauto
        have behind := ih fewer ordered
        simp only [due, notDue] at behind ⊢
        simp only [Bool.not_eq_true] at waits
        simp only [List.filter_cons, waits, Bool.not_false, ↓reduceIte, Bool.false_eq_true,
          List.cons_append]
        rw [← behind]

/-- A time that is a positive timeout after a tick which is not before `nTicks`. -/
theorem later_after (nTicks ticks timeout : UInt32) (positive : later timeout 0 = true)
    (start : (nTicks - origin).toNat < 2 ^ 31) (read : (ticks - origin).toNat < 2 ^ 31)
    (new : (ticks + timeout - origin).toNat < 2 ^ 31) (forwards : later nTicks ticks = false) :
    (nTicks - origin).toNat < (ticks + timeout - origin).toNat := by
  rw [later_false_iff origin _ _ start read] at forwards
  have ticksSmall := ticks.toNat_lt
  have timeoutSmall := timeout.toNat_lt
  have originSmall := origin.toNat_lt
  simp only [later, UInt32.toNat_sub, UInt32.toNat_add, Bool.and_eq_true, decide_eq_true_eq,
    UInt32.toNat_zero] at positive new read forwards ⊢
  omega

end Arc

/-- The end of `Publish`, `Subscribe`, `Unsubscribe` and the PUBREC handler inserts only what
is insertable. -/
theorem sendAndQueue_insertable (platform : Platform) (client next : Client) (packet : SendPacket)
    (uchQoS : UInt8) (usPacketIdentifier : UInt16) (input : SendInput)
    (restarts : Client.restartsTimer packet.type = true)
    (flags : packet.type = .publish → packet.flags ≤ 0x0F)
    (done : client.sendAndQueue platform packet uchQoS usPacketIdentifier input = .ok next) :
    ∀ entry ∈ next.retransmissionQueue,
      entry ∈ client.retransmissionQueue ∨ Insertable entry := by
  simp only [Client.sendAndQueue, bind_ok] at done
  rcases done with ⟨⟨sent, after, middle⟩, sending, done⟩
  have same := (client.sendPacket_framed platform middle packet after input sent
    sending).retransmissionQueue
  split at done
  · rename_i taken
    split at done
    · cases done
      have inserted : Insertable after := by
        rcases client.sendPacket_cases platform middle packet after input sent sending with
          ⟨-, rfl, -⟩ | ⟨-, -, result, send, rfl, rfl, -⟩
        · cases taken
        · have ready := (packet.send_accepted input.socket result send taken).1
          rcases send_unchanged packet input.socket result send with ⟨kept, flag, allocated⟩
          exact insertable_same packet _ kept flag allocated
            ⟨restarts, flags, ready.allocated, ready.header, ready.short⟩
      intro entry member
      rcases List.mem_cons.mp ((Client.insertByTime_perm _ _).mem_iff.mp member) with rfl | old
      · exact Or.inr (insertable_noted after uchQoS _ _ inserted)
      · exact Or.inl (same ▸ old)
    · cases done
      exact fun entry member => Or.inl (same ▸ member)
  · rcases middle.closeConnection_cases next _ done with ⟨-, rfl⟩ | ⟨-, -, rfl⟩
    · exact fun entry member => Or.inl (same ▸ member)
    · exact fun entry member => nomatch member

theorem publish_insertable (config : Config) (client next : Client) (pTopic payload : List UInt8)
    (uchQoS : UInt8) (bRetain : Bool) (input : SendInput)
    (done : client.publish config pTopic payload uchQoS bRetain input = .ok next) :
    ∀ entry ∈ next.retransmissionQueue,
      entry ∈ client.retransmissionQueue ∨ Insertable entry := by
  simp only [Client.publish, bind_ok] at done
  rcases done with ⟨_, -, packet, built, done⟩
  have type := Client.publishPacket_type config _ _ _ _ _ _ packet built
  apply sendAndQueue_insertable config.toPlatform client.advanceIdentifier next packet uchQoS _ input
    (by rw [type]; rfl) _ done
  intro _
  simp only [Client.publishPacket, SendPacket.setFlags, bind_ok, require_ok, pure_ok,
    Except.ok.injEq] at built
  rcases built with ⟨_, ⟨_, -, _, small, rfl⟩, named, first, numbered, second, third⟩
  have same := (SendPacket.appendString_same _ _ named _ first).trans
    (SendPacket.appendWord_same named numbered _ second)
  split at third
  · rw [(same.trans (SendPacket.appendData_same _ numbered packet _ third)).flags]
    exact small
  · cases third
    rw [same.flags]
    exact small

structure Held (state : Traced) : Prop where
  linked : state.client.Linked
  insertable : ∀ packet ∈ state.queue, Insertable packet
  sorted : Sorted state.queue
  stable : ∀ time, (state.queue.filter (·.scheduledTime = time)).Sublist
    (state.inserted.filter (·.scheduledTime = time))

/-- What a call of `Sender` does when the times are in order. -/
theorem sender_outcome (platform : Platform) (positive : later platform.resendTimeout 0 = true)
    (client : Client) (nTicks : UInt32) (inputs : List SendInput) (linked : client.Linked)
    (insertable : ∀ packet ∈ client.retransmissionQueue, Insertable packet)
    (sorted : Sorted client.retransmissionQueue)
    (timely : SenderTimely platform client.retransmissionQueue nTicks
      (inputs.take (due nTicks client.retransmissionQueue).length)) :
    client.sender platform nTicks inputs = .ok none ∧
      inputs.length < (due nTicks client.retransmissionQueue).length ∨
    ∃ next, client.sender platform nTicks inputs = .ok (some next) ∧ next.Linked ∧
      (AllAccepted client (due nTicks client.retransmissionQueue) inputs →
        next.log = client.log ++ (due nTicks client.retransmissionQueue).map
          (fun packet => .sent (repeated packet).wire true) ∧
        next.retransmissionQueue =
          (resentAll platform (due nTicks client.retransmissionQueue) inputs).foldl
            (fun queue packet => insertByTime packet queue)
            (notDue nTicks client.retransmissionQueue)) ∧
      (¬ AllAccepted client (due nTicks client.retransmissionQueue) inputs →
        next.retransmissionQueue.Sublist client.retransmissionQueue) := by
  generalize same : client.retransmissionQueue = queue at *
  rcases timely with ⟨⟨origin, window⟩, forwards⟩
  have tick := window nTicks (by simp [ticksRead])
  have split : queue = due nTicks queue ++ notDue nTicks queue := by
    apply due_first origin nTicks queue _ sorted
    intro time member
    rcases List.mem_cons.mp member with rfl | queued
    · exact tick
    · exact window time (by simp [queued])
  have now : ∀ packet ∈ due nTicks queue, later packet.scheduledTime nTicks = false := by
    intro packet member
    simpa using (List.mem_filter.mp member).2
  have notYet : ∀ packet ∈ notDue nTicks queue, later packet.scheduledTime nTicks = true :=
    fun packet member => (List.mem_filter.mp member).2
  have after : ∀ input ∈ inputs.take (due nTicks queue).length,
      later (input.queueTicks + platform.resendTimeout) nTicks = true ∧
      ∀ packet ∈ due nTicks queue,
        later packet.scheduledTime (input.queueTicks + platform.resendTimeout) = false := by
    intro input member
    have read := window input.queueTicks
      (by simp only [ticksRead, List.mem_append, List.mem_cons, List.mem_map]
          exact Or.inl (Or.inr (Or.inr ⟨input, member, rfl⟩)))
    have new := window (input.queueTicks + platform.resendTimeout)
      (List.mem_append_right _ (List.mem_map_of_mem member))
    have onwards : later nTicks input.queueTicks = false :=
      (List.pairwise_cons.mp forwards).1 _ (List.mem_map_of_mem member)
    have greater := later_after origin nTicks input.queueTicks platform.resendTimeout positive tick
      read new onwards
    refine ⟨(later_iff origin _ _ new tick).mpr greater, ?_⟩
    intro packet ready
    have here := window packet.scheduledTime (List.mem_append_left _ (List.mem_append_left _
      (List.mem_map_of_mem (List.mem_of_mem_filter ready))))
    have before := now packet ready
    rw [later_false_iff origin _ _ here tick] at before
    rw [later_false_iff origin _ _ here new]
    omega
  rcases senderLoop_due platform nTicks (due nTicks queue) (notDue nTicks queue) client inputs linked
    (fun packet member => insertable packet (List.mem_of_mem_filter member)) now notYet after
    with ⟨unread, few⟩ | ⟨next, done, nextLinked, succeeded, failed⟩
  · rw [← split] at unread
    exact Or.inl ⟨by rw [Client.sender, same]; exact unread, few⟩
  rw [← split] at done failed
  refine Or.inr ⟨next, ?_, nextLinked, succeeded, ?_⟩
  · rw [Client.sender, same]
    exact done
  · intro refused
    rcases failed refused with empty | ⟨-, part⟩
    · rw [empty]
      exact List.nil_sublist _
    · exact part

theorem input_read (packets : List SendPacket) (inputs : List SendInput)
    (pair : SendPacket × SendInput) (member : pair ∈ packets.zip inputs) :
    pair.2 ∈ inputs.take packets.length := by
  induction packets generalizing inputs with
  | nil => cases member
  | cons packet rest ih =>
      cases inputs with
      | nil => cases member
      | cons input inputs =>
          rw [List.length_cons, List.take_succ_cons]
          rcases List.mem_cons.mp member with rfl | behind
          · exact List.mem_cons_self ..
          · exact List.mem_cons_of_mem _ (ih inputs behind)

/-- The queue that a successful call leaves. -/
theorem resent_ordered (platform : Platform) (queue : List SendPacket) (nTicks : UInt32)
    (inputs : List SendInput) (insertable : ∀ packet ∈ queue, Insertable packet)
    (sorted : Sorted queue)
    (timely : SenderTimely platform queue nTicks (inputs.take (due nTicks queue).length)) :
    let next := (resentAll platform (due nTicks queue) inputs).foldl
      (fun queue packet => insertByTime packet queue) (notDue nTicks queue)
    Sorted next ∧ next.Perm (resentAll platform (due nTicks queue) inputs ++ notDue nTicks queue) ∧
      ∀ time, next.filter (·.scheduledTime = time) =
        (notDue nTicks queue).filter (·.scheduledTime = time) ++
          (resentAll platform (due nTicks queue) inputs).filter (·.scheduledTime = time) := by
  rcases timely with ⟨⟨origin, window⟩, -⟩
  apply insertAll_ordered origin _ _ _ (sorted.sublist List.filter_sublist)
  intro time member
  simp only [times, List.map_append, List.mem_append, List.mem_map, resentAll] at member
  apply window time
  rcases member with ⟨_, ⟨pair, zipped, rfl⟩, rfl⟩ | ⟨packet, left, rfl⟩
  · have packet := insertable pair.1 (List.mem_of_mem_filter (List.of_mem_zip zipped).1)
    rw [(resent_same platform pair.1 pair.2 packet).2]
    exact List.mem_append_right _ (List.mem_map.mpr ⟨pair.2, input_read _ _ pair zipped, rfl⟩)
  · exact List.mem_append_left _ (List.mem_append_left _
      (List.mem_map_of_mem (List.mem_of_mem_filter left)))

theorem putBack_all (platform : Platform) (client : Client) (nTicks : UInt32)
    (inputs : List SendInput)
    (all : AllAccepted client (due nTicks client.retransmissionQueue) inputs) :
    putBack platform client nTicks inputs =
      resentAll platform (due nTicks client.retransmissionQueue) inputs := by
  rw [putBack, resentAll, List.takeWhile_eq_self_iff.mpr all]

theorem insert_held (state : Traced) (packet : SendPacket) (nScheduledTime : UInt32)
    (held : Held state) (insertable : Insertable packet)
    (window : Window (nScheduledTime :: times state.queue)) :
    Held ⟨state.client.insertPacketIntoQueue packet nScheduledTime,
      state.inserted ++ [{ packet with scheduledTime := nScheduledTime }]⟩ := by
  rcases window with ⟨origin, within⟩
  rcases insertByTime_ordered origin { packet with scheduledTime := nScheduledTime } state.queue
    within held.sorted with ⟨sorted, filtered⟩
  refine ⟨held.linked, ?_, sorted, ?_⟩
  · intro other member
    rcases List.mem_cons.mp ((Client.insertByTime_perm _ _).mem_iff.mp member) with rfl | old
    · exact ⟨insertable.restarts, insertable.flags, insertable.allocated, insertable.header,
        insertable.short⟩
    · exact held.insertable other old
  · intro time
    rw [List.filter_append]
    exact (filtered time).symm ▸ (held.stable time).append (.refl _)

theorem remove_held (state : Traced) (usPacketIdentifier : UInt16) (held : Held state) :
    Held ⟨(state.client.removePacketFromQueue usPacketIdentifier).2, state.inserted⟩ := by
  rw [Client.removePacketFromQueue_eq]
  have part : (state.queue.eraseP (bears usPacketIdentifier)).Sublist state.queue :=
    List.eraseP_sublist
  refine ⟨held.linked, fun packet member => held.insertable packet (part.subset member),
    held.sorted.sublist part, fun time => (part.filter _).trans (held.stable time)⟩

theorem sender_held (platform : Platform) (positive : later platform.resendTimeout 0 = true)
    (state : Traced) (next : Client) (nTicks : UInt32) (inputs : List SendInput)
    (held : Held state) (timely : Timely platform state (.sender nTicks inputs))
    (done : state.client.sender platform nTicks inputs = .ok (some next)) :
    Held ⟨next, state.inserted ++ putBack platform state.client nTicks inputs⟩ := by
  rcases sender_outcome platform positive state.client nTicks inputs held.linked held.insertable
    held.sorted timely with ⟨unread, -⟩ | ⟨after, returned, linked, succeeded, failed⟩
  · rw [done] at unread
    cases unread
  rw [done] at returned
  cases returned
  by_cases all : AllAccepted state.client (due nTicks state.queue) inputs
  · rcases resent_ordered platform state.client.retransmissionQueue nTicks inputs held.insertable
      held.sorted timely with ⟨sorted, perm, filtered⟩
    have queue := (succeeded all).2
    rw [putBack_all platform state.client nTicks inputs all]
    refine ⟨linked, ?_, ?_, ?_⟩
    · intro packet member
      rw [Traced.queue, queue, perm.mem_iff, List.mem_append] at member
      rcases member with again | left
      · rcases List.mem_map.mp again with ⟨pair, zipped, rfl⟩
        exact resent_insertable platform pair.1 pair.2
          (held.insertable _ (List.mem_of_mem_filter (List.of_mem_zip zipped).1))
      · exact held.insertable packet (List.mem_of_mem_filter left)
    · rw [Traced.queue, queue]
      exact sorted
    · intro time
      rw [Traced.queue, queue, List.filter_append]
      refine (filtered time).symm ▸ List.Sublist.append ?_ (.refl _)
      exact (List.filter_sublist.filter _).trans (held.stable time)
  · have part := failed all
    refine ⟨linked, fun packet member => held.insertable packet (part.subset member),
      held.sorted.sublist part, ?_⟩
    intro time
    rw [List.filter_append]
    exact ((part.filter _).trans (held.stable time)).trans (List.sublist_append_left _ _)

theorem step_held (platform : Platform) (positive : later platform.resendTimeout 0 = true)
    (state : Traced) (call : QueueCall) (next : Traced) (held : Held state)
    (timely : Timely platform state call) (taken : step platform state call = some next) :
    Held next := by
  cases call with
  | insert packet nScheduledTime =>
      cases taken
      exact insert_held state packet nScheduledTime held timely.1 timely.2
  | remove usPacketIdentifier =>
      cases taken
      exact remove_held state usPacketIdentifier held
  | sender nTicks inputs =>
      simp only [step] at taken
      split at taken
      · rename_i after done
        cases taken
        exact sender_held platform positive state after nTicks inputs held timely done
      · cases taken

theorem held_orderly (platform : Platform) (positive : later platform.resendTimeout 0 = true)
    (state : Traced) (held : Held state) : Orderly platform state := by
  refine ⟨held.sorted, held.stable, ?_⟩
  intro nTicks inputs timely enough
  rcases sender_outcome platform positive state.client nTicks inputs held.linked held.insertable
    held.sorted timely with ⟨-, few⟩ | ⟨next, done, -, succeeded, -⟩
  · exact absurd few enough.not_gt
  · refine ⟨next, done, ?_⟩
    intro all
    rcases succeeded all with ⟨log, queue⟩
    refine ⟨log, ?_, ?_⟩
    · rw [queue]
      exact (resent_ordered platform state.queue nTicks inputs held.insertable held.sorted
        timely).2.1
    · intro pair zipped
      exact resent_same platform pair.1 pair.2
        (held.insertable _ (List.mem_of_mem_filter (List.of_mem_zip zipped).1))

/-- For every sequence of calls from an empty queue on, as long as the times of each call
lie in one window and its ticks do not run backwards: in every state the queue is sorted,
packets with equal times are in the order of their insertion, and `Sender` returns and
retransmits what is due. -/
theorem queue_orderly (platform : Platform) (client : Client) (calls : List QueueCall)
    (positive : later platform.resendTimeout 0 = true) (linked : client.Linked)
    (empty : client.retransmissionQueue = [])
    (timely : Along (step platform) (Timely platform) ⟨client, []⟩ calls) :
    Throughout (step platform) (Orderly platform) ⟨client, []⟩ calls := by
  apply throughout_of_along (Timely platform) Held (Orderly platform)
    (held_orderly platform positive)
    (fun state call next held timely taken =>
      step_held platform positive state call next held timely taken) _ calls _ timely
  have none : (Traced.mk client []).queue = [] := empty
  refine ⟨linked, ?_, ?_, ?_⟩
  · rw [none]
    exact fun packet member => nomatch member
  · rw [none]
    exact List.Pairwise.nil
  · intro time
    simp only [none]
    exact List.nil_sublist _

def waiting : SendPacket :=
  { SendPacket.create .publish 128 (some fun _ => 0) with
    bufPtr := 10, flags := 2, qos := 1, packetIdentifier := 1 }

def aroundWrap : List QueueCall :=
  [.insert waiting 0xFFFFFFF0, .insert { waiting with packetIdentifier := 2 } 5,
    .sender 0xFFFFFFFA [{ SendInput.willing with queueTicks := 0xFFFFFFFB }], .remove 1]

theorem window_of_all (origin : UInt32) (times : List UInt32)
    (all : (times.all fun time => decide ((time - origin).toNat < 2 ^ 31)) = true) :
    Window times :=
  ⟨origin, by simpa using all⟩

theorem aroundWrap_orderly :
    Throughout (step Config.default.toPlatform) (Orderly Config.default.toPlatform)
      ⟨{ Client.fresh Config.default with socket := true, status := .connected }, []⟩
      aroundWrap := by
  apply queue_orderly Config.default.toPlatform _ aroundWrap (by decide)
    (by unfold Client.Linked; decide) rfl
  have insertable : Insertable waiting := ⟨rfl, fun _ => by decide, rfl, by decide, by decide⟩
  refine ⟨⟨insertable, window_of_all 0xFFFFFF00 _ rfl⟩, ?_⟩
  intro one taken
  cases taken
  refine ⟨⟨⟨rfl, insertable.flags, rfl, insertable.header, insertable.short⟩,
    window_of_all 0xFFFFFF00 _ rfl⟩, ?_⟩
  intro two taken
  cases taken
  refine ⟨⟨window_of_all 0xFFFFFF00 _ rfl, by decide⟩, ?_⟩
  intro sent taken
  exact ⟨trivial, fun _ _ => trivial⟩

end CircleStdlib.Mqtt.RetransmissionQueue
