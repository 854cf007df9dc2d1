import CircleStdlib.Execution
import Mathlib.Algebra.Group.Nat.Defs
import Mathlib.Algebra.Ring.Int.Defs

/-!
The receiving side of `CAdaptedSocket`. The socket below it hands out whole frames, the
callers ask for any number of bytes, and `m_RxBuffer` holds what is left of the last frame.
The calls on one socket follow one another. What the socket below answers, and the ticks of
the timer, are inputs; an answer may depend on the flags of the call.
-/

namespace CircleStdlib.AdaptedSocket

open Execution

/-- `FRAME_BUFFER_SIZE`, which fits in an `int`, and the macro `MSEC2HZ`. -/
structure Platform where
  frameBufferSize : Nat
  small : frameBufferSize < 2 ^ 31
  msec2hz : UInt32 → UInt32

inductive Flags where
  | none
  | msgDontwait
  deriving DecidableEq, Repr

variable (platform : Platform)

/-- What `CSocket::Receive` returns: a positive length with that many bytes, 0 or an error. -/
inductive Answer where
  | frame (bytes : List UInt8) (full : 0 < bytes.length)
      (fits : bytes.length ≤ platform.frameBufferSize)
  | noData
  | error

variable {platform}

def Answer.bytes : Answer platform → List UInt8
  | .frame bytes _ _ => bytes
  | .noData => []
  | .error => []

inductive Outcome where
  | received (bytes : List UInt8)
  | wantRead
  | timeout
  deriving DecidableEq, Repr

def Outcome.bytes : Outcome → List UInt8
  | .received bytes => bytes
  | .wantRead => []
  | .timeout => []

def Outcome.result : Outcome → Int
  | .received bytes => bytes.length
  | .wantRead => -0x6900
  | .timeout => -0x6800

structure Receiver where
  rxBuffer : List UInt8
  rxBytesValid : Nat
  rxBytesUsed : Nat
  block : Bool

namespace Receiver

-- The difference of the two counters, taken as `unsigned`.
def bytesAvail (receiver : Receiver) : Nat :=
  (((receiver.rxBytesValid : Int) - receiver.rxBytesUsed) % 2 ^ 32).toNat

def fill (receiver : Receiver) (frame : List UInt8) : Receiver :=
  { receiver with
    rxBuffer := frame ++ receiver.rxBuffer.drop frame.length
    rxBytesValid := frame.length
    rxBytesUsed := 0 }

-- The end of both functions: as much of the buffer as the caller wants, and has room for.
def handOut (receiver : Receiver) (length : UInt32) : Outcome × Receiver :=
  let count := if length.toNat > receiver.bytesAvail then receiver.bytesAvail else length.toNat
  (.received ((receiver.rxBuffer.drop receiver.rxBytesUsed).take count),
    { receiver with rxBytesUsed := receiver.rxBytesUsed + count })

def receive (receiver : Receiver) (length : UInt32) (answer : Flags → Answer platform) :
    List (Answer platform) × Outcome × Receiver :=
  if receiver.bytesAvail = 0 then
    match answer (if receiver.block then .none else .msgDontwait) with
    | .noData => ([.noData], .wantRead, receiver)
    | .error => ([.error], .received [], receiver)
    | .frame bytes full fits => ([.frame bytes full fits], (receiver.fill bytes).handOut length)
  else
    ([], receiver.handOut length)

-- The loop of `ReceiveTimeout`. Each pass has the answer of the socket and the ticks after
-- it; without a further pass the call has not returned.
def awaitFrame (receiver : Receiver) (length timeoutHz startTicks : UInt32) (flags : Flags) :
    List ((Flags → Answer platform) × UInt32) →
      Option (List (Answer platform) × Outcome × Receiver)
  | [] => none
  | (answer, ticks) :: later =>
      match answer flags with
      | .noData =>
          if ticks - startTicks ≥ timeoutHz then some ([.noData], .timeout, receiver)
          else
            (awaitFrame receiver length timeoutHz startTicks flags later).map
              fun (answers, returned) => (.noData :: answers, returned)
      | .error => some ([.error], .received [], receiver)
      | .frame bytes full fits =>
          some ([.frame bytes full fits], (receiver.fill bytes).handOut length)

def receiveTimeout (receiver : Receiver) (length timeoutMs startTicks : UInt32)
    (passes : List ((Flags → Answer platform) × UInt32)) :
    Option (List (Answer platform) × Outcome × Receiver) :=
  if receiver.bytesAvail = 0 then
    receiver.awaitFrame length (platform.msec2hz timeoutMs) startTicks
      (if timeoutMs = 0 then .none else .msgDontwait) passes
  else
    some ([], receiver.handOut length)

def setOptionBlocking (receiver : Receiver) (block : Bool) : Receiver :=
  { receiver with block }

end Receiver

structure Call (platform : Platform) where
  before : Receiver
  length : UInt32
  answers : List (Answer platform)
  outcome : Outcome
  after : Receiver

structure Connection (platform : Platform) where
  receiver : Receiver
  calls : List (Call platform)

inductive Label (platform : Platform) where
  | receive (length : UInt32) (answer : Flags → Answer platform)
  | receiveTimeout (length timeoutMs startTicks : UInt32)
      (passes : List ((Flags → Answer platform) × UInt32))
  | setOptionBlocking (block : Bool)

namespace Connection

-- The constructors: the buffer is not initialised.
def create (memory : { bytes : List UInt8 // bytes.length = platform.frameBufferSize }) :
    Connection platform :=
  ⟨⟨memory.val, 0, 0, true⟩, []⟩

def returned (connection : Connection platform) (length : UInt32)
    (call : List (Answer platform) × Outcome × Receiver) : Connection platform :=
  ⟨call.2.2, connection.calls ++ [⟨connection.receiver, length, call.1, call.2.1, call.2.2⟩]⟩

def step (connection : Connection platform) : Label platform → Option (Connection platform)
  | .receive length answer =>
      some (connection.returned length (connection.receiver.receive length answer))
  | .receiveTimeout length timeoutMs startTicks passes =>
      (connection.receiver.receiveTimeout length timeoutMs startTicks passes).map
        (connection.returned length)
  | .setOptionBlocking block =>
      some { connection with receiver := connection.receiver.setOptionBlocking block }

def answers (connection : Connection platform) : List (Answer platform) :=
  connection.calls.flatMap Call.answers

def bytesRead (connection : Connection platform) : List UInt8 :=
  connection.answers.flatMap Answer.bytes

def bytesDelivered (connection : Connection platform) : List UInt8 :=
  connection.calls.flatMap fun call => call.outcome.bytes

end Connection

namespace Receiver

def remainder (receiver : Receiver) : List UInt8 :=
  (receiver.rxBuffer.drop receiver.rxBytesUsed).take
    (receiver.rxBytesValid - receiver.rxBytesUsed)

structure Valid (platform : Platform) (receiver : Receiver) : Prop where
  size : receiver.rxBuffer.length = platform.frameBufferSize
  used : receiver.rxBytesUsed ≤ receiver.rxBytesValid
  filled : receiver.rxBytesValid ≤ platform.frameBufferSize

theorem bytesAvail_valid (receiver : Receiver) (valid : receiver.Valid platform) :
    receiver.bytesAvail = receiver.rxBytesValid - receiver.rxBytesUsed := by
  have small := platform.small
  have used := valid.used
  have filled := valid.filled
  unfold bytesAvail
  omega

theorem remainder_length (receiver : Receiver) (valid : receiver.Valid platform) :
    receiver.remainder.length = receiver.bytesAvail := by
  rw [bytesAvail_valid receiver valid]
  have size := valid.size
  have filled := valid.filled
  simp only [remainder, List.length_take, List.length_drop]
  omega

theorem remainder_empty (receiver : Receiver) (valid : receiver.Valid platform)
    (empty : receiver.bytesAvail = 0) : receiver.remainder = [] := by
  rw [← List.length_eq_zero_iff, remainder_length receiver valid, empty]

theorem fill_valid (receiver : Receiver) (frame : List UInt8) (valid : receiver.Valid platform)
    (fits : frame.length ≤ platform.frameBufferSize) : (receiver.fill frame).Valid platform where
  size := by
    have size := valid.size
    simp only [fill, List.length_append, List.length_drop]
    omega
  used := Nat.zero_le _
  filled := fits

theorem fill_remainder (receiver : Receiver) (frame : List UInt8) :
    (receiver.fill frame).remainder = frame := by
  simp [remainder, fill]

/-- What a call hands out and what stays are together what was there. -/
theorem handOut_splits (receiver : Receiver) (length : UInt32)
    (valid : receiver.Valid platform) :
    ∃ bytes, (receiver.handOut length).1 = .received bytes ∧
      bytes ++ (receiver.handOut length).2.remainder = receiver.remainder ∧
      bytes.length = min length.toNat receiver.bytesAvail := by
  have avail := bytesAvail_valid receiver valid
  have used := valid.used
  have filled := valid.filled
  have size := valid.size
  have count : (if length.toNat > receiver.bytesAvail then receiver.bytesAvail
      else length.toNat) = min length.toNat receiver.bytesAvail := by
    split <;> omega
  refine ⟨_, rfl, ?_, ?_⟩
  · simp only [remainder, handOut, count]
    -- the two parts are consecutive in the buffer
    rw [← List.drop_drop, Nat.sub_add_eq, ← avail, ← List.take_add]
    congr 1
    omega
  · rw [count, List.length_take, List.length_drop]
    omega

theorem handOut_valid (receiver : Receiver) (length : UInt32)
    (valid : receiver.Valid platform) : (receiver.handOut length).2.Valid platform where
  size := valid.size
  used := by
    have avail := bytesAvail_valid receiver valid
    have used := valid.used
    simp only [handOut]
    split <;> omega
  filled := valid.filled

end Receiver

/-- What a call owes: the bytes that were left and the frames it has read are what it hands
out and what is left now; an error code means that nothing has happened; and 0, for a caller
that wants something, that nothing is left and that the socket has failed. -/
structure Serves (before : Receiver) (length : UInt32)
    (call : List (Answer platform) × Outcome × Receiver) : Prop where
  valid : call.2.2.Valid platform
  stream : before.remainder ++ call.1.flatMap Answer.bytes =
    call.2.1.bytes ++ call.2.2.remainder
  refused : call.2.1 = .wantRead ∨ call.2.1 = .timeout →
    call.2.2 = before ∧ call.1.flatMap Answer.bytes = []
  ended : length ≠ 0 → call.2.1.result = 0 → call.2.2.remainder = [] ∧ .error ∈ call.1

section Calls

variable (receiver : Receiver) (length : UInt32) (valid : receiver.Valid platform)

include valid

theorem serves_noData (outcome : Outcome) (code : outcome = .wantRead ∨ outcome = .timeout) :
    Serves receiver length (([.noData], outcome, receiver) :
      List (Answer platform) × Outcome × Receiver) where
  valid := valid
  stream := by
    rcases code with rfl | rfl <;> simp [Answer.bytes, Outcome.bytes]
  refused := fun _ => ⟨rfl, rfl⟩
  ended := by
    rcases code with rfl | rfl <;> simp [Outcome.result]

theorem serves_error (empty : receiver.bytesAvail = 0) :
    Serves receiver length (([.error], .received [], receiver) :
      List (Answer platform) × Outcome × Receiver) where
  valid := valid
  stream := by simp [Answer.bytes, Outcome.bytes]
  refused := by simp
  ended := fun _ _ => ⟨receiver.remainder_empty valid empty, by simp⟩

-- the frame is not empty, and neither is what a call hands out then
theorem serves_frame (empty : receiver.bytesAvail = 0) (bytes : List UInt8)
    (full : 0 < bytes.length) (fits : bytes.length ≤ platform.frameBufferSize) :
    Serves receiver length
      ([Answer.frame bytes full fits], (receiver.fill bytes).handOut length) := by
  have filled := receiver.fill_valid bytes valid fits
  obtain ⟨first, outcome, whole, size⟩ := (receiver.fill bytes).handOut_splits length filled
  have avail := (receiver.fill bytes).remainder_length filled
  rw [receiver.fill_remainder] at whole avail
  constructor
  · exact Receiver.handOut_valid _ length filled
  · simp [receiver.remainder_empty valid empty, outcome, Answer.bytes, Outcome.bytes, whole]
  · simp [outcome]
  · intro wanted zero
    have positive : 0 < length.toNat := UInt32.pos_iff_ne_zero.mpr wanted
    simp only [outcome, Outcome.result] at zero
    omega

theorem serves_rest (some : receiver.bytesAvail ≠ 0) :
    Serves receiver length
      (([], receiver.handOut length) : List (Answer platform) × Outcome × Receiver) := by
  obtain ⟨first, outcome, whole, size⟩ := receiver.handOut_splits length valid
  constructor
  · exact Receiver.handOut_valid _ length valid
  · simp [outcome, Outcome.bytes, whole]
  · simp [outcome]
  · intro wanted zero
    have positive : 0 < length.toNat := UInt32.pos_iff_ne_zero.mpr wanted
    simp only [outcome, Outcome.result] at zero
    omega

omit valid in
theorem serves_later (answers : List (Answer platform)) (returned : Outcome × Receiver)
    (serves : Serves receiver length (answers, returned)) :
    Serves receiver length (.noData :: answers, returned) where
  valid := serves.valid
  stream := by simpa [Answer.bytes] using serves.stream
  refused := by simpa [Answer.bytes] using serves.refused
  ended := by
    intro wanted zero
    obtain ⟨nothing, failed⟩ := serves.ended wanted zero
    exact ⟨nothing, List.mem_cons_of_mem _ failed⟩

theorem receive_serves (answer : Flags → Answer platform) :
    Serves receiver length (receiver.receive length answer) := by
  unfold Receiver.receive
  split
  case isTrue empty =>
    split
    · exact serves_noData receiver length valid _ (.inl rfl)
    · exact serves_error receiver length valid empty
    · exact serves_frame receiver length valid empty _ _ _
  case isFalse some => exact serves_rest receiver length valid some

-- the induction is on the passes of the loop; only the last one can change the buffer
theorem awaitFrame_serves (empty : receiver.bytesAvail = 0) (timeoutHz startTicks : UInt32)
    (flags : Flags) (passes : List ((Flags → Answer platform) × UInt32))
    (call : List (Answer platform) × Outcome × Receiver)
    (over_ : receiver.awaitFrame length timeoutHz startTicks flags passes = some call) :
    Serves receiver length call := by
  induction passes generalizing call with
  | nil => simp [Receiver.awaitFrame] at over_
  | cons pass later ih =>
      obtain ⟨answer, ticks⟩ := pass
      unfold Receiver.awaitFrame at over_
      split at over_
      · split at over_
        · cases over_
          exact serves_noData receiver length valid _ (.inr rfl)
        · obtain ⟨⟨answers, returned⟩, tail, rfl⟩ := Option.map_eq_some_iff.mp over_
          exact serves_later receiver length answers returned (ih _ tail)
      · cases over_
        exact serves_error receiver length valid empty
      · cases over_
        exact serves_frame receiver length valid empty _ _ _

theorem receiveTimeout_serves (timeoutMs startTicks : UInt32)
    (passes : List ((Flags → Answer platform) × UInt32))
    (call : List (Answer platform) × Outcome × Receiver)
    (over_ : receiver.receiveTimeout length timeoutMs startTicks passes = some call) :
    Serves receiver length call := by
  unfold Receiver.receiveTimeout at over_
  split at over_
  case isTrue empty =>
    exact awaitFrame_serves receiver length valid empty _ _ _ passes call over_
  case isFalse some =>
    cases over_
    exact serves_rest receiver length valid some

end Calls

/-- The stream up to here: the callers have its beginning, the buffer has the rest. -/
structure Faithful (connection : Connection platform) : Prop where
  used_le : connection.receiver.rxBytesUsed ≤ connection.receiver.rxBytesValid
  valid_le : connection.receiver.rxBytesValid ≤ platform.frameBufferSize
  delivered : connection.bytesDelivered <+: connection.bytesRead
  rest : connection.receiver.remainder =
    connection.bytesRead.drop connection.bytesDelivered.length
  refused : ∀ call ∈ connection.calls, call.outcome = .wantRead ∨ call.outcome = .timeout →
    call.after = call.before ∧ call.answers.flatMap Answer.bytes = []
  ended : ∀ earlier last, connection.calls = earlier ++ [last] → last.length ≠ 0 →
    last.outcome.result = 0 →
      connection.bytesDelivered = connection.bytesRead ∧ .error ∈ connection.answers

structure Kept (connection : Connection platform) : Prop where
  valid : connection.receiver.Valid platform
  stream : connection.bytesRead = connection.bytesDelivered ++ connection.receiver.remainder
  refused : ∀ call ∈ connection.calls, call.outcome = .wantRead ∨ call.outcome = .timeout →
    call.after = call.before ∧ call.answers.flatMap Answer.bytes = []
  ended : ∀ earlier last, connection.calls = earlier ++ [last] → last.length ≠ 0 →
    last.outcome.result = 0 →
      connection.receiver.remainder = [] ∧ .error ∈ connection.answers

theorem kept_faithful (connection : Connection platform) (kept : Kept connection) :
    Faithful connection where
  used_le := kept.valid.used
  valid_le := kept.valid.filled
  delivered := ⟨_, kept.stream.symm⟩
  rest := by simp [kept.stream]
  refused := kept.refused
  ended := by
    intro earlier last calls wanted zero
    obtain ⟨nothing, failed⟩ := kept.ended earlier last calls wanted zero
    exact ⟨by simp [kept.stream, nothing], failed⟩

theorem create_kept
    (memory : { bytes : List UInt8 // bytes.length = platform.frameBufferSize }) :
    Kept (Connection.create memory) where
  valid := ⟨memory.property, Nat.le_refl 0, Nat.zero_le _⟩
  stream := rfl
  refused := by simp [Connection.create]
  ended := by simp [Connection.create]

theorem returned_kept (connection : Connection platform) (length : UInt32)
    (call : List (Answer platform) × Outcome × Receiver) (kept : Kept connection)
    (serves : Serves connection.receiver length call) :
    Kept (connection.returned length call) where
  valid := serves.valid
  stream := by
    have before := kept.stream
    have now := serves.stream
    simp only [Connection.bytesRead, Connection.answers, Connection.bytesDelivered,
      Connection.returned, List.flatMap_append, List.flatMap_singleton] at before ⊢
    rw [before, List.append_assoc, now, List.append_assoc]
  refused := by
    intro other present code
    rcases List.mem_append.mp present with old | new
    · exact kept.refused other old code
    · obtain rfl := List.mem_singleton.mp new
      exact serves.refused code
  ended := by
    intro earlier last calls wanted zero
    obtain rfl : _ = last := (List.append_inj_right' calls rfl |> List.singleton_inj.mp)
    obtain ⟨nothing, failed⟩ := serves.ended wanted zero
    refine ⟨nothing, ?_⟩
    simp [Connection.answers, Connection.returned, failed]

theorem step_kept (connection : Connection platform) (label : Label platform)
    (next : Connection platform) (kept : Kept connection)
    (taken : connection.step label = some next) : Kept next := by
  cases label with
  | receive length answer =>
      obtain rfl := Option.some.inj taken
      exact returned_kept connection length _ kept
        (receive_serves connection.receiver length kept.valid answer)
  | receiveTimeout length timeoutMs startTicks passes =>
      obtain ⟨call, over_, rfl⟩ := Option.map_eq_some_iff.mp taken
      exact returned_kept connection length call kept
        (receiveTimeout_serves connection.receiver length kept.valid _ _ passes call over_)
  | setOptionBlocking block =>
      obtain rfl := Option.some.inj taken
      exact ⟨⟨kept.valid.size, kept.valid.used, kept.valid.filled⟩, kept.stream, kept.refused,
        kept.ended⟩

/-- For every platform, every content of the fresh buffer and every run of calls, whatever
the socket answers: after each call the callers have a beginning of the frames read so far
and the buffer has exactly the rest, within its bounds. -/
theorem stream_unchanged
    (memory : { bytes : List UInt8 // bytes.length = platform.frameBufferSize })
    (labels : List (Label platform)) :
    Throughout Connection.step Faithful (Connection.create memory) labels :=
  throughout_invariant Kept Faithful kept_faithful step_kept (Connection.create memory) labels
    (create_kept memory)

end CircleStdlib.AdaptedSocket
