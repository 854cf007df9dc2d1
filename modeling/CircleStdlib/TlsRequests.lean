import CircleStdlib.HttpTokens
import CircleStdlib.TlsSocket

/-!
What `CHTTPClient::Request` makes of a `CTLSSimpleClientSocket`, from `new` to the `delete` on
each of its ways out. The response goes through the parser of HttpClient, which decides how
often something is read.
-/

namespace CircleStdlib.TlsRequests

open HttpClient HttpLines HttpTokens TlsSocket
open ServerVerification.ClientSocket (SetupResults)

inductive Read where
  | bytes (data : List UInt8)
  | code (result : Int) (refused : result ≤ 0)

namespace Read

def result : Read → Int
  | .bytes data => data.length
  | .code result _ => result

def data : Read → List UInt8
  | .bytes data => data
  | .code _ _ => []

end Read

structure Answers where
  memory : Bool
  addCertificatePath : Int
  setup : SetupResults
  joined : Bool
  handshakes : List Int
  flags : UInt32
  write : Int
  reads : List Read

-- The loop around `Receive`; `none` also where it has not come to its end.
def receiveAll (ulongMax length : Nat) (socket : Socket) (parser : Parser) :
    List Read → Option Socket
  | [] => if parser.state = .finished then some socket else none
  | read :: later =>
      if parser.state = .finished then some socket
      else
        (socket.receive .none read.result).bind fun next =>
          if next.returned ≤ 0 then some next
          else
            match parser.feed ulongMax length read.data with
            | .error ⟨.returned _, _⟩ => some next
            | .error _ => none
            | .ok parser => receiveAll ulongMax length next parser later

def requestLog (ulongMax length : Nat) (serverName : List UInt8) (answers : Answers) :
    Option (List Event) :=
  if answers.addCertificatePath < 0 then some (create answers.memory).destroyed
  -- assert (m_ServerName.GetLength () > 0)
  else if serverName.length = 0 then none
  else
    ((create answers.memory).simpleSetup answers.setup).bind fun ready =>
      if ready.returned ≠ 0 then some ready.destroyed
      else
        (ready.connect answers.joined answers.handshakes answers.flags).bind fun connected =>
          if connected.returned < 0 then some connected.destroyed
          else
            (connected.send answers.write).bind fun sent =>
              if sent.returned < 0 then some sent.destroyed
              else
                (receiveAll ulongMax length sent Parser.start answers.reads).map Socket.destroyed

/-- The documented results: the handshake ends, and fails with a negative code; a blocking read
does not ask for another call; and the response comes to an end. -/
structure Documented (answers : Answers) : Prop where
  ends : (Socket.handshakes answers.handshakes).isSome = true
  negative : ∀ result ∈ answers.handshakes, result ≤ 0
  blocking : ∀ read ∈ answers.reads, wants read.result = false
  finite : ∃ read ∈ answers.reads, read.data = []

-- Whatever is written comes behind a check of the certificate without a flag.
def Unflagged (log : List Event) : Prop :=
  ∀ front back result, log = front ++ .write result :: back → .verifyResult 0 ∈ front

def Quiet (log : List Event) : Prop := ∀ result, .read result ∉ log ∧ .write result ∉ log

theorem quiet_flowing (log : List Event) (quiet : Quiet log) : Flowing log :=
  ⟨fun result member => absurd member (quiet result).1,
    fun result member => absurd member (quiet result).2⟩

theorem quiet_destroyed (socket : Socket) (quiet : Quiet socket.log) :
    Unflagged socket.destroyed := by
  rintro front back result same
  have member : .write result ∈ socket.destroyed := by simp [same]
  unfold Socket.destroyed at member
  have absent := (quiet result).2
  cases connected : socket.connected <;> cases present : socket.socket <;>
    simp [connected, present, absent] at member

theorem unflagged_prefix (before later : List Event) (quiet : Quiet before)
    (verified : .verifyResult 0 ∈ before) : Unflagged (before ++ later) := by
  intro front back result same
  -- the write is behind all of `before`
  rcases List.append_eq_append_iff.mp same with ⟨middle, rfl, -⟩ | ⟨middle, rfl, rest⟩
  · exact List.mem_append_left _ verified
  · cases middle with
    | nil => rwa [List.append_nil] at verified
    | cons first middle =>
        cases rest
        exact absurd (by simp) (quiet result).2

/-! The calls of a request, one by one. -/

structure Prepared (ready : Socket) : Prop where
  kept : Kept ready
  order : InOrder (.live ready)
  unconnected : ready.connected = false
  quiet : Quiet ready.log
  ready : ready.returned = 0 → Ready ready.log

theorem setup_prepared (memory : Bool) (results : SetupResults) :
    ∃ ready, (create memory).simpleSetup results = some ready ∧ Prepared ready := by
  have known := create_ordered memory
  have unset : Unset (create memory).log := by simp [Unset, create]
  have moves : ∀ ready, (create memory).simpleSetup results = some ready →
      Kept ready ∧ InOrder (.live ready) := by
    intro ready done
    have moves := simpleSetup_moves (create memory) ready known.2 results done
    exact ⟨moves.kept, (moves_ordered _ _ ready moves known.1).mpr fun _ _ => unset⟩
  have facts : ∃ ready, (create memory).simpleSetup results = some ready ∧
      ready.connected = false ∧ Quiet ready.log ∧ (ready.returned = 0 → Ready ready.log) := by
    unfold Socket.simpleSetup
    split
    · rename_i failed
      exact ⟨_, rfl, rfl, by simp [Quiet, create], fun zero => absurd zero failed⟩
    split
    · rename_i failed
      exact ⟨_, rfl, rfl, by simp [Quiet, create], fun zero => absurd zero failed⟩
    simp only [Socket.setup, create, Bool.false_eq_true, ↓reduceIte, Option.bind_some]
    split
    · rename_i failed
      exact ⟨_, rfl, rfl, by simp [Quiet, Socket.logged], fun zero => absurd zero failed⟩
    · rename_i fine
      rw [not_not] at fine
      simp only [Socket.setHostname, Socket.logged, Bool.false_eq_true, ↓reduceIte]
      refine ⟨_, rfl, rfl, by simp [Quiet], fun _ => ⟨by simp [fine], by simp [Unshaken]⟩⟩
  rcases facts with ⟨ready, done, unconnected, quiet, prepared⟩
  have both := moves ready done
  exact ⟨ready, done, both.1, both.2, unconnected, quiet, prepared⟩

structure Connected (handshakes : List Int) (connected : Socket) : Prop where
  kept : Kept connected
  order : InOrder (.live connected)
  quiet : Quiet connected.log
  online : connected.connected = true → connected.socket = true
  verified : connected.connected = true → 0 ≤ connected.returned →
    .verifyResult 0 ∈ connected.log
  failed : connected.connected = false →
    connected.returned < 0 ∨ connected.returned ∈ handshakes ∧ connected.returned ≠ 0

theorem handshakes_last (results : List Int) (events : List Event) (last : Int)
    (ended : Socket.handshakes results = some (events, last)) : last ∈ results := by
  induction results generalizing events with
  | nil => cases ended
  | cons result later ih =>
      unfold Socket.handshakes at ended
      split at ended
      · rename_i zero
        cases ended
        simp [zero]
      · split at ended
        · rcases Option.map_eq_some_iff.mp ended with ⟨⟨rest, final⟩, found, same⟩
          cases same
          exact List.mem_cons_of_mem result (ih rest found)
        · cases ended
          exact List.mem_cons_self

theorem connect_facts (ready connected : Socket) (joined : Bool) (results : List Int)
    (flags : UInt32) (unconnected : ready.connected = false) (quiet : Quiet ready.log)
    (done : ready.connect joined results flags = some connected) :
    Quiet connected.log ∧ (connected.connected = true → connected.socket = true) ∧
      (connected.connected = true → 0 ≤ connected.returned → .verifyResult 0 ∈ connected.log) ∧
      (connected.connected = false →
        connected.returned < 0 ∨ connected.returned ∈ results ∧ connected.returned ≠ 0) := by
  unfold Socket.connect at done
  split at done
  · cases done
    exact ⟨quiet, by simp [unconnected], by simp [unconnected],
      fun _ => .inl (by simp [sslAllocFailed])⟩
  rename_i present
  rw [if_neg (by simp [unconnected])] at done
  split at done
  · cases done
    refine ⟨?_, by simp [Socket.logged, unconnected], by simp [Socket.logged, unconnected],
      fun _ => .inl (by simp [Socket.logged, netConnectFailed])⟩
    intro result
    simpa [Socket.logged] using quiet result
  rcases Option.map_eq_some_iff.mp done with ⟨⟨events, last⟩, shaken, same⟩
  have only := (handshakes_only results events last shaken).1
  -- the loop makes no other calls than handshakes
  have silent : ∀ result, .read result ∉ events ∧ .write result ∉ events := by
    intro result
    constructor
    · intro member
      rcases only _ member with ⟨_, ⟨⟩⟩
    · intro member
      rcases only _ member with ⟨_, ⟨⟩⟩
  dsimp only at same
  split at same
  · rename_i failed
    subst same
    refine ⟨?_, by simp [Socket.logged, unconnected], by simp [Socket.logged, unconnected],
      fun _ => .inr ⟨handshakes_last results events last shaken, failed⟩⟩
    intro result
    simpa [Socket.logged] using
      ⟨⟨(quiet result).1, (silent result).1⟩, (quiet result).2, (silent result).2⟩
  · subst same
    refine ⟨?_, ?_, ?_, by simp⟩
    · intro result
      simpa [Socket.logged] using
        ⟨⟨(quiet result).1, (silent result).1⟩, (quiet result).2, (silent result).2⟩
    · exact fun _ => by simpa [Socket.logged] using present
    · intro _ fine
      simp only [Socket.logged] at fine ⊢
      split at fine
      · exact absurd fine (by decide)
      · rename_i clean
        simp [not_not.mp clean]

theorem connect_connected (ready connected : Socket) (joined : Bool) (results : List Int)
    (flags : UInt32) (prepared : Prepared ready) (zero : ready.returned = 0)
    (done : ready.connect joined results flags = some connected) :
    Connected results connected := by
  have moves := connect_moves ready connected prepared.kept joined results flags done
  have order := (moves_ordered _ ready connected moves prepared.order).mpr
    fun _ _ => prepared.ready zero
  rcases connect_facts ready connected joined results flags prepared.unconnected prepared.quiet
    done with ⟨quiet, online, verified, failed⟩
  exact ⟨moves.kept, order, quiet, online, verified, failed⟩

theorem connect_ends (ready : Socket) (joined : Bool) (results : List Int) (flags : UInt32)
    (unconnected : ready.connected = false)
    (ends : (Socket.handshakes results).isSome = true) :
    (ready.connect joined results flags).isSome = true := by
  unfold Socket.connect
  split
  · rfl
  rw [if_neg (by simp [unconnected])]
  split
  · rfl
  · rwa [Option.isSome_map]

theorem receive_blocking (socket next : Socket) (result : Int)
    (done : socket.receive .none result = some next) :
    next = socket.logged [.read result] (if result = 0 then -1 else result) := by
  unfold Socket.receive at done
  split at done
  · cases done
  split at done
  · cases done
  split at done
  · rw [if_neg (by decide)] at done
    cases done
  · cases done
    rfl

theorem positive_result (socket next : Socket) (result : Int)
    (shape : next = socket.logged [.read result] (if result = 0 then -1 else result))
    (positive : ¬ next.returned ≤ 0) : 0 < result := by
  rw [shape] at positive
  simp only [Socket.logged] at positive
  split at positive <;> omega

theorem flowing_read (log : List Event) (result : Int) (flowing : Flowing log)
    (positive : 0 < result) : Flowing (log ++ [.read result]) := by
  constructor
  · intro other member
    rcases List.mem_append.mp member with before | new
    · exact flowing.read other before
    · cases List.mem_singleton.mp new
      exact .inl positive
  · intro other member
    exact flowing.write other (by simpa using member)

section Responses
variable (ulongMax length : Nat)

/-- The reads of a response go on as long as they may. -/
theorem receiveAll_ordered (socket last : Socket) (parser : Parser) (reads : List Read)
    (kept : Kept socket) (order : InOrder (.live socket)) (flowing : Flowing socket.log)
    (done : receiveAll ulongMax length socket parser reads = some last) :
    Kept last ∧ InOrder (.live last) ∧ ∃ events, last.log = socket.log ++ events := by
  induction reads generalizing socket parser with
  | nil =>
      simp only [receiveAll, Option.ite_none_right_eq_some, Option.some.injEq] at done
      obtain ⟨-, rfl⟩ := done
      exact ⟨kept, order, [], (List.append_nil _).symm⟩
  | cons read later ih =>
      unfold receiveAll at done
      split at done
      · cases done
        exact ⟨kept, order, [], (List.append_nil _).symm⟩
      rcases Option.bind_eq_some_iff.mp done with ⟨next, first, rest⟩
      have moves := receive_moves socket next kept .none read.result first
      have order' := (moves_ordered _ socket next moves order).mpr flowing
      have shape := receive_blocking socket next read.result first
      have log : next.log = socket.log ++ [.read read.result] := by rw [shape]; rfl
      have stopped : Kept next ∧ InOrder (.live next) ∧ ∃ events, next.log = socket.log ++ events :=
        ⟨moves.kept, order', _, log⟩
      split at rest
      · cases rest
        exact stopped
      · rename_i positive
        have some_ := positive_result socket next read.result shape positive
        split at rest
        · cases rest
          exact stopped
        · cases rest
        · rename_i parser' _
          have flowing' : Flowing next.log := log ▸ flowing_read socket.log _ flowing some_
          rcases ih next parser' moves.kept order' flowing' rest with ⟨kept', order', events, grown⟩
          exact ⟨kept', order', _, by rw [grown, log, List.append_assoc]⟩

def Returns : Except Exit Parser → Prop
  | .error exit => ∃ status, exit.outcome = .returned status
  | .ok _ => True

theorem receiveAll_ends (socket : Socket) (parser : Parser) (reads : List Read)
    (present : socket.socket = true) (connected : socket.connected = true)
    (blocking : ∀ read ∈ reads, wants read.result = false)
    (finite : ∃ read ∈ reads, read.data = [])
    (returns : Returns (parser.receive ulongMax length (reads.map Read.data))) :
    (receiveAll ulongMax length socket parser reads).isSome = true := by
  induction reads generalizing socket parser with
  | nil => simp at finite
  | cons read later ih =>
      have calm := blocking read List.mem_cons_self
      unfold receiveAll
      split
      · rfl
      rename_i unfinished
      have received : ∃ next, socket.receive .none read.result = some next ∧
          next.socket = true ∧ next.connected = true := by
        simp only [Socket.receive, present, connected, calm, Bool.not_true, Bool.false_eq_true,
          ↓reduceIte]
        exact ⟨_, rfl, present, connected⟩
      rcases received with ⟨after, first, present', connected'⟩
      have shape := receive_blocking socket after read.result first
      rw [first, Option.bind_some]
      split
      · rfl
      rename_i positive
      -- A result above 0 is a number of bytes.
      have some_ : read.data ≠ [] := by
        have more : 0 < read.result := positive_result socket after read.result shape positive
        cases read with
        | bytes data =>
            rintro rfl
            exact absurd more (by simp [Read.result])
        | code result refused => exact absurd more (Int.not_lt.mpr refused)
      simp only [List.map_cons, Parser.receive, unfinished, some_, ↓reduceIte] at returns
      cases fed : parser.feed ulongMax length read.data with
      | error exit =>
          rw [fed] at returns
          rcases exit with ⟨outcome, stored⟩
          rcases returns with ⟨status, rfl⟩
          rfl
      | ok next =>
          rw [fed] at returns
          apply ih after next present' connected'
          · exact fun other member => blocking other (List.mem_cons_of_mem read member)
          · rcases finite with ⟨other, member, empty⟩
            rcases List.mem_cons.mp member with rfl | further
            · exact absurd empty some_
            · exact ⟨other, further, empty⟩
          · exact returns

theorem returns_of_tokens (reads : List (List UInt8))
    (tokens : HeaderTokens (delivered reads)) :
    Returns (Parser.start.receive ulongMax length reads) := by
  rcases (respond_returns_iff ulongMax length reads).mpr tokens with ⟨status, returned⟩
  unfold respond at returned
  cases ended : Parser.start.receive ulongMax length reads with
  | error exit =>
      rw [ended] at returned
      exact ⟨status, returned⟩
  | ok parser => trivial

/-! The whole request. -/

/-- The socket is deleted before anything has been written. -/
theorem destroyed_early (socket : Socket) (kept : Kept socket) (order : InOrder (.live socket))
    (quiet : Quiet socket.log) :
    InOrder (.gone socket.destroyed) ∧ Unflagged socket.destroyed :=
  ⟨destroyed_ordered socket kept order, quiet_destroyed socket quiet⟩

/-- The socket is deleted after any traffic on a connection that has been checked. -/
theorem destroyed_late (connected last : Socket) (events : List Event) (kept : Kept last)
    (order : InOrder (.live last)) (quiet : Quiet connected.log)
    (verified : .verifyResult 0 ∈ connected.log) (grown : last.log = connected.log ++ events) :
    InOrder (.gone last.destroyed) ∧ Unflagged last.destroyed := by
  refine ⟨destroyed_ordered last kept order, ?_⟩
  unfold Socket.destroyed
  rw [grown, List.append_assoc, List.append_assoc, List.append_assoc]
  exact unflagged_prefix connected.log _ quiet verified

/-- What follows `Connect` on a connection that has been checked. -/
theorem traffic_ordered (answers : Answers) (connected : Socket) (handshakes : List Int)
    (known : Connected handshakes connected) (online : connected.connected = true)
    (nonneg : 0 ≤ connected.returned) (log : List Event)
    (done : ((connected.send answers.write).bind fun sent =>
      if sent.returned < 0 then some sent.destroyed
      else (receiveAll ulongMax length sent Parser.start answers.reads).map Socket.destroyed) =
        some log) :
    InOrder (.gone log) ∧ Unflagged log := by
  have verified := known.verified online nonneg
  rcases Option.bind_eq_some_iff.mp done with ⟨sent, first, rest⟩
  have moves := send_moves connected sent known.kept answers.write first
  have order := (moves_ordered _ connected sent moves known.order).mpr
    (quiet_flowing connected.log known.quiet)
  simp only [Socket.send, online, ↓reduceIte, Option.some.injEq] at first
  have grown : sent.log = connected.log ++ [.write answers.write] := by rw [← first]; rfl
  split at rest
  · cases rest
    exact destroyed_late connected sent _ moves.kept order known.quiet verified grown
  · rename_i written
    -- The write has succeeded, so that it does not stand in the way of a read.
    have flowing : Flowing sent.log := by
      have quiet := quiet_flowing connected.log known.quiet
      rw [← first, Socket.logged] at written
      rw [grown]
      refine ⟨fun result member => quiet.read result (by simpa using member), ?_⟩
      intro result member
      rcases List.mem_append.mp member with before | new
      · exact quiet.write result before
      · cases List.mem_singleton.mp new
        exact .inl (Int.not_lt.mp written)
    rcases Option.map_eq_some_iff.mp rest with ⟨last, received, rfl⟩
    rcases receiveAll_ordered ulongMax length sent last Parser.start answers.reads moves.kept order
      flowing received with ⟨kept, order, events, further⟩
    rw [grown, List.append_assoc] at further
    exact destroyed_late connected last _ kept order known.quiet verified further

end Responses

def smoothAnswers : Answers where
  memory := true
  addCertificatePath := 1
  setup := ⟨0, 0, 0, 0⟩
  joined := true
  handshakes := [sslWantRead, 0]
  flags := 0
  write := 80
  reads := [.bytes (CText.ascii "HTTP/1.1 200 OK\r\n\r\n"), .code 0 (Int.le_refl 0)]

end CircleStdlib.TlsRequests
