import CircleStdlib.Feeding
import CircleStdlib.ReceiverRounds

/-!
What `Receiver` dispatches of a stream, however TCP cuts it into reads. `rounds`
runs the rounds of `Receiver`, one for each read, and notes the packets that
`Receive` lets pass and how it ends. While the receive buffer is not exceeded
this is a feed of the bytes into `look`, which is steady; so only the
concatenation of the reads counts.
-/

namespace CircleStdlib.Mqtt.StreamReception

open ByteMemory Checked Execution Feeding

abbrev Read (config : Config) := { bytes : List UInt8 // bytes.length ≤ config.frameBufferSize }

structure Dispatched where
  type : PacketType
  flags : UInt8
  body : List UInt8
  deriving DecidableEq, Repr

/-- `exhausted`: a read goes beyond what the buffer, or the 32 bits of `m_nInPtr`,
can take. -/
inductive Ending where
  | rejected
  | closed
  | exhausted
  | failed (fault : Fault)
  deriving DecidableEq, Repr

def dispatchedOf (packet : ReceivePacket) : Dispatched :=
  ⟨packet.type, packet.flags, slice packet.buffer packet.outPtr packet.remainingLength⟩

-- One round of `Receiver` for each read. `sends index` is what the transmissions of
-- the handler meet when it handles packet number `index`.
def rounds (config : Config) (sends : Nat → SendInput) :
    Nat → Except Fault Client → List (Read config) → List Dispatched × Option Ending
  | _, _, [] => ([], none)
  | _, .error fault, _ :: _ => ([], some (.failed fault))
  | index, .ok client, read :: reads =>
      if client.socket = false then ([], some .closed)
      else if 2 ^ 32 ≤ client.receivePacket.inPtr + read.val.length then ([], some .exhausted)
      else
        let after := (client.receiverPass config ⟨some read, sends index⟩).map Prod.snd
        match client.receivePacket.receive config.toPlatform (some read.val) with
        | .error fault => ([], some (.failed fault))
        | .ok (.continue, _) => rounds config sends index after reads
        | .ok (.packetInvalid, _) => ([], some .rejected)
        | .ok (.disconnect, _) => ([], some .closed)
        | .ok (.notEnoughMemory, _) => ([], some .exhausted)
        | .ok (.packetOK, packet) =>
            let (packets, ending) := rounds config sends (index + 1) after reads
            (dispatchedOf packet :: packets, ending)

-- The reads, and then polls that return nothing for as long as packets may be left:
-- one for each byte that is held or read, and a last one.
def polled (config : Config) (held : Nat) (reads : List (Read config)) : List (Read config) :=
  reads ++ List.replicate (held + (reads.map Subtype.val).flatten.length + 1) ⟨[], Nat.zero_le _⟩

def look (config : Config) (sends : Nat → SendInput) :
    Except Fault (Nat × Client) → List UInt8 →
      Look (Except Fault (Nat × Client)) UInt8 Dispatched Ending
  | .error fault, _ => .stop (.failed fault)
  | .ok (index, client), stream =>
      if client.socket = false then .stop .closed
      else if overlong stream then .stop .rejected
      else
        match firstPacket stream with
        | none => .wait
        | some (first, rest) =>
            if first.Accepted then
              .take ⟨first.type, first.flags, first.body⟩
                ((client.respond config first (sends index)).map fun next => (index + 1, next))
                (leftover first rest)
            else .stop .rejected

theorem leftover_length (first : Packet) (rest : List UInt8) :
    (leftover first rest).length ≤ first.body.length + rest.length := by
  unfold leftover
  split <;> simp

theorem leftover_append (first : Packet) (rest more : List UInt8) :
    leftover first (rest ++ more) = leftover first rest ++ more := by
  simp [leftover]

/-- What `look` takes is the packet at the front, on an open connection. -/
theorem look_take (config : Config) (sends : Nat → SendInput)
    (state next : Except Fault (Nat × Client)) (stream rest : List UInt8) (item : Dispatched)
    (found : look config sends state stream = .take item next rest) :
    ∃ index client first tail, state = .ok (index, client) ∧ ¬client.socket = false ∧
      firstPacket stream = some (first, tail) ∧ first.Accepted ∧
      item = ⟨first.type, first.flags, first.body⟩ ∧
      next = (client.respond config first (sends index)).map (fun next => (index + 1, next)) ∧
      rest = leftover first tail := by
  rcases state with fault | ⟨index, client⟩
  · cases found
  · simp only [look] at found
    split at found
    · cases found
    · rename_i open_
      split at found
      · cases found
      · split at found
        · cases found
        · rename_i first tail whole
          split at found
          · rename_i accepted
            cases found
            exact ⟨index, client, first, tail, rfl, open_, whole, accepted, rfl, rfl, rfl⟩
          · cases found

theorem look_steady (config : Config) (sends : Nat → SendInput) : Steady (look config sends) := by
  refine ⟨?_, ?_, ?_⟩
  · intro state stream ending more found
    rcases state with fault | ⟨index, client⟩
    · exact found
    · simp only [look] at found ⊢
      split at found
      · rename_i closed
        rw [if_pos closed]
        exact found
      · rename_i open_
        rw [if_neg open_]
        split at found
        · rename_i bad
          rw [if_pos (overlong_append stream more bad)]
          exact found
        · split at found
          · cases found
          · rename_i first rest whole
            rw [firstPacket_append stream rest more first whole,
              overlong_of_packet _ _ first (firstPacket_append stream rest more first whole)]
            split at found
            · cases found
            · rename_i refused
              simp only [refused, Bool.false_eq_true, ↓reduceIte]
              exact found
  · intro state stream item next rest more found
    obtain ⟨index, client, first, tail, rfl, open_, whole, accepted, rfl, rfl, rfl⟩ :=
      look_take config sends state next stream rest item found
    have longer := firstPacket_append stream tail more first whole
    rw [look, if_neg open_, overlong_of_packet _ _ first longer, if_neg Bool.false_ne_true, longer]
    simp only [accepted, ↓reduceIte, leftover_append]
  · intro state stream item next rest found
    obtain ⟨index, client, first, tail, -, -, whole, -, -, -, rfl⟩ :=
      look_take config sends state next stream rest item found
    have length := firstPacket_length stream tail first whole
    have less := leftover_length first tail
    omega

def rebuffered (packet : ReceivePacket) (state : Except Fault (Nat × Client)) :
    Except Fault (Nat × Client) :=
  state.map fun (index, client) => (index, client.withPacket packet)

/-- The receive buffer of the client is of no account to `look`. -/
theorem look_rebuffered (config : Config) (sends : Nat → SendInput) (packet : ReceivePacket)
    (state : Except Fault (Nat × Client)) (stream : List UInt8) :
    look config sends (rebuffered packet state) stream =
      (look config sends state stream).map (rebuffered packet) := by
  rcases state with fault | ⟨index, client⟩
  · rfl
  · have socket : (client.withPacket packet).socket = client.socket := rfl
    simp only [rebuffered, Except.map, look, socket]
    split
    · rfl
    · split
      · rfl
      · cases firstPacket stream with
        | none => rfl
        | some found =>
            dsimp only
            split
            · simp only [Look.map, Client.respond_withPacket]
              cases client.respond config found.1 (sends index) with
              | error fault => rfl
              | ok next => rfl
            · rfl

theorem feed_withPacket (config : Config) (sends : Nat → SendInput) (packet : ReceivePacket)
    (index : Nat) (client : Client) (pending : List UInt8) (reads : List (List UInt8)) :
    feed (look config sends) (.ok (index, client.withPacket packet)) pending reads =
      feed (look config sends) (.ok (index, client)) pending reads :=
  feed_map (rebuffered packet) (look_rebuffered config sends packet) (.ok (index, client)) pending
    reads

/-- What `Receive` answers, in terms of the stream. -/
theorem receive_stream (config : Config) (client : Client)
    (input : ReceiveInput config.toPlatform) (stream : List UInt8)
    (bounded : Client.Bounded config client.receivePacket)
    (arrived : client.arrival config input = some stream) :
    (Client.Invalid stream ∧ ∃ packet,
        client.receivePacket.receive config.toPlatform input.bytes =
          .ok (.packetInvalid, packet)) ∨
    (firstPacket stream = none ∧ overlong stream = false ∧ ∃ packet,
        client.receivePacket.receive config.toPlatform input.bytes = .ok (.continue, packet)) ∨
    ∃ first rest packet, firstPacket stream = some (first, rest) ∧ first.Accepted ∧
      client.receivePacket.receive config.toPlatform input.bytes = .ok (.packetOK, packet) ∧
      dispatchedOf packet = ⟨first.type, first.flags, first.body⟩ := by
  rcases client.receive_arrival config input stream bounded arrived with
    ⟨-, filled, received, -, -, receive⟩
  by_cases invalid : Client.Invalid stream
  · rcases Client.parse_invalid filled (received ▸ invalid) with ⟨packet, parsed, -⟩
    exact Or.inl ⟨invalid, packet, receive.trans parsed⟩
  · have fine : overlong stream = false := by
      by_contra bad
      exact invalid (Or.inl (by simpa using bad))
    cases whole : firstPacket stream with
    | none =>
        rcases filled.parse_partial (received ▸ whole) with ⟨packet, parsed, -⟩
        rw [received, fine, if_neg (by simp)] at parsed
        exact Or.inr (Or.inl ⟨rfl, fine, packet, receive.trans parsed⟩)
    | some found =>
        rcases found with ⟨first, rest⟩
        have accepted : first.Accepted := by
          by_contra refused
          exact invalid (Or.inr ⟨first, rest, whole, refused⟩)
        rcases filled.parse_packet first rest (received ▸ whole) with
          ⟨packet, parsed, reading, type, flags, length, -⟩
        rw [if_pos (show ReceivePacket.wellFormed _ _ _ = true from accepted)] at parsed
        refine Or.inr (Or.inr ⟨first, rest, packet, rfl, accepted, receive.trans parsed, ?_⟩)
        have bytes := reading.bytes
        rw [slice_add] at bytes
        have body := (List.append_inj bytes (by simp)).1
        rw [dispatchedOf, type, flags, length, body]

/-- A read that the buffer can take is added to what is there. -/
theorem arrival_append (config : Config) (client : Client) (read : Read config)
    (send : SendInput) (open_ : client.socket = true)
    (allocated : client.receivePacket.allocated = true)
    (room : client.receivePacket.inPtr ≤
      config.sizeSub client.receivePacket.bufferSize config.frameBufferSize)
    (narrow : client.receivePacket.inPtr + read.val.length < 2 ^ 32) :
    client.arrival config ⟨some read, send⟩ =
      some (client.receivePacket.received ++ read.val) := by
  rw [Client.arrival, if_pos ⟨open_, allocated, room⟩]
  simp only [ReceiveInput.bytes, Option.map_some, Option.some.injEq]
  exact client.receivePacket.accept_received read.val narrow

theorem look_invalid (config : Config) (sends : Nat → SendInput) (index : Nat) (client : Client)
    (stream : List UInt8) (open_ : client.socket = true) (invalid : Client.Invalid stream) :
    look config sends (.ok (index, client)) stream = .stop .rejected := by
  rw [look, if_neg (by simp [open_])]
  rcases invalid with bad | ⟨first, rest, whole, refused⟩
  · rw [if_pos bad]
  · rw [overlong_of_packet stream rest first whole, whole, if_neg (by simp)]
    exact if_neg refused

theorem rounds_failed (config : Config) (sends : Nat → SendInput) (index : Nat) (fault : Fault)
    (pending : List UInt8) (reads : List (Read config)) :
    rounds config sends index (.error fault) reads =
      feed (look config sends) (.error fault) pending (reads.map Subtype.val) := by
  cases reads with
  | nil => rfl
  | cons read reads => rfl

theorem feed_closed (config : Config) (sends : Nat → SendInput) (index : Nat) (client : Client)
    (pending other : List UInt8) (reads : List (List UInt8)) (closed : client.socket = false) :
    feed (look config sends) (.ok (index, client)) pending reads =
      feed (look config sends) (.ok (index, client)) other reads := by
  cases reads with
  | nil => rfl
  | cons read reads => simp only [feed, look, closed, ↓reduceIte]

/-- A round that does not exceed the receive buffer. -/
theorem round_room (config : Config) (sends : Nat → SendInput) (index : Nat) (client : Client)
    (read : Read config) (reads : List (Read config)) (open_ : client.socket = true)
    (within : (rounds config sends index (.ok client) (read :: reads)).2 ≠ some .exhausted) :
    client.receivePacket.inPtr + read.val.length < 2 ^ 32 ∧
      client.receivePacket.allocated = true ∧
      client.receivePacket.inPtr ≤
        config.sizeSub client.receivePacket.bufferSize config.frameBufferSize := by
  rw [rounds, if_neg (by simp [open_])] at within
  by_cases wide : 2 ^ 32 ≤ client.receivePacket.inPtr + read.val.length
  · rw [if_pos wide] at within
    exact absurd rfl within
  · rw [if_neg wide] at within
    unfold ReceivePacket.receive at within
    by_cases missing : client.receivePacket.allocated = false
    · rw [if_pos missing] at within
      exact absurd rfl within
    · rw [if_neg missing] at within
      by_cases full : client.receivePacket.inPtr >
          config.sizeSub client.receivePacket.bufferSize config.frameBufferSize
      · rw [if_pos full] at within
        exact absurd rfl within
      · exact ⟨by omega, by simpa using missing, by omega⟩

/-- The rounds feed `look`, as long as the receive buffer is not exceeded. -/
theorem rounds_feed (config : Config) (sends : Nat → SendInput) (index : Nat) (client : Client)
    (reads : List (Read config)) (sound : Sound config client)
    (within : (rounds config sends index (.ok client) reads).2 ≠ some .exhausted) :
    rounds config sends index (.ok client) reads =
      feed (look config sends) (.ok (index, client)) client.receivePacket.received
        (reads.map Subtype.val) := by
  induction reads generalizing index client with
  | nil => rfl
  | cons read reads ih =>
      rw [List.map_cons, feed]
      by_cases closed : client.socket = false
      · rw [rounds, if_pos closed, look, if_pos closed]
      · have open_ : client.socket = true := by simpa using closed
        rcases round_room config sends index client read reads open_ within with
          ⟨narrow, allocated, room⟩
        have arrived := arrival_append config client read (sends index) open_ allocated room narrow
        have answers := receive_stream config client ⟨some read, sends index⟩ _ sound.bounded
          arrived
        rw [rounds, if_neg closed, if_neg (by omega)] at within ⊢
        simp only [ReceiveInput.bytes, Option.map_some] at answers
        rcases answers with ⟨invalid, packet, receive⟩ |
          ⟨unfinished, fine, packet, receive⟩ |
          ⟨first, rest, packet, whole, accepted, receive, item⟩
        · rw [look_invalid config sends index client _ open_ invalid, receive]
        · rcases client.round_waiting config ⟨some read, sends index⟩ _ sound arrived
            unfinished fine with ⟨next, pass, received, bounded, -⟩
          rw [receive, pass] at within ⊢
          have after : Sound config (client.withPacket next) := ⟨sound.linked, bounded⟩
          rw [look, if_neg closed, fine, if_neg (by simp), unfinished]
          refine (ih index (client.withPacket next) after within).trans ?_
          rw [feed_withPacket, show (client.withPacket next).receivePacket.received = _ from
            received]
        · rcases client.round_accepted config ⟨some read, sends index⟩ _ rest first sound arrived
            whole accepted with ⟨next, pass, bounded, -, left⟩
          rw [receive, pass] at within ⊢
          rw [look, if_neg closed, overlong_of_packet _ rest first whole, if_neg (by simp), whole]
          dsimp only at left within ⊢
          rw [if_pos accepted, item]
          cases meant : client.respond config first (sends index) with
          | error fault =>
              simp only [Except.map, rounds_failed config sends (index + 1) fault
                (leftover first rest) reads]
          | ok result =>
              rcases left result meant with ⟨linked, framed⟩
              rw [meant] at within
              have after := ih (index + 1) (result.withPacket next) ⟨linked, bounded⟩ within
              have same : feed (look config sends) (.ok (index + 1, result))
                  (result.withPacket next).receivePacket.received (reads.map Subtype.val) =
                  feed (look config sends) (.ok (index + 1, result)) (leftover first rest)
                    (reads.map Subtype.val) := by
                by_cases still : result.socket = true
                · rw [show (result.withPacket next).receivePacket.received = _ from framed still]
                · exact feed_closed config sends (index + 1) result _ _ _ (by simpa using still)
              simp only [Except.map, after, feed_withPacket, same]

/-- However a stream is cut into reads, zero-length ones included: the packets that
are dispatched and the way the reception ends are the same, unless one of the
two goes beyond the receive buffer. -/
theorem reception_independent_of_reads (config : Config) (client last : Client)
    (operations : List (Operation config.toPlatform)) (sends : Nat → SendInput)
    (reads others : List (Read config)) (constructed : Constructed config client)
    (reached : run (step config) (.running client) operations = some (.running last))
    (same : (reads.map Subtype.val).flatten = (others.map Subtype.val).flatten)
    (within : (rounds config sends 0 (.ok last)
      (polled config last.receivePacket.inPtr reads)).2 ≠ some .exhausted)
    (neither : (rounds config sends 0 (.ok last)
      (polled config last.receivePacket.inPtr others)).2 ≠ some .exhausted) :
    rounds config sends 0 (.ok last) (polled config last.receivePacket.inPtr reads) =
      rounds config sends 0 (.ok last) (polled config last.receivePacket.inPtr others) := by
  have sound := reached_sound config client last operations constructed reached
  have bytes : ∀ reads : List (Read config),
      (polled config last.receivePacket.inPtr reads).map Subtype.val =
        reads.map Subtype.val ++ List.replicate
          (last.receivePacket.inPtr + (reads.map Subtype.val).flatten.length + 1) [] := by
    intro reads
    simp [polled]
  have enough : ∀ stream : List UInt8, (last.receivePacket.received ++ stream).length <
      last.receivePacket.inPtr + stream.length + 1 := by
    intro stream
    rw [List.length_append, ReceivePacket.received_length]
    omega
  rw [rounds_feed config sends 0 last _ sound within,
    rounds_feed config sends 0 last _ sound neither, bytes, bytes]
  exact feed_pieces (look_steady config sends) _ _ _ _ _ _ same (enough _) (enough _)

def awaiting : List (Operation Config.default.toPlatform) :=
  [.connect plainRequest smoothConnect]

def together : List (Read Config.default) := [⟨[0x20, 2, 0, 0, 0xD0, 0], by decide⟩]

def apart : List (Read Config.default) :=
  [⟨[0x20], by decide⟩, ⟨[], nothing_short⟩, ⟨[2, 0, 0, 0xD0], by decide⟩, ⟨[0], by decide⟩]

theorem together_apart :
    ∃ last, run (step Config.default) (.running (Client.fresh Config.default)) awaiting =
        some (.running last) ∧
      rounds Config.default (fun _ => .willing) 0 (.ok last) (polled Config.default 0 together) =
        rounds Config.default (fun _ => .willing) 0 (.ok last) (polled Config.default 0 apart) ∧
      rounds Config.default (fun _ => .willing) 0 (.ok last) (polled Config.default 0 together) =
        ([⟨.connAck, 0, [0, 0]⟩, ⟨.pingResp, 0, []⟩], none) := by
  refine ⟨_, rfl, ?_, rfl⟩
  refine reception_independent_of_reads Config.default (Client.fresh Config.default) _ awaiting
    (fun _ => .willing) together apart (fresh_constructed Config.default) rfl rfl ?_ ?_
  · intro exhausted
    cases exhausted
  · intro exhausted
    cases exhausted

end CircleStdlib.Mqtt.StreamReception
