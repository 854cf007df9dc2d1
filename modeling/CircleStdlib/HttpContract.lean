import CircleStdlib.HttpRequests
import CircleStdlib.HttpTokens

/-!
What every `Get` and `Post` leaves behind, whichever of its exits it takes: the caller's
buffer, `*pLength` and `m_pSocket`. What can go wrong is a call that does not return: `strtoul`
gets a null pointer, or the assertion on the server name fails.
-/

namespace CircleStdlib.HttpContract

open CText HttpClient HttpLines HttpHeaders HttpTokens HttpRequests Execution

def storedBy : Except Exit Parser → List UInt8
  | .error exit => exit.stored
  | .ok parser => parser.stored

structure Counted (bufferLength : Nat) (parser : Parser) : Prop where
  counted : parser.nLength = parser.stored.length
  fits : parser.stored.length ≤ bufferLength

section Parsing
variable (ulongMax bufferLength : Nat)

def Contained (bufferLength : Nat) : Except Exit Parser → Prop
  | .error exit => exit.stored.length ≤ bufferLength
  | .ok parser => Counted bufferLength parser

theorem store_contained (parser : Parser) (char : UInt8) (counted : Counted bufferLength parser) :
    Contained bufferLength (parser.store bufferLength char) := by
  have number := counted.counted
  unfold Parser.store
  split
  · exact counted.fits
  · constructor
    · simp [number]
    · simp only [List.length_append, List.length_singleton]
      omega

theorem accumulate_counted (parser : Parser) (char : UInt8)
    (counted : Counted bufferLength parser) :
    Counted bufferLength (parser.accumulate char) := by
  unfold Parser.accumulate
  split
  · exact ⟨counted.counted, counted.fits⟩
  · exact counted

theorem endHeaderLine_contained (parser : Parser) (counted : Counted bufferLength parser) :
    Contained bufferLength (parser.endHeaderLine ulongMax) := by
  unfold Parser.endHeaderLine
  split
  · exact ⟨counted.counted, counted.fits⟩
  · split
    · split
      · exact ⟨counted.counted, counted.fits⟩
      · exact counted.fits
      · exact counted.fits
    · exact ⟨counted.counted, counted.fits⟩

theorem step_contained (parser : Parser) (char : UInt8) (counted : Counted bufferLength parser) :
    Contained bufferLength (parser.step ulongMax bufferLength char) := by
  unfold Parser.step
  cases parser.state with
  | header =>
      dsimp only
      split
      · exact counted
      · split
        · exact endHeaderLine_contained ulongMax bufferLength parser counted
        · exact accumulate_counted bufferLength parser char counted
  | content => exact store_contained bufferLength parser char counted
  | chunkHeader =>
      dsimp only
      split
      · exact counted
      · split
        · unfold Parser.endChunkHeader
          dsimp only
          split
          · exact counted.fits
          · exact ⟨counted.counted, counted.fits⟩
        · exact accumulate_counted bufferLength parser char counted
  | chunkData =>
      have stored := store_contained bufferLength parser char counted
      cases written : parser.store bufferLength char with
      | error exit => rwa [written] at stored
      | ok next =>
          rw [written] at stored
          dsimp only
          split <;> exact ⟨stored.counted, stored.fits⟩
  | chunkTrailer =>
      dsimp only
      split
      · exact counted
      · split
        · exact counted.fits
        · exact ⟨counted.counted, counted.fits⟩
  | finished => exact counted

theorem feed_contained (parser : Parser) (stream : List UInt8)
    (counted : Counted bufferLength parser) :
    Contained bufferLength (parser.feed ulongMax bufferLength stream) := by
  induction stream generalizing parser with
  | nil => exact counted
  | cons char rest ih =>
      have once := step_contained ulongMax bufferLength parser char counted
      unfold Parser.feed
      cases taken : parser.step ulongMax bufferLength char with
      | error exit => rwa [taken] at once
      | ok next =>
          rw [taken] at once
          exact ih next once

variable (larger : Nat)

-- the size of the buffer matters only where it is full
theorem step_room (parser : Parser) (char : UInt8)
    (room : parser.nLength < bufferLength) (more : parser.nLength < larger) :
    parser.step ulongMax bufferLength char = parser.step ulongMax larger char := by
  have same : parser.store bufferLength char = parser.store larger char := by
    unfold Parser.store
    rw [if_neg (by omega), if_neg (by omega)]
  unfold Parser.step
  rw [same]

theorem step_full (parser : Parser) (char : UInt8) (full : bufferLength ≤ parser.nLength) :
    parser.step ulongMax bufferLength char =
        .error ⟨.returned httpContentBufferTooSmall, parser.stored⟩ ∨
      parser.step ulongMax bufferLength char = parser.step ulongMax larger char := by
  have refused : parser.store bufferLength char =
      .error ⟨.returned httpContentBufferTooSmall, parser.stored⟩ := by
    unfold Parser.store
    rw [if_pos full]
  unfold Parser.step
  cases parser.state with
  | content => exact .inl refused
  | chunkData =>
      left
      dsimp only
      rw [refused]
  | header => exact .inr rfl
  | chunkHeader => exact .inr rfl
  | chunkTrailer => exact .inr rfl
  | finished => exact .inr rfl

/-- Whatever a larger buffer would hold in the end, this one reports that it is too small. -/
theorem feed_tooSmall (parser : Parser) (stream : List UInt8)
    (counted : Counted bufferLength parser) (wider : bufferLength < larger)
    (overflow : bufferLength < (storedBy (parser.feed ulongMax larger stream)).length) :
    ∃ stored, parser.feed ulongMax bufferLength stream =
      .error ⟨.returned httpContentBufferTooSmall, stored⟩ := by
  induction stream generalizing parser with
  | nil =>
      have fits := counted.fits
      simp only [Parser.feed, storedBy] at overflow
      omega
  | cons char rest ih =>
      have number := counted.counted
      have fits := counted.fits
      have once := step_contained ulongMax bufferLength parser char counted
      have agree : parser.step ulongMax bufferLength char =
            .error ⟨.returned httpContentBufferTooSmall, parser.stored⟩ ∨
          parser.step ulongMax bufferLength char = parser.step ulongMax larger char := by
        by_cases room : parser.nLength < bufferLength
        · exact .inr (step_room ulongMax bufferLength larger parser char room (by omega))
        · exact step_full ulongMax bufferLength larger parser char (by omega)
      unfold Parser.feed at overflow ⊢
      rcases agree with refused | same
      · rw [refused]
        exact ⟨parser.stored, rfl⟩
      · rw [← same] at overflow
        cases taken : parser.step ulongMax bufferLength char with
        | error exit =>
            rw [taken] at overflow once
            exact absurd overflow (Nat.not_lt.mpr once)
        | ok next =>
            rw [taken] at overflow once
            exact ih next once overflow

end Parsing

/-- What a call owes to the caller and to the client. `larger` stands for a buffer with room
for more than the caller's: what it would hold is the body that has been delivered. -/
structure Contract (ulongMax : Nat) (client : Client) (call : Call) (done : Done) : Prop where
  returns : ∃ status, done.outcome = .returned status
  fits : done.stored.length ≤ call.length
  within : ∀ place, call.length ≤ place → done.memory call place = call.memory place
  length : done.length ≠ call.length →
    done.outcome = .returned httpOK ∧ done.length = done.stored.length ∧
      done.length ≤ call.length ∧
      ∃ parser, Parser.start.receive ulongMax call.length call.server.reads = .ok parser ∧
        (parser.state = .finished ∨ parser.state = .content)
  tooSmall : done.waited = true → ∀ larger, call.length < larger →
    call.length < (storedBy (Parser.start.receive ulongMax larger call.server.reads)).length →
      done.outcome = .returned httpContentBufferTooSmall
  socket : done.client.socket = none
  released : done.client.released = client.released ++ [client.created]
  created : done.client.created = client.created + 1

/-- The assertion on the server name holds when it is reached, and the lines of a response that
are judged have their tokens. -/
structure Answerable (client : Client) (call : Call) : Prop where
  named : ¬ Nameless client call
  tokens : Gone client call → HeaderTokens (delivered call.server.reads)

section Calls
variable (ulongMax : Nat) (client : Client) (call : Call)

theorem memory_within (done : Done) (fits : done.stored.length ≤ call.length) (place : Nat)
    (outside : call.length ≤ place) : done.memory call place = call.memory place := by
  unfold Done.memory
  rw [List.getD_eq_getElem?_getD, List.getElem?_eq_none (by omega)]
  rfl

theorem start_counted (bufferLength : Nat) : Counted bufferLength Parser.start :=
  ⟨rfl, Nat.zero_le _⟩

theorem giveUp_contract (status : Nat) :
    Contract ulongMax client call (client.openSocket.giveUp call status) where
  returns := ⟨status, rfl⟩
  fits := Nat.zero_le _
  within := memory_within call _ (Nat.zero_le _)
  length := fun changed => absurd rfl changed
  tooSmall := fun waited => by cases waited
  socket := rfl
  released := rfl
  created := rfl

theorem request_outcome (gone : Gone client call) :
    (client.request ulongMax call).outcome =
      (respond ulongMax call.length call.server.reads).outcome := by
  rw [request_gone ulongMax client call gone, respond, receive_delivered]
  cases Parser.start.feed ulongMax call.length (delivered call.server.reads) with
  | error exit =>
      obtain ⟨outcome, stored⟩ := exit
      cases outcome <;> rfl
  | ok parser =>
      dsimp only [finish]
      split <;> rfl

-- the buffer would overflow only where the parser has already left with this status
theorem tooSmall_status (stored : List UInt8) (status larger : Nat)
    (ended : Parser.start.feed ulongMax call.length (delivered call.server.reads) =
      .error ⟨.returned status, stored⟩)
    (wider : call.length < larger)
    (overflow : call.length <
      (storedBy (Parser.start.receive ulongMax larger call.server.reads)).length) :
    status = httpContentBufferTooSmall := by
  rw [receive_delivered] at overflow
  obtain ⟨_, full⟩ := feed_tooSmall ulongMax call.length larger Parser.start _
    (start_counted call.length) wider overflow
  rw [ended] at full
  cases full
  rfl

theorem ended_contained (parser : Parser) (larger : Nat)
    (ended : Parser.start.feed ulongMax call.length (delivered call.server.reads) = .ok parser)
    (wider : call.length < larger) :
    ¬ call.length <
      (storedBy (Parser.start.receive ulongMax larger call.server.reads)).length := by
  intro overflow
  rw [receive_delivered] at overflow
  obtain ⟨_, full⟩ := feed_tooSmall ulongMax call.length larger Parser.start _
    (start_counted call.length) wider overflow
  rw [ended] at full
  cases full

theorem contract_of_answerable (answerable : Answerable client call) :
    Contract ulongMax client call (client.request ulongMax call) := by
  rcases request_cases ulongMax client call with
    ⟨-, -, status, -, done⟩ | ⟨-, nameless, -⟩ | ⟨gone, -⟩
  · rw [done]
    exact giveUp_contract ulongMax client call status
  · exact absurd nameless answerable.named
  · have contained := feed_contained ulongMax call.length Parser.start
      (delivered call.server.reads) (start_counted call.length)
    have returns : ∃ status, (client.request ulongMax call).outcome = .returned status := by
      rw [request_outcome ulongMax client call gone]
      exact (respond_returns_iff ulongMax call.length call.server.reads).mpr (answerable.tokens gone)
    have received := receive_delivered ulongMax call.length Parser.start call.server.reads
    rw [request_gone ulongMax client call gone] at returns ⊢
    cases ended : Parser.start.feed ulongMax call.length (delivered call.server.reads) with
    | error exit =>
        obtain ⟨outcome, stored⟩ := exit
        rw [ended] at contained
        cases outcome with
        | nullToken => simp [ended] at returns
        | assertionFailed => simp [ended] at returns
        | returned status =>
            exact ⟨⟨status, rfl⟩, contained, memory_within call _ contained,
              fun changed => absurd rfl changed,
              fun _ larger wider overflow => congrArg Outcome.returned
                (tooSmall_status ulongMax call stored status larger ended wider overflow),
              rfl, rfl, rfl⟩
    | ok parser =>
        rw [ended] at contained received
        have never := ended_contained ulongMax call parser
        dsimp only
        split
        case isTrue unfinished =>
          exact ⟨⟨_, rfl⟩, contained.fits, memory_within call _ contained.fits,
            fun changed => absurd rfl changed,
            fun _ larger wider overflow => absurd overflow (never larger ended wider),
            rfl, rfl, rfl⟩
        case isFalse over_ =>
          have last : parser.state = .finished ∨ parser.state = .content := by
            by_contra neither
            exact over_ ⟨fun same => neither (.inl same), fun same => neither (.inr same)⟩
          exact ⟨⟨_, rfl⟩, contained.fits, memory_within call _ contained.fits,
            fun _ => ⟨rfl, contained.counted, contained.counted ▸ contained.fits,
              parser, received, last⟩,
            fun _ larger wider overflow => absurd overflow (never larger ended wider),
            rfl, rfl, rfl⟩

theorem answerable_of_contract
    (contract : Contract ulongMax client call (client.request ulongMax call)) :
    Answerable client call := by
  rcases contract.returns with ⟨status, returned⟩
  constructor
  · intro nameless
    rcases request_cases ulongMax client call with
      ⟨-, named, -⟩ | ⟨-, -, done⟩ | ⟨-, named, -⟩
    · exact named nameless
    · rw [done] at returned
      cases returned
    · exact named nameless
  · intro gone
    rw [request_outcome ulongMax client call gone] at returned
    exact (respond_returns_iff ulongMax call.length call.server.reads).mp ⟨status, returned⟩

end Calls

/-- A client object with the calls made on it. `failed` says that the assertion on
`m_pSocket` has failed. -/
structure Session where
  client : Client
  calls : List (Client × Call × Done)
  failed : Bool

def Session.Stuck (session : Session) : Prop :=
  ∃ entry ∈ session.calls,
    entry.2.2.outcome = .nullToken ∨ entry.2.2.outcome = .assertionFailed

instance (session : Session) : Decidable session.Stuck :=
  inferInstanceAs (Decidable (∃ entry ∈ session.calls,
    entry.2.2.outcome = .nullToken ∨ entry.2.2.outcome = .assertionFailed))

def Session.step (ulongMax : Nat) (session : Session) (call : Call) : Option Session :=
  if session.failed ∨ session.Stuck then none
  else if session.client.socket ≠ none then some { session with failed := true }
  else
    let done := session.client.request ulongMax call
    some ⟨done.client, session.calls ++ [(session.client, call, done)], false⟩

/-- Every call has met its contract, and each socket made so far has been deleted once. -/
structure Sound (ulongMax : Nat) (session : Session) : Prop where
  asserted : session.failed = false
  contracts : ∀ entry ∈ session.calls, Contract ulongMax entry.1 entry.2.1 entry.2.2
  socket : session.client.socket = none
  released : session.client.released = List.range session.client.created

def Session.create (useSSL : Bool) (serverName : List UInt8) : Session :=
  ⟨⟨useSSL, serverName, none, 0, []⟩, [], false⟩

theorem sound_free (ulongMax : Nat) (session : Session) (sound : Sound ulongMax session) :
    ¬ (session.failed = true ∨ session.Stuck) := by
  rintro (failed | ⟨entry, present, stuck⟩)
  · rw [sound.asserted] at failed
    cases failed
  · obtain ⟨status, returned⟩ := (sound.contracts entry present).returns
    rw [returned] at stuck
    rcases stuck with null | halted
    · cases null
    · cases halted

theorem step_sound (ulongMax : Nat) (session : Session) (call : Call)
    (sound : Sound ulongMax session) :
    session.step ulongMax call = some ⟨(session.client.request ulongMax call).client,
      session.calls ++ [(session.client, call, session.client.request ulongMax call)], false⟩ := by
  unfold Session.step
  rw [if_neg (sound_free ulongMax session sound), if_neg (fun open_ => open_ sound.socket)]

theorem answerable_preserves (ulongMax : Nat) (session : Session) (call : Call) (next : Session)
    (sound : Sound ulongMax session) (answerable : Answerable session.client call)
    (taken : session.step ulongMax call = some next) : Sound ulongMax next := by
  rw [step_sound ulongMax session call sound] at taken
  obtain rfl := Option.some.inj taken
  have contract := contract_of_answerable ulongMax session.client call answerable
  constructor
  · rfl
  · intro entry present
    rcases List.mem_append.mp present with old | new
    · exact sound.contracts entry old
    · obtain rfl := List.mem_singleton.mp new
      exact contract
  · exact contract.socket
  · dsimp only
    rw [contract.released, contract.created, sound.released, List.range_succ]

theorem unanswerable_exposed (ulongMax : Nat) (session : Session) (call : Call) (next : Session)
    (sound : Sound ulongMax session) (unanswerable : ¬ Answerable session.client call)
    (taken : session.step ulongMax call = some next) : ¬ Sound ulongMax next := by
  rw [step_sound ulongMax session call sound] at taken
  obtain rfl := Option.some.inj taken
  intro other
  apply unanswerable
  exact answerable_of_contract ulongMax session.client call
    (other.contracts _ (List.mem_append_right _ (List.mem_singleton_self _)))

/-- For every client and every sequence of calls: each call keeps its contract, and finds
`m_pSocket` null, exactly when no call fails the assertion on the server name, or looks at a
response that lacks a token in a line that is judged. -/
theorem session_sound_iff_answerable (ulongMax : Nat) (useSSL : Bool) (serverName : List UInt8)
    (calls : List Call) (final : Session)
    (reached : run (Session.step ulongMax) (Session.create useSSL serverName) calls =
      some final) :
    Throughout (Session.step ulongMax) (Sound ulongMax) (Session.create useSSL serverName)
        calls ↔
      Along (Session.step ulongMax) (fun session call => Answerable session.client call)
        (Session.create useSSL serverName) calls := by
  apply throughout_iff_along _ (Sound ulongMax) (Sound ulongMax)
  · exact fun _ sound => sound
  · exact answerable_preserves ulongMax
  · exact unanswerable_exposed ulongMax
  · constructor
    · rfl
    · intro entry present
      cases present
    · rfl
    · rfl
  · exact reached

def getCall (response : List UInt8) : Call :=
  ⟨answering response, ascii "/", 4, none, fun _ => 0⟩

def shortResponse : List UInt8 := ascii "HTTP/1.1 200 OK\n\nA"

theorem request_useSSL (ulongMax : Nat) (client : Client) (call : Call) :
    (client.request ulongMax call).client.useSSL = client.useSSL := by
  unfold Client.request
  dsimp only
  repeat' split
  all_goals rfl

theorem shortResponse_answerable (client : Client) (plain : client.useSSL = false) :
    Answerable client (getCall shortResponse) := by
  constructor
  · intro nameless
    rw [nameless.secured] at plain
    cases plain
  · exact fun _ => (respond_returns_iff (2 ^ 32 - 1) 4 _).mp ⟨httpOK, by decide +kernel⟩

theorem two_gets_sound :
    Throughout (Session.step (2 ^ 32 - 1)) (Sound (2 ^ 32 - 1)) (Session.create false [])
      [getCall shortResponse, getCall shortResponse] := by
  refine (session_sound_iff_answerable (2 ^ 32 - 1) false []
    [getCall shortResponse, getCall shortResponse] _ rfl).mpr
    ⟨shortResponse_answerable _ rfl, fun next taken => ⟨?_, fun _ _ => trivial⟩⟩
  apply shortResponse_answerable
  cases taken
  exact request_useSSL (2 ^ 32 - 1) (Session.create false []).client (getCall shortResponse)

/-- A call that does not return and leaves its socket makes the session unsound. -/
theorem stuck_unsound (useSSL : Bool) (call : Call)
    (stuck : ∀ status, ((Session.create useSSL []).client.request (2 ^ 32 - 1) call).outcome ≠
      .returned status) :
    ¬ Throughout (Session.step (2 ^ 32 - 1)) (Sound (2 ^ 32 - 1)) (Session.create useSSL [])
      [call] := by
  rintro ⟨sound, later⟩
  have after : Sound _ _ := later _ (step_sound (2 ^ 32 - 1) _ call sound)
  obtain ⟨status, returned⟩ := (after.contracts _ (List.mem_singleton_self _)).returns
  exact stuck status returned

-- a first line of one slash has no token; a name is asked for with encryption only
theorem slash_and_nameless_stuck :
    (plainClient.request (2 ^ 32 - 1) (getCall (ascii "/\n"))).outcome = .nullToken ∧
      (plainClient.request (2 ^ 32 - 1) (getCall (ascii "/\n"))).client.socket = some 0 ∧
      ¬ Throughout (Session.step (2 ^ 32 - 1)) (Sound (2 ^ 32 - 1)) (Session.create false [])
        [getCall (ascii "/\n")] ∧
      ¬ Throughout (Session.step (2 ^ 32 - 1)) (Sound (2 ^ 32 - 1)) (Session.create true [])
        [getCall shortResponse] := by
  have stuck : ((Session.create false []).client.request (2 ^ 32 - 1)
      (getCall (ascii "/\n"))).outcome = .nullToken := by decide +kernel
  have halted : ((Session.create true []).client.request (2 ^ 32 - 1)
      (getCall shortResponse)).outcome = .assertionFailed := by decide +kernel
  refine ⟨stuck, by decide +kernel, stuck_unsound false _ fun status => ?_,
    stuck_unsound true _ fun status => ?_⟩
  · rw [stuck]
    exact Outcome.noConfusion
  · rw [halted]
    exact Outcome.noConfusion

end CircleStdlib.HttpContract
