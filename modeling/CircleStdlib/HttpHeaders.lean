import CircleStdlib.HttpStatusLine

/-!
The header of a response, line by line. `nLine` counts the lines modulo 2^32, so
that the first line is not the only one that is judged as a status line; in the
others the transfer encoding is looked for.
-/

namespace CircleStdlib.HttpHeaders

open CText HttpClient HttpLines HttpStatusLine

def shown (line : List UInt8) : List UInt8 := cstr (kept line)

def fieldName (line : List UInt8) : List UInt8 :=
  (line.dropWhile (· ∈ ascii ": ")).takeWhile (· ∉ ascii ": ")

def fieldWord (line : List UInt8) : List UInt8 :=
  ((((line.dropWhile (· ∈ ascii ": ")).dropWhile (· ∉ ascii ": ")).tail).dropWhile
    (· ∈ ascii " ")).takeWhile (· ∉ ascii " ")

-- A line that `Request` takes for the announcement of chunks.
def Recognised (line : List UInt8) : Prop :=
  sameIgnoringCase (fieldName (shown line)) (ascii "Transfer-Encoding") = true ∧
    sameIgnoringCase (fieldWord (shown line)) (ascii "chunked") = true

def PassesFrom : Nat → List (List UInt8) → Prop
  | _, [] => True
  | number, line :: rest =>
      (number % 2 ^ 32 = 0 → Accepted line) ∧ PassesFrom (number + 1) rest

inductive StopsFrom : Nat → List (List UInt8) → List UInt8 → Prop where
  | here (number : Nat) (line : List UInt8) (rest : List (List UInt8))
      (judged : number % 2 ^ 32 = 0) (unaccepted : ¬ Accepted line) :
      StopsFrom number (line :: rest) line
  | later (number : Nat) (line stop : List UInt8) (rest : List (List UInt8))
      (passed : number % 2 ^ 32 = 0 → Accepted line)
      (stops : StopsFrom (number + 1) rest stop) : StopsFrom number (line :: rest) stop

def ChunkedFrom : Nat → List (List UInt8) → Prop
  | _, [] => False
  | number, line :: rest =>
      number % 2 ^ 32 ≠ 0 ∧ Recognised line ∨ ChunkedFrom (number + 1) rest

-- What `Line` shows behind the lines, when it has shown `before`.
def leftFrom : Nat → List UInt8 → List (List UInt8) → List UInt8
  | _, before, [] => before
  | number, _, line :: rest =>
      leftFrom (number + 1)
        (throughWord (if number % 2 ^ 32 = 0 then ascii "/" else ascii ": ") (shown line)) rest

def Passes (stream : List UInt8) : Prop := PassesFrom 0 (headerLines stream)

def Stops (stream line : List UInt8) : Prop := StopsFrom 0 (headerLines stream) line

-- `bChunked` at the end of the header.
def TakenChunked (stream : List UInt8) : Prop := ChunkedFrom 0 (headerLines stream)

def left (stream : List UInt8) : List UInt8 := leftFrom 0 [] (headerLines stream)

theorem passes_or_stops (number : Nat) (lines : List (List UInt8)) :
    PassesFrom number lines ∨ ∃ line, StopsFrom number lines line := by
  induction lines generalizing number with
  | nil => exact .inl trivial
  | cons line rest ih =>
      by_cases passed : number % 2 ^ 32 = 0 → Accepted line
      · rcases ih (number + 1) with passes | ⟨stop, stops⟩
        · exact .inl ⟨passed, passes⟩
        · exact .inr ⟨stop, .later number line stop rest passed stops⟩
      · rw [Classical.not_imp] at passed
        exact .inr ⟨line, .here number line rest passed.1 passed.2⟩

theorem stopsFrom_unaccepted (number : Nat) (lines : List (List UInt8)) (line : List UInt8)
    (stops : StopsFrom number lines line) : ¬ Accepted line ∧ line ∈ lines := by
  induction stops with
  | here number line rest judged unaccepted => exact ⟨unaccepted, List.mem_cons_self⟩
  | later number line stop rest passed stops ih =>
      exact ⟨ih.1, List.mem_cons_of_mem line ih.2⟩

theorem passes_unstopped (number : Nat) (lines : List (List UInt8)) (line : List UInt8)
    (passes : PassesFrom number lines) (stops : StopsFrom number lines line) : False := by
  induction stops with
  | here number line rest judged unaccepted => exact unaccepted (passes.1 judged)
  | later number line stop rest passed stops ih => exact ih passes.2

/-- Of fewer than 2^32 lines behind the first one none is judged. -/
theorem passesFrom_few (number : Nat) (lines : List (List UInt8)) (later : 0 < number)
    (few : number + lines.length ≤ 2 ^ 32) : PassesFrom number lines := by
  induction lines generalizing number with
  | nil => trivial
  | cons line rest ih =>
      rw [List.length_cons] at few
      exact ⟨fun judged => by omega, ih (number + 1) (by omega) (by omega)⟩

theorem chunkedFrom_few (number : Nat) (lines : List (List UInt8)) (later : 0 < number)
    (few : number + lines.length ≤ 2 ^ 32) :
    ChunkedFrom number lines ↔ ∃ line ∈ lines, Recognised line := by
  induction lines generalizing number with
  | nil => simp [ChunkedFrom]
  | cons line rest ih =>
      rw [List.length_cons] at few
      have unjudged : number % 2 ^ 32 ≠ 0 := by omega
      rw [ChunkedFrom, ih (number + 1) (by omega) (by omega), and_iff_right unjudged]
      simp

/-- With 2^32 lines behind the first one the last of them is judged. -/
theorem stopsFrom_many (number : Nat) (line : List UInt8) (rest : List (List UInt8)) (count : Nat)
    (later : 0 < number) (many : number + count = 2 ^ 32) (unaccepted : ¬ Accepted line) :
    StopsFrom number (List.replicate count line ++ line :: rest) line := by
  induction count generalizing number with
  | zero => exact .here number line rest (by omega) unaccepted
  | succ count ih =>
      exact .later number line line _ (fun judged => by omega) (ih (number + 1) (by omega) (by omega))

/-! The lines that are not judged. -/

theorem headerOption_iff (line : List UInt8) :
    (headerOption (kept line)).2 = true ↔ Recognised line := by
  have name := strtokR_token (ascii ": ") (kept line) 0
  have word := strtokR_token (ascii " ") (strtokR (kept line) 0 (ascii ": ")).cells
    (strtokR (kept line) 0 (ascii ": ")).save
  rw [strtokR_left (ascii ": ") (by decide)] at word
  rw [List.drop_zero] at name word
  simp only [Recognised, fieldName, fieldWord, shown, headerOption]
  split at name
  · rename_i none
    rw [name, none]
    simp [sameIgnoringCase, ascii]
  · rw [name]
    dsimp only
    split
    · rename_i encoding
      rw [and_iff_right encoding]
      split at word
      · rename_i none
        rw [word, none]
        simp [sameIgnoringCase, ascii]
      · rw [word]
    · rename_i other
      exact iff_of_false Bool.false_ne_true fun both => other both.1

theorem headerOption_shows (line : List UInt8) :
    cstr (headerOption (kept line)).1 = throughWord (ascii ": ") (shown line) := by
  have name := strtokR_shows (ascii ": ") (kept line)
  have later := strtokR_later (ascii " ") (strtokR (kept line) 0 (ascii ": ")).cells
    (strtokR (kept line) 0 (ascii ": ")).save (name.1 ▸ name.2)
  have same := later.1.trans name.1
  unfold headerOption
  dsimp only
  split
  · exact name.1
  · split
    · split
      · exact same
      · exact same
    · exact name.1

theorem statusLine_shows (line cells : List UInt8)
    (accepted : statusLine (kept line) = .accepted cells) :
    cstr cells = throughWord (ascii "/") (shown line) := by
  have first := strtokR_shows (ascii "/") (kept line)
  have second := strtokR_later (ascii " ") _ (strtokR (kept line) 0 (ascii "/")).save
    (first.1 ▸ first.2)
  have third := strtokR_later (ascii " ") _ _ (second.1 ▸ second.2)
  simp only [statusLine] at accepted
  split at accepted
  · cases accepted
  · split at accepted
    · cases accepted
    · split at accepted
      · cases accepted
      · split at accepted
        · cases accepted
        · split at accepted
          · cases accepted
          · cases accepted
            exact third.1.trans (second.1.trans first.1)

/-! The parser. -/

def refusal (ulongMax : Nat) (line : List UInt8) : Outcome :=
  match statusLine (kept line) with
  | .rejected token => .returned (rejectedStatus ulongMax token)
  | _ => .nullToken

theorem refusal_status (ulongMax status : Nat) (line : List UInt8)
    (other : status ≠ httpInvalidResponseCode) :
    refusal ulongMax line = .returned status ↔
      ∃ token, Refused line token ∧ Counts ulongMax status token := by
  unfold refusal
  constructor
  · intro same
    split at same
    · rename_i token rejected
      have refused := (refused_iff line token).mpr rejected
      exact ⟨token, refused, (rejectedStatus_iff ulongMax status token
        (refused_nonempty line token refused) other).mp (Outcome.returned.inj same)⟩
    · cases same
  · rintro ⟨token, refused, counts⟩
    rw [(refused_iff line token).mp refused]
    exact congrArg Outcome.returned ((rejectedStatus_iff ulongMax status token
      (refused_nonempty line token refused) other).mpr counts)

structure Taken (number : Nat) (lines : List (List UInt8)) (parser next : Parser) : Prop where
  state : next.state = parser.state
  fresh : parser.nChar = 0 → next.nChar = 0
  stored : next.stored = parser.stored
  nLength : next.nLength = parser.nLength
  chunked : next.chunked = true ↔ parser.chunked = true ∨ ChunkedFrom number lines
  shows : cstr next.line = leftFrom number (cstr parser.line) lines

section Parsing
variable (ulongMax bufferLength : Nat)

theorem takeLine_taken (number : Nat) (parser : Parser) (line : List UInt8) (nonempty : line ≠ [])
    (counted : parser.nLine = number % 2 ^ 32) (passed : number % 2 ^ 32 = 0 → Accepted line) :
    ∃ next, takeLine ulongMax parser line = .ok next ∧ Taken number [line] parser next ∧
      next.nLine = (number + 1) % 2 ^ 32 := by
  have counts : (parser.nLine + 1) % 2 ^ 32 = (number + 1) % 2 ^ 32 := by omega
  by_cases judged : number % 2 ^ 32 = 0
  · rcases (accepted_iff line).mp (passed judged) with ⟨cells, accepted⟩
    have first : parser.nLine = 0 := counted.trans judged
    refine ⟨{ parser with nLine := 1, nChar := 0, line := cells }, ?_,
      ⟨rfl, fun _ => rfl, rfl, rfl, ?_, ?_⟩, ?_⟩
    · rw [takeLine_first ulongMax parser line nonempty first, accepted]
    · simp only [ChunkedFrom, or_false]
      exact (or_iff_left fun found => found.1 judged).symm
    · simp only [leftFrom, judged, if_true]
      exact statusLine_shows line cells accepted
    · rw [← counts, first]
      rfl
  · have later : parser.nLine ≠ 0 := fun zero => judged (counted.symm.trans zero)
    refine ⟨_, takeLine_option ulongMax parser line nonempty later,
      ⟨rfl, fun _ => rfl, rfl, rfl, ?_, ?_⟩, counts⟩
    · simp only [ChunkedFrom, or_false, Bool.or_eq_true, headerOption_iff]
      exact or_congr_right (and_iff_right judged).symm
    · simp only [leftFrom, judged, if_false]
      exact headerOption_shows line

theorem takeLine_refused (parser : Parser) (line : List UInt8) (nonempty : line ≠ [])
    (first : parser.nLine = 0) (unaccepted : ¬ Accepted line) :
    takeLine ulongMax parser line = .error ⟨refusal ulongMax line, parser.stored⟩ := by
  rw [accepted_iff] at unaccepted
  rw [takeLine_first ulongMax parser line nonempty first, refusal]
  cases verdict : statusLine (kept line) with
  | accepted cells => exact absurd ⟨cells, verdict⟩ unaccepted
  | rejected token => rfl
  | missing => rfl

theorem takeLines_passes (number : Nat) (parser : Parser) (lines : List (List UInt8))
    (nonempty : ∀ line ∈ lines, line ≠ []) (counted : parser.nLine = number % 2 ^ 32)
    (passes : PassesFrom number lines) :
    ∃ next, takeLines ulongMax parser lines = .ok next ∧ Taken number lines parser next := by
  induction lines generalizing number parser with
  | nil => exact ⟨parser, rfl, ⟨rfl, id, rfl, rfl, by simp [ChunkedFrom], rfl⟩⟩
  | cons line rest ih =>
      rcases takeLine_taken ulongMax number parser line (nonempty line List.mem_cons_self) counted
        passes.1 with ⟨middle, first, taken, counts⟩
      rcases ih (number + 1) middle
        (fun other member => nonempty other (List.mem_cons_of_mem line member)) counts passes.2
        with ⟨next, others, after⟩
      refine ⟨next, ?_, after.state.trans taken.state, fun fresh => after.fresh (taken.fresh fresh),
        after.stored.trans taken.stored, after.nLength.trans taken.nLength, ?_, ?_⟩
      · simp only [takeLines, first]
        exact others
      · rw [after.chunked, taken.chunked]
        simp only [ChunkedFrom, or_false, or_assoc]
      · rw [after.shows, taken.shows]
        rfl

theorem takeLines_stops (number : Nat) (parser : Parser) (lines : List (List UInt8))
    (line : List UInt8) (nonempty : ∀ line ∈ lines, line ≠ [])
    (counted : parser.nLine = number % 2 ^ 32) (stops : StopsFrom number lines line) :
    takeLines ulongMax parser lines = .error ⟨refusal ulongMax line, parser.stored⟩ := by
  induction stops generalizing parser with
  | here number line rest judged unaccepted =>
      have refused := takeLine_refused ulongMax parser line (nonempty line List.mem_cons_self)
        (counted.trans judged) unaccepted
      simp only [takeLines, refused]
  | later number line stop rest passed stops ih =>
      rcases takeLine_taken ulongMax number parser line (nonempty line List.mem_cons_self) counted
        passed with ⟨middle, first, taken, counts⟩
      simp only [takeLines, first]
      rw [← taken.stored]
      exact ih middle (fun other member => nonempty other (List.mem_cons_of_mem line member)) counts

structure Opened (stream : List UInt8) (parser : Parser) : Prop where
  chunked : TakenChunked stream → parser.state = .chunkHeader
  plain : ¬ TakenChunked stream → parser.state = .content
  fresh : parser.nChar = 0
  stored : parser.stored = []
  nLength : parser.nLength = 0
  shows : cstr parser.line = left stream

theorem Opened.behind {stream : List UInt8} {parser : Parser} (opened : Opened stream parser) :
    parser.state ≠ .header := by
  by_cases chunked : TakenChunked stream
  · rw [opened.chunked chunked]
    exact ResponseState.noConfusion
  · rw [opened.plain chunked]
    exact ResponseState.noConfusion

theorem feed_stopped (stream line : List UInt8) (stops : Stops stream line) :
    Parser.start.feed ulongMax bufferLength stream = .error ⟨refusal ulongMax line, []⟩ := by
  rcases feed_start ulongMax bufferLength stream with ⟨text, fed⟩
  have refused := takeLines_stops ulongMax 0 Parser.start (headerLines stream) line
    (headerFrom_nonempty [] stream) rfl stops
  rw [fed, refused]
  rfl

/-- A header that goes on at the end of the stream. -/
theorem feed_unfinished (stream : List UInt8) (passes : Passes stream)
    (unfinished : bodyOf stream = none) :
    ∃ parser, Parser.start.feed ulongMax bufferLength stream = .ok parser ∧
      parser.state = .header := by
  rcases feed_start ulongMax bufferLength stream with ⟨text, fed⟩
  rcases takeLines_passes ulongMax 0 Parser.start (headerLines stream)
    (headerFrom_nonempty [] stream) rfl passes with ⟨next, lines, taken⟩
  refine ⟨within next text, ?_, (within_state next text).trans taken.state⟩
  rw [fed]
  simp only [lines, unfinished]

/-- A header that is over: what is read behind it does not matter to it. -/
theorem feed_opened (stream body : List UInt8) (passes : Passes stream)
    (over_ : bodyOf stream = some body) :
    ∃ front parser, stream = front ++ body ∧ Opened stream parser ∧ ∀ other,
      Parser.start.feed ulongMax bufferLength (front ++ other) =
        parser.feed ulongMax bufferLength other := by
  rcases takeLines_passes ulongMax 0 Parser.start (headerLines stream)
    (headerFrom_nonempty [] stream) rfl passes with ⟨next, lines, taken⟩
  have chunked : next.chunked = true ↔ TakenChunked stream :=
    taken.chunked.trans (or_iff_right Bool.false_ne_true)
  rcases headerFrom_over [] stream body over_ with ⟨front, whole, same⟩
  refine ⟨front, openBody next, whole, ⟨fun announced => ?_, fun unannounced => ?_, rfl,
    taken.stored, taken.nLength, taken.shows⟩, fun other => ?_⟩
  · exact if_pos (chunked.mpr announced)
  · exact if_neg fun found => unannounced (chunked.mp found)
  · rcases feed_start ulongMax bufferLength (front ++ other) with ⟨text, fed⟩
    rw [fed, headerLines, bodyOf, same]
    change takeLines ulongMax Parser.start (headerFrom [] stream).1 = _ at lines
    simp only [lines]

/-! Behind the header. -/

def Behind : Except Exit Parser → Prop
  | .error exit => exit.outcome = .returned httpContentBufferTooSmall ∨
      exit.outcome = .returned httpInvalidChunkHeader
  | .ok next => next.state ≠ .header

theorem store_body (parser : Parser) (char : UInt8) (body : parser.state ≠ .header) :
    Behind (parser.store bufferLength char) := by
  unfold Parser.store
  split
  · exact .inl rfl
  · exact body

theorem step_body (parser : Parser) (char : UInt8) (body : parser.state ≠ .header) :
    Behind (parser.step ulongMax bufferLength char) := by
  unfold Parser.step
  cases state : parser.state with
  | header => exact absurd state body
  | content => exact store_body bufferLength parser char body
  | chunkHeader =>
      dsimp only
      split
      · exact body
      · split
        · unfold Parser.endChunkHeader
          dsimp only
          split
          · exact .inr rfl
          · dsimp only [Behind]
            split <;> decide
        · have same : (parser.accumulate char).state = parser.state := by
            unfold Parser.accumulate
            split <;> rfl
          intro header
          exact body (same.symm.trans header)
  | chunkData =>
      have stored := store_body bufferLength parser char body
      cases written : parser.store bufferLength char with
      | error exit => rwa [written] at stored
      | ok next =>
          rw [written] at stored
          dsimp only
          split
          · exact ResponseState.noConfusion
          · exact stored
  | chunkTrailer =>
      dsimp only
      split
      · exact body
      · split
        · exact .inr rfl
        · exact ResponseState.noConfusion
  | finished => exact body

theorem feed_body (parser : Parser) (stream : List UInt8) (body : parser.state ≠ .header) :
    Behind (parser.feed ulongMax bufferLength stream) := by
  induction stream generalizing parser with
  | nil => exact body
  | cons char rest ih =>
      have once := step_body ulongMax bufferLength parser char body
      unfold Parser.feed
      cases taken : parser.step ulongMax bufferLength char with
      | error exit => rwa [taken] at once
      | ok next =>
          rw [taken] at once
          exact ih next once

/-- Behind a header that passes there are the same two errors. -/
theorem passed_exit (stream : List UInt8) (exit : Exit) (passes : Passes stream)
    (ended : Parser.start.feed ulongMax bufferLength stream = .error exit) :
    exit.outcome = .returned httpContentBufferTooSmall ∨
      exit.outcome = .returned httpInvalidChunkHeader := by
  cases over_ : bodyOf stream with
  | none =>
      rcases feed_unfinished ulongMax bufferLength stream passes over_ with ⟨parser, fed, -⟩
      rw [ended] at fed
      cases fed
  | some body =>
      rcases feed_opened ulongMax bufferLength stream body passes over_ with
        ⟨front, parser, whole, opened, fed⟩
      have behind := feed_body ulongMax bufferLength parser body opened.behind
      rw [← fed, ← whole, ended] at behind
      exact behind

end Parsing

theorem respond_stopped (ulongMax length : Nat) (reads : List (List UInt8)) (line : List UInt8)
    (stops : Stops (delivered reads) line) :
    respond ulongMax length reads = ⟨refusal ulongMax line, [], length⟩ := by
  rw [respond, receive_delivered, feed_stopped ulongMax length _ line stops]

/-! Requests. -/

structure Accepts (server : Server) (serverName message : List UInt8) : Prop where
  secured : server.useSSL = true →
    0 ≤ server.addCertificatePath ∧ serverName ≠ [] ∧ server.setup = 0
  connected : 0 ≤ server.connect
  sent : 0 ≤ server.send message

section Requests
variable (ulongMax : Nat) (server : Server) (method : RequestMethod)
  (path serverName : List UInt8) (length : Nat) (formData : Option (List UInt8))

theorem request_accepted
    (accepts : Accepts server serverName (requestText method path serverName formData)) :
    request ulongMax server method path serverName length formData =
      respond ulongMax length server.reads := by
  have certified : ¬ (server.useSSL = true ∧ server.addCertificatePath < 0) := by
    rintro ⟨secure, failed⟩
    exact absurd failed (Int.not_lt.mpr (accepts.secured secure).1)
  have named : ¬ (server.useSSL = true ∧ serverName.length = 0) := by
    rintro ⟨secure, nameless⟩
    exact (accepts.secured secure).2.1 (List.length_eq_zero_iff.mp nameless)
  have configured : ¬ (server.useSSL = true ∧ server.setup ≠ 0) := by
    rintro ⟨secure, failed⟩
    exact failed (accepts.secured secure).2.2
  rw [request, if_neg certified, if_neg named, if_neg configured,
    if_neg (Int.not_lt.mpr accepts.connected), if_neg (Int.not_lt.mpr accepts.sent)]

/-- A request that does not come to its response. -/
theorem request_unanswered
    (fails : ¬ Accepts server serverName (requestText method path serverName formData)) :
    (request ulongMax server method path serverName length formData).outcome ∈
      [.returned httpInternalClientError, .returned httpRequestTimeout,
        .returned httpConnectionReset, .assertionFailed] := by
  unfold request
  by_cases certified : server.useSSL = true ∧ server.addCertificatePath < 0
  · rw [if_pos certified]
    simp
  · rw [if_neg certified]
    by_cases named : server.useSSL = true ∧ serverName.length = 0
    · rw [if_pos named]
      simp
    · rw [if_neg named]
      by_cases configured : server.useSSL = true ∧ server.setup ≠ 0
      · rw [if_pos configured]
        simp
      · rw [if_neg configured]
        by_cases connected : server.connect < 0
        · rw [if_pos connected]
          simp
        · rw [if_neg connected]
          by_cases sent : server.send (requestText method path serverName formData) < 0
          · rw [if_pos sent]
            simp
          · refine absurd ⟨fun secure => ⟨?_, ?_, ?_⟩, Int.not_lt.mp connected,
              Int.not_lt.mp sent⟩ fails
            · exact Int.not_lt.mp fun failed => certified ⟨secure, failed⟩
            · exact fun nameless => named ⟨secure, List.length_eq_zero_iff.mpr nameless⟩
            · exact not_not.mp fun failed => configured ⟨secure, failed⟩

end Requests

def answering (segment : List UInt8) : Server :=
  { useSSL := false, addCertificatePath := 0, setup := 0, connect := 0, send := fun _ => 0,
    reads := [segment] }

def ask (ulongMax : Nat) (segment : List UInt8) : Response :=
  request ulongMax (answering segment) .get [] [] 0 none

theorem answering_accepts (segment message serverName : List UInt8) :
    Accepts (answering segment) serverName message :=
  ⟨by simp [answering], Int.le_refl 0, Int.le_refl 0⟩

end CircleStdlib.HttpHeaders
