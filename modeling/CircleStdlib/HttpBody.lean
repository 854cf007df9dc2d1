import CircleStdlib.HttpDecoding

/-!
What `Request` makes of a well-formed response. The body is copied as it comes,
or put together from its chunks; where the socket cuts the stream into reads is
of no account. `Line` bounds what is seen of a line: the parser drops the
characters that do not fit in it.
-/

namespace CircleStdlib.HttpBody

open CText Numerals HttpClient HttpLines HttpStatusLine HttpHeaders HttpDecoding

def crlf : List UInt8 := [13, 10]

/-- A header: `HTTP/<version> 200 <text>`, the other lines, and the empty line. -/
structure Header where
  version : List UInt8
  text : List UInt8
  lines : List (List UInt8)

def Header.statusText (header : Header) : List UInt8 :=
  ascii "HTTP/" ++ header.version ++ ascii " 200 " ++ header.text

def Header.bytes (header : Header) : List UInt8 :=
  header.statusText ++ crlf ++ (header.lines.flatMap (· ++ crlf) ++ crlf)

structure HeaderLine (line : List UInt8) : Prop where
  nonempty : line ≠ []
  fits : line.length < httpMaxRequestLine
  clean : ∀ char ∈ line, char ≠ 0 ∧ char ≠ 13 ∧ char ≠ 10

structure Header.WellFormed (header : Header) : Prop where
  versioned : header.version ≠ []
  unbroken : 32 ∉ header.version
  oneLine : 10 ∉ header.version ∧ 10 ∉ header.text
  lines : ∀ line ∈ header.lines, HeaderLine line

/-- What `Request` needs beyond that: the version is more than carriage returns, it
has no NUL, `Line` has room up to the 200, and `nLine` does not come to 0 again. -/
structure Header.Legible (header : Header) : Prop where
  versioned : withoutReturns header.version ≠ []
  unterminated : 0 ∉ header.version
  fits : (withoutReturns (ascii "HTTP/" ++ header.version ++ ascii " 200")).length <
    httpMaxRequestLine
  few : header.lines.length < 2 ^ 32

def Header.Plain (header : Header) : Prop :=
  ∀ line ∈ header.lines, sameIgnoringCase (fieldName line) (ascii "Transfer-Encoding") = false

def Header.Chunked (header : Header) : Prop :=
  ∃ line ∈ header.lines, sameIgnoringCase line (ascii "Transfer-Encoding: chunked") = true

structure SizeLine (digits : List UInt8) (size : Nat) : Prop where
  nonempty : digits ≠ []
  hex : ∀ digit ∈ digits, digitValue digit < 16
  counts : numeral 16 digits = size

structure Chunk where
  digits : List UInt8
  data : List UInt8
  nonempty : data ≠ []
  sized : SizeLine digits data.length

def Chunk.bytes (chunk : Chunk) : List UInt8 := chunk.digits ++ crlf ++ (chunk.data ++ crlf)

structure Coding where
  chunks : List Chunk
  last : List UInt8
  sized : SizeLine last 0

def Coding.bytes (coding : Coding) : List UInt8 :=
  coding.chunks.flatMap Chunk.bytes ++ (coding.last ++ crlf)

def Coding.body (coding : Coding) : List UInt8 := coding.chunks.flatMap Chunk.data

def Coding.Legible (coding : Coding) : Prop :=
  (∀ chunk ∈ coding.chunks, chunk.digits.length < httpMaxRequestLine) ∧
    coding.last.length < httpMaxRequestLine

def Coding.Small (ulongMax : Nat) (coding : Coding) : Prop :=
  ∀ chunk ∈ coding.chunks, chunk.data.length < ulongMax

section Tokens

theorem strtoul_size (ulongMax size : Nat) (digits : List UInt8) (sized : SizeLine digits size)
    (small : size ≤ ulongMax) : strtoul ulongMax 16 digits = (size, []) := by
  rw [strtoul_hex ulongMax digits sized.nonempty sized.hex, sized.counts, Nat.min_eq_left small]

/-- What `Line` shows of a header line is all of it. -/
theorem headerLine_shown (line : List UInt8) (valid : HeaderLine line) : shown line = line := by
  rw [shown, kept_of_fits line valid.fits]
  exact cstr_clean line fun zero => (valid.clean 0 zero).1 rfl

/-- A line with another name leaves `bChunked` alone. -/
theorem recognised_named (line : List UInt8) (valid : HeaderLine line)
    (recognised : Recognised line) :
    sameIgnoringCase (fieldName line) (ascii "Transfer-Encoding") = true := by
  rw [Recognised, headerLine_shown line valid] at recognised
  exact recognised.1

theorem toLower_fixed (char low : UInt8) (same : toLower char = low) (small : low.toNat < 65) :
    char = low := by
  unfold toLower at same
  split at same
  · rename_i capital
    simp only [Bool.and_eq_true, decide_eq_true_eq, UInt8.le_iff_toNat_le] at capital
    have shifted := congrArg UInt8.toNat same
    have bounds : 65 ≤ char.toNat ∧ char.toNat ≤ 90 := capital
    rw [UInt8.toNat_add] at shifted
    have added : (char.toNat + 32) % 256 = low.toNat := shifted
    omega
  · exact same

/-- In whatever case a word is written, it has no character below the letters
that it does not have in lower case. -/
theorem word_without (text word : List UInt8) (low : UInt8) (same : text.map toLower = word)
    (small : low.toNat < 65) (lacks : low ∉ word) : low ∉ text := by
  intro member
  apply lacks
  have kept : toLower low = low := by
    have below : ¬ 65 ≤ low := by
      simp only [UInt8.le_iff_toNat_le]
      exact fun high => absurd (le_trans high (by omega : low.toNat ≤ 64)) (by decide)
    simp [toLower, below]
  rw [← same, ← kept]
  exact List.mem_map_of_mem member

theorem word_token (delims text word : List UInt8) (same : text.map toLower = word)
    (small : ∀ delim ∈ delims, delim.toNat < 65) (lacks : ∀ delim ∈ delims, delim ∉ word)
    (unterminated : 0 ∉ word) : ∀ char ∈ text, char ∉ delims ∧ char ≠ 0 := by
  intro char member
  constructor
  · intro delim
    exact word_without text word char same (small char delim) (lacks char delim) member
  · rintro rfl
    exact word_without text word 0 same (by decide) unterminated member

/-- `Transfer-Encoding: chunked` is recognised in any letter case. -/
theorem recognised_chunked (line : List UInt8) (valid : HeaderLine line)
    (option : sameIgnoringCase line (ascii "Transfer-Encoding: chunked") = true) :
    Recognised line := by
  rw [← headerOption_iff, kept_of_fits line valid.fits]
  have lowered : line.map toLower = ascii "transfer-encoding" ++ (58 :: 32 :: ascii "chunked") := by
    have same := of_decide_eq_true option
    rw [same]
    decide
  rcases List.map_eq_append_iff.mp lowered with ⟨name, behindName, rfl, nameLower, restLower⟩
  rcases List.map_eq_cons_iff.mp restLower with ⟨colon, behindColon, rfl, colonLower, valueLower⟩
  rcases List.map_eq_cons_iff.mp valueLower with ⟨blank, coding, rfl, blankLower, codingLower⟩
  rw [toLower_fixed colon 58 colonLower (by decide), toLower_fixed blank 32 blankLower (by decide)]
  have nameless : name ≠ [] := by
    rintro rfl
    cases nameLower
  have codeless : coding ≠ [] := by
    rintro rfl
    cases codingLower
  have first := strtokR_of_cut (ascii ": ") (by decide) (name ++ 58 :: 32 :: coding) [] name
    (58 :: 32 :: coding) 0 rfl
    ⟨by simp, nameless,
      word_token _ name _ nameLower (by decide +kernel) (by decide +kernel) (by decide),
      by simp [ascii]⟩
  have rest : behind (ascii ": ") (58 :: 32 :: coding) = [32] ++ (coding ++ []) := by
    simp [behind, ascii]
  have second := strtokR_of_cut (ascii " ") (by decide) _ [32] coding [] _ (first.2.trans rest)
    ⟨by simp [ascii], codeless,
      word_token _ coding _ codingLower (by decide +kernel) (by decide +kernel) (by decide),
      by simp⟩
  have named : sameIgnoringCase name (ascii "Transfer-Encoding") = true := by
    simp only [sameIgnoringCase, nameLower]
    decide
  have coded : sameIgnoringCase coding (ascii "chunked") = true := by
    simp only [sameIgnoringCase, codingLower]
    decide
  simp [headerOption, first.1, named, second.1, coded]

end Tokens

section Headers

/-- The status line is accepted although `Line` may end within its text. -/
theorem statusLine_legible (header : Header) (wellFormed : header.WellFormed)
    (legible : header.Legible) :
    Accepted (withoutReturns header.statusText) := by
  let tail := (32 :: withoutReturns header.text).take (httpMaxRequestLine - 1 -
    (withoutReturns (ascii "HTTP/" ++ header.version ++ ascii " 200")).length)
  let spelling : Spelling := ⟨[], [], withoutReturns header.version, [32],
    ascii "200", tail⟩
  have spelled : spelling.text = kept (withoutReturns header.statusText) := by
    have parts : withoutReturns header.statusText =
        withoutReturns (ascii "HTTP/" ++ header.version ++ ascii " 200") ++
          (32 :: withoutReturns header.text) := by
      simp only [Header.statusText, withoutReturns_append]
      simp [withoutReturns, ascii]
    have room : (withoutReturns (ascii "HTTP/" ++ header.version ++ ascii " 200")).length ≤
        httpMaxRequestLine - 1 := Nat.le_sub_one_of_lt legible.fits
    rw [kept, parts, List.take_append, List.take_of_length_le room]
    simp only [spelling, Spelling.text, withoutReturns_append]
    simp [withoutReturns, ascii, tail]
  refine ⟨spelling, ?_, rfl, spelled⟩
  refine ⟨by simp [spelling], by simp [spelling], legible.versioned, ?_, by simp [spelling],
    by simp [spelling], by simp [spelling, ascii], by simp [spelling, ascii], ?_⟩
  · intro char member
    have inside := List.mem_of_mem_filter member
    exact ⟨ne_of_mem_of_not_mem inside wellFormed.unbroken,
      ne_of_mem_of_not_mem inside legible.unterminated⟩
  · intro char head
    left
    have first : spelling.tail.head? = some char := head
    simp only [spelling, tail, List.head?_take] at first
    split at first
    · cases first
    · exact (Option.some.inj first).symm

theorem headerFrom_lines (lines : List (List UInt8)) (rest : List UInt8)
    (valid : ∀ line ∈ lines, HeaderLine line) :
    headerFrom [] (lines.flatMap (· ++ crlf) ++ (crlf ++ rest)) = (lines, some rest) := by
  induction lines with
  | nil => exact headerFrom_empty [13] rest (by simp)
  | cons line lines ih =>
      have fields := valid line List.mem_cons_self
      have clean : withoutReturns (line ++ [13]) = line := by
        rw [withoutReturns_append, withoutReturns_return, List.append_nil,
          withoutReturns_clean line fun char member => (fields.clean char member).2.1]
      have unended : 10 ∉ line ++ [13] := by
        simpa using fun member => (fields.clean 10 member).2.2 rfl
      have split : (line :: lines).flatMap (· ++ crlf) ++ (crlf ++ rest) =
          (line ++ [13]) ++ 10 :: (lines.flatMap (· ++ crlf) ++ (crlf ++ rest)) := by
        simp [crlf]
      have read := headerFrom_line [] (line ++ [13]) (lines.flatMap (· ++ crlf) ++ (crlf ++ rest))
        unended (by rw [clean]; exact fields.nonempty)
      rw [split, read, clean, headerLines, bodyOf,
        ih fun other member => valid other (List.mem_cons_of_mem line member)]
      rfl

/-- The lines of a header, and what follows. -/
theorem headerFrom_bytes (header : Header) (wellFormed : header.WellFormed) (rest : List UInt8) :
    headerFrom [] (header.bytes ++ rest) =
      (withoutReturns header.statusText :: header.lines, some rest) := by
  have parts := wellFormed.oneLine
  have unended : 10 ∉ header.statusText ++ [13] := by
    simp [Header.statusText, ascii, parts]
  have clean : withoutReturns (header.statusText ++ [13]) = withoutReturns header.statusText := by
    rw [withoutReturns_append, withoutReturns_return, List.append_nil]
  have nonempty : withoutReturns header.statusText ≠ [] := by
    simp [Header.statusText, withoutReturns, ascii]
  have split : header.bytes ++ rest = (header.statusText ++ [13]) ++
      10 :: (header.lines.flatMap (· ++ crlf) ++ (crlf ++ rest)) := by
    simp [Header.bytes, crlf]
  have read := headerFrom_line [] (header.statusText ++ [13])
    (header.lines.flatMap (· ++ crlf) ++ (crlf ++ rest)) unended (by rw [clean]; exact nonempty)
  rw [split, read, clean, headerLines, bodyOf, headerFrom_lines header.lines rest wellFormed.lines]
  rfl

theorem bytes_passes (header : Header) (wellFormed : header.WellFormed) (legible : header.Legible)
    (rest : List UInt8) : Passes (header.bytes ++ rest) := by
  have few := legible.few
  rw [Passes, headerLines, headerFrom_bytes header wellFormed rest]
  exact ⟨fun _ => statusLine_legible header wellFormed legible,
    passesFrom_few 1 header.lines Nat.one_pos (by omega)⟩

theorem bytes_chunked (header : Header) (wellFormed : header.WellFormed)
    (legible : header.Legible) (rest : List UInt8) :
    TakenChunked (header.bytes ++ rest) ↔ ∃ line ∈ header.lines, Recognised line := by
  have few := legible.few
  rw [TakenChunked, headerLines, headerFrom_bytes header wellFormed rest]
  simp only [ChunkedFrom, Nat.zero_mod, ne_eq, not_true_eq_false, false_and, false_or]
  exact chunkedFrom_few 1 header.lines Nat.one_pos (by omega)

theorem plain_unchunked (header : Header) (wellFormed : header.WellFormed)
    (legible : header.Legible) (plain : header.Plain) (rest : List UInt8) :
    ¬ TakenChunked (header.bytes ++ rest) := by
  rw [bytes_chunked header wellFormed legible rest]
  rintro ⟨line, member, recognised⟩
  have named := recognised_named line (wellFormed.lines line member) recognised
  rw [plain line member] at named
  cases named

theorem chunked_taken (header : Header) (wellFormed : header.WellFormed)
    (legible : header.Legible) (chunked : header.Chunked) (rest : List UInt8) :
    TakenChunked (header.bytes ++ rest) := by
  rw [bytes_chunked header wellFormed legible rest]
  rcases chunked with ⟨line, member, option⟩
  exact ⟨line, member, recognised_chunked line (wellFormed.lines line member) option⟩

theorem feed_bytes (ulongMax bufferLength : Nat) (header : Header)
    (wellFormed : header.WellFormed) (legible : header.Legible) (rest : List UInt8) :
    ∃ parser, Opened (header.bytes ++ rest) parser ∧
      Parser.start.feed ulongMax bufferLength (header.bytes ++ rest) =
        parser.feed ulongMax bufferLength rest := by
  have over_ : bodyOf (header.bytes ++ rest) = some rest := by
    rw [bodyOf, headerFrom_bytes header wellFormed rest]
  rcases feed_opened ulongMax bufferLength _ rest (bytes_passes header wellFormed legible rest)
    over_ with ⟨front, parser, whole, opened, fed⟩
  refine ⟨parser, opened, ?_⟩
  rw [whole]
  exact fed rest

end Headers

section Bodies
variable (ulongMax bufferLength : Nat)

theorem sizeShown_digits (text digits : List UInt8) (size : Nat) (sized : SizeLine digits size)
    (fits : digits.length < httpMaxRequestLine) : sizeShown text (digits ++ [13]) = digits := by
  have clean : withoutReturns (digits ++ [13]) = digits := by
    rw [withoutReturns_append, withoutReturns_return, List.append_nil,
      withoutReturns_clean digits fun char member =>
        digit_ne char 13 (sized.hex char member) (by decide)]
  have visible : 0 ∉ digits := fun member => digit_ne 0 0 (sized.hex 0 member) (by decide) rfl
  rw [sizeShown, clean, if_neg sized.nonempty, shown, kept_of_fits digits fits,
    cstr_clean digits visible]

theorem digits_unended (digits : List UInt8) (size : Nat) (sized : SizeLine digits size) :
    10 ∉ digits ++ [13] := by
  have inside : 10 ∉ digits := fun member => digit_ne 10 10 (sized.hex 10 member) (by decide) rfl
  simp [inside]

theorem feed_chunks (parser : Parser) (body text : List UInt8) (chunks : List Chunk)
    (rest : List UInt8) (atSize : AtSize parser body text)
    (fits : ∀ chunk ∈ chunks, chunk.digits.length < httpMaxRequestLine)
    (small : ∀ chunk ∈ chunks, chunk.data.length < ulongMax)
    (room : (body ++ chunks.flatMap Chunk.data).length ≤ bufferLength) :
    ∃ next left, AtSize next (body ++ chunks.flatMap Chunk.data) left ∧
      parser.feed ulongMax bufferLength (chunks.flatMap Chunk.bytes ++ rest) =
        next.feed ulongMax bufferLength rest := by
  induction chunks generalizing parser body text with
  | nil => exact ⟨parser, text, by simpa using atSize, rfl⟩
  | cons chunk chunks ih =>
      have size := strtoul_size ulongMax chunk.data.length chunk.digits chunk.sized
        (Nat.le_of_lt (small chunk List.mem_cons_self))
      rw [← sizeShown_digits text chunk.digits _ chunk.sized (fits chunk List.mem_cons_self)] at size
      rw [List.flatMap_cons, ← List.append_assoc] at room
      have split : (chunk :: chunks).flatMap Chunk.bytes ++ rest = (chunk.digits ++ [13]) ++
          10 :: (chunk.data ++ ([13] ++ 10 :: (chunks.flatMap Chunk.bytes ++ rest))) := by
        simp [Chunk.bytes, crlf]
      rcases feed_chunk ulongMax bufferLength parser body text (chunk.digits ++ [13]) chunk.data [13]
        atSize (digits_unended chunk.digits _ chunk.sized) size chunk.nonempty (by simp)
        (by simp only [List.length_append] at room; omega) with ⟨middle, after, first⟩
      rcases ih middle (body ++ chunk.data) _ after
        (fun other member => fits other (List.mem_cons_of_mem chunk member))
        (fun other member => small other (List.mem_cons_of_mem chunk member)) room
        with ⟨next, left, last, others⟩
      rw [List.append_assoc, ← List.flatMap_cons] at last
      exact ⟨next, left, last, by rw [split, first, others]⟩

/-- A chunked body, and what stands behind its 0 line. -/
theorem feed_coding (parser : Parser) (text : List UInt8) (coding : Coding) (rest : List UInt8)
    (atSize : AtSize parser [] text) (legible : coding.Legible) (small : coding.Small ulongMax)
    (room : coding.body.length ≤ bufferLength) :
    ∃ next, parser.feed ulongMax bufferLength (coding.bytes ++ rest) = .ok next ∧
      next.state = .finished ∧ next.stored = coding.body ∧
      next.nLength = coding.body.length := by
  rcases feed_chunks ulongMax bufferLength parser [] text coding.chunks
    ((coding.last ++ [13]) ++ 10 :: rest) atSize legible.1 small room with
    ⟨middle, left, between, chunks⟩
  have zero := strtoul_size ulongMax 0 coding.last coding.sized (Nat.zero_le _)
  rw [← sizeShown_digits left coding.last 0 coding.sized legible.2] at zero
  have split : coding.bytes ++ rest =
      coding.chunks.flatMap Chunk.bytes ++ ((coding.last ++ [13]) ++ 10 :: rest) := by
    simp [Coding.bytes, crlf]
  rw [split, chunks]
  exact feed_last ulongMax bufferLength middle _ left (coding.last ++ [13]) rest between
    (digits_unended coding.last 0 coding.sized) zero

/-- A chunked body that is complete but for the line end of its 0 line. -/
theorem feed_coding_short (parser : Parser) (text : List UInt8) (coding : Coding)
    (atSize : AtSize parser [] text) (legible : coding.Legible) (small : coding.Small ulongMax)
    (room : coding.body.length ≤ bufferLength) :
    ∃ next, parser.feed ulongMax bufferLength
        (coding.chunks.flatMap Chunk.bytes ++ (coding.last ++ [13])) = .ok next ∧
      next.state = .chunkHeader := by
  rcases feed_chunks ulongMax bufferLength parser [] text coding.chunks (coding.last ++ [13]) atSize
    legible.1 small room with ⟨middle, left, between, chunks⟩
  have read := feed_line ulongMax bufferLength middle (coding.last ++ [13]) (.inr between.state)
    between.fresh (digits_unended coding.last 0 coding.sized)
  exact ⟨_, chunks.trans read, (within_state _ _).trans between.state⟩

/-- The states behind which the answer is `HTTPOK` are not left again. -/
theorem step_over (parser next : Parser) (char : UInt8)
    (ended : parser.state = .finished ∨ parser.state = .content)
    (taken : parser.step ulongMax bufferLength char = .ok next) : next.state = parser.state := by
  rcases ended with finished | content
  · simp only [Parser.step, finished, Except.ok.injEq] at taken
    rw [← taken]
  · simp only [Parser.step, content, Parser.store] at taken
    split at taken
    · cases taken
    · cases taken
      exact content.symm

theorem feed_over (parser next : Parser) (stream : List UInt8)
    (ended : parser.state = .finished ∨ parser.state = .content)
    (fed : parser.feed ulongMax bufferLength stream = .ok next) : next.state = parser.state := by
  induction stream generalizing parser with
  | nil =>
      cases fed
      rfl
  | cons char rest ih =>
      simp only [Parser.feed] at fed
      cases taken : parser.step ulongMax bufferLength char with
      | error exit => simp [taken] at fed
      | ok middle =>
          simp only [taken] at fed
          have same := step_over ulongMax bufferLength parser middle char ended taken
          exact (ih middle (same ▸ ended) fed).trans same

/-- A stream that leaves the parser before a size line has no beginning that ends
the response. -/
theorem feed_beginning (parser next : Parser) (front back : List UInt8)
    (fed : parser.feed ulongMax bufferLength (front ++ back) = .ok next)
    (state : next.state = .chunkHeader) :
    ∃ middle, parser.feed ulongMax bufferLength front = .ok middle ∧
      middle.state ≠ .finished ∧ middle.state ≠ .content := by
  rw [feed_append] at fed
  cases first : parser.feed ulongMax bufferLength front with
  | error exit => simp [first] at fed
  | ok middle =>
      simp only [first] at fed
      refine ⟨middle, rfl, ?_, ?_⟩
      · intro finished
        have same := feed_over ulongMax bufferLength middle next back (.inl finished) fed
        simp [state, finished] at same
      · intro content
        have same := feed_over ulongMax bufferLength middle next back (.inr content) fed
        simp [state, content] at same

end Bodies

section Responses
variable (ulongMax length : Nat) (reads : List (List UInt8)) (header : Header)

theorem respond_plain (wellFormed : header.WellFormed) (legible : header.Legible)
    (body : List UInt8) (plain : header.Plain) (room : body.length ≤ length)
    (stream : delivered reads = header.bytes ++ body) :
    respond ulongMax length reads = ⟨.returned httpOK, body, body.length⟩ := by
  rcases feed_bytes ulongMax length header wellFormed legible body with ⟨first, opened, begun⟩
  have state := opened.plain (plain_unchunked header wellFormed legible plain body)
  rw [respond, receive_delivered, stream, begun, feed_content ulongMax length first body state
    (by rw [opened.nLength]; omega)]
  simp [finish, state, opened.stored, opened.nLength]

theorem respond_coded (wellFormed : header.WellFormed) (legible : header.Legible)
    (coding : Coding) (rest : List UInt8) (chunked : header.Chunked) (coded : coding.Legible)
    (small : coding.Small ulongMax) (room : coding.body.length ≤ length)
    (stream : delivered reads = header.bytes ++ (coding.bytes ++ rest)) :
    respond ulongMax length reads = ⟨.returned httpOK, coding.body, coding.body.length⟩ := by
  rcases feed_bytes ulongMax length header wellFormed legible (coding.bytes ++ rest) with
    ⟨first, opened, begun⟩
  have atSize := opened_atSize _ first opened
    (chunked_taken header wellFormed legible chunked _)
  rcases feed_coding ulongMax length first _ coding rest atSize coded small room with
    ⟨last, decoded, finished, stored, counted⟩
  rw [respond, receive_delivered, stream, begun, decoded]
  simp [finish, finished, stored, counted]

end Responses

section Requests
variable (ulongMax : Nat) (server : Server) (method : RequestMethod)
  (path serverName : List UInt8) (length : Nat) (formData : Option (List UInt8))

/-- `Request` returns the body of every legible response, copied or put together
from its chunks, and reports a chunked stream that ends too early. -/
theorem request_decodes (header : Header) (wellFormed : header.WellFormed)
    (legible : header.Legible)
    (accepts : Accepts server serverName (requestText method path serverName formData)) :
    (∀ body, header.Plain → body.length ≤ length →
      delivered server.reads = header.bytes ++ body →
        request ulongMax server method path serverName length formData =
          ⟨.returned httpOK, body, body.length⟩) ∧
    (∀ (coding : Coding) (rest : List UInt8), header.Chunked → coding.Legible →
      coding.Small ulongMax → coding.body.length ≤ length →
      delivered server.reads = header.bytes ++ (coding.bytes ++ rest) →
        request ulongMax server method path serverName length formData =
          ⟨.returned httpOK, coding.body, coding.body.length⟩) ∧
    (∀ (coding : Coding) (missing : List UInt8), header.Chunked → coding.Legible →
      coding.Small ulongMax → coding.body.length ≤ length → missing ≠ [] →
      delivered server.reads ++ missing = header.bytes ++ coding.bytes →
        (request ulongMax server method path serverName length formData).outcome =
          .returned httpConnectionReset) := by
  rw [request_accepted ulongMax server method path serverName length formData accepts]
  refine ⟨?_, ?_, ?_⟩
  · intro body plain room stream
    exact respond_plain ulongMax length server.reads header wellFormed legible body plain room stream
  · intro coding rest chunked coded small room stream
    exact respond_coded ulongMax length server.reads header wellFormed legible coding rest chunked
      coded small room stream
  · intro coding missing chunked coded small room short stream
    rw [respond, receive_delivered]
    let most := coding.chunks.flatMap Chunk.bytes ++ (coding.last ++ [13])
    rcases feed_bytes ulongMax length header wellFormed legible most with ⟨first, opened, begun⟩
    have atSize := opened_atSize _ first opened
      (chunked_taken header wellFormed legible chunked _)
    rcases feed_coding_short ulongMax length first _ coding atSize coded small room with
      ⟨before, decoded, state⟩
    -- at least the last line end is missing
    rcases List.eq_nil_or_concat' missing with empty | ⟨others, final, rfl⟩
    · exact absurd empty short
    have split : header.bytes ++ coding.bytes = (header.bytes ++ most) ++ [10] := by
      simp [most, Coding.bytes, crlf]
    rw [split, ← List.append_assoc] at stream
    have front := (List.append_inj' stream rfl).1
    have whole : Parser.start.feed ulongMax length (delivered server.reads ++ others) =
        .ok before := by
      rw [front, begun]
      exact decoded
    rcases feed_beginning ulongMax length Parser.start before _ others whole state with
      ⟨middle, reached, unfinished, uncopied⟩
    simp [reached, finish, unfinished, uncopied]

/-- The response may come in any pieces, and what a closed socket would deliver
later does not matter. -/
theorem request_independent_of_reads (reads others after later : List (List UInt8))
    (nonempty : ∀ read ∈ reads, read ≠ []) (filled : ∀ read ∈ others, read ≠ [])
    (same : reads.flatten = others.flatten) :
    request ulongMax { server with reads := reads ++ [] :: after } method path serverName length
        formData =
      request ulongMax { server with reads := others ++ [] :: later } method path serverName length
        formData := by
  have delivered_closed : ∀ pieces rest : List (List UInt8), (∀ read ∈ pieces, read ≠ []) →
      delivered (pieces ++ [] :: rest) = pieces.flatten := by
    intro pieces rest pieced
    rw [delivered, takeWhile_stops _ pieces ([] :: rest) (by simpa using pieced) (by simp)]
  have answer : respond ulongMax length (reads ++ [] :: after) =
      respond ulongMax length (others ++ [] :: later) := by
    rw [respond, respond, receive_delivered, receive_delivered,
      delivered_closed reads after nonempty, delivered_closed others later filled, same]
  simp only [request, answer]

end Requests

/-- A chunked response in two reads that cut a size line and the data behind it,
and in one read. -/
theorem chunked_reads_agree :
    request (2 ^ 32 - 1) { answering [] with
        reads := [ascii "HTTP/1.1 200 OK\nTransfer-Encoding: chunked\n\n1", ascii "\nA\n0\n"] ++
          [[]] } .get [] [] 4 none =
      request (2 ^ 32 - 1) { answering [] with
        reads := [ascii "HTTP/1.1 200 OK\nTransfer-Encoding: chunked\n\n1\nA\n0\n"] ++ [[]] }
        .get [] [] 4 none :=
  request_independent_of_reads (2 ^ 32 - 1) (answering []) .get [] [] 4 none
    [ascii "HTTP/1.1 200 OK\nTransfer-Encoding: chunked\n\n1", ascii "\nA\n0\n"]
    [ascii "HTTP/1.1 200 OK\nTransfer-Encoding: chunked\n\n1\nA\n0\n"] [] []
    (by decide) (by decide) (by decide)

def exampleHeader : Header := ⟨ascii "1.1", ascii "OK", [ascii "TRANSFER-Encoding: Chunked"]⟩

def exampleCoding : Coding where
  chunks := [⟨ascii "00A", ascii "0\r\n0\r\n5\r\n!", by decide,
    ⟨by decide, by decide +kernel, by decide⟩⟩]
  last := ascii "0"
  sized := ⟨by decide, by decide +kernel, by decide⟩

theorem exampleHeader_wellFormed : exampleHeader.WellFormed := by
  refine ⟨by decide, by decide, by decide, ?_⟩
  intro line member
  rw [List.mem_singleton.mp member]
  exact ⟨by decide, by decide +kernel, by decide +kernel⟩

theorem exampleHeader_legible : exampleHeader.Legible :=
  ⟨by decide, by decide, by decide, by decide⟩

theorem exampleHeader_decodes :
    request (2 ^ 32 - 1) (answering (exampleHeader.bytes ++ exampleCoding.bytes)) .get [] [] 10
      none = ⟨.returned httpOK, exampleCoding.body, exampleCoding.body.length⟩ := by
  have parts := request_decodes (2 ^ 32 - 1)
    (answering (exampleHeader.bytes ++ exampleCoding.bytes)) .get [] [] 10 none exampleHeader
    exampleHeader_wellFormed exampleHeader_legible (answering_accepts _ _ _)
  apply parts.2.1 exampleCoding []
  · exact ⟨_, List.mem_singleton_self _, by decide⟩
  · exact ⟨by decide, by decide⟩
  · simp [Coding.Small, exampleCoding, ascii]
  · decide
  · simp [answering, delivered, Header.bytes, Header.statusText, exampleHeader, ascii]

def bareHeader (version : List UInt8) : Header := ⟨version, ascii "OK", []⟩

theorem bareHeader_wellFormed (version : List UInt8) (versioned : version ≠ [])
    (clean : 32 ∉ version ∧ 10 ∉ version) : (bareHeader version).WellFormed :=
  ⟨versioned, clean.1, ⟨clean.2, (by decide : 10 ∉ ascii "OK")⟩,
    fun _ member => absurd member List.not_mem_nil⟩

def longVersion : List UInt8 := List.replicate 2047 49

theorem longVersion_without (char : UInt8) (other : char ≠ 49) : char ∉ longVersion :=
  fun member => other (List.eq_of_mem_replicate member)

def longZeros : List UInt8 := List.replicate 2047 48 ++ [49]

theorem longZeros_sized : SizeLine longZeros 1 := by
  refine ⟨List.append_ne_nil_of_right_ne_nil _ (by decide), ?_, by decide +kernel⟩
  intro digit member
  rcases List.mem_append.mp member with zero | one
  · rw [List.eq_of_mem_replicate zero]
    decide
  · rw [List.mem_singleton.mp one]
    decide

def longCoding : Coding where
  chunks := [⟨longZeros, [65], by decide, longZeros_sized⟩]
  last := ascii "0"
  sized := ⟨by decide, by decide +kernel, by decide⟩

def crowdedHeader : Header := ⟨ascii "1.1", ascii "OK", List.replicate (2 ^ 32) (ascii "a")⟩

theorem crowdedHeader_wellFormed : crowdedHeader.WellFormed := by
  refine ⟨by decide, by decide, by decide, fun line member => ?_⟩
  rw [List.eq_of_mem_replicate member]
  exact ⟨by decide, by decide +kernel, by decide +kernel⟩

theorem crowdedHeader_plain : crowdedHeader.Plain := by
  intro line member
  rw [List.eq_of_mem_replicate member]
  decide +kernel

theorem respond_answering (ulongMax length : Nat) (segment : List UInt8) (some : segment ≠ []) :
    delivered (answering segment).reads = segment ∧
      request ulongMax (answering segment) .get [] [] length none =
        respond ulongMax length (answering segment).reads := by
  constructor
  · simp [delivered, answering, some]
  · exact request_accepted ulongMax _ .get [] [] length none (answering_accepts segment _ [])

theorem bytes_nonempty (header : Header) : header.bytes ≠ [] := by
  simp [Header.bytes, Header.statusText, ascii]

-- the last line has the number 2^32, which is 0 again
theorem request_crowded :
    (request (2 ^ 32 - 1) (answering crowdedHeader.bytes) .get [] [] 0 none).outcome =
      .returned httpInvalidResponseCode := by
  rcases respond_answering (2 ^ 32 - 1) 0 crowdedHeader.bytes (bytes_nonempty _) with ⟨seen, answer⟩
  have lines := headerFrom_bytes crowdedHeader crowdedHeader_wellFormed []
  rw [List.append_nil] at lines
  have unaccepted : ¬ Accepted (ascii "a") := by
    rw [accepted_iff]
    rintro ⟨cells, accepted⟩
    have verdict : statusLine (kept (ascii "a")) = .rejected (ascii "a") := by decide +kernel
    rw [verdict] at accepted
    cases accepted
  have status : Accepted (withoutReturns crowdedHeader.statusText) := by
    rw [accepted_iff]
    exact ⟨_, (by decide +kernel : statusLine (kept (withoutReturns (ascii "HTTP/1.1 200 OK"))) =
      .accepted [72, 84, 84, 80, 0, 49, 46, 49, 0, 50, 48, 48, 0, 79, 75])⟩
  have many := stopsFrom_many 1 (ascii "a") [] (2 ^ 32 - 1) Nat.one_pos rfl unaccepted
  have stops : Stops (delivered (answering crowdedHeader.bytes).reads) (ascii "a") := by
    rw [seen, Stops, headerLines, lines]
    refine .later 0 _ _ _ (fun _ => status) ?_
    have split : crowdedHeader.lines =
        List.replicate (2 ^ 32 - 1) (ascii "a") ++ [ascii "a"] := List.replicate_succ'
    rw [split]
    exact many
  rw [answer, respond_stopped _ _ _ _ stops]
  decide +kernel

theorem request_longVersion :
    (request (2 ^ 32 - 1) (answering (bareHeader longVersion).bytes) .get [] [] 0 none).outcome =
      .nullToken := by
  rcases respond_answering (2 ^ 32 - 1) 0 (bareHeader longVersion).bytes (bytes_nonempty _) with
    ⟨seen, answer⟩
  have wellFormed := bareHeader_wellFormed longVersion (List.cons_ne_nil _ _)
    ⟨longVersion_without 32 (by decide), longVersion_without 10 (by decide)⟩
  have lines := headerFrom_bytes (bareHeader longVersion) wellFormed []
  rw [List.append_nil] at lines
  have missing : statusLine (kept (withoutReturns (bareHeader longVersion).statusText)) =
      .missing := by
    decide +kernel
  have unaccepted : ¬ Accepted (withoutReturns (bareHeader longVersion).statusText) := by
    rw [accepted_iff, missing]
    rintro ⟨cells, accepted⟩
    cases accepted
  have stops : Stops (delivered (answering (bareHeader longVersion).bytes).reads)
      (withoutReturns (bareHeader longVersion).statusText) := by
    rw [seen, Stops, headerLines, lines]
    exact .here 0 _ _ rfl unaccepted
  rw [answer, respond_stopped _ _ _ _ stops, refusal, missing]

theorem request_longZeros :
    request (2 ^ 32 - 1) (answering (exampleHeader.bytes ++ longCoding.bytes)) .get [] [] 1 none =
      ⟨.returned httpOK, [], 0⟩ := by
  rcases respond_answering (2 ^ 32 - 1) 1 (exampleHeader.bytes ++ longCoding.bytes)
    (List.append_ne_nil_of_left_ne_nil (bytes_nonempty _) _) with ⟨seen, answer⟩
  rcases feed_bytes (2 ^ 32 - 1) 1 exampleHeader exampleHeader_wellFormed exampleHeader_legible
    longCoding.bytes with ⟨first, opened, begun⟩
  have atSize := opened_atSize _ first opened (chunked_taken exampleHeader exampleHeader_wellFormed
    exampleHeader_legible ⟨_, List.mem_singleton_self _, by decide⟩ _)
  have clean : withoutReturns (longZeros ++ [13]) = longZeros := by
    rw [withoutReturns_append, withoutReturns_return, List.append_nil,
      withoutReturns_clean longZeros fun char member =>
        digit_ne char 13 (longZeros_sized.hex char member) (by decide)]
  have zero : strtoul (2 ^ 32 - 1) 16 (sizeShown (left (exampleHeader.bytes ++ longCoding.bytes))
      (longZeros ++ [13])) = (0, []) := by
    rw [sizeShown, clean, if_neg longZeros_sized.nonempty]
    decide +kernel
  have split : longCoding.bytes = (longZeros ++ [13]) ++ 10 :: ([65] ++ crlf ++ (ascii "0" ++
      crlf)) := by
    simp [Coding.bytes, Chunk.bytes, longCoding, crlf]
  rcases feed_last (2 ^ 32 - 1) 1 first [] _ (longZeros ++ [13])
    ([65] ++ crlf ++ (ascii "0" ++ crlf)) atSize (digits_unended longZeros 1 longZeros_sized) zero
    with ⟨last, decoded, finished, stored, counted⟩
  rw [answer, respond, receive_delivered, seen, begun, split, decoded]
  simp [finish, finished, stored, counted]

/-- A version that is NUL, one that is a carriage return, and one that leaves no
room for the 200 are not accepted, no more are 2^32 lines behind the first one, and
the size of a chunk is lost behind zeros. -/
theorem illegible_not_decoded :
    ((bareHeader [0]).WellFormed ∧ (bareHeader [0]).Plain ∧
      (request (2 ^ 32 - 1) (answering (bareHeader [0]).bytes) .get [] [] 0 none).outcome =
        .nullToken) ∧
    ((bareHeader [13]).WellFormed ∧ (bareHeader [13]).Plain ∧
      (request (2 ^ 32 - 1) (answering (bareHeader [13]).bytes) .get [] [] 0 none).outcome =
        .returned httpInvalidResponseCode) ∧
    ((bareHeader longVersion).WellFormed ∧ (bareHeader longVersion).Plain ∧
      (request (2 ^ 32 - 1) (answering (bareHeader longVersion).bytes) .get [] [] 0
        none).outcome = .nullToken) ∧
    (crowdedHeader.WellFormed ∧ crowdedHeader.Plain ∧
      (request (2 ^ 32 - 1) (answering crowdedHeader.bytes) .get [] [] 0 none).outcome =
        .returned httpInvalidResponseCode) ∧
    (exampleHeader.WellFormed ∧ exampleHeader.Chunked ∧ longCoding.body = [65] ∧
      request (2 ^ 32 - 1) (answering (exampleHeader.bytes ++ longCoding.bytes)) .get [] [] 1
        none = ⟨.returned httpOK, [], 0⟩) := by
  have plain : ∀ version, (bareHeader version).Plain :=
    fun _ _ member => absurd member List.not_mem_nil
  refine ⟨⟨?_, plain _, by decide⟩, ⟨?_, plain _, by decide⟩, ⟨?_, plain _, request_longVersion⟩,
    ⟨crowdedHeader_wellFormed, crowdedHeader_plain, request_crowded⟩,
    exampleHeader_wellFormed, ⟨_, List.mem_singleton_self _, by decide⟩, rfl, request_longZeros⟩
  · exact bareHeader_wellFormed [0] (by decide) (by decide)
  · exact bareHeader_wellFormed [13] (by decide) (by decide)
  · exact bareHeader_wellFormed longVersion (List.cons_ne_nil _ _)
      ⟨longVersion_without 32 (by decide), longVersion_without 10 (by decide)⟩

end CircleStdlib.HttpBody
