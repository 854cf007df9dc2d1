import CircleStdlib.HttpBody
import CircleStdlib.HttpMessages

/-!
The size lines of a chunked response. Whether a response is chunked is said by its
header fields, and where its size lines are by the chunked coding. `Line` is shared
with the header and is overwritten only from its first character on, and `strtoul`
takes more spellings than the hexadecimal digits of the coding.
-/

namespace CircleStdlib.HttpChunks

open CText Numerals HttpClient HttpLines HttpStatusLine HttpHeaders HttpDecoding HttpBody
open HttpMessages (trim)

/-! Which responses are chunked. -/

/-- The codings that a field tells if it is a `Transfer-Encoding`: what stands behind the
colon, between commas. -/
def codings (line : List UInt8) : List (List UInt8) :=
  if 58 ∈ line ∧
      sameIgnoringCase (line.takeWhile (· ≠ 58)) (ascii "Transfer-Encoding") = true then
    ((((line.dropWhile (· ≠ 58)).tail).splitOn 44).map trim).filter (· ≠ [])
  else []

/-- The fields announce the chunked coding: it is the last one of all. -/
def Announced (fields : List (List UInt8)) : Prop :=
  ∃ coding ∈ (fields.flatMap codings).getLast?,
    sameIgnoringCase coding (ascii "chunked") = true

/-- A response whose first line is taken for a status line with 200, and whose other fields
announce chunks, or are taken to. `body` stands behind the empty line. -/
structure ChunkedResponse (stream body : List UInt8) : Prop where
  over_ : bodyOf stream = some body
  announced : ∃ line fields, headerLines stream = line :: fields ∧ Accepted line ∧
    (Announced fields ∨ TakenChunked stream)

/-! The chunked coding. -/

inductive Chunks : List UInt8 → List UInt8 → Prop where
  | nil : Chunks [] []
  | cons (line data returns chunks more : List UInt8) (unended : 10 ∉ line)
      (sized : SizeLine (withoutReturns line) data.length) (some : data ≠ [])
      (gap : ∀ char ∈ returns, char = 13) (later : Chunks chunks more) :
      Chunks (line ++ 10 :: (data ++ (returns ++ 10 :: chunks))) (data ++ more)

def ChunkedBody (body : List UInt8) : Prop :=
  ∃ chunks data last, Chunks chunks data ∧ 10 ∉ last ∧ SizeLine (withoutReturns last) 0 ∧
    body = chunks ++ (last ++ [10])

structure SizeLineAt (room : Nat) (body chunks line rest : List UInt8) : Prop where
  body : body = chunks ++ (line ++ 10 :: rest)
  coded : ∃ data, Chunks chunks data ∧ data.length ≤ room
  unended : 10 ∉ line

/-- What the end of a size line leads to, of which the parser has taken all before: the length
that its digits spell, or the status for an invalid one. -/
def Validated (ulongMax bufferLength : Nat) (text : List UInt8) : Except Exit Parser → Prop
  | .error _ => False
  | .ok parser => parser.state = .chunkHeader ∧
      match parser.step ulongMax bufferLength 10 with
      | .error exit => exit.outcome = .returned httpInvalidChunkHeader ∧
          ∀ size, ¬ SizeLine text size
      | .ok next => SizeLine text next.ulBytes

structure ChunksValidated (ulongMax length : Nat) (reads : List (List UInt8)) : Prop where
  lines : ∀ front body chunks line rest, ChunkedResponse (delivered reads) body →
    delivered reads = front ++ body → SizeLineAt length body chunks line rest →
      Validated ulongMax length (withoutReturns line)
        (Parser.start.feed ulongMax length (front ++ (chunks ++ line)))
  refused : ∀ body chunks line rest, ChunkedResponse (delivered reads) body →
    SizeLineAt length body chunks line rest → (∀ size, ¬ SizeLine (withoutReturns line) size) →
      (respond ulongMax length reads).outcome = .returned httpInvalidChunkHeader
  complete : ∀ body, ChunkedResponse (delivered reads) body →
    (respond ulongMax length reads).outcome = .returned httpOK →
      ∃ coded tail, body = coded ++ tail ∧ ChunkedBody coded

/-! The condition. -/

/-- `stale` says that the line, when it is empty, leaves a number in `Line`. -/
structure LineSound (ulongMax : Nat) (text : List UInt8) (stale : Prop) : Prop where
  empty : text = [] → ¬ stale
  number : text ≠ [] → (∀ digit ∈ text, digitValue digit < 16) →
    numeral 16 text = 0 ∨ text.length < httpMaxRequestLine ∧ numeral 16 text ≤ ulongMax
  other : ¬ (∀ digit ∈ text, digitValue digit < 16) → ¬ Lenient (shown text)

/-- Each size line is none that is empty behind a chunk, or while what `Line` shows of the
header is a number, none that is too long or too large, and nothing else that `strtoul` takes. -/
def LinesSound (ulongMax room : Nat) (text body : List UInt8) : Prop :=
  ∀ chunks line rest, SizeLineAt room body chunks line rest →
    LineSound ulongMax (withoutReturns line) (chunks ≠ [] ∨ Lenient text)

/-- The header is taken to its end, and for the header of a chunked response; the size lines
are as above. Where the body has no line end at all, its response is only not to be
taken for complete. -/
structure ChunksSound (ulongMax length : Nat) (stream body : List UInt8) : Prop where
  header : 10 ∈ body → Passes stream ∧ TakenChunked stream
  lines : LinesSound ulongMax length (left stream) body
  unended : 10 ∉ body →
    (∀ line token, Stops stream line → Refused line token → ¬ Counts ulongMax httpOK token) ∧
      (Passes stream → ¬ TakenChunked stream → length < body.length)

/-! The value of a size line, and what `Line` keeps of it. -/

/-- Of a line that is too long only the first digits count, and that is another number
unless it is zero. -/
theorem kept_numeral_iff (ulongMax : Nat) (text : List UInt8) :
    min (numeral 16 (kept text)) ulongMax = numeral 16 text ↔
      numeral 16 text = 0 ∨
        text.length < httpMaxRequestLine ∧ numeral 16 text ≤ ulongMax := by
  by_cases long : text.length < httpMaxRequestLine
  · rw [kept_of_fits text long]
    omega
  · have value : numeral 16 text = numeral 16 (kept text) *
        16 ^ (text.drop (httpMaxRequestLine - 1)).length +
          numeral 16 (text.drop (httpMaxRequestLine - 1)) := by
      rw [← numeral_append]
      exact congrArg _ (List.take_append_drop _ text).symm
    have more : 16 ≤ 16 ^ (text.drop (httpMaxRequestLine - 1)).length := by
      apply Nat.le_self_pow
      rw [List.length_drop]
      have size : httpMaxRequestLine = 2048 := rfl
      omega
    have larger := Nat.mul_le_mul_left (numeral 16 (kept text)) more
    omega

theorem hex_clean (digits : List UInt8) (hex : ∀ digit ∈ digits, digitValue digit < 16) :
    0 ∉ digits := by
  intro present
  exact absurd (hex 0 present) (by decide)

theorem kept_hex (digits : List UInt8) (hex : ∀ digit ∈ digits, digitValue digit < 16) :
    ∀ digit ∈ kept digits, digitValue digit < 16 :=
  fun digit present => hex digit (List.mem_of_mem_take present)

theorem lineSound_stale (ulongMax : Nat) (text : List UInt8) (stale other : Prop)
    (implies : other → stale) (sound : LineSound ulongMax text stale) :
    LineSound ulongMax text other :=
  ⟨fun empty left => sound.empty empty (implies left), sound.number, sound.other⟩

/-- What `Line` shows of hexadecimal digits is the beginning of them. -/
theorem shown_hex (digits : List UInt8) (hex : ∀ digit ∈ digits, digitValue digit < 16) :
    shown digits = kept digits :=
  cstr_clean _ (hex_clean _ (kept_hex digits hex))

theorem lenient_hex (digits : List UInt8) (hex : ∀ digit ∈ digits, digitValue digit < 16) :
    Lenient digits := by
  by_cases some : digits = []
  · exact .inl some
  · exact .inr ⟨[], [], [], digits, rfl, by simp, by simp, by simp, some, hex⟩

theorem strtoul_shown (ulongMax : Nat) (text : List UInt8) (some : text ≠ [])
    (hex : ∀ digit ∈ text, digitValue digit < 16) :
    strtoul ulongMax 16 (shown text) = (min (numeral 16 (kept text)) ulongMax, []) := by
  rw [shown_hex text hex]
  exact strtoul_hex ulongMax (kept text) (kept_nonempty text some) (kept_hex text hex)

section Lines
variable (ulongMax : Nat) (text line : List UInt8)

/-- A sound line that is a number is taken for it. -/
theorem sound_taken (size : Nat) (sound : LineSound ulongMax (withoutReturns line) (Lenient text))
    (sized : SizeLine (withoutReturns line) size) :
    strtoul ulongMax 16 (sizeShown text line) = (size, []) ∧ Lenient (sizeShown text line) := by
  have number := (kept_numeral_iff ulongMax (withoutReturns line)).mpr
    (sound.number sized.nonempty sized.hex)
  rw [sizeShown, if_neg sized.nonempty, strtoul_shown ulongMax _ sized.nonempty sized.hex, number,
    sized.counts]
  refine ⟨rfl, ?_⟩
  rw [shown_hex _ sized.hex]
  exact lenient_hex _ (kept_hex _ sized.hex)

/-- A sound line that is taken is the number that it is taken for. -/
theorem sound_sized (size : Nat) (sound : LineSound ulongMax (withoutReturns line) (Lenient text))
    (taken : strtoul ulongMax 16 (sizeShown text line) = (size, [])) :
    SizeLine (withoutReturns line) size := by
  have lenient := (strtoul_rest_iff ulongMax (sizeShown text line)).mp (by rw [taken])
  by_cases empty : withoutReturns line = []
  · rw [sizeShown, if_pos empty] at lenient
    exact absurd lenient (sound.empty empty)
  · rw [sizeShown, if_neg empty] at lenient taken
    by_cases hex : ∀ digit ∈ withoutReturns line, digitValue digit < 16
    · have number := (kept_numeral_iff ulongMax (withoutReturns line)).mpr (sound.number empty hex)
      rw [strtoul_shown ulongMax _ empty hex, number] at taken
      exact ⟨empty, hex, (Prod.mk.inj taken).1⟩
    · exact absurd lenient (sound.other hex)

/-- The line ends as it should exactly when it is sound. -/
theorem validated_iff (bufferLength : Nat) (parser : Parser) (body : List UInt8)
    (atSize : AtSize parser body text) :
    Validated ulongMax bufferLength (withoutReturns line)
        (.ok (within parser (withoutReturns line))) ↔
      LineSound ulongMax (withoutReturns line) (Lenient text) := by
  have state := (within_state parser (withoutReturns line)).trans atSize.state
  have step := step_sizeLine ulongMax bufferLength parser line body text atSize
  have lenient := strtoul_rest_iff ulongMax (sizeShown text line)
  simp only [Validated, state, true_and]
  by_cases rest : (strtoul ulongMax 16 (sizeShown text line)).2 = []
  · rw [if_neg (not_not.mpr rest)] at step
    rw [step]
    dsimp only
    constructor
    · intro sized
      refine ⟨fun empty => absurd empty sized.nonempty, fun some hex => ?_, fun other =>
        absurd sized.hex other⟩
      have counts := sized.counts
      rw [sizeShown, if_neg some, strtoul_shown ulongMax _ some hex] at counts
      exact (kept_numeral_iff ulongMax _).mp counts.symm
    · intro sound
      exact sound_sized ulongMax text line _ sound (Prod.ext rfl rest)
  · rw [if_pos rest] at step
    rw [step]
    refine iff_of_true ⟨rfl, fun size sized => ?_⟩ ⟨fun empty => ?_, fun some hex => ?_, fun _ => ?_⟩
    · apply rest
      rw [sizeShown, if_neg sized.nonempty, strtoul_shown ulongMax _ sized.nonempty sized.hex]
    · rwa [lenient, sizeShown, if_pos empty] at rest
    · rw [sizeShown, if_neg some, strtoul_shown ulongMax _ some hex] at rest
      exact absurd rfl rest
    · by_cases empty : withoutReturns line = []
      · rename_i other
        rw [empty] at other
        simp at other
      · rwa [lenient, sizeShown, if_neg empty] at rest

end Lines

section Bodies
variable (ulongMax bufferLength : Nat)

/-- A position behind the first chunk is one in the whole body. -/
theorem sizeLineAt_behind (room : Nat) (line data returns body chunks next rest : List UInt8)
    (unended : 10 ∉ line) (sized : SizeLine (withoutReturns line) data.length) (some : data ≠ [])
    (gap : ∀ char ∈ returns, char = 13) (place : SizeLineAt room body chunks next rest) :
    SizeLineAt (data.length + room) (line ++ 10 :: (data ++ (returns ++ 10 :: body)))
      (line ++ 10 :: (data ++ (returns ++ 10 :: chunks))) next rest := by
  rcases place with ⟨rfl, ⟨more, coded, fits⟩, unbroken⟩
  refine ⟨by simp, ⟨data ++ more, .cons line data returns chunks more unended sized some gap coded,
    ?_⟩, unbroken⟩
  rw [List.length_append]
  omega

theorem linesSound_first (room : Nat) (text line rest : List UInt8) (unended : 10 ∉ line)
    (sound : LinesSound ulongMax room text (line ++ 10 :: rest)) :
    LineSound ulongMax (withoutReturns line) (Lenient text) :=
  lineSound_stale ulongMax _ _ _ Or.inr
    (sound [] line rest ⟨rfl, ⟨[], .nil, Nat.zero_le _⟩, unended⟩)

theorem linesSound_behind (room : Nat) (text other line data returns body : List UInt8)
    (unended : 10 ∉ line) (sized : SizeLine (withoutReturns line) data.length) (some : data ≠ [])
    (gap : ∀ char ∈ returns, char = 13)
    (sound : LinesSound ulongMax (data.length + room) text
      (line ++ 10 :: (data ++ (returns ++ 10 :: body)))) :
    LinesSound ulongMax room other body := by
  intro chunks next rest place
  have whole := sound _ next rest
    (sizeLineAt_behind room line data returns body chunks next rest unended sized some gap place)
  exact lineSound_stale ulongMax _ _ _ (fun _ => .inl (by simp)) whole

/-- The parser behind chunks whose size lines are sound. -/
theorem feed_sound (chunks data : List UInt8) (coded : Chunks chunks data) (parser : Parser)
    (body text rest : List UInt8) (room : Nat) (atSize : AtSize parser body text)
    (counted : body.length + room = bufferLength) (fits : data.length ≤ room)
    (sound : LinesSound ulongMax room text (chunks ++ rest)) :
    ∃ next left, AtSize next (body ++ data) left ∧ (Lenient left → chunks ≠ [] ∨ Lenient text) ∧
      ∀ other, parser.feed ulongMax bufferLength (chunks ++ other) =
        next.feed ulongMax bufferLength other := by
  induction coded generalizing parser body text room with
  | nil => exact ⟨parser, text, by simpa using atSize, .inr, fun other => rfl⟩
  | cons line data returns chunks more unended sized some gap later ih =>
      rw [List.length_append] at fits
      have whole : data.length + (room - data.length) = room := by omega
      have split : ∀ other, (line ++ 10 :: (data ++ (returns ++ 10 :: chunks))) ++ other =
          line ++ 10 :: (data ++ (returns ++ 10 :: (chunks ++ other))) := by
        intro other
        simp
      rw [split, ← whole] at sound
      rcases sound_taken ulongMax text line data.length
        (linesSound_first ulongMax _ text line _ unended sound) sized with ⟨taken, lenient⟩
      rcases feed_chunk ulongMax bufferLength parser body text line data returns atSize unended taken
        some gap (by omega) with ⟨middle, after, first⟩
      rcases ih middle (body ++ data) (sizeShown text line) (room - data.length) after
        (by rw [List.length_append]; omega) (by omega)
        (linesSound_behind ulongMax _ text _ line data returns _ unended sized some gap sound) with
        ⟨next, left, last, -, others⟩
      rw [List.append_assoc] at last
      refine ⟨next, left, last, fun _ => .inl (by simp), fun other => ?_⟩
      rw [split, first, others]

def LinesValidated (room : Nat) (parser : Parser) (body : List UInt8) : Prop :=
  ∀ chunks line rest, SizeLineAt room body chunks line rest →
    Validated ulongMax bufferLength (withoutReturns line)
      (parser.feed ulongMax bufferLength (chunks ++ line))

theorem validated_first (room : Nat) (parser : Parser) (body text line rest : List UInt8)
    (atSize : AtSize parser body text) (unended : 10 ∉ line)
    (validated : LinesValidated ulongMax bufferLength room parser (line ++ 10 :: rest)) :
    LineSound ulongMax (withoutReturns line) (Lenient text) := by
  have ends := validated [] line rest ⟨rfl, ⟨[], .nil, Nat.zero_le _⟩, unended⟩
  rw [List.nil_append, feed_line ulongMax bufferLength parser line (.inr atSize.state)
    atSize.fresh unended] at ends
  exact (validated_iff ulongMax text line bufferLength parser body atSize).mp ends

-- the induction is on the chunks in front of the line: each of their lines is validated, too
theorem sound_of_validated (chunks data : List UInt8) (coded : Chunks chunks data)
    (parser : Parser) (body text line rest : List UInt8) (room : Nat)
    (atSize : AtSize parser body text) (counted : body.length + room = bufferLength)
    (fits : data.length ≤ room) (unended : 10 ∉ line)
    (validated : LinesValidated ulongMax bufferLength room parser
      (chunks ++ (line ++ 10 :: rest))) :
    LineSound ulongMax (withoutReturns line) (chunks ≠ [] ∨ Lenient text) := by
  induction coded generalizing parser body text room with
  | nil =>
      have own := validated_first ulongMax bufferLength room parser body text line rest atSize
        unended validated
      exact lineSound_stale ulongMax _ _ _ (fun stale => stale.resolve_left fun some => some rfl) own
  | cons start data returns chunks more unbroken sized some gap later ih =>
      rw [List.length_append] at fits
      have whole : data.length + (room - data.length) = room := by omega
      have split : ∀ other, (start ++ 10 :: (data ++ (returns ++ 10 :: chunks))) ++ other =
          start ++ 10 :: (data ++ (returns ++ 10 :: (chunks ++ other))) := by
        intro other
        simp
      rw [split] at validated
      have first := validated_first ulongMax bufferLength room parser body text start _ atSize
        unbroken validated
      rcases sound_taken ulongMax text start data.length first sized with ⟨taken, lenient⟩
      rcases feed_chunk ulongMax bufferLength parser body text start data returns atSize unbroken
        taken some gap (by omega) with ⟨middle, after, fed⟩
      have behind : LinesValidated ulongMax bufferLength (room - data.length) middle
          (chunks ++ (line ++ 10 :: rest)) := by
        intro further next others place
        have ends := validated _ next others (whole ▸ sizeLineAt_behind _ start data returns _
          further next others unbroken sized some gap place)
        rwa [List.append_assoc, List.cons_append, List.append_assoc, List.append_assoc,
          List.cons_append, fed] at ends
      have own := ih middle (body ++ data) (sizeShown text start) (room - data.length) after
        (by rw [List.length_append]; omega) (by omega) behind
      exact lineSound_stale ulongMax _ _ _ (fun _ => .inr lenient) own

theorem linesValidated_iff (room : Nat) (parser : Parser) (stored text body : List UInt8)
    (atSize : AtSize parser stored text) (counted : stored.length + room = bufferLength) :
    LinesValidated ulongMax bufferLength room parser body ↔ LinesSound ulongMax room text body := by
  constructor
  · rintro validated chunks line rest ⟨rfl, ⟨data, coded, fits⟩, unended⟩
    exact sound_of_validated ulongMax bufferLength chunks data coded parser stored text line rest
      room atSize counted fits unended validated
  · rintro sound chunks line rest ⟨rfl, ⟨data, coded, fits⟩, unended⟩
    rcases feed_sound ulongMax bufferLength chunks data coded parser stored text
      (line ++ 10 :: rest) room atSize counted fits sound with ⟨next, left, after, stale, fed⟩
    rw [fed, feed_line ulongMax bufferLength next line (.inr after.state) after.fresh unended]
    apply (validated_iff ulongMax left line bufferLength next _ after).mpr
    exact lineSound_stale ulongMax _ _ _ stale
      (sound chunks line rest ⟨rfl, ⟨data, coded, fits⟩, unended⟩)

/-- With sound size lines only bodies of the chunked coding are taken to their end. -/
theorem decodes_coded (room : Nat) (text body : List UInt8)
    (decodes : Decodes ulongMax room text body) (sound : LinesSound ulongMax room text body) :
    ∃ coded tail, body = coded ++ tail ∧ ChunkedBody coded := by
  induction decodes with
  | last room text line rest unended zero =>
      have sized := sound_sized ulongMax text line 0
        (linesSound_first ulongMax room text line rest unended sound) zero
      exact ⟨line ++ [10], rest, by simp, [], [], line, .nil, unended, sized, rfl⟩
  | chunk room text line data returns rest unended size some gap later ih =>
      have sized := sound_sized ulongMax text line data.length
        (linesSound_first ulongMax _ text line _ unended sound) size
      rcases ih (linesSound_behind ulongMax room text _ line data returns rest unended sized some gap
        sound) with ⟨coded, tail, rfl, chunks, more, last, before, unbroken, zero, rfl⟩
      refine ⟨(line ++ 10 :: (data ++ (returns ++ 10 :: chunks))) ++ (last ++ [10]), tail, by simp,
        _, _, last, .cons line data returns chunks more unended sized some gap before, unbroken, zero,
        rfl⟩

end Bodies

theorem chunkedBody_ended (body : List UInt8) (coded : ChunkedBody body) : 10 ∈ body := by
  rcases coded with ⟨chunks, data, last, -, -, -, rfl⟩
  simp

section Responses
variable (ulongMax length : Nat) (reads : List (List UInt8))

/-- In a header that has not been read to its end, or is not taken for that of a chunked
response, no size line is validated. -/
theorem header_of_validated (front line : List UInt8)
    (same : ∀ other, headerFrom [] (front ++ other) =
      (headerLines (delivered reads), some other))
    (validated : Validated ulongMax length (withoutReturns line)
      (Parser.start.feed ulongMax length (front ++ line))) :
    Passes (delivered reads) ∧ TakenChunked (delivered reads) := by
  have lines : headerLines (front ++ line) = headerLines (delivered reads) := by
    rw [headerLines, same]
  rcases passes_or_stops 0 (headerLines (delivered reads)) with passes | ⟨stop, stops⟩
  · refine ⟨passes, ?_⟩
    by_contra plain
    have own : ¬ TakenChunked (front ++ line) := by rwa [TakenChunked, lines]
    rcases feed_opened ulongMax length (front ++ line) line (by rwa [Passes, lines])
      (by rw [bodyOf, same]) with ⟨head, parser, whole, opened, fed⟩
    have state := opened.plain own
    rw [whole, fed] at validated
    by_cases room : parser.nLength + line.length ≤ length
    · rw [feed_content ulongMax length parser line state room] at validated
      have other := validated.1
      dsimp only at other
      rw [state] at other
      cases other
    · rcases feed_content_full ulongMax length parser line state
        (by rw [opened.nLength]; exact Nat.zero_le _) (by omega) with ⟨stored, full⟩
      rw [full] at validated
      exact validated
  · have stopped := feed_stopped ulongMax length (front ++ line) stop (by rwa [Stops, lines])
    rw [stopped] at validated
    exact validated.elim

/-- A body without a line end is no complete chunked body. -/
theorem unended_of_validated (body : List UInt8) (unended : 10 ∉ body)
    (response : ChunkedResponse (delivered reads) body)
    (validated : ChunksValidated ulongMax length reads) :
    (∀ line token, Stops (delivered reads) line → Refused line token →
      ¬ Counts ulongMax httpOK token) ∧
    (Passes (delivered reads) → ¬ TakenChunked (delivered reads) → length < body.length) := by
  have never : (respond ulongMax length reads).outcome ≠ .returned httpOK := by
    intro ok
    rcases validated.complete body response ok with ⟨coded, tail, rfl, closed⟩
    exact unended (List.mem_append_left tail (chunkedBody_ended coded closed))
  constructor
  · intro line token stops refused counts
    apply never
    rw [respond_stopped ulongMax length reads line stops]
    exact (refusal_status ulongMax httpOK line (by decide)).mpr ⟨token, refused, counts⟩
  · intro passes plain
    by_contra small
    rcases feed_opened ulongMax length _ body passes response.over_ with
      ⟨front, parser, whole, opened, fed⟩
    have state := opened.plain plain
    apply never
    rw [respond, receive_delivered, whole, fed, feed_content ulongMax length parser body state
      (by rw [opened.nLength]; omega)]
    simp [finish, state]

theorem sound_of_chunksValidated (body : List UInt8)
    (response : ChunkedResponse (delivered reads) body)
    (validated : ChunksValidated ulongMax length reads) :
    ChunksSound ulongMax length (delivered reads) body := by
  rcases headerFrom_over [] (delivered reads) body response.over_ with ⟨front, whole, same⟩
  have header : 10 ∈ body → Passes (delivered reads) ∧ TakenChunked (delivered reads) := by
    intro ended
    rcases List.eq_append_cons_of_mem ended with ⟨line, rest, split, unended⟩
    apply header_of_validated ulongMax length reads front line same
    exact validated.lines front body [] line rest response whole
      ⟨split, ⟨[], .nil, Nat.zero_le _⟩, unended⟩
  refine ⟨header, ?_, fun unended => unended_of_validated ulongMax length reads body unended response
    validated⟩
  intro chunks line rest place
  rcases header (by rw [place.body]; simp) with ⟨passes, chunked⟩
  rcases feed_opened ulongMax length _ body passes response.over_ with
    ⟨head, parser, split, opened, fed⟩
  have atSize := opened_atSize _ parser opened chunked
  refine (linesValidated_iff ulongMax length length parser [] _ body atSize (Nat.zero_add _)).mp ?_
    chunks line rest place
  intro chunks line rest place
  rw [← fed]
  exact validated.lines head body chunks line rest response split place

theorem lines_of_sound (body : List UInt8) (response : ChunkedResponse (delivered reads) body)
    (sound : ChunksSound ulongMax length (delivered reads) body) (front chunks line rest : List UInt8)
    (whole : delivered reads = front ++ body) (place : SizeLineAt length body chunks line rest) :
    Validated ulongMax length (withoutReturns line)
      (Parser.start.feed ulongMax length (front ++ (chunks ++ line))) := by
  rcases sound.header (by rw [place.body]; simp) with ⟨passes, chunked⟩
  rcases feed_opened ulongMax length _ body passes response.over_ with
    ⟨head, parser, split, opened, fed⟩
  obtain rfl : front = head := List.append_cancel_right (whole.symm.trans split)
  have atSize := opened_atSize _ parser opened chunked
  rw [fed]
  exact (linesValidated_iff ulongMax length length parser [] _ body atSize (Nat.zero_add _)).mpr
    sound.lines chunks line rest place

/-- A size line that is no number is answered with the error for it. -/
theorem refused_of_validated (front line rest : List UInt8)
    (whole : delivered reads = front ++ (line ++ 10 :: rest))
    (validated : Validated ulongMax length (withoutReturns line)
      (Parser.start.feed ulongMax length (front ++ line)))
    (unsized : ∀ size, ¬ SizeLine (withoutReturns line) size) :
    (respond ulongMax length reads).outcome = .returned httpInvalidChunkHeader := by
  rw [respond, receive_delivered, whole, ← List.append_assoc, feed_append]
  cases fed : Parser.start.feed ulongMax length (front ++ line) with
  | error exit =>
      rw [fed] at validated
      exact validated.elim
  | ok parser =>
      rw [fed] at validated
      have ends := validated.2
      simp only [Parser.feed]
      cases taken : parser.step ulongMax length 10 with
      | error exit =>
          rw [taken] at ends
          exact ends.1
      | ok next =>
          rw [taken] at ends
          exact absurd ends (unsized _)

theorem complete_of_sound (body : List UInt8) (response : ChunkedResponse (delivered reads) body)
    (sound : ChunksSound ulongMax length (delivered reads) body)
    (ok : (respond ulongMax length reads).outcome = .returned httpOK) :
    ∃ coded tail, body = coded ++ tail ∧ ChunkedBody coded := by
  rcases passes_or_stops 0 (headerLines (delivered reads)) with passes | ⟨line, stops⟩
  · rcases feed_opened ulongMax length _ body passes response.over_ with
      ⟨front, parser, whole, opened, fed⟩
    by_cases chunked : TakenChunked (delivered reads)
    · have atSize := opened_atSize _ parser opened chunked
      rcases feed_decodes ulongMax length parser [] _ body length atSize (Nat.zero_add _) with
        decodes | unfinished
      · exact decodes_coded ulongMax length _ body decodes sound.lines
      · exact absurd ok
          (respond_unfinished ulongMax length reads parser front body whole fed unfinished)
    · have unended : 10 ∉ body := fun ended => chunked (sound.header ended).2
      have full := (sound.unended unended).2 passes chunked
      rcases feed_content_full ulongMax length parser body (opened.plain chunked)
        (by rw [opened.nLength]; exact Nat.zero_le _) (by rw [opened.nLength]; omega) with
        ⟨stored, refused⟩
      refine absurd ok (respond_unfinished ulongMax length reads parser front body whole fed ?_)
      rw [refused]
      simp [Unfinished, httpContentBufferTooSmall, httpOK]
  · rw [respond_stopped ulongMax length reads line stops] at ok
    rcases (refusal_status ulongMax httpOK line (by decide)).mp ok with ⟨token, refused, counts⟩
    have unended : 10 ∉ body := by
      intro ended
      exact passes_unstopped 0 _ line (sound.header ended).1 stops
    exact absurd counts ((sound.unended unended).1 line token stops refused)

/-- For every response, however it is cut into reads: if it is chunked, its size lines are
validated one by one, and `HTTPOK` is only returned for a body of the chunked coding, exactly
when its header is taken for that of a chunked response and its size lines are sound. -/
theorem chunksValidated_iff_sound :
    ChunksValidated ulongMax length reads ↔
      ∀ body, ChunkedResponse (delivered reads) body →
        ChunksSound ulongMax length (delivered reads) body := by
  constructor
  · intro validated body response
    exact sound_of_chunksValidated ulongMax length reads body response validated
  · intro sound
    constructor
    · intro front body chunks line rest response whole place
      exact lines_of_sound ulongMax length reads body response (sound body response) front chunks
        line rest whole place
    · intro body chunks line rest response place unsized
      rcases headerFrom_over [] (delivered reads) body response.over_ with ⟨front, whole, -⟩
      have validated := lines_of_sound ulongMax length reads body response (sound body response)
        front chunks line rest whole place
      rw [← List.append_assoc] at validated
      rw [place.body, ← List.append_assoc] at whole
      exact refused_of_validated ulongMax length reads (front ++ chunks) line rest whole validated
        unsized
    · intro body response ok
      exact complete_of_sound ulongMax length reads body response (sound body response) ok

end Responses

def missingSize : List UInt8 :=
  ascii "HTTP/1.1 200 OK\nTransfer-Encoding: chunked\n\n1\nA\n"

def tabbed : List UInt8 := ascii "HTTP/1.1 200 OK\nTransfer-Encoding:\tchunked\n\nx\n"

theorem ok_accepted : Accepted (ascii "HTTP/1.1 200 OK") := by
  rw [accepted_iff]
  exact ⟨_, (by decide +kernel : statusLine (kept (ascii "HTTP/1.1 200 OK")) =
    .accepted [72, 84, 84, 80, 0, 49, 46, 49, 0, 50, 48, 48, 0, 79, 75])⟩

theorem missingSize_response :
    ChunkedResponse (delivered [missingSize ++ ascii "\nB\n0\n"]) (ascii "1\nA\n\nB\n0\n") :=
  ⟨by decide +kernel, ascii "HTTP/1.1 200 OK", [ascii "Transfer-Encoding: chunked"],
    by decide +kernel, ok_accepted, .inl ⟨ascii "chunked", by decide +kernel, by decide⟩⟩

theorem tabbed_response : ChunkedResponse (delivered [tabbed]) (ascii "x\n") :=
  ⟨by decide +kernel, ascii "HTTP/1.1 200 OK", [ascii "Transfer-Encoding:\tchunked"],
    by decide +kernel, ok_accepted, .inl ⟨ascii "chunked", by decide +kernel, by decide⟩⟩

-- the length of the first chunk is used again; and behind a tab nothing is validated
theorem missingSize_and_tabbed_taken :
    respond (2 ^ 32 - 1) 4 [missingSize ++ ascii "\nB\n0\n"] =
        ⟨.returned httpOK, ascii "AB", 2⟩ ∧
      ¬ ChunksValidated (2 ^ 32 - 1) 4 [missingSize ++ ascii "\nB\n0\n"] ∧
    respond (2 ^ 32 - 1) 4 [tabbed] = ⟨.returned httpOK, ascii "x\n", 2⟩ ∧
      ¬ ChunksValidated (2 ^ 32 - 1) 4 [tabbed] := by
  have first : respond (2 ^ 32 - 1) 4 [missingSize ++ ascii "\nB\n0\n"] =
      ⟨.returned httpOK, ascii "AB", 2⟩ := by decide +kernel
  have second : respond (2 ^ 32 - 1) 4 [tabbed] = ⟨.returned httpOK, ascii "x\n", 2⟩ := by
    decide +kernel
  refine ⟨first, fun validated => ?_, second, fun validated => ?_⟩
  · have chunk : Chunks (ascii "1\nA\n") (ascii "A") :=
      .cons (ascii "1") (ascii "A") [] [] [] (by decide)
        ⟨by decide, by decide +kernel, by decide⟩ (by decide) (by simp) .nil
    have refused := validated.refused _ (ascii "1\nA\n") [] (ascii "B\n0\n") missingSize_response
      ⟨by decide +kernel, ⟨ascii "A", chunk, by decide⟩, by simp⟩
      fun _ sized => sized.nonempty rfl
    rw [first] at refused
    exact absurd refused (by decide)
  · have refused := validated.refused _ [] (ascii "x") [] tabbed_response
      ⟨by decide +kernel, ⟨[], .nil, Nat.zero_le _⟩, by decide⟩
      fun _ sized => absurd (sized.hex 120 (by decide +kernel)) (by decide)
    rw [second] at refused
    exact absurd refused (by decide)

end CircleStdlib.HttpChunks
