import CircleStdlib.HttpHeaders
import Mathlib.Data.List.Induction

/-!
The body of a response: it is copied as it comes, or taken apart into chunks. A
size line is whatever stands up to a line end; when it is empty, `strtoul` gets
what `Line` has shown before. `Decodes` is the language of the bodies that are
taken to their end, in terms of their bytes.
-/

namespace CircleStdlib.HttpDecoding

open CText HttpClient HttpLines HttpHeaders

/-- What `strtoul` gets of a size line, when `Line` has shown `text` before. -/
def sizeShown (text line : List UInt8) : List UInt8 :=
  if withoutReturns line = [] then text else shown (withoutReturns line)

/-- A body that is taken up to a size of 0, with at most `room` bytes in front of it. -/
inductive Decodes (ulongMax : Nat) : Nat → List UInt8 → List UInt8 → Prop where
  | last (room : Nat) (text line rest : List UInt8) (unended : 10 ∉ line)
      (zero : strtoul ulongMax 16 (sizeShown text line) = (0, [])) :
      Decodes ulongMax room text (line ++ 10 :: rest)
  | chunk (room : Nat) (text line data returns rest : List UInt8) (unended : 10 ∉ line)
      (size : strtoul ulongMax 16 (sizeShown text line) = (data.length, [])) (some : data ≠ [])
      (gap : ∀ char ∈ returns, char = 13)
      (later : Decodes ulongMax room (sizeShown text line) rest) :
      Decodes ulongMax (data.length + room) text
        (line ++ 10 :: (data ++ (returns ++ 10 :: rest)))

def Unfinished : Except Exit Parser → Prop
  | .error exit => exit.outcome ≠ .returned httpOK
  | .ok next => next.state ≠ .finished ∧ next.state ≠ .content

/-- In front of a size line: `body` has been stored, and `Line` shows `text`. -/
structure AtSize (parser : Parser) (body text : List UInt8) : Prop where
  state : parser.state = .chunkHeader
  fresh : parser.nChar = 0
  stored : parser.stored = body
  counted : parser.nLength = body.length
  shows : cstr parser.line = text

theorem opened_atSize (stream : List UInt8) (parser : Parser) (opened : Opened stream parser)
    (chunked : TakenChunked stream) : AtSize parser [] (left stream) :=
  ⟨opened.chunked chunked, opened.fresh, opened.stored, opened.nLength, opened.shows⟩

section Parsing
variable (ulongMax bufferLength : Nat)

/-! A body that is copied. -/

theorem feed_content (parser : Parser) (body : List UInt8) (state : parser.state = .content)
    (room : parser.nLength + body.length ≤ bufferLength) :
    parser.feed ulongMax bufferLength body = .ok { parser with
      stored := parser.stored ++ body
      nLength := parser.nLength + body.length } := by
  induction body generalizing parser with
  | nil => simp [Parser.feed]
  | cons char rest ih =>
      have vacant : ¬ parser.nLength ≥ bufferLength := by
        simp only [List.length_cons] at room
        omega
      simp only [Parser.feed, Parser.step, state, Parser.store, vacant, ↓reduceIte]
      rw [ih _ rfl (by simp only [List.length_cons] at room ⊢; omega)]
      simp [Nat.add_assoc, Nat.add_comm 1]

theorem feed_content_full (parser : Parser) (body : List UInt8) (state : parser.state = .content)
    (fits : parser.nLength ≤ bufferLength)
    (full : bufferLength < parser.nLength + body.length) :
    ∃ stored, parser.feed ulongMax bufferLength body =
      .error ⟨.returned httpContentBufferTooSmall, stored⟩ := by
  induction body generalizing parser with
  | nil =>
      rw [List.length_nil] at full
      omega
  | cons char rest ih =>
      simp only [Parser.feed, Parser.step, state, Parser.store]
      by_cases vacant : parser.nLength ≥ bufferLength
      · rw [if_pos vacant]
        exact ⟨parser.stored, rfl⟩
      · rw [if_neg vacant]
        apply ih
        · rfl
        · dsimp only
          omega
        · simp only [List.length_cons] at full ⊢
          omega

/-! Size lines. -/

theorem within_shows (parser : Parser) (line : List UInt8) :
    cstr (within parser (withoutReturns line)).line = sizeShown (cstr parser.line) line := by
  unfold within sizeShown
  split <;> rfl

theorem within_same (parser : Parser) (text : List UInt8) :
    (within parser text).stored = parser.stored ∧
      (within parser text).nLength = parser.nLength := by
  unfold within
  split <;> exact ⟨rfl, rfl⟩

/-- The end of a size line. -/
theorem step_sizeLine (parser : Parser) (line body text : List UInt8)
    (atSize : AtSize parser body text) :
    (within parser (withoutReturns line)).step ulongMax bufferLength 10 =
      if (strtoul ulongMax 16 (sizeShown text line)).2 ≠ [] then
        .error ⟨.returned httpInvalidChunkHeader, body⟩
      else .ok { within parser (withoutReturns line) with
        ulBytes := (strtoul ulongMax 16 (sizeShown text line)).1
        state := if (strtoul ulongMax 16 (sizeShown text line)).1 ≠ 0 then .chunkData
          else .finished } := by
  have state := (within_state parser (withoutReturns line)).trans atSize.state
  have shows := within_shows parser line
  have stored := (within_same parser (withoutReturns line)).1.trans atSize.stored
  rw [atSize.shows] at shows
  simp only [Parser.step, state, show ((10 : UInt8) = 13) = False by decide, if_false, if_true,
    Parser.endChunkHeader, shows, stored]

theorem feed_sizeLine (parser : Parser) (line rest body text : List UInt8)
    (atSize : AtSize parser body text) (unended : 10 ∉ line) :
    parser.feed ulongMax bufferLength (line ++ 10 :: rest) =
      if (strtoul ulongMax 16 (sizeShown text line)).2 ≠ [] then
        .error ⟨.returned httpInvalidChunkHeader, body⟩
      else
        { within parser (withoutReturns line) with
          ulBytes := (strtoul ulongMax 16 (sizeShown text line)).1
          state := if (strtoul ulongMax 16 (sizeShown text line)).1 ≠ 0 then .chunkData
            else .finished }.feed ulongMax bufferLength rest := by
  have read := feed_line ulongMax bufferLength parser line (.inr atSize.state) atSize.fresh unended
  rw [feed_append, read]
  simp only [Parser.feed, step_sizeLine ulongMax bufferLength parser line body text atSize]
  by_cases taken : (strtoul ulongMax 16 (sizeShown text line)).2 = []
  · simp only [taken, ne_eq, not_true_eq_false, if_false]
  · simp only [taken, ne_eq, not_false_eq_true, if_true]

/-! Chunks. -/

/-- The data of a chunk, counted down in `ulBytes`. -/
theorem feed_chunkData (parser : Parser) (data : List UInt8) (nonempty : data ≠ [])
    (state : parser.state = .chunkData) (counting : parser.ulBytes = data.length)
    (room : parser.nLength + data.length ≤ bufferLength) :
    parser.feed ulongMax bufferLength data =
      .ok { parser with
        state := .chunkTrailer
        ulBytes := 0
        stored := parser.stored ++ data
        nLength := parser.nLength + data.length } := by
  induction data generalizing parser with
  | nil => exact absurd rfl nonempty
  | cons char rest ih =>
      have vacant : ¬ parser.nLength ≥ bufferLength := by
        simp only [List.length_cons] at room
        omega
      simp only [List.length_cons] at counting room
      simp only [Parser.feed, Parser.step, state, Parser.store, vacant, ↓reduceIte, counting,
        Nat.add_sub_cancel]
      by_cases last : rest.length = 0
      · have ended : rest = [] := List.length_eq_zero_iff.mp last
        simp [ended, Parser.feed]
      · simp only [last, ↓reduceIte]
        have more : rest ≠ [] := fun ended => last (by simp [ended])
        rw [ih _ more rfl rfl (by simp only; omega)]
        simp [Nat.add_assoc, Nat.add_comm 1]

/-- A chunk that ends too early, or does not fit. -/
theorem feed_chunkData_short (parser : Parser) (stream : List UInt8)
    (state : parser.state = .chunkData) (some : 0 < parser.ulBytes)
    (short : stream.length < parser.ulBytes ∨ bufferLength < parser.nLength + parser.ulBytes) :
    Unfinished (parser.feed ulongMax bufferLength stream) := by
  induction stream generalizing parser with
  | nil => simp [Parser.feed, Unfinished, state]
  | cons char rest ih =>
      simp only [Parser.feed, Parser.step, state, Parser.store]
      by_cases full : parser.nLength ≥ bufferLength
      · simp [full, Unfinished, httpContentBufferTooSmall, httpOK]
      · simp only [full, ↓reduceIte]
        rw [List.length_cons] at short
        by_cases last : parser.ulBytes - 1 = 0
        · omega
        · simp only [last, ↓reduceIte]
          apply ih
          · rfl
          · dsimp only
            omega
          · dsimp only
            omega

/-- Behind the data of a chunk a line end is expected. -/
theorem feed_trailer (parser : Parser) (returns rest : List UInt8)
    (state : parser.state = .chunkTrailer) (gap : ∀ char ∈ returns, char = 13) :
    parser.feed ulongMax bufferLength (returns ++ 10 :: rest) =
      { parser with nChar := 0, state := .chunkHeader }.feed ulongMax bufferLength rest := by
  induction returns with
  | nil => simp [Parser.feed, Parser.step, state]
  | cons char returns ih =>
      rw [gap char List.mem_cons_self]
      simp only [List.cons_append, Parser.feed, Parser.step, state, if_true]
      exact ih fun other member => gap other (List.mem_cons_of_mem char member)

theorem feed_trailer_cases (parser : Parser) (stream : List UInt8)
    (state : parser.state = .chunkTrailer) :
    Unfinished (parser.feed ulongMax bufferLength stream) ∨
      ∃ returns rest, (∀ char ∈ returns, char = 13) ∧ stream = returns ++ 10 :: rest := by
  induction stream with
  | nil => exact .inl (by simp [Parser.feed, Unfinished, state])
  | cons char rest ih =>
      by_cases carriage : char = 13
      · subst carriage
        simp only [Parser.feed, Parser.step, state, if_true]
        rcases ih with unfinished | ⟨returns, others, gap, rfl⟩
        · exact .inl unfinished
        · exact .inr ⟨13 :: returns, others, by simpa using gap, rfl⟩
      · by_cases ended : char = 10
        · exact .inr ⟨[], rest, by simp, by simp [ended]⟩
        · left
          simp [Parser.feed, Parser.step, state, carriage, ended, Unfinished,
            httpInvalidChunkHeader, httpOK]

/-- A size line with the data of its chunk. -/
theorem feed_chunk (parser : Parser) (body text line data returns : List UInt8)
    (atSize : AtSize parser body text) (unended : 10 ∉ line)
    (size : strtoul ulongMax 16 (sizeShown text line) = (data.length, [])) (some : data ≠ [])
    (gap : ∀ char ∈ returns, char = 13) (room : body.length + data.length ≤ bufferLength) :
    ∃ next, AtSize next (body ++ data) (sizeShown text line) ∧ ∀ rest,
      parser.feed ulongMax bufferLength (line ++ 10 :: (data ++ (returns ++ 10 :: rest))) =
        next.feed ulongMax bufferLength rest := by
  have positive : data.length ≠ 0 := by simpa using some
  have same := within_same parser (withoutReturns line)
  refine ⟨{ within parser (withoutReturns line) with
      state := .chunkHeader
      nChar := 0
      ulBytes := 0
      stored := (within parser (withoutReturns line)).stored ++ data
      nLength := (within parser (withoutReturns line)).nLength + data.length },
    ⟨rfl, rfl, ?_, ?_, ?_⟩, fun rest => ?_⟩
  · simp only [same.1, atSize.stored]
  · simp only [same.2, atSize.counted, List.length_append]
  · simp only [within_shows, atSize.shows]
  · rw [feed_sizeLine ulongMax bufferLength parser line _ body text atSize unended, size]
    simp only [ne_eq, not_true_eq_false, if_false, positive, not_false_eq_true, if_true]
    rw [feed_append, feed_chunkData ulongMax bufferLength _ data some rfl rfl
      (by rw [same.2, atSize.counted]; exact room)]
    dsimp only
    rw [feed_trailer ulongMax bufferLength _ returns rest rfl gap]

/-- The size line of 0. -/
theorem feed_last (parser : Parser) (body text line rest : List UInt8)
    (atSize : AtSize parser body text) (unended : 10 ∉ line)
    (zero : strtoul ulongMax 16 (sizeShown text line) = (0, [])) :
    ∃ next, parser.feed ulongMax bufferLength (line ++ 10 :: rest) = .ok next ∧
      next.state = .finished ∧ next.stored = body ∧ next.nLength = body.length := by
  have same := within_same parser (withoutReturns line)
  rw [feed_sizeLine ulongMax bufferLength parser line rest body text atSize unended, zero]
  simp only [ne_eq, not_true_eq_false, if_false]
  exact ⟨_, feed_finished ulongMax bufferLength _ rest rfl, rfl, same.1.trans atSize.stored,
    same.2.trans atSize.counted⟩

/-! Whole bodies. -/

theorem decodes_finished (parser : Parser) (body text stream : List UInt8) (room : Nat)
    (atSize : AtSize parser body text) (size : body.length + room = bufferLength)
    (decodes : Decodes ulongMax room text stream) :
    ∃ next, parser.feed ulongMax bufferLength stream = .ok next ∧ next.state = .finished := by
  induction decodes generalizing parser body with
  | last room text line rest unended zero =>
      rcases feed_last ulongMax bufferLength parser body text line rest atSize unended zero with
        ⟨next, fed, finished, -⟩
      exact ⟨next, fed, finished⟩
  | chunk room text line data returns rest unended counted some gap later ih =>
      rcases feed_chunk ulongMax bufferLength parser body text line data returns atSize
        unended counted some gap (by omega) with ⟨next, after, fed⟩
      rw [fed]
      exact ih next (body ++ data) after (by rw [List.length_append]; omega)

/-- A chunk that is there and fits, when the rest is taken or not as it should. -/
theorem decodes_chunk (parser : Parser) (body text line rest : List UInt8) (room ulBytes : Nat)
    (atSize : AtSize parser body text) (size : body.length + room = bufferLength)
    (unended : 10 ∉ line) (taken : strtoul ulongMax 16 (sizeShown text line) = (ulBytes, []))
    (some : ulBytes ≠ 0) (long : ulBytes ≤ rest.length) (fits : ulBytes ≤ room)
    (later : ∀ next stored text others room, others.length < rest.length →
      AtSize next stored text → stored.length + room = bufferLength →
        Decodes ulongMax room text others ∨
          Unfinished (next.feed ulongMax bufferLength others)) :
    Decodes ulongMax room text (line ++ 10 :: rest) ∨
      Unfinished (parser.feed ulongMax bufferLength (line ++ 10 :: rest)) := by
  obtain ⟨data, tail, rfl, rfl⟩ : ∃ data tail, rest = data ++ tail ∧ ulBytes = data.length :=
    ⟨rest.take ulBytes, rest.drop ulBytes, (List.take_append_drop ulBytes rest).symm,
      (List.length_take_of_le long).symm⟩
  have nonempty : data ≠ [] := fun none => some (by rw [none]; rfl)
  have same := within_same parser (withoutReturns line)
  have read := feed_sizeLine ulongMax bufferLength parser line (data ++ tail) body text atSize
    unended
  rw [taken] at read
  simp only [ne_eq, not_true_eq_false, if_false, some, not_false_eq_true, if_true] at read
  rw [feed_append _ _ _ data tail, feed_chunkData ulongMax bufferLength _ data nonempty rfl rfl
    (by rw [same.2, atSize.counted]; omega)] at read
  rcases feed_trailer_cases ulongMax bufferLength { within parser (withoutReturns line) with
      state := .chunkTrailer
      ulBytes := 0
      stored := (within parser (withoutReturns line)).stored ++ data
      nLength := (within parser (withoutReturns line)).nLength + data.length } tail rfl with
    unfinished | ⟨returns, others, gap, rfl⟩
  · right
    rw [read]
    exact unfinished
  · rcases feed_chunk ulongMax bufferLength parser body text line data returns atSize
      unended taken nonempty gap (by omega) with ⟨next, after, fed⟩
    rcases later next (body ++ data) _ others (room - data.length)
      (by simp only [List.length_append, List.length_cons]; omega) after
      (by rw [List.length_append]; omega) with decodes | unfinished
    · left
      have whole : data.length + (room - data.length) = room := by omega
      rw [← whole]
      exact .chunk _ text line data returns others unended taken nonempty gap decodes
    · right
      rw [fed]
      exact unfinished

-- the induction is on the length of the stream: a chunk is shorter
theorem feed_decodes (parser : Parser) (body text stream : List UInt8) (room : Nat)
    (atSize : AtSize parser body text) (size : body.length + room = bufferLength) :
    Decodes ulongMax room text stream ∨ Unfinished (parser.feed ulongMax bufferLength stream) := by
  induction counted : stream.length using Nat.strong_induction_on
    generalizing parser body text stream room with
  | h number ih =>
      subst counted
      by_cases ended : 10 ∈ stream
      · rcases List.eq_append_cons_of_mem ended with ⟨line, rest, rfl, unended⟩
        have read := feed_sizeLine ulongMax bufferLength parser line rest body text atSize unended
        rcases taken : strtoul ulongMax 16 (sizeShown text line) with ⟨ulBytes, left⟩
        rw [taken] at read
        by_cases refused : left = []
        · subst refused
          simp only [ne_eq, not_true_eq_false, if_false] at read
          by_cases zero : ulBytes = 0
          · subst zero
            exact .inl (.last room text line rest unended taken)
          · simp only [zero, not_false_eq_true, if_true] at read
            have same := within_same parser (withoutReturns line)
            by_cases short : rest.length < ulBytes ∨ bufferLength < body.length + ulBytes
            · right
              rw [read]
              refine feed_chunkData_short ulongMax bufferLength _ rest rfl (by dsimp only; omega) ?_
              dsimp only
              rw [same.2, atSize.counted]
              exact short
            · refine decodes_chunk ulongMax bufferLength parser body text line rest room ulBytes
                atSize size unended taken zero (by omega) (by omega) ?_
              intro next stored text others room shorter after counted
              refine ih others.length ?_ next stored text others room after counted rfl
              rw [List.length_append, List.length_cons]
              omega
        · right
          simp only [ne_eq, refused, not_false_eq_true, if_true] at read
          rw [read]
          simp [Unfinished, httpInvalidChunkHeader, httpOK]
      · right
        rw [feed_line ulongMax bufferLength parser stream (.inr atSize.state) atSize.fresh ended]
        simp [Unfinished, within_state, atSize.state]

end Parsing

theorem respond_unfinished (ulongMax length : Nat) (reads : List (List UInt8))
    (parser : Parser) (front body : List UInt8)
    (whole : delivered reads = front ++ body)
    (fed : ∀ other, Parser.start.feed ulongMax length (front ++ other) =
      parser.feed ulongMax length other)
    (unfinished : Unfinished (parser.feed ulongMax length body)) :
    (respond ulongMax length reads).outcome ≠ .returned httpOK := by
  rw [respond, receive_delivered, whole, fed]
  cases ended : parser.feed ulongMax length body with
  | error exit =>
      rw [ended] at unfinished
      exact unfinished
  | ok next =>
      rw [ended] at unfinished
      simp [finish, unfinished.1, unfinished.2, httpConnectionReset, httpOK]

end CircleStdlib.HttpDecoding
