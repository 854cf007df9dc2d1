import CircleStdlib.HttpClient

/-!
How the parser of `Request` takes a response line by line: where the socket cuts
the stream into reads is of no account, carriage returns are dropped, and `Line`
holds the beginning of each line. The header is a list of lines up to an empty
one.
-/

namespace CircleStdlib.HttpLines

open CText HttpClient

/-- The characters `Request` got to see: the reads up to the first one that is
not positive. -/
def delivered (reads : List (List UInt8)) : List UInt8 := (reads.takeWhile (· ≠ [])).flatten

def withoutReturns (stream : List UInt8) : List UInt8 := stream.filter (· ≠ 13)

def kept (line : List UInt8) : List UInt8 := line.take (httpMaxRequestLine - 1)

/-- The lines up to the first empty one, without carriage returns, and what
stands behind that one, if it has come. `line` is the beginning of the first. -/
def headerFrom (line : List UInt8) : List UInt8 → List (List UInt8) × Option (List UInt8)
  | [] => ([], none)
  | char :: rest =>
      if char = 13 then headerFrom line rest
      else if char = 10 then
        if line = [] then ([], some rest)
        else (line :: (headerFrom [] rest).1, (headerFrom [] rest).2)
      else headerFrom (line ++ [char]) rest

def headerLines (stream : List UInt8) : List (List UInt8) := (headerFrom [] stream).1

def bodyOf (stream : List UInt8) : Option (List UInt8) := (headerFrom [] stream).2

theorem withoutReturns_append (left right : List UInt8) :
    withoutReturns (left ++ right) = withoutReturns left ++ withoutReturns right :=
  List.filter_append ..

theorem withoutReturns_return : withoutReturns [13] = [] := rfl

theorem withoutReturns_clean (text : List UInt8) (clean : ∀ char ∈ text, char ≠ 13) :
    withoutReturns text = text :=
  List.filter_eq_self.mpr (by simpa using clean)

theorem kept_of_fits (line : List UInt8) (fits : line.length < httpMaxRequestLine) :
    kept line = line :=
  List.take_of_length_le (Nat.le_sub_one_of_lt fits)

theorem kept_nonempty (text : List UInt8) (some : text ≠ []) : kept text ≠ [] := by
  intro none
  rcases List.take_eq_nil_iff.mp none with zero | empty
  · cases zero
  · exact some empty

/-- A line that has come to its end. -/
theorem headerFrom_line (line text rest : List UInt8) (unended : 10 ∉ text)
    (nonempty : line ++ withoutReturns text ≠ []) :
    headerFrom line (text ++ 10 :: rest) =
      ((line ++ withoutReturns text) :: headerLines rest, bodyOf rest) := by
  induction text generalizing line with
  | nil =>
      have some : line ≠ [] := by simpa [withoutReturns] using nonempty
      simp [headerFrom, some, withoutReturns, headerLines, bodyOf]
  | cons char text ih =>
      have inside : char ≠ 10 := fun same => unended (by simp [same])
      have tail : 10 ∉ text := fun member => unended (List.mem_cons_of_mem char member)
      by_cases carriage : char = 13
      · subst carriage
        have same : withoutReturns (13 :: text) = withoutReturns text := by
          simp [withoutReturns]
        rw [same] at nonempty ⊢
        simp only [List.cons_append, headerFrom, if_true]
        exact ih line tail nonempty
      · have grown : line ++ withoutReturns (char :: text) =
            (line ++ [char]) ++ withoutReturns text := by
          simp [withoutReturns, carriage]
        rw [grown] at nonempty ⊢
        simp only [List.cons_append, headerFrom, carriage, inside, if_false]
        exact ih (line ++ [char]) tail nonempty

/-- The end of the header. -/
theorem headerFrom_empty (returns rest : List UInt8) (gap : ∀ char ∈ returns, char = 13) :
    headerFrom [] (returns ++ 10 :: rest) = ([], some rest) := by
  induction returns with
  | nil => simp [headerFrom]
  | cons char returns ih =>
      rw [gap char List.mem_cons_self]
      simp only [List.cons_append, headerFrom, if_true]
      exact ih fun other member => gap other (List.mem_cons_of_mem char member)

theorem headerFrom_nonempty (line stream : List UInt8) :
    ∀ ended ∈ (headerFrom line stream).1, ended ≠ [] := by
  induction stream generalizing line with
  | nil => simp [headerFrom]
  | cons char rest ih =>
      unfold headerFrom
      split
      · exact ih line
      · split
        · split
          · simp
          · rename_i some
            intro ended member
            rcases List.mem_cons.mp member with rfl | later
            · exact some
            · exact ih [] ended later
        · exact ih (line ++ [char])

/-- A header that is over is read in front of any body. -/
theorem headerFrom_over (line stream body : List UInt8)
    (over_ : (headerFrom line stream).2 = some body) :
    ∃ front, stream = front ++ body ∧ ∀ other,
      headerFrom line (front ++ other) = ((headerFrom line stream).1, some other) := by
  induction stream generalizing line with
  | nil => cases over_
  | cons char rest ih =>
      by_cases carriage : char = 13
      · subst carriage
        rcases ih line over_ with ⟨front, rfl, same⟩
        exact ⟨13 :: front, rfl, same⟩
      · by_cases ended : char = 10
        · subst ended
          by_cases empty : line = []
          · subst empty
            cases over_
            exact ⟨[10], rfl, fun other => rfl⟩
          · have read : ∀ text, headerFrom line (10 :: text) =
                (line :: (headerFrom [] text).1, (headerFrom [] text).2) := by
              intro text
              simp [headerFrom, empty]
            rw [read] at over_
            rcases ih [] over_ with ⟨front, rfl, same⟩
            exact ⟨10 :: front, rfl, fun other => by rw [List.cons_append, read, read, same]⟩
        · have read : ∀ text, headerFrom line (char :: text) =
              headerFrom (line ++ [char]) text := by
            intro text
            simp [headerFrom, carriage, ended]
          rw [read] at over_
          rcases ih (line ++ [char]) over_ with ⟨front, rfl, same⟩
          exact ⟨char :: front, rfl, fun other => by rw [List.cons_append, read, read, same]⟩

section Parsing
variable (ulongMax bufferLength : Nat)

theorem feed_append (parser : Parser) (left right : List UInt8) :
    parser.feed ulongMax bufferLength (left ++ right) =
      match parser.feed ulongMax bufferLength left with
      | .error exit => .error exit
      | .ok middle => middle.feed ulongMax bufferLength right := by
  induction left generalizing parser with
  | nil => rfl
  | cons char rest ih =>
      simp only [List.cons_append, Parser.feed]
      cases parser.step ulongMax bufferLength char with
      | error exit => rfl
      | ok next => exact ih next

theorem feed_finished (parser : Parser) (stream : List UInt8)
    (finished : parser.state = .finished) :
    parser.feed ulongMax bufferLength stream = .ok parser := by
  induction stream with
  | nil => rfl
  | cons char rest ih =>
      simp only [Parser.feed, Parser.step, finished]
      exact ih

/-- How the socket cuts the response into reads does not matter. -/
theorem receive_delivered (parser : Parser) (reads : List (List UInt8)) :
    parser.receive ulongMax bufferLength reads =
      parser.feed ulongMax bufferLength (delivered reads) := by
  induction reads generalizing parser with
  | nil => rfl
  | cons read rest ih =>
      by_cases finished : parser.state = .finished
      · rw [feed_finished ulongMax bufferLength parser _ finished]
        simp [Parser.receive, finished]
      · by_cases empty : read = []
        · simp [Parser.receive, finished, empty, delivered, Parser.feed]
        · have split : delivered (read :: rest) = read ++ delivered rest := by
            simp [delivered, empty]
          rw [split, feed_append]
          simp only [Parser.receive, finished, empty, ↓reduceIte]
          cases parser.feed ulongMax bufferLength read with
          | error exit => rfl
          | ok next => exact ih next

def inLine (parser : Parser) (text : List UInt8) : Parser :=
  { parser with line := kept text, nChar := (kept text).length }

def within (parser : Parser) (text : List UInt8) : Parser :=
  if text = [] then parser else inLine parser text

theorem within_empty (parser : Parser) : within parser [] = parser := rfl

theorem within_some (parser : Parser) (text : List UInt8) (some : text ≠ []) :
    within parser text = inLine parser text := if_neg some

theorem within_state (parser : Parser) (text : List UInt8) :
    (within parser text).state = parser.state := by
  unfold within
  split <;> rfl

theorem accumulate_inLine (parser : Parser) (text : List UInt8) (char : UInt8) :
    (inLine parser text).accumulate char = inLine parser (text ++ [char]) := by
  by_cases room : text.length < httpMaxRequestLine - 1
  · have whole : kept text = text := List.take_of_length_le (by omega)
    have longer : kept (text ++ [char]) = text ++ [char] :=
      List.take_of_length_le (by simp; omega)
    simp [Parser.accumulate, inLine, whole, longer, room]
  · have full : (kept text).length = httpMaxRequestLine - 1 := by
      simp only [kept, List.length_take]
      omega
    have same : kept (text ++ [char]) = kept text :=
      List.take_append_of_le_length (by omega)
    simp [Parser.accumulate, inLine, same, full]

theorem accumulate_within (parser : Parser) (text : List UInt8) (char : UInt8)
    (fresh : parser.nChar = 0) :
    (within parser text).accumulate char = within parser (text ++ [char]) := by
  rw [within_some parser (text ++ [char]) (by simp)]
  by_cases empty : text = []
  · subst empty
    simp [within, Parser.accumulate, inLine, fresh, kept, httpMaxRequestLine]
  · rw [within_some parser text empty, accumulate_inLine]

def TakesLine (parser : Parser) : Prop := parser.state = .header ∨ parser.state = .chunkHeader

theorem step_char (parser : Parser) (char : UInt8) (takes : TakesLine parser)
    (carriage : char ≠ 13) (inside : char ≠ 10) :
    parser.step ulongMax bufferLength char = .ok (parser.accumulate char) := by
  rcases takes with header | chunkHeader
  · simp [Parser.step, header, carriage, inside]
  · simp [Parser.step, chunkHeader, carriage, inside]

theorem step_return (parser : Parser) (takes : TakesLine parser) :
    parser.step ulongMax bufferLength 13 = .ok parser := by
  rcases takes with header | chunkHeader
  · simp [Parser.step, header]
  · simp [Parser.step, chunkHeader]

theorem takes_within (parser : Parser) (text : List UInt8) (takes : TakesLine parser) :
    TakesLine (within parser text) := by
  unfold TakesLine
  rw [within_state]
  exact takes

/-- A part of a line: its CRs are dropped. -/
theorem feed_within (parser : Parser) (front text : List UInt8) (takes : TakesLine parser)
    (fresh : parser.nChar = 0) (unended : 10 ∉ text) :
    (within parser front).feed ulongMax bufferLength text =
      .ok (within parser (front ++ withoutReturns text)) := by
  induction text generalizing front with
  | nil => simp [Parser.feed, withoutReturns]
  | cons char rest ih =>
      have inside : char ≠ 10 := fun same => unended (by simp [same])
      have tail : 10 ∉ rest := fun member => unended (List.mem_cons_of_mem char member)
      have still := takes_within parser front takes
      by_cases carriage : char = 13
      · subst carriage
        simp only [Parser.feed, step_return ulongMax bufferLength _ still]
        rw [ih front tail]
        simp [withoutReturns]
      · simp only [Parser.feed, step_char ulongMax bufferLength _ char still carriage inside]
        rw [accumulate_within parser front char fresh, ih (front ++ [char]) tail]
        simp [withoutReturns, carriage]

/-- A whole line, from its first character to its last. -/
theorem feed_line (parser : Parser) (text : List UInt8) (takes : TakesLine parser)
    (fresh : parser.nChar = 0) (unended : 10 ∉ text) :
    parser.feed ulongMax bufferLength text = .ok (within parser (withoutReturns text)) :=
  feed_within ulongMax bufferLength parser [] text takes fresh unended

/-! The header. -/

def takeLine (parser : Parser) (line : List UInt8) : Except Exit Parser :=
  (inLine parser line).endHeaderLine ulongMax

def takeLines : Parser → List (List UInt8) → Except Exit Parser
  | parser, [] => .ok parser
  | parser, line :: rest =>
      match takeLine ulongMax parser line with
      | .error exit => .error exit
      | .ok next => takeLines next rest

def openBody (parser : Parser) : Parser :=
  { parser with state := if parser.chunked then .chunkHeader else .content, nChar := 0 }

theorem takeLine_first (parser : Parser) (line : List UInt8) (nonempty : line ≠ [])
    (first : parser.nLine = 0) :
    takeLine ulongMax parser line =
      match statusLine (kept line) with
      | .accepted cells => .ok { parser with nLine := 1, nChar := 0, line := cells }
      | .rejected token => .error ⟨.returned (rejectedStatus ulongMax token), parser.stored⟩
      | .missing => .error ⟨.nullToken, parser.stored⟩ := by
  have some : (kept line).length ≠ 0 := by simpa using kept_nonempty line nonempty
  simp only [takeLine, Parser.endHeaderLine, inLine, some, first, ↓reduceIte]
  rfl

theorem takeLine_option (parser : Parser) (line : List UInt8) (nonempty : line ≠ [])
    (later : parser.nLine ≠ 0) :
    takeLine ulongMax parser line = .ok { parser with
      nLine := (parser.nLine + 1) % 2 ^ 32
      nChar := 0
      line := (headerOption (kept line)).1
      chunked := parser.chunked || (headerOption (kept line)).2 } := by
  have some : (kept line).length ≠ 0 := by simpa using kept_nonempty line nonempty
  simp only [takeLine, Parser.endHeaderLine, inLine, some, later, ↓reduceIte]

theorem takeLine_kept (parser next : Parser) (line : List UInt8) (nonempty : line ≠ [])
    (taken : takeLine ulongMax parser line = .ok next) :
    next.state = parser.state ∧ next.nChar = 0 ∧ next.stored = parser.stored ∧
      next.nLength = parser.nLength ∧ next.nLine = (parser.nLine + 1) % 2 ^ 32 := by
  by_cases first : parser.nLine = 0
  · rw [takeLine_first ulongMax parser line nonempty first] at taken
    split at taken
    · cases taken
      exact ⟨rfl, rfl, rfl, rfl, by simp [first]⟩
    · cases taken
    · cases taken
  · rw [takeLine_option ulongMax parser line nonempty first] at taken
    cases taken
    exact ⟨rfl, rfl, rfl, rfl, rfl⟩

-- the induction is on the stream; `line` is what has been read of the current line
theorem feed_header (parser : Parser) (line stream : List UInt8)
    (header : parser.state = .header) (fresh : parser.nChar = 0) :
    ∃ text, (within parser line).feed ulongMax bufferLength stream =
      match takeLines ulongMax parser (headerFrom line stream).1 with
      | .error exit => .error exit
      | .ok next =>
          match (headerFrom line stream).2 with
          | some body => (openBody next).feed ulongMax bufferLength body
          | none => .ok (within next text) := by
  induction stream generalizing parser line with
  | nil => exact ⟨line, rfl⟩
  | cons char rest ih =>
      have takes := takes_within parser line (.inl header)
      by_cases carriage : char = 13
      · subst carriage
        simp only [Parser.feed, step_return ulongMax bufferLength _ takes, headerFrom, if_true]
        exact ih parser line header fresh
      · by_cases ended : char = 10
        · subst ended
          have step : (within parser line).step ulongMax bufferLength 10 =
              (within parser line).endHeaderLine ulongMax := by
            simp [Parser.step, within_state, header]
          by_cases empty : line = []
          · subst empty
            have opened : parser.endHeaderLine ulongMax = .ok (openBody parser) := by
              simp [Parser.endHeaderLine, fresh, openBody]
            rw [within_empty] at step ⊢
            refine ⟨[], ?_⟩
            simp only [Parser.feed, step, opened, headerFrom, takeLines, carriage, if_true,
              if_false]
          · rw [within_some parser line empty] at step ⊢
            rw [← takeLine] at step
            simp only [Parser.feed, step, headerFrom, carriage, empty, if_true, if_false, takeLines]
            cases taken : takeLine ulongMax parser line with
            | error exit => exact ⟨[], rfl⟩
            | ok next =>
                have after := takeLine_kept ulongMax parser next line empty taken
                exact ih next [] (after.1.trans header) after.2.1
        · simp only [Parser.feed, step_char ulongMax bufferLength _ char takes carriage ended,
            accumulate_within parser line char fresh, headerFrom, carriage, ended, if_false]
          exact ih parser (line ++ [char]) header fresh

/-- What becomes of a whole response: its lines are taken, and then its body. -/
theorem feed_start (stream : List UInt8) :
    ∃ text, Parser.start.feed ulongMax bufferLength stream =
      match takeLines ulongMax Parser.start (headerLines stream) with
      | .error exit => .error exit
      | .ok next =>
          match bodyOf stream with
          | some body => (openBody next).feed ulongMax bufferLength body
          | none => .ok (within next text) :=
  feed_header ulongMax bufferLength Parser.start [] stream rfl rfl

end Parsing

end CircleStdlib.HttpLines
