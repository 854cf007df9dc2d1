import CircleStdlib.HttpHeaders

/-!
The null pointer that `strtok_r` may leave in `pToken`. A line that is judged is
rejected with whichever token the tests stopped at, and `strtoul` is called with
it even when it is missing. Which lines lead there is said in terms of their
characters alone.
-/

namespace CircleStdlib.HttpTokens

open CText HttpClient HttpLines HttpStatusLine HttpHeaders

def TwoWords (text : List UInt8) : Prop :=
  ∃ front back, text = front ++ 32 :: back ∧ (∃ char ∈ front, char ≠ 32) ∧
    ∃ char ∈ back, char ≠ 32

/-- The text has a first token and, if this is `HTTP`, two more behind the slash
that ends it. -/
structure Tokens (text : List UInt8) : Prop where
  first : ∃ char ∈ text, char ≠ 47
  others : ∀ slashes rest, (∀ char ∈ slashes, char = 47) → (rest = [] ∨ rest.head? = some 47) →
    text = slashes ++ (ascii "HTTP" ++ rest) → TwoWords rest.tail

/-- The blank that makes two words ends the first of them. -/
theorem twoWords_iff (lead version seen : List UInt8) (blanks : ∀ char ∈ lead, char = 32)
    (nonempty : version ≠ []) (letters : ∀ char ∈ version, char ≠ 32)
    (stops : ∀ char, seen.head? = some char → char = 32) :
    TwoWords (lead ++ (version ++ seen)) ↔ ∃ char ∈ seen.tail, char ≠ 32 := by
  constructor
  · rintro ⟨front, back, text, ⟨letter, inFront, letterly⟩, ⟨digit, inBack, digitly⟩⟩
    refine ⟨digit, ?_, digitly⟩
    rcases List.append_eq_append_iff.mp text with ⟨inside, rfl, later⟩ | ⟨inside, rfl, later⟩
    · rcases List.append_eq_append_iff.mp later with ⟨between, rfl, left⟩ | ⟨between, rfl, left⟩
      · rw [left]
        cases between with
        | nil => exact inBack
        | cons char more => exact List.mem_append_right more (List.mem_cons_of_mem 32 inBack)
      · cases between with
        | nil =>
            rw [List.nil_append] at left
            rw [← left]
            exact inBack
        | cons char more =>
            cases left
            exact absurd rfl (letters 32 (by simp))
    · exact absurd (blanks letter (List.mem_append_left inside inFront)) letterly
  · rintro ⟨digit, inTail, digitly⟩
    cases seen with
    | nil => cases inTail
    | cons stop back =>
        have blank := stops stop rfl
        subst blank
        obtain ⟨letter, inside⟩ := List.exists_mem_of_ne_nil version nonempty
        exact ⟨lead ++ version, back, by simp, ⟨letter, List.mem_append_right lead inside,
          letters letter inside⟩, digit, inTail, digitly⟩

/-- The second and the third token are there exactly when two words are. -/
theorem twoTokens_iff (cells : List UInt8) (start : Nat) :
    ((strtokR cells start (ascii " ")).token ≠ none ∧
      (strtokR (strtokR cells start (ascii " ")).cells (strtokR cells start (ascii " ")).save
        (ascii " ")).token ≠ none) ↔ TwoWords (cstr (cells.drop start)) := by
  have blank : 0 ∉ ascii " " := by decide
  have only : ∀ char, char ∈ ascii " " ↔ char = 32 := by simp [ascii]
  by_cases first : (strtokR cells start (ascii " ")).token = none
  · simp only [first, ne_eq, not_true_eq_false, false_and, false_iff]
    rintro ⟨front, back, text, ⟨letter, inFront, letterly⟩, -⟩
    have all := (strtokR_none cells (ascii " ") start).mp first
    rw [text] at all
    exact letterly ((only letter).mp (all letter (List.mem_append_left _ inFront)))
  · obtain ⟨version, found⟩ := Option.ne_none_iff_exists'.mp first
    obtain ⟨lead, rest, text, cut⟩ := cut_of_strtokR _ cells version start found
    have left := (strtokR_of_cut _ blank cells lead version rest start text cut).2
    have second := strtokR_none (strtokR cells start (ascii " ")).cells (ascii " ")
      (strtokR cells start (ascii " ")).save
    rw [left, visible_behind _ blank rest cut.stops] at second
    rw [text, visible_cut _ blank lead version rest cut,
      twoWords_iff lead version (cstr rest) (fun char member => (only char).mp (cut.lead char member))
        cut.nonempty (fun char member same => (cut.token char member).1 ((only char).mpr same))
        (fun char head => (only char).mp (visible_stops _ rest cut.stops char head))]
    simp [first, second, only]

/-- A visible `HTTP` is the first token, and what `strtok_r` goes on with is the text
behind its slash. -/
theorem strtokR_http (cells slashes rest : List UInt8) (lead : ∀ char ∈ slashes, char = 47)
    (ends : rest = [] ∨ rest.head? = some 47)
    (text : cstr cells = slashes ++ (ascii "HTTP" ++ rest)) :
    (strtokR cells 0 (ascii "/")).token = some (ascii "HTTP") ∧
      cstr ((strtokR cells 0 (ascii "/")).cells.drop (strtokR cells 0 (ascii "/")).save) =
        rest.tail := by
  have slash : 0 ∉ ascii "/" := by decide
  have whole : cells = slashes ++ (ascii "HTTP" ++ (rest ++ cells.dropWhile (· ≠ 0))) := by
    calc cells = cstr cells ++ cells.dropWhile (· ≠ 0) := List.takeWhile_append_dropWhile.symm
      _ = _ := by rw [text]; simp
  have hidden : ∀ char, (cells.dropWhile (· ≠ 0)).head? = some char → char = 0 := by
    intro char head
    simpa using head_dropWhile (· ≠ 0) cells char head
  have stops : ∀ char, (rest ++ cells.dropWhile (· ≠ 0)).head? = some char →
      char ∈ ascii "/" ∨ char = 0 := by
    intro char head
    rcases ends with rfl | slashed
    · exact .inr (hidden char head)
    · rw [List.head?_append, slashed] at head
      cases head
      exact .inl (by decide)
  have cut : Cut (ascii "/") slashes (ascii "HTTP") (rest ++ cells.dropWhile (· ≠ 0)) :=
    ⟨by simpa [ascii] using lead, by decide, by simp [ascii], stops⟩
  have clean : ∀ char ∈ rest, char ≠ 0 := by
    intro char member zero
    refine not_mem_cstr cells ?_
    rw [text, ← zero]
    exact List.mem_append_right _ (List.mem_append_right _ member)
  have shown : cstr (rest ++ cells.dropWhile (· ≠ 0)) = rest :=
    takeWhile_stops (fun char => decide (char ≠ 0)) rest _ (by simpa using clean)
      (by simpa using hidden)
  obtain ⟨token, left⟩ := strtokR_of_cut _ slash cells slashes (ascii "HTTP") _ 0 whole cut
  refine ⟨token, ?_⟩
  rw [left, visible_behind _ slash _ stops, shown]

/-- Behind `HTTP` the line is rejected with a null pointer when the second or the third
token is missing. -/
theorem statusLine_http (cells : List UInt8) (after : Tokenised)
    (tokenised : strtokR cells 0 (ascii "/") = after) (first : after.token = some (ascii "HTTP")) :
    statusLine cells ≠ .missing ↔
      (strtokR after.cells after.save (ascii " ")).token ≠ none ∧
        (strtokR (strtokR after.cells after.save (ascii " ")).cells
          (strtokR after.cells after.save (ascii " ")).save (ascii " ")).token ≠ none := by
  simp only [statusLine, tokenised, first, ne_eq, not_true_eq_false, ↓reduceIte]
  split
  · rename_i missing
    simp [missing]
  · rename_i version second
    simp only [second, reduceCtorEq, not_false_eq_true, true_and]
    split
    · rename_i missing
      simp [missing]
    · rename_i code third
      simp only [third, reduceCtorEq, not_false_eq_true, iff_true]
      split <;> simp

theorem statusLine_present_iff (cells : List UInt8) :
    statusLine cells ≠ .missing ↔ Tokens (cstr cells) := by
  have slash : 0 ∉ ascii "/" := by decide
  have only : ∀ char, char ∈ ascii "/" ↔ char = 47 := by simp [ascii]
  cases first : (strtokR cells 0 (ascii "/")).token with
  | none =>
      have all := (strtokR_none cells (ascii "/") 0).mp first
      simp only [statusLine, first, ne_eq, not_true_eq_false, false_iff]
      intro tokens
      obtain ⟨char, member, other⟩ := tokens.first
      exact other ((only char).mp (all char member))
  | some protocol =>
      obtain ⟨lead, rest, whole, cut⟩ := cut_of_strtokR _ cells protocol 0 first
      rw [List.drop_zero] at whole
      have visible := visible_cut _ slash lead protocol rest cut
      rw [← whole] at visible
      have letter : ∃ char ∈ cstr cells, char ≠ 47 := by
        obtain ⟨char, member⟩ := List.exists_mem_of_ne_nil protocol cut.nonempty
        refine ⟨char, ?_, fun same => (cut.token char member).1 ((only char).mpr same)⟩
        rw [visible]
        exact List.mem_append_right lead (List.mem_append_left _ member)
      by_cases http : protocol = ascii "HTTP"
      · subst http
        rw [statusLine_http cells _ rfl first, twoTokens_iff]
        have blanks : ∀ char ∈ lead, char = 47 :=
          fun char member => (only char).mp (cut.lead char member)
        have ends : cstr rest = [] ∨ (cstr rest).head? = some 47 := by
          cases shown : cstr rest with
          | nil => exact .inl rfl
          | cons char tail =>
              have stop := visible_stops _ rest cut.stops char (by rw [shown]; rfl)
              exact .inr (by rw [(only char).mp stop]; rfl)
        constructor
        · intro words
          refine ⟨letter, fun slashes rest lead ends text => ?_⟩
          rw [← (strtokR_http cells slashes rest lead ends text).2]
          exact words
        · intro tokens
          rw [(strtokR_http cells lead (cstr rest) blanks ends visible).2]
          exact tokens.others lead (cstr rest) blanks ends visible
      · have rejected : statusLine cells ≠ .missing := by
          simp only [statusLine, first, http, ne_eq, not_false_eq_true, ↓reduceIte, reduceCtorEq]
        refine ⟨fun _ => ⟨letter, fun slashes rest lead ends text => ?_⟩, fun _ => rejected⟩
        have token := (strtokR_http cells slashes rest lead ends text).1
        exact absurd (Option.some.inj (first.symm.trans token)) http

/-- Of the lines that are judged, up to the first one that is not accepted, each has its
tokens in the part of it that `Line` shows. -/
def HeaderTokens (stream : List UInt8) : Prop := ∀ line, Stops stream line → Tokens (shown line)

/-- What may be expected of a request: `strtoul` gets a token, and a response that is received
is answered with a status. -/
structure Answered (server : Server) (serverName message : List UInt8) (response : Response) :
    Prop where
  token : response.outcome ≠ .nullToken
  status : Accepts server serverName message → ∃ status, response.outcome = .returned status

theorem refusal_returns_iff (ulongMax : Nat) (line : List UInt8) (unaccepted : ¬ Accepted line) :
    (∃ status, refusal ulongMax line = .returned status) ↔ Tokens (shown line) := by
  rw [accepted_iff] at unaccepted
  rw [shown, ← statusLine_present_iff]
  unfold refusal
  cases verdict : statusLine (kept line) with
  | accepted cells => exact absurd ⟨cells, verdict⟩ unaccepted
  | rejected token => simp
  | missing => simp

section Responses
variable (ulongMax length : Nat)

theorem finish_returns (parser : Parser) :
    ∃ status, (finish length parser).outcome = .returned status := by
  unfold finish
  split <;> exact ⟨_, rfl⟩

/-- The response is answered with a status exactly when its judged lines have their tokens. -/
theorem respond_returns_iff (reads : List (List UInt8)) :
    (∃ status, (respond ulongMax length reads).outcome = .returned status) ↔
      HeaderTokens (delivered reads) := by
  constructor
  · intro returns line stops
    rw [respond_stopped ulongMax length reads line stops] at returns
    exact (refusal_returns_iff ulongMax line (stopsFrom_unaccepted _ _ line stops).1).mp returns
  · intro tokens
    rcases passes_or_stops 0 (headerLines (delivered reads)) with passes | ⟨line, stops⟩
    · rw [respond, receive_delivered]
      cases ended : Parser.start.feed ulongMax length (delivered reads) with
      | error exit =>
          rcases passed_exit ulongMax length _ exit passes ended with full | invalid
          · exact ⟨_, full⟩
          · exact ⟨_, invalid⟩
      | ok next => exact finish_returns length next
    · rw [respond_stopped ulongMax length reads line stops]
      exact (refusal_returns_iff ulongMax line (stopsFrom_unaccepted _ _ line stops).1).mpr
        (tokens line stops)

end Responses

/-- For every request and every response: no null pointer gets to `strtoul`, and the response is
answered with a status, exactly when, if the request comes to its response, the lines that are
judged have their tokens. -/
theorem request_answered_iff_tokens (ulongMax : Nat) (server : Server) (method : RequestMethod)
    (path serverName : List UInt8) (length : Nat) (formData : Option (List UInt8)) :
    Answered server serverName (requestText method path serverName formData)
        (request ulongMax server method path serverName length formData) ↔
      (Accepts server serverName (requestText method path serverName formData) →
        HeaderTokens (delivered server.reads)) := by
  by_cases accepts : Accepts server serverName (requestText method path serverName formData)
  · rw [request_accepted ulongMax server method path serverName length formData accepts]
    constructor
    · exact fun answered _ =>
        (respond_returns_iff ulongMax length server.reads).mp (answered.status accepts)
    · intro tokens
      have returns := (respond_returns_iff ulongMax length server.reads).mpr (tokens accepts)
      refine ⟨?_, fun _ => returns⟩
      rcases returns with ⟨status, returned⟩
      rw [returned]
      exact Outcome.noConfusion
  · refine iff_of_true ⟨?_, fun other => absurd other accepts⟩ fun other => absurd other accepts
    have early := request_unanswered ulongMax server method path serverName length formData accepts
    intro null
    rw [null] at early
    simp at early

/-- A first line of one slash, and one that ends behind the version. -/
theorem slash_and_version_null :
    (ask (2 ^ 32 - 1) (ascii "/\n")).outcome = .nullToken ∧
      (ask (2 ^ 32 - 1) (ascii "HTTP/1.1\n")).outcome = .nullToken := by
  decide +kernel

end CircleStdlib.HttpTokens
