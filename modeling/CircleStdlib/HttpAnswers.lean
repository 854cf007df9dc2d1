import CircleStdlib.HttpContract
import CircleStdlib.HttpDecoding

/-!
What `HTTPOK` says of a response. There are two ways to it: a judged line that is rejected with
a token for the number 200, and the end of the parser. On neither of them a status line has to
have come first.
-/

namespace CircleStdlib.HttpAnswers

open CText Numerals HttpClient HttpLines HttpStatusLine HttpHeaders HttpDecoding HttpContract

def Began (stream : List UInt8) : Prop :=
  ∃ line fields, headerLines stream = line :: fields ∧ StatusLine200 line

structure Meant (stream : List UInt8) (response : Response) : Prop where
  began : Began stream
  ended : bodyOf stream ≠ none
  length : response.length = response.stored.length

def OkMeans (reads : List (List UInt8)) (response : Response) : Prop :=
  response.outcome = .returned httpOK → Meant (delivered reads) response

def PlainFirst (stream : List UInt8) : Prop :=
  ∃ (line : List UInt8) (fields : List (List UInt8)) (spelling : Spelling),
    headerLines stream = line :: fields ∧ spelling.Tolerated ∧ spelling.code = ascii "200" ∧
      spelling.text = kept line ∧ spelling.Plain (line.drop (httpMaxRequestLine - 1))

/-- The first line is a plain one whenever the body comes to its end; and when a judged line is
rejected with a token for 200, it is not the first, and the caller has no buffer. -/
structure ResponseSound (ulongMax length : Nat) (stream : List UInt8) : Prop where
  refused : ∀ line token, Stops stream line → Refused line token →
    Counts ulongMax httpOK token → PlainFirst stream ∧ bodyOf stream ≠ none ∧ length = 0
  complete : ∀ body, Passes stream → bodyOf stream = some body →
    (TakenChunked stream → Decodes ulongMax length (left stream) body) →
    (¬ TakenChunked stream → body.length ≤ length) → PlainFirst stream

theorem began_of_plain (stream : List UInt8) (plain : PlainFirst stream) : Began stream := by
  rcases plain with ⟨line, fields, spelling, lines, tolerated, ok, text, single⟩
  have status := statusLine200_of_plain spelling _ tolerated ok single
  rw [text, kept, List.take_append_drop] at status
  exact ⟨line, fields, lines, status⟩

theorem plain_of_began (stream line : List UInt8) (fields : List (List UInt8))
    (lines : headerLines stream = line :: fields) (accepted : Accepted line)
    (began : Began stream) : PlainFirst stream := by
  rcases began with ⟨first, others, same, status⟩
  rw [lines] at same
  cases same
  rcases accepted with ⟨spelling, tolerated, ok, text⟩
  refine ⟨line, fields, spelling, lines, tolerated, ok, text, ?_⟩
  apply plain_of_statusLine200 spelling _ tolerated ok
  rwa [text, kept, List.take_append_drop]

/-- The beginning of 200 is another number. -/
theorem cutOff_uncounted (ulongMax : Nat) (token : List UInt8)
    (cutOff : token = [50] ∨ token = [50, 48]) : ¬ Counts ulongMax httpOK token := by
  rintro ⟨blanks, sign, digits, spells, counts⟩
  have digital : ∀ digit ∈ token, digitValue digit < 10 := by
    rcases cutOff with rfl | rfl <;> simp [digitValue]
  have nonempty : token ≠ [] := by
    rcases cutOff with rfl | rfl <;> decide
  have plain : Spells token [] [] token := ⟨rfl, by simp, by simp, nonempty, digital⟩
  rw [← strtoul_value ulongMax token _ _ _ spells, strtoul_value ulongMax token _ _ _ plain,
    if_neg (show ([] : List UInt8) ≠ [45] by decide)] at counts
  have small : numeral 10 token = 2 ∨ numeral 10 token = 20 := by
    rcases cutOff with rfl | rfl
    · exact .inl rfl
    · exact .inr rfl
  unfold httpOK at counts
  split at counts <;> omega

section Answer
variable (ulongMax length : Nat) (reads : List (List UInt8))

/-- A line that is rejected with a token for 200, and the response began with a status line: then
the line came later. -/
theorem plain_of_stopped (stream line token : List UInt8) (stops : Stops stream line)
    (refused : Refused line token) (counts : Counts ulongMax httpOK token)
    (began : Began stream) : PlainFirst stream := by
  have earlier := began
  rcases earlier with ⟨first, fields, lines, status⟩
  rw [Stops, lines] at stops
  cases stops with
  | here _ _ _ judged unaccepted =>
      have cutOff := refused_cutOff line token status refused
      exact absurd counts (cutOff_uncounted ulongMax token cutOff)
  | later _ _ _ _ passed stops =>
      exact plain_of_began stream first fields lines (passed (Nat.zero_mod _)) began

theorem plain_of_passed (stream : List UInt8) (passes : Passes stream) (began : Began stream) :
    PlainFirst stream := by
  have earlier := began
  rcases earlier with ⟨first, fields, lines, status⟩
  rw [Passes, lines] at passes
  exact plain_of_began stream first fields lines (passes.1 (Nat.zero_mod _)) began

/-- The end of the parser. -/
theorem respond_complete (body : List UInt8) (passes : Passes (delivered reads))
    (over_ : bodyOf (delivered reads) = some body)
    (chunked : TakenChunked (delivered reads) →
      Decodes ulongMax length (left (delivered reads)) body)
    (copied : ¬ TakenChunked (delivered reads) → body.length ≤ length) :
    (respond ulongMax length reads).outcome = .returned httpOK := by
  rcases feed_opened ulongMax length _ body passes over_ with ⟨front, parser, whole, opened, fed⟩
  rw [respond, receive_delivered, whole, fed]
  by_cases announced : TakenChunked (delivered reads)
  · have atSize := opened_atSize _ parser opened announced
    rcases decodes_finished ulongMax length parser [] _ body length atSize (Nat.zero_add _)
      (chunked announced) with ⟨next, ended, finished⟩
    rw [ended]
    simp [finish, finished]
  · have room : parser.nLength + body.length ≤ length := by
      rw [opened.nLength]
      have fits := copied announced
      omega
    rw [feed_content ulongMax length parser body (opened.plain announced) room]
    simp [finish, opened.plain announced]

theorem complete_of_respond (passes : Passes (delivered reads))
    (ok : (respond ulongMax length reads).outcome = .returned httpOK) :
    ∃ body, bodyOf (delivered reads) = some body ∧
      (TakenChunked (delivered reads) →
        Decodes ulongMax length (left (delivered reads)) body) ∧
      (¬ TakenChunked (delivered reads) → body.length ≤ length) := by
  cases over_ : bodyOf (delivered reads) with
  | none =>
      rcases feed_unfinished ulongMax length _ passes over_ with ⟨parser, fed, header⟩
      rw [respond, receive_delivered, fed] at ok
      simp [finish, header, httpConnectionReset, httpOK] at ok
  | some body =>
      rcases feed_opened ulongMax length _ body passes over_ with
        ⟨front, parser, whole, opened, fed⟩
      refine ⟨body, rfl, fun announced => ?_, fun unannounced => ?_⟩
      · have atSize := opened_atSize _ parser opened announced
        rcases feed_decodes ulongMax length parser [] _ body length atSize (Nat.zero_add _) with
          decodes | unfinished
        · exact decodes
        · exact absurd ok (respond_unfinished ulongMax length reads parser front body whole fed
            unfinished)
      · by_contra full
        rcases feed_content_full ulongMax length parser body (opened.plain unannounced)
          (by rw [opened.nLength]; exact Nat.zero_le _) (by rw [opened.nLength]; omega) with
          ⟨stored, refused⟩
        refine absurd ok (respond_unfinished ulongMax length reads parser front body whole fed ?_)
        rw [refused]
        simp [Unfinished, httpContentBufferTooSmall, httpOK]

/-- At the end of the parser `*pLength` counts what has been stored. -/
theorem respond_counted (passes : Passes (delivered reads))
    (ok : (respond ulongMax length reads).outcome = .returned httpOK) :
    (respond ulongMax length reads).length = (respond ulongMax length reads).stored.length := by
  have contained := feed_contained ulongMax length Parser.start (delivered reads)
    (start_counted length)
  rw [respond, receive_delivered] at ok ⊢
  cases ended : Parser.start.feed ulongMax length (delivered reads) with
  | ok parser =>
      rw [ended] at ok contained
      dsimp only [finish] at ok ⊢
      split at ok
      · simp [httpConnectionReset, httpOK] at ok
      · rename_i over_
        rw [if_neg over_]
        exact contained.counted
  | error exit =>
      rw [ended] at ok
      have back := passed_exit ulongMax length _ exit passes ended
      rcases back with full | invalid
      · exact absurd (full.symm.trans ok) (by decide)
      · exact absurd (invalid.symm.trans ok) (by decide)

theorem okMeans_of_sound (sound : ResponseSound ulongMax length (delivered reads)) :
    OkMeans reads (respond ulongMax length reads) := by
  intro ok
  rcases passes_or_stops 0 (headerLines (delivered reads)) with passes | ⟨line, stops⟩
  · rcases complete_of_respond ulongMax length reads passes ok with
      ⟨body, over_, chunked, copied⟩
    have plain := sound.complete body passes over_ chunked copied
    refine ⟨began_of_plain _ plain, ?_, respond_counted ulongMax length reads passes ok⟩
    rw [over_]
    exact Option.some_ne_none body
  · have stopped := respond_stopped ulongMax length reads line stops
    rw [stopped] at ok ⊢
    rcases (refusal_status ulongMax httpOK line (by decide)).mp ok with ⟨token, refused, counts⟩
    rcases sound.refused line token stops refused counts with ⟨plain, ended, empty⟩
    exact ⟨began_of_plain _ plain, ended, empty⟩

theorem sound_of_okMeans (means : OkMeans reads (respond ulongMax length reads)) :
    ResponseSound ulongMax length (delivered reads) := by
  constructor
  · intro line token stops refused counts
    have stopped := respond_stopped ulongMax length reads line stops
    have number := (refusal_status ulongMax httpOK line (by decide)).mpr ⟨token, refused, counts⟩
    rw [stopped] at means
    have meant := means number
    exact ⟨plain_of_stopped ulongMax _ line token stops refused counts meant.began, meant.ended,
      meant.length⟩
  · intro body passes over_ chunked copied
    have meant := means (respond_complete ulongMax length reads body passes over_ chunked copied)
    exact plain_of_passed _ passes meant.began

end Answer

end CircleStdlib.HttpAnswers
