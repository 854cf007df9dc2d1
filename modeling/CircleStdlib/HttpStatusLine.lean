import CircleStdlib.HttpLines
import CircleStdlib.Numerals
import Mathlib.Data.List.Infix

/-!
The first line of a response, as `strtok_r` takes it apart: which lines are
accepted, and with which token another one is rejected. It puts up with slashes
in front, with more blanks than one, and with anything behind a NUL.
-/

namespace CircleStdlib.HttpStatusLine

open CText Numerals HttpClient HttpLines

def StatusLine200 (line : List UInt8) : Prop :=
  ∃ version reason, version ≠ [] ∧ 32 ∉ version ∧ (reason = [] ∨ reason.head? = some 32) ∧
    line = ascii "HTTP/" ++ version ++ ascii " 200" ++ reason

structure Spelling where
  slashes : List UInt8
  blanks : List UInt8
  version : List UInt8
  gap : List UInt8
  code : List UInt8
  tail : List UInt8

def Spelling.text (spelling : Spelling) : List UInt8 :=
  spelling.slashes ++ (ascii "HTTP/" ++ (spelling.blanks ++ (spelling.version ++
    (spelling.gap ++ (spelling.code ++ spelling.tail)))))

structure Spelling.Tolerated (spelling : Spelling) : Prop where
  slashes : ∀ char ∈ spelling.slashes, char = 47
  blanks : ∀ char ∈ spelling.blanks, char = 32
  versioned : spelling.version ≠ []
  version : ∀ char ∈ spelling.version, char ≠ 32 ∧ char ≠ 0
  separated : spelling.gap ≠ []
  gap : ∀ char ∈ spelling.gap, char = 32
  coded : spelling.code ≠ []
  code : ∀ char ∈ spelling.code, char ≠ 32 ∧ char ≠ 0
  tail : ∀ char, spelling.tail.head? = some char → char = 32 ∨ char = 0

/-- No delimiter too many, no NUL, and nothing hidden by the end of `Line`. -/
structure Spelling.Plain (spelling : Spelling) (cutOff : List UInt8) : Prop where
  slashes : spelling.slashes = []
  blanks : spelling.blanks = []
  gap : spelling.gap = [32]
  tail : ∀ char, (spelling.tail ++ cutOff).head? = some char → char = 32

def Accepted (line : List UInt8) : Prop :=
  ∃ spelling : Spelling, spelling.Tolerated ∧ spelling.code = ascii "200" ∧
    spelling.text = kept line

inductive Refused (line : List UInt8) : List UInt8 → Prop where
  | protocol (slashes protocol rest : List UInt8)
      (text : kept line = slashes ++ (protocol ++ rest))
      (cut : Cut (ascii "/") slashes protocol rest) (other : protocol ≠ ascii "HTTP") :
      Refused line protocol
  | code (spelling : Spelling) (tolerated : spelling.Tolerated)
      (text : spelling.text = kept line) (other : spelling.code ≠ ascii "200") :
      Refused line spelling.code

/-- A token of white space, a sign and decimal digits, whose number is the status when 32 bits
of an `unsigned long` are kept. -/
def Counts (ulongMax status : Nat) (token : List UInt8) : Prop :=
  ∃ blanks sign digits, Spells token blanks sign digits ∧
    (if numeral 10 digits > ulongMax then ulongMax
      else if sign = [45] then (ulongMax + 1 - numeral 10 digits) % (ulongMax + 1)
      else numeral 10 digits) % 2 ^ 32 = status

theorem slash_printable : 0 ∉ ascii "/" := by decide

theorem blank_printable : 0 ∉ ascii " " := by decide

theorem statusLine_of_tolerated (spelling : Spelling) (tolerated : spelling.Tolerated) :
    ∃ cells, statusLine spelling.text =
      if spelling.code ≠ ascii "200" then .rejected spelling.code else .accepted cells := by
  rcases gap : spelling.gap with _ | ⟨separator, more⟩
  · exact absurd gap tolerated.separated
  have allBlank : ∀ char ∈ separator :: more, char = 32 := gap ▸ tolerated.gap
  have protocol := strtokR_of_cut (ascii "/") slash_printable spelling.text spelling.slashes
    (ascii "HTTP") (ascii "/" ++ (spelling.blanks ++ (spelling.version ++
      (spelling.gap ++ (spelling.code ++ spelling.tail))))) 0 rfl
    ⟨by simpa [ascii] using tolerated.slashes, by decide, by simp [ascii], by simp [ascii]⟩
  have version := strtokR_of_cut (ascii " ") blank_printable _ spelling.blanks spelling.version
    (spelling.gap ++ (spelling.code ++ spelling.tail)) _ protocol.2
    ⟨by simpa [ascii] using tolerated.blanks, tolerated.versioned,
      by simpa [ascii] using tolerated.version, by simp [gap, ascii, allBlank separator]⟩
  have rest : behind (ascii " ") (spelling.gap ++ (spelling.code ++ spelling.tail)) =
      more ++ (spelling.code ++ spelling.tail) := by
    simp [gap, behind, ascii, allBlank separator]
  have code := strtokR_of_cut (ascii " ") blank_printable _ more spelling.code spelling.tail _
    (version.2.trans rest)
    ⟨by simpa [ascii] using fun char member => allBlank char (List.mem_cons_of_mem _ member),
      tolerated.coded, by simpa [ascii] using tolerated.code,
      by simpa [ascii] using tolerated.tail⟩
  simp only [statusLine, protocol.1, version.1, code.1, ne_eq, not_true_eq_false, ↓reduceIte]
  exact ⟨_, rfl⟩

theorem statusLine_of_protocol (cells slashes protocol rest : List UInt8)
    (text : cells = slashes ++ (protocol ++ rest)) (cut : Cut (ascii "/") slashes protocol rest)
    (other : protocol ≠ ascii "HTTP") : statusLine cells = .rejected protocol := by
  have first := strtokR_of_cut (ascii "/") slash_printable cells slashes protocol rest 0 text cut
  simp [statusLine, first.1, other]

/-- If a further token was found, the one before it ended at a delimiter. -/
theorem delimiter_before (delims others rest lead token tail : List UInt8) (delim : UInt8)
    (printable : 0 ∉ others) (single : ∀ char ∈ delims, char = delim)
    (stops : ∀ char, rest.head? = some char → char ∈ delims ∨ char = 0)
    (seen : behind delims rest = lead ++ (token ++ tail)) (cut : Cut others lead token tail) :
    rest = delim :: (lead ++ (token ++ tail)) := by
  cases rest with
  | nil =>
      have empty : token = [] := by
        simp only [behind, List.nil_eq, List.append_eq_nil_iff] at seen
        exact seen.2.1
      exact absurd empty cut.nonempty
  | cons first left =>
      by_cases member : first ∈ delims
      · rw [← seen, single first member]
        simp [behind, single first member ▸ member]
      · have zero := (stops first rfl).resolve_left member
        have start : (lead ++ (token ++ tail)).head? = some 0 := by
          rw [← seen, ← zero]
          simp [behind, member]
        cases lead with
        | cons char _ =>
            cases start
            exact absurd (cut.lead 0 (List.mem_cons_self ..)) printable
        | nil =>
            cases token with
            | nil => exact absurd rfl cut.nonempty
            | cons char _ =>
                cases start
                exact absurd rfl (cut.token 0 (List.mem_cons_self ..)).2

/-- The tokens of a line that has three of them, `HTTP` first, are the parts of a spelling. -/
theorem tolerated_of_tokens (cells version code : List UInt8) (first second : Tokenised)
    (tokenised : strtokR cells 0 (ascii "/") = first) (http : first.token = some (ascii "HTTP"))
    (again : strtokR first.cells first.save (ascii " ") = second)
    (versioned : second.token = some version)
    (coded : (strtokR second.cells second.save (ascii " ")).token = some code) :
    ∃ spelling : Spelling, spelling.Tolerated ∧ spelling.code = code ∧ spelling.text = cells := by
  subst tokenised again
  rcases cut_of_strtokR _ _ _ _ http with ⟨slashes, afterHttp, whole, httpCut⟩
  rcases cut_of_strtokR _ _ _ _ versioned with ⟨blanks, afterVersion, middle, versionCut⟩
  rcases cut_of_strtokR _ _ _ _ coded with ⟨more, tail, last, codeCut⟩
  have second := strtokR_of_cut _ slash_printable _ _ _ _ _ whole httpCut
  have third := strtokR_of_cut _ blank_printable _ _ _ _ _ middle versionCut
  have slashed := delimiter_before _ _ afterHttp _ _ _ 47 blank_printable (by simp [ascii])
    httpCut.stops (second.2.symm.trans middle) versionCut
  have spaced := delimiter_before _ _ afterVersion _ _ _ 32 blank_printable (by simp [ascii])
    versionCut.stops (third.2.symm.trans last) codeCut
  refine ⟨⟨slashes, blanks, version, 32 :: more, code, tail⟩, ⟨?_, ?_, versionCut.nonempty, ?_,
    by simp, ?_, codeCut.nonempty, ?_, ?_⟩, rfl, ?_⟩
  · simpa [ascii] using httpCut.lead
  · simpa [ascii] using versionCut.lead
  · simpa [ascii] using versionCut.token
  · simpa [ascii] using codeCut.lead
  · simpa [ascii] using codeCut.token
  · simpa [ascii] using codeCut.stops
  · rw [List.drop_zero] at whole
    rw [whole, slashed, spaced]
    simp [Spelling.text, ascii]

def Judges (line : List UInt8) : Verdict → Prop
  | .accepted _ => Accepted line
  | .rejected token => Refused line token
  | .missing => True

theorem statusLine_judges (line : List UInt8) : Judges line (statusLine (kept line)) := by
  unfold statusLine
  dsimp only
  cases first : (strtokR (kept line) 0 (ascii "/")).token with
  | none => trivial
  | some protocol =>
      by_cases http : protocol = ascii "HTTP"
      · subst http
        dsimp only
        rw [if_neg (not_not.mpr rfl)]
        split
        · trivial
        · rename_i version second
          split
          · trivial
          · rename_i code third
            rcases tolerated_of_tokens _ version code _ _ rfl first rfl second third with
              ⟨spelling, tolerated, rfl, text⟩
            split
            · rename_i other
              exact .code spelling tolerated text other
            · rename_i ok
              exact ⟨spelling, tolerated, not_not.mp ok, text⟩
      · rcases cut_of_strtokR _ _ _ _ first with ⟨slashes, rest, text, cut⟩
        dsimp only
        rw [if_pos http]
        exact .protocol slashes protocol rest text cut http

theorem accepted_iff (line : List UInt8) :
    Accepted line ↔ ∃ cells, statusLine (kept line) = .accepted cells := by
  constructor
  · rintro ⟨spelling, tolerated, ok, text⟩
    rcases statusLine_of_tolerated spelling tolerated with ⟨cells, verdict⟩
    rw [text, if_neg (not_not.mpr ok)] at verdict
    exact ⟨cells, verdict⟩
  · rintro ⟨cells, accepted⟩
    have verdict := statusLine_judges line
    rwa [accepted] at verdict

theorem refused_iff (line token : List UInt8) :
    Refused line token ↔ statusLine (kept line) = .rejected token := by
  constructor
  · intro refused
    cases refused with
    | protocol slashes _ rest text cut other =>
        exact statusLine_of_protocol _ slashes token rest text cut other
    | code spelling tolerated text other =>
        rcases statusLine_of_tolerated spelling tolerated with ⟨cells, verdict⟩
        rw [text, if_pos other] at verdict
        exact verdict
  · intro rejected
    have verdict := statusLine_judges line
    rwa [rejected] at verdict

theorem refused_nonempty (line token : List UInt8) (refused : Refused line token) :
    token ≠ [] := by
  cases refused with
  | protocol slashes _ rest text cut other => exact cut.nonempty
  | code spelling tolerated text other => exact tolerated.coded

/-- The number that a rejected line is converted to. -/
theorem rejectedStatus_iff (ulongMax status : Nat) (token : List UInt8) (some : token ≠ [])
    (other : status ≠ httpInvalidResponseCode) :
    rejectedStatus ulongMax token = status ↔ Counts ulongMax status token := by
  unfold rejectedStatus
  dsimp only
  by_cases ended : (strtoul ulongMax 10 token).2 = []
  · rw [if_neg (not_not.mpr ended)]
    rcases (strtoul_spells ulongMax token).mp ended with empty | ⟨blanks, sign, digits, spells⟩
    · exact absurd empty some
    · rw [strtoul_value ulongMax token blanks sign digits spells]
      constructor
      · exact fun same => ⟨blanks, sign, digits, spells, same⟩
      · rintro ⟨blanks', sign', digits', again, same⟩
        rw [← same, ← strtoul_value ulongMax token _ _ _ again,
          ← strtoul_value ulongMax token _ _ _ spells]
  · rw [if_pos ended]
    constructor
    · exact fun same => absurd same.symm other
    · rintro ⟨blanks, sign, digits, spells, -⟩
      exact absurd ((strtoul_spells ulongMax token).mpr (.inr ⟨_, _, _, spells⟩)) ended

theorem statusLine200_of_plain (spelling : Spelling) (cutOff : List UInt8)
    (tolerated : spelling.Tolerated) (ok : spelling.code = ascii "200")
    (plain : spelling.Plain cutOff) : StatusLine200 (spelling.text ++ cutOff) := by
  refine ⟨spelling.version, spelling.tail ++ cutOff, tolerated.versioned, ?_, ?_, ?_⟩
  · exact fun member => (tolerated.version 32 member).1 rfl
  · have blank := plain.tail
    cases reason : spelling.tail ++ cutOff with
    | nil => exact .inl rfl
    | cons char rest =>
        rw [reason] at blank
        exact .inr (congrArg some (blank char rfl))
  · simp [Spelling.text, ok, plain.slashes, plain.blanks, plain.gap, ascii]

-- The parts are read off from the left; each one ends where the next begins.
theorem statusLine200_parts (spelling : Spelling) (cutOff version reason : List UInt8)
    (tolerated : spelling.Tolerated) (versioned : version ≠ []) (unbroken : 32 ∉ version)
    (equal : spelling.text ++ cutOff = ascii "HTTP/" ++ version ++ ascii " 200" ++ reason) :
    spelling.slashes = [] ∧ spelling.blanks = [] ∧ spelling.gap = [32] ∧
      spelling.code ++ (spelling.tail ++ cutOff) = ascii "200" ++ reason := by
  have slashes : spelling.slashes = [] := by
    cases found : spelling.slashes with
    | nil => rfl
    | cons char rest =>
        have slash := tolerated.slashes char (by simp [found])
        simp [Spelling.text, found, ascii, slash] at equal
  have parts : spelling.blanks ++ (spelling.version ++ (spelling.gap ++ (spelling.code ++
      (spelling.tail ++ cutOff)))) = version ++ (32 :: (ascii "200" ++ reason)) := by
    simpa [Spelling.text, slashes, ascii] using equal
  have blanks : spelling.blanks = [] := by
    cases found : spelling.blanks with
    | nil => rfl
    | cons char rest =>
        have blank := tolerated.blanks char (by simp [found])
        cases version with
        | nil => exact absurd rfl versioned
        | cons first others =>
            rw [found, blank] at parts
            simp only [List.cons_append, List.cons.injEq] at parts
            exact absurd (parts.1 ▸ List.mem_cons_self ..) unbroken
  rw [blanks, List.nil_append] at parts
  rcases gap : spelling.gap with _ | ⟨separator, more⟩
  · exact absurd gap tolerated.separated
  have allBlank : ∀ char ∈ separator :: more, char = 32 := gap ▸ tolerated.gap
  -- Both versions end at the first blank behind them.
  have same : spelling.version = version := by
    have left := takeWhile_stops (· ≠ 32) spelling.version (spelling.gap ++ (spelling.code ++
      (spelling.tail ++ cutOff)))
      (by simpa using fun char member => (tolerated.version char member).1)
      (by simp [gap, allBlank separator])
    have right := takeWhile_stops (· ≠ 32) version (32 :: (ascii "200" ++ reason))
      (by
        intro char member
        simpa using ne_of_mem_of_not_mem member unbroken) (by simp)
    rw [← left, parts, right]
  rw [same, gap] at parts
  have behindVersion := List.append_cancel_left parts
  -- a second blank would be the first digit of 200
  have single : more = [] := by
    cases more with
    | nil => rfl
    | cons char rest => simp [ascii, allBlank char] at behindVersion
  subst single
  refine ⟨slashes, blanks, by rw [allBlank separator List.mem_cons_self], ?_⟩
  simpa [ascii, allBlank separator] using behindVersion

theorem plain_of_statusLine200 (spelling : Spelling) (cutOff : List UInt8)
    (tolerated : spelling.Tolerated) (ok : spelling.code = ascii "200")
    (status : StatusLine200 (spelling.text ++ cutOff)) :
    spelling.Plain cutOff := by
  rcases status with ⟨version, reason, versioned, unbroken, ends, equal⟩
  rcases statusLine200_parts spelling cutOff version reason tolerated versioned unbroken equal with
    ⟨slashes, blanks, gap, parts⟩
  rw [ok] at parts
  refine ⟨slashes, blanks, gap, ?_⟩
  intro char head
  rw [List.append_cancel_left parts] at head
  rcases ends with rfl | blank
  · cases head
  · exact Option.some.inj (head.symm.trans blank)

/-- A status line with 200 that is rejected all the same is cut off inside the number. -/
theorem refused_cutOff (line token : List UInt8) (status : StatusLine200 line)
    (refused : Refused line token) : token = [50] ∨ token = [50, 48] := by
  rcases status with ⟨version, reason, versioned, unbroken, ends, equal⟩
  cases refused with
  | protocol slashes _ rest text cut other =>
      have first := strtokR_of_cut (ascii "/") slash_printable _ slashes token rest 0 text cut
      have http := strtokR_of_cut (ascii "/") slash_printable (kept line) [] (ascii "HTTP")
        (47 :: (version ++ ascii " 200" ++ reason).take (httpMaxRequestLine - 6)) 0
        (by simp [kept, equal, ascii, httpMaxRequestLine])
        ⟨by simp, by decide, by simp [ascii], by simp [ascii]⟩
      exact absurd (Option.some.inj (first.1.symm.trans http.1)) other
  | code spelling tolerated text other =>
      have whole : kept line ++ line.drop (httpMaxRequestLine - 1) = line :=
        List.take_append_drop ..
      rw [← text] at whole
      rcases statusLine200_parts spelling _ version reason tolerated versioned unbroken
        (whole.trans equal) with ⟨-, -, -, parts⟩
      rcases List.append_eq_append_iff.mp parts with ⟨rest, number, -⟩ | ⟨more, longer, cut⟩
      · have begins : spelling.code ∈ List.inits [50, 48, 48] :=
          (List.mem_inits _ _).mpr ⟨rest, number.symm⟩
        simp only [List.inits, List.map_cons, List.map_nil, List.mem_cons, List.not_mem_nil,
          or_false] at begins
        rcases begins with none | two | twenty | whole
        · exact absurd none tolerated.coded
        · exact .inl two
        · exact .inr twenty
        · exact absurd whole other
      · cases more with
        | nil => exact absurd (longer.trans (List.append_nil _)) other
        | cons char _ =>
            have unblanked := (tolerated.code char (by simp [longer])).1
            rcases ends with rfl | blank
            · cases cut
            · rw [cut] at blank
              exact absurd (Option.some.inj blank) unblanked

end CircleStdlib.HttpStatusLine
