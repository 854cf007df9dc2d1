import Mathlib.Data.List.Basic
import Mathlib.Data.List.TakeWhile

/-!
C strings and the string functions of ISO C and POSIX that parse them in
place. A character array is the list of its cells up to the terminator that was
written last; a cell in it may itself hold NUL, and a C function sees only what
stands before the first one.
-/

namespace CircleStdlib.CText

def ascii (text : String) : List UInt8 := text.toList.map fun char => UInt8.ofNat char.toNat

def cstr (cells : List UInt8) : List UInt8 := cells.takeWhile (· ≠ 0)

/-- `save` is the index that `*saveptr` points at; `cells` is the array after
the delimiter behind the token has been overwritten. -/
structure Tokenised where
  token : Option (List UInt8)
  cells : List UInt8
  save : Nat
  deriving DecidableEq, Repr

def strtokR (cells : List UInt8) (start : Nat) (delims : List UInt8) : Tokenised :=
  let text := cstr (cells.drop start)
  let lead := text.takeWhile (· ∈ delims)
  let body := text.dropWhile (· ∈ delims)
  if body = [] then ⟨none, cells, start + lead.length⟩
  else
    let token := body.takeWhile (· ∉ delims)
    let stop := start + lead.length + token.length
    if token.length < body.length then ⟨some token, cells.set stop 0, stop + 1⟩
    else ⟨some token, cells, stop⟩

def isspace (char : UInt8) : Bool := char = 32 || (9 ≤ char && char ≤ 13)

def digitValue (char : UInt8) : Nat :=
  if 48 ≤ char && char ≤ 57 then char.toNat - 48
  else if 65 ≤ char && char ≤ 90 then char.toNat - 55
  else if 97 ≤ char && char ≤ 122 then char.toNat - 87
  else 36

def numeral (base : Nat) (digits : List UInt8) : Nat :=
  digits.foldl (fun value digit => value * base + digitValue digit) 0

def readSign : List UInt8 → Bool × List UInt8
  | 45 :: rest => (true, rest)
  | 43 :: rest => (false, rest)
  | text => (false, text)

-- In base 16 a `0x` in front of a digit is skipped.
def skipHexMark : List UInt8 → List UInt8
  | 48 :: mark :: digit :: rest =>
      if (mark = 120 || mark = 88) && digitValue digit < 16 then digit :: rest
      else 48 :: mark :: digit :: rest
  | text => text

-- The value, saturated at `ulongMax`, and what `*endptr` points at: the whole
-- text when there is no digit to convert.
def strtoul (ulongMax base : Nat) (text : List UInt8) : Nat × List UInt8 :=
  let (negative, body) := readSign (text.dropWhile isspace)
  let digits := if base = 16 then skipHexMark body else body
  let number := digits.takeWhile (digitValue · < base)
  if number = [] then (0, text)
  else
    let value := numeral base number
    let result :=
      if value > ulongMax then ulongMax
      else if negative then (ulongMax + 1 - value) % (ulongMax + 1)
      else value
    (result, digits.drop number.length)

def toLower (char : UInt8) : UInt8 := if 65 ≤ char && char ≤ 90 then char + 32 else char

-- `strcasecmp (left, right) == 0`.
def sameIgnoringCase (left right : List UInt8) : Bool :=
  left.map toLower = right.map toLower

theorem cstr_clean (line : List UInt8) (clean : 0 ∉ line) : cstr line = line := by
  apply List.takeWhile_eq_self_iff.mpr
  intro char member
  simpa using ne_of_mem_of_not_mem member clean

theorem not_mem_cstr (cells : List UInt8) : 0 ∉ cstr cells := by
  intro member
  simpa using List.mem_takeWhile_imp member

theorem cstr_text (cells : List UInt8) : ∀ char ∈ cstr cells, char ≠ 0 := by
  intro char member zero
  exact not_mem_cstr cells (zero ▸ member)

theorem takeWhile_stops {α : Type} (p : α → Bool) (front back : List α)
    (all : ∀ item ∈ front, p item) (stops : ∀ item, back.head? = some item → ¬ p item) :
    (front ++ back).takeWhile p = front := by
  rw [List.takeWhile_append_of_pos all]
  cases back with
  | nil => simp
  | cons item rest => simp [stops item rfl]

theorem dropWhile_stops {α : Type} (p : α → Bool) (front back : List α)
    (all : ∀ item ∈ front, p item) (stops : ∀ item, back.head? = some item → ¬ p item) :
    (front ++ back).dropWhile p = back := by
  rw [List.dropWhile_append_of_pos all]
  cases back with
  | nil => simp
  | cons item rest => simp [stops item rfl]

structure Cut (delims lead token rest : List UInt8) : Prop where
  lead : ∀ char ∈ lead, char ∈ delims
  nonempty : token ≠ []
  token : ∀ char ∈ token, char ∉ delims ∧ char ≠ 0
  stops : ∀ char, rest.head? = some char → char ∈ delims ∨ char = 0

-- What is left for the next call: the delimiter behind the token is gone.
def behind (delims rest : List UInt8) : List UInt8 :=
  match rest with
  | [] => []
  | char :: tail => if char ∈ delims then tail else char :: tail

section Tokens
variable (delims : List UInt8) (printable : 0 ∉ delims)

include printable in
theorem strtokR_of_cut (cells lead token rest : List UInt8) (start : Nat)
    (text : cells.drop start = lead ++ (token ++ rest)) (cut : Cut delims lead token rest) :
    (strtokR cells start delims).token = some token ∧
      (strtokR cells start delims).cells.drop (strtokR cells start delims).save =
        behind delims rest := by
  have clean : ∀ char ∈ lead ++ token, char ≠ 0 := by
    intro char member
    rcases List.mem_append.mp member with inLead | inToken
    · exact fun zero => printable (zero ▸ cut.lead char inLead)
    · exact (cut.token char inToken).2
  have visible : cstr (cells.drop start) = lead ++ (token ++ cstr rest) := by
    rw [text, ← List.append_assoc, cstr, List.takeWhile_append_of_pos (by simpa using clean),
      List.append_assoc]
    rfl
  have tokenHead : ∀ char, (token ++ cstr rest).head? = some char → ¬ decide (char ∈ delims) := by
    intro char head
    cases token with
    | nil => exact absurd rfl cut.nonempty
    | cons first others =>
        simp only [List.cons_append, List.head?_cons, Option.some.injEq] at head
        subst head
        simpa using (cut.token first (by simp)).1
  have leadTaken := takeWhile_stops (fun char => decide (char ∈ delims)) lead (token ++ cstr rest)
    (by simpa using cut.lead) tokenHead
  have leadDropped := dropWhile_stops (fun char => decide (char ∈ delims)) lead
    (token ++ cstr rest) (by simpa using cut.lead) tokenHead
  have tokenTaken := takeWhile_stops (fun char => decide (char ∉ delims)) token (cstr rest)
    (by simpa using fun char member => (cut.token char member).1)
    (by
      intro char head
      cases rest with
      | nil => cases head
      | cons first others =>
          have stop := cut.stops first rfl
          by_cases zero : first = 0
          · simp [cstr, zero] at head
          · simp only [cstr, List.takeWhile_cons, zero, ne_eq, not_false_eq_true, decide_true,
              ↓reduceIte, List.head?_cons, Option.some.injEq] at head
            subst head
            simpa [zero] using stop)
  have position : cells.drop (start + lead.length + token.length) = rest := by
    rw [← List.drop_drop, ← List.drop_drop, text]
    simp
  have body : token ++ cstr rest ≠ [] := by
    simp [cut.nonempty]
  simp only [strtokR, visible, leadTaken, leadDropped, tokenTaken, body, ↓reduceIte]
  cases rest with
  | nil => simpa [cstr, behind] using position
  | cons first others =>
      by_cases zero : first = 0
      · have hidden : cstr (first :: others) = [] := by simp [cstr, zero]
        have kept : first ∉ delims := zero ▸ printable
        simpa [hidden, behind, kept] using position
      · have shown : cstr (first :: others) = first :: cstr others := by simp [cstr, zero]
        have member : first ∈ delims := (cut.stops first rfl).resolve_right zero
        have next : cells.drop (start + lead.length + token.length + 1) = others := by
          rw [← List.drop_drop, position]
          rfl
        simpa [shown, behind, member, List.drop_set] using next

theorem head_dropWhile {α : Type} (p : α → Bool) (list : List α) (item : α)
    (head : (list.dropWhile p).head? = some item) : ¬ p item := by
  have stop := List.head?_dropWhile_not p list
  rw [head] at stop
  simpa using stop

theorem cut_of_strtokR (cells token : List UInt8) (start : Nat)
    (found : (strtokR cells start delims).token = some token) :
    ∃ lead rest, cells.drop start = lead ++ (token ++ rest) ∧ Cut delims lead token rest := by
  simp only [strtokR] at found
  generalize visible : cstr (cells.drop start) = text at found
  generalize dropped : text.dropWhile (· ∈ delims) = body at found
  split at found
  · cases found
  · rename_i nonempty
    have taken : body.takeWhile (· ∉ delims) = token := by
      split at found <;> simpa using found
    refine ⟨text.takeWhile (· ∈ delims),
      body.dropWhile (· ∉ delims) ++ (cells.drop start).dropWhile (· ≠ 0), ?_, ?_, ?_, ?_, ?_⟩
    · have rejoin : cells.drop start = text ++ (cells.drop start).dropWhile (· ≠ 0) := by
        rw [← visible]
        exact List.takeWhile_append_dropWhile.symm
      rw [← taken, ← List.append_assoc (body.takeWhile _), List.takeWhile_append_dropWhile,
        ← dropped, ← List.append_assoc, List.takeWhile_append_dropWhile]
      exact rejoin
    · intro char member
      simpa using List.mem_takeWhile_imp member
    · rw [← taken]
      cases body with
      | nil => exact absurd rfl nonempty
      | cons first others =>
          have out := head_dropWhile (· ∈ delims) text first (by rw [dropped]; rfl)
          simpa using out
    · intro char member
      rw [← taken] at member
      have out := List.mem_takeWhile_imp member
      have inText : char ∈ cstr (cells.drop start) := by
        rw [visible]
        exact (List.dropWhile_suffix _).mem (dropped ▸ (List.takeWhile_prefix _).mem member)
      exact ⟨by simpa using out, by simpa using List.mem_takeWhile_imp inText⟩
    · intro char head
      rw [List.head?_append, Option.or_eq_some_iff] at head
      rcases head with inBody | ⟨-, atEnd⟩
      · left
        simpa using head_dropWhile (· ∉ delims) body char inBody
      · right
        simpa using head_dropWhile (· ≠ 0) _ char atEnd

/-- The token is the first word of what the string shows. -/
theorem strtokR_token (cells : List UInt8) (start : Nat) :
    (strtokR cells start delims).token =
      if (cstr (cells.drop start)).dropWhile (· ∈ delims) = [] then none
      else some (((cstr (cells.drop start)).dropWhile (· ∈ delims)).takeWhile (· ∉ delims)) := by
  simp only [strtokR]
  split
  · rfl
  · split <;> rfl

end Tokens

theorem strtokR_none (cells delims : List UInt8) (start : Nat) :
    (strtokR cells start delims).token = none ↔
      ∀ char ∈ cstr (cells.drop start), char ∈ delims := by
  have empty : (cstr (cells.drop start)).dropWhile (· ∈ delims) = [] ↔
      ∀ char ∈ cstr (cells.drop start), char ∈ delims := by
    simp [List.dropWhile_eq_nil_iff]
  rw [← empty]
  simp only [strtokR]
  split
  · simp_all
  · rename_i some
    split <;> simp [some]

section Visible
variable (delims : List UInt8) (printable : 0 ∉ delims)

include printable in
theorem visible_cut (lead token rest : List UInt8) (cut : Cut delims lead token rest) :
    cstr (lead ++ (token ++ rest)) = lead ++ (token ++ cstr rest) := by
  have clean : ∀ char ∈ lead ++ token, char ≠ 0 := by
    intro char member
    rcases List.mem_append.mp member with inLead | inToken
    · exact fun zero => printable (zero ▸ cut.lead char inLead)
    · exact (cut.token char inToken).2
  rw [← List.append_assoc, cstr, List.takeWhile_append_of_pos (by simpa using clean),
    List.append_assoc]
  rfl

theorem visible_stops (rest : List UInt8)
    (stops : ∀ char, rest.head? = some char → char ∈ delims ∨ char = 0) (char : UInt8)
    (head : (cstr rest).head? = some char) : char ∈ delims := by
  cases rest with
  | nil => cases head
  | cons first tail =>
      by_cases zero : first = 0
      · simp [cstr, zero] at head
      · simp only [cstr, List.takeWhile_cons, ne_eq, zero, not_false_eq_true, decide_true,
          ↓reduceIte, List.head?_cons, Option.some.injEq] at head
        exact head ▸ (stops first rfl).resolve_right zero

include printable in
/-- The visible text behind a token. -/
theorem visible_behind (rest : List UInt8)
    (stops : ∀ char, rest.head? = some char → char ∈ delims ∨ char = 0) :
    cstr (behind delims rest) = (cstr rest).tail := by
  cases rest with
  | nil => rfl
  | cons char tail =>
      by_cases zero : char = 0
      · subst zero
        simp only [behind, printable, ↓reduceIte, cstr]
        rfl
      · have member := (stops char rfl).resolve_right zero
        simp [behind, member, cstr, zero]

end Visible


section Left
variable (delims : List UInt8) (printable : 0 ∉ delims)

theorem cstr_drop (cells : List UInt8) : cstr (cells.drop (cstr cells).length) = [] := by
  induction cells with
  | nil => rfl
  | cons char rest ih =>
      by_cases zero : char = 0
      · simp [cstr, zero]
      · simpa [cstr, zero] using ih

include printable in
/-- What the next call has to look at. -/
theorem strtokR_left (cells : List UInt8) (start : Nat) :
    cstr ((strtokR cells start delims).cells.drop (strtokR cells start delims).save) =
      (((cstr (cells.drop start)).dropWhile (· ∈ delims)).dropWhile (· ∉ delims)).tail := by
  have token := strtokR_token delims cells start
  split at token
  · rename_i none
    have lead : (cstr (cells.drop start)).takeWhile (· ∈ delims) = cstr (cells.drop start) := by
      have whole := List.takeWhile_append_dropWhile (p := (· ∈ delims))
        (l := cstr (cells.drop start))
      rwa [none, List.append_nil] at whole
    have place : (strtokR cells start delims).cells.drop (strtokR cells start delims).save =
        (cells.drop start).drop (cstr (cells.drop start)).length := by
      simp only [strtokR, none, ↓reduceIte, lead, List.drop_drop]
    rw [place, cstr_drop, none]
    rfl
  · generalize ((cstr (cells.drop start)).dropWhile (· ∈ delims)).takeWhile (· ∉ delims) = word
      at token
    rcases cut_of_strtokR delims cells word start token with ⟨lead, rest, text, cut⟩
    have visible := visible_cut delims printable lead word rest cut
    have inside : ∀ char, (word ++ cstr rest).head? = some char → ¬ decide (char ∈ delims) := by
      intro char head
      cases word with
      | nil => exact absurd rfl cut.nonempty
      | cons _ others =>
          cases head
          simpa using (cut.token char List.mem_cons_self).1
    have ends : ∀ char, (cstr rest).head? = some char → ¬ decide (char ∉ delims) := by
      intro char head
      simpa using visible_stops delims rest cut.stops char head
    have skipped := dropWhile_stops (fun char => decide (char ∈ delims)) lead (word ++ cstr rest)
      (by simpa using cut.lead) inside
    have taken := dropWhile_stops (fun char => decide (char ∉ delims)) word (cstr rest)
      (by simpa using fun char member => (cut.token char member).1) ends
    rw [(strtokR_of_cut delims printable cells lead word rest start text cut).2,
      visible_behind delims printable rest cut.stops, text, visible, skipped, taken]

def throughWord (text : List UInt8) : List UInt8 :=
  text.takeWhile (· ∈ delims) ++ (text.dropWhile (· ∈ delims)).takeWhile (· ∉ delims)

theorem cstr_set (cells : List UInt8) (place : Nat) (char : UInt8)
    (beyond : (cstr cells).length < place) : cstr (cells.set place char) = cstr cells := by
  induction cells generalizing place with
  | nil => rfl
  | cons first rest ih =>
      cases place with
      | zero => exact absurd beyond (Nat.not_lt_zero _)
      | succ place =>
          by_cases zero : first = 0
          · simp [cstr, zero]
          · have shown : ∀ tail, cstr (first :: tail) = first :: cstr tail := by
              intro tail
              simp [cstr, zero]
            rw [shown, List.length_cons] at beyond
            rw [List.set_cons_succ, shown, shown, ih place (by omega)]

theorem cstr_cut (cells : List UInt8) (place : Nat) (inside : place < (cstr cells).length) :
    cstr (cells.set place 0) = (cstr cells).take place := by
  induction cells generalizing place with
  | nil => cases inside
  | cons first rest ih =>
      by_cases zero : first = 0
      · simp [cstr, zero] at inside
      · have shown : ∀ tail, cstr (first :: tail) = first :: cstr tail := by
          intro tail
          simp [cstr, zero]
        cases place with
        | zero => simp [cstr]
        | succ place =>
            rw [shown, List.length_cons] at inside
            rw [List.set_cons_succ, shown, shown, List.take_succ_cons, ih place (by omega)]

/-- What the string shows when its first word has been cut out. -/
theorem strtokR_shows (cells : List UInt8) :
    cstr (strtokR cells 0 delims).cells = throughWord delims (cstr cells) ∧
      (throughWord delims (cstr cells)).length ≤ (strtokR cells 0 delims).save := by
  have whole := List.takeWhile_append_dropWhile (p := (· ∈ delims)) (l := cstr cells)
  have body := List.takeWhile_append_dropWhile (p := (· ∉ delims))
    (l := (cstr cells).dropWhile (· ∈ delims))
  generalize leads : (cstr cells).takeWhile (· ∈ delims) = lead at whole
  generalize bodies : (cstr cells).dropWhile (· ∈ delims) = behindLead at whole body
  generalize words : behindLead.takeWhile (· ∉ delims) = word at body
  simp only [strtokR, throughWord, List.drop_zero, leads, bodies, words]
  split
  · rename_i none
    subst none
    rw [List.takeWhile_nil] at words
    subst words
    simp [← whole]
  · split
    · rename_i short
      have inside : 0 + lead.length + word.length < (cstr cells).length := by
        rw [← whole, List.length_append]
        omega
      refine ⟨?_, by simp only [List.length_append]; omega⟩
      have joined : cstr cells = (lead ++ word) ++ behindLead.dropWhile (· ∉ delims) := by
        rw [List.append_assoc, body, whole]
      rw [cstr_cut cells _ inside, joined, List.take_left' (by simp)]
    · rename_i long
      have all : word = behindLead := by
        rw [← words]
        exact (List.takeWhile_prefix _).eq_of_length_le (by rw [words]; omega)
      subst all
      exact ⟨whole.symm, by simp⟩

/-- A later call leaves the front of the string as it is. -/
theorem strtokR_later (cells : List UInt8) (start : Nat)
    (beyond : (cstr cells).length ≤ start) :
    cstr (strtokR cells start delims).cells = cstr cells ∧
      (cstr cells).length ≤ (strtokR cells start delims).save := by
  rcases Nat.eq_or_lt_of_le beyond with rfl | further
  · have nothing : cstr (cells.drop (cstr cells).length) = [] := cstr_drop cells
    simp [strtokR, nothing]
  · simp only [strtokR]
    split
    · exact ⟨rfl, by dsimp only; omega⟩
    · split
      · refine ⟨cstr_set cells _ 0 (by omega), by dsimp only; omega⟩
      · exact ⟨rfl, by dsimp only; omega⟩

end Left

end CircleStdlib.CText
