import CircleStdlib.CText
import Mathlib.Tactic.Common
import Mathlib.Tactic.Ring

/-!
The numbers that `strtoul` reads. White space and a sign may stand in front of
the digits, in base 16 a `0x` too; a number that is too large becomes the largest
one there is, and a minus takes it modulo `ULONG_MAX + 1`.
-/

namespace CircleStdlib.Numerals

open CText

structure Spells (text blanks sign digits : List UInt8) : Prop where
  parts : text = blanks ++ (sign ++ digits)
  blanks : ∀ char ∈ blanks, isspace char = true
  sign : sign ∈ ([[], [43], [45]] : List (List UInt8))
  some : digits ≠ []
  decimal : ∀ digit ∈ digits, digitValue digit < 10

theorem decimal_first (char : UInt8) (decimal : digitValue char < 10) :
    isspace char = false ∧ char ≠ 43 ∧ char ≠ 45 := by
  refine ⟨?_, ?_, ?_⟩
  · by_contra space
    simp only [isspace, Bool.not_eq_false, Bool.or_eq_true, decide_eq_true_eq, Bool.and_eq_true,
      UInt8.le_iff_toNat_le] at space
    rcases space with rfl | ⟨low, high⟩
    · exact absurd decimal (by decide)
    · have small : char.toNat ≤ 13 := high
      simp only [digitValue, UInt8.le_iff_toNat_le, Bool.and_eq_true, decide_eq_true_eq] at decimal
      have one : ¬ (48 ≤ char.toNat ∧ char.toNat ≤ 57) := by omega
      have two : ¬ (65 ≤ char.toNat ∧ char.toNat ≤ 90) := by omega
      have three : ¬ (97 ≤ char.toNat ∧ char.toNat ≤ 122) := by omega
      simp [one, two, three] at decimal
  · rintro rfl
    exact absurd decimal (by decide)
  · rintro rfl
    exact absurd decimal (by decide)

/-- The sign of a text, and what it makes of the number behind it. -/
theorem readSign_parts (text : List UInt8) :
    ∃ sign ∈ ([[], [43], [45]] : List (List UInt8)), text = sign ++ (readSign text).2 ∧
      ((readSign text).1 = true ↔ sign = [45]) := by
  unfold readSign
  split
  · exact ⟨[45], by simp, rfl, by simp⟩
  · exact ⟨[43], by simp, rfl, by simp⟩
  · exact ⟨[], by simp, rfl, by simp⟩

theorem spells_read (text blanks sign digits : List UInt8)
    (spells : Spells text blanks sign digits) :
    text.dropWhile isspace = sign ++ digits ∧
      readSign (sign ++ digits) = (decide (sign = [45]), digits) := by
  rcases spells with ⟨rfl, spaces, signed, some, decimal⟩
  rcases List.exists_cons_of_ne_nil some with ⟨first, rest, rfl⟩
  rcases decimal_first first (decimal first List.mem_cons_self) with ⟨visible, plus, minus⟩
  simp only [List.mem_cons, List.not_mem_nil, or_false] at signed
  rw [List.dropWhile_append_of_pos spaces]
  rcases signed with rfl | rfl | rfl
  · refine ⟨by simp [visible], ?_⟩
    unfold readSign
    split
    · rename_i same
      cases same
      exact absurd rfl minus
    · rename_i same
      cases same
      exact absurd rfl plus
    · rfl
  · exact ⟨by simp [show isspace 43 = false by decide], rfl⟩
  · exact ⟨by simp [show isspace 45 = false by decide], rfl⟩

/-- When `strtoul` comes to the end of the text, in base 10. -/
theorem strtoul_spells (ulongMax : Nat) (text : List UInt8) :
    (strtoul ulongMax 10 text).2 = [] ↔
      text = [] ∨ ∃ blanks sign digits, Spells text blanks sign digits := by
  constructor
  · intro ended
    rcases readSign_parts (text.dropWhile isspace) with ⟨sign, signed, parts, -⟩
    simp only [strtoul, show ((10 : Nat) = 16) = False by decide, ↓reduceIte] at ended
    split at ended
    · exact .inl ended
    · rename_i some
      -- nothing is left behind the digits, so the digits are all there is
      have shorter := List.drop_eq_nil_iff.mp ended
      have all := (List.takeWhile_prefix (fun char => decide (digitValue char < 10))).eq_of_length
        (Nat.le_antisymm (List.takeWhile_prefix _).length_le shorter)
      refine .inr ⟨text.takeWhile isspace, sign, (readSign (text.dropWhile isspace)).2, ?_⟩
      exact
        { parts := by rw [← parts, List.takeWhile_append_dropWhile]
          blanks := fun char present => List.mem_takeWhile_imp present
          sign := signed
          some := by rwa [all] at some
          decimal := by simpa using List.takeWhile_eq_self_iff.mp all }
  · rintro (rfl | ⟨blanks, sign, digits, spells⟩)
    · rfl
    · rcases spells_read text blanks sign digits spells with ⟨body, signed⟩
      have number : digits.takeWhile (fun char => decide (digitValue char < 10)) = digits :=
        List.takeWhile_eq_self_iff.mpr (by simpa using spells.decimal)
      simp only [strtoul, body, signed, show ((10 : Nat) = 16) = False by decide, ↓reduceIte,
        number, spells.some, List.drop_length]

theorem strtoul_value (ulongMax : Nat) (text blanks sign digits : List UInt8)
    (spells : Spells text blanks sign digits) :
    (strtoul ulongMax 10 text).1 =
      if numeral 10 digits > ulongMax then ulongMax
      else if sign = [45] then (ulongMax + 1 - numeral 10 digits) % (ulongMax + 1)
      else numeral 10 digits := by
  rcases spells_read text blanks sign digits spells with ⟨body, signed⟩
  have number : digits.takeWhile (fun char => decide (digitValue char < 10)) = digits :=
    List.takeWhile_eq_self_iff.mpr (by simpa using spells.decimal)
  simp only [strtoul, body, signed, show ((10 : Nat) = 16) = False by decide, ↓reduceIte, number,
    spells.some, decide_eq_true_eq]

/-! Base 16. -/

theorem digit_from_zero (char : UInt8) (digit : digitValue char < 16) : 48 ≤ char.toNat := by
  unfold digitValue at digit
  split at digit
  · rename_i decimal
    simp only [Bool.and_eq_true, decide_eq_true_eq, UInt8.le_iff_toNat_le] at decimal
    exact decimal.1
  · split at digit
    · rename_i capital
      simp only [Bool.and_eq_true, decide_eq_true_eq, UInt8.le_iff_toNat_le] at capital
      exact le_trans (by decide) capital.1
    · split at digit
      · rename_i small
        simp only [Bool.and_eq_true, decide_eq_true_eq, UInt8.le_iff_toNat_le] at small
        exact le_trans (by decide) small.1
      · omega

theorem digit_ne (char other : UInt8) (digit : digitValue char < 16) (low : other.toNat < 48) :
    char ≠ other := by
  rintro rfl
  exact absurd (digit_from_zero char digit) (by omega)

theorem digit_not_space (char : UInt8) (digit : digitValue char < 16) : isspace char = false := by
  have from_zero := digit_from_zero char digit
  have below : ¬ char ≤ 13 := by
    simp only [UInt8.le_iff_toNat_le]
    exact fun low => absurd (le_trans from_zero low) (by decide)
  simp [isspace, digit_ne char 32 digit (by decide), below]

theorem readSign_digit (first : UInt8) (rest : List UInt8) (digit : digitValue first < 16) :
    readSign (first :: rest) = (false, first :: rest) := by
  have minus := digit_ne first 45 digit (by decide)
  have plus := digit_ne first 43 digit (by decide)
  unfold readSign
  split
  · rename_i same
    exact absurd (List.cons.inj same).1 minus
  · rename_i same
    exact absurd (List.cons.inj same).1 plus
  · rfl

theorem skipHexMark_digits (digits : List UInt8) (hex : ∀ digit ∈ digits, digitValue digit < 16) :
    skipHexMark digits = digits := by
  unfold skipHexMark
  split
  · rename_i mark digit rest
    have value := hex mark (by simp)
    have unmarked : ¬ (mark = 120 ∨ mark = 88) := by
      rintro (rfl | rfl)
      · exact absurd value (by decide)
      · exact absurd value (by decide)
    simp [unmarked]
  · rfl

/-- `strtoul` takes hexadecimal digits to their number, or to the largest there is, and stops
at their end. -/
theorem strtoul_hex (ulongMax : Nat) (digits : List UInt8) (nonempty : digits ≠ [])
    (hex : ∀ digit ∈ digits, digitValue digit < 16) :
    strtoul ulongMax 16 digits = (min (numeral 16 digits) ulongMax, []) := by
  have taken : digits.takeWhile (digitValue · < 16) = digits :=
    List.takeWhile_eq_self_iff.mpr (by simpa using hex)
  have markless := skipHexMark_digits digits hex
  have spaceless : digits.dropWhile isspace = digits := by
    apply List.dropWhile_eq_self_iff.mpr
    intro long
    simp [digit_not_space _ (hex _ (List.getElem_mem long))]
  have signless : readSign digits = (false, digits) := by
    cases digits with
    | nil => rfl
    | cons first rest => exact readSign_digit first rest (hex first List.mem_cons_self)
  have saturated : (if numeral 16 digits > ulongMax then ulongMax else numeral 16 digits) =
      min (numeral 16 digits) ulongMax := by
    split <;> omega
  simp [strtoul, spaceless, signless, markless, taken, nonempty, saturated]

def Lenient (text : List UInt8) : Prop :=
  text = [] ∨ ∃ blanks sign mark digits, text = blanks ++ (sign ++ (mark ++ digits)) ∧
    (∀ char ∈ blanks, isspace char = true) ∧ sign ∈ [[], [43], [45]] ∧
    mark ∈ [[], [48, 120], [48, 88]] ∧ digits ≠ [] ∧ ∀ digit ∈ digits, digitValue digit < 16

theorem skipHexMark_split (text : List UInt8) :
    ∃ mark ∈ ([[], [48, 120], [48, 88]] : List (List UInt8)),
      text = mark ++ skipHexMark text := by
  unfold skipHexMark
  split
  · rename_i mark digit rest
    split
    case isTrue marked =>
      simp only [Bool.and_eq_true, Bool.or_eq_true, decide_eq_true_eq] at marked
      rcases marked.1 with rfl | rfl
      · exact ⟨[48, 120], by simp, rfl⟩
      · exact ⟨[48, 88], by simp, rfl⟩
    case isFalse => exact ⟨[], by simp, rfl⟩
  · exact ⟨[], by simp, rfl⟩

theorem skipHexMark_marked (mark digits : List UInt8) (some : digits ≠ [])
    (hex : ∀ digit ∈ digits, digitValue digit < 16)
    (marked : mark ∈ ([[], [48, 120], [48, 88]] : List (List UInt8))) :
    skipHexMark (mark ++ digits) = digits := by
  cases digits with
  | nil => exact absurd rfl some
  | cons first rest =>
      have digit := hex first List.mem_cons_self
      simp only [List.mem_cons, List.not_mem_nil, or_false] at marked
      rcases marked with rfl | rfl | rfl
      · exact skipHexMark_digits (first :: rest) hex
      · simp [skipHexMark, digit]
      · simp [skipHexMark, digit]

theorem readSign_signed (sign text : List UInt8) (first : UInt8) (rest : List UInt8)
    (starts : text = first :: rest) (digit : digitValue first < 16)
    (signed : sign ∈ ([[], [43], [45]] : List (List UInt8))) :
    (readSign (sign ++ text)).2 = text := by
  subst starts
  simp only [List.mem_cons, List.not_mem_nil, or_false] at signed
  rcases signed with rfl | rfl | rfl
  · rw [List.nil_append, readSign_digit first rest digit]
  · rfl
  · rfl

/-- A sign, a mark and digits do not begin with white space. -/
theorem sign_not_space (sign text : List UInt8) (first : UInt8) (rest : List UInt8)
    (starts : text = first :: rest) (digit : digitValue first < 16)
    (signed : sign ∈ ([[], [43], [45]] : List (List UInt8))) :
    ∃ head tail, sign ++ text = head :: tail ∧ isspace head = false := by
  subst starts
  simp only [List.mem_cons, List.not_mem_nil, or_false] at signed
  rcases signed with rfl | rfl | rfl
  · exact ⟨first, rest, rfl, digit_not_space first digit⟩
  · exact ⟨43, first :: rest, rfl, by decide⟩
  · exact ⟨45, first :: rest, rfl, by decide⟩

theorem marked_first (mark digits : List UInt8) (some : digits ≠ [])
    (hex : ∀ digit ∈ digits, digitValue digit < 16)
    (marked : mark ∈ ([[], [48, 120], [48, 88]] : List (List UInt8))) :
    ∃ first rest, mark ++ digits = first :: rest ∧ digitValue first < 16 := by
  cases digits with
  | nil => exact absurd rfl some
  | cons first rest =>
      simp only [List.mem_cons, List.not_mem_nil, or_false] at marked
      rcases marked with rfl | rfl | rfl
      · exact ⟨first, rest, rfl, hex first List.mem_cons_self⟩
      · exact ⟨48, 120 :: first :: rest, rfl, by decide⟩
      · exact ⟨48, 88 :: first :: rest, rfl, by decide⟩

theorem strtoul_rest_iff (ulongMax : Nat) (text : List UInt8) :
    (strtoul ulongMax 16 text).2 = [] ↔ Lenient text := by
  constructor
  · intro ended
    obtain ⟨sign, signed, afterSign, -⟩ := readSign_parts (text.dropWhile isspace)
    obtain ⟨mark, marked, afterMark⟩ := skipHexMark_split (readSign (text.dropWhile isspace)).2
    simp only [strtoul, ↓reduceIte] at ended
    split at ended
    · exact .inl ended
    · rename_i some
      -- nothing is left behind the digits, so the digits are all there is
      have shorter := List.drop_eq_nil_iff.mp ended
      have all := (List.takeWhile_prefix (fun char => decide (digitValue char < 16))).eq_of_length
        (Nat.le_antisymm (List.takeWhile_prefix _).length_le shorter)
      refine .inr ⟨text.takeWhile isspace, sign, mark,
        skipHexMark (readSign (text.dropWhile isspace)).2, ?_, ?_, signed, marked, ?_, ?_⟩
      · rw [← afterMark, ← afterSign, List.takeWhile_append_dropWhile]
      · intro char present
        exact List.mem_takeWhile_imp present
      · rwa [all] at some
      · simpa using List.takeWhile_eq_self_iff.mp all
  · rintro (rfl | ⟨blanks, sign, mark, digits, rfl, spaces, signed, marked, some, hex⟩)
    · rfl
    · obtain ⟨first, rest, starts, digit⟩ := marked_first mark digits some hex marked
      obtain ⟨head, tail, begins, visible⟩ :=
        sign_not_space sign (mark ++ digits) first rest starts digit signed
      have body : (blanks ++ (sign ++ (mark ++ digits))).dropWhile isspace =
          sign ++ (mark ++ digits) := by
        rw [List.dropWhile_append_of_pos spaces, begins]
        simp [visible]
      have number : digits.takeWhile (fun char => decide (digitValue char < 16)) = digits :=
        List.takeWhile_eq_self_iff.mpr (by simpa using hex)
      simp only [strtoul, body, readSign_signed sign _ first rest starts digit signed,
        ↓reduceIte, skipHexMark_marked mark digits some hex marked, number, some,
        List.drop_length]

theorem numeral_append (digits more : List UInt8) :
    numeral 16 (digits ++ more) = numeral 16 digits * 16 ^ more.length + numeral 16 more := by
  unfold numeral
  rw [List.foldl_append]
  generalize digits.foldl (fun value digit => value * 16 + digitValue digit) 0 = value
  induction more generalizing value with
  | nil => simp
  | cons digit rest ih =>
      have first := ih (value * 16 + digitValue digit)
      have alone := ih (0 * 16 + digitValue digit)
      simp only [List.foldl_cons, List.length_cons]
      rw [first, alone, Nat.pow_succ]
      ring

end CircleStdlib.Numerals
