import CircleStdlib.HttpGrammar
import Mathlib.Data.List.DropRight

/-!
Requests of HTTP/1.1, as the message format has them: a start line of a token, a
target in origin form and the version, fields of which one is the host, and a
body that `Content-Length` announces. Whatever breaks the format is refused. What
is read is well formed, and every request that is well formed can be written so
that it is read again. Nothing here is specific to one client.
-/

namespace CircleStdlib.HttpMessages

open CText HttpGrammar

structure Field where
  name : List UInt8
  value : List UInt8
  deriving DecidableEq, Repr

structure Request where
  method : List UInt8
  target : List UInt8
  version : List UInt8
  fields : List Field
  body : List UInt8
  deriving DecidableEq, Repr

/-! Writing. 13 and 10 are CR and LF, 32 the blank, 58 the colon. -/

def Field.line (field : Field) : List UInt8 := field.name ++ 58 :: 32 :: field.value

def Request.startLine (request : Request) : List UInt8 :=
  request.method ++ 32 :: (request.target ++ 32 :: request.version)

def writeHead : List (List UInt8) → List UInt8
  | [] => [13, 10]
  | line :: later => line ++ 13 :: 10 :: writeHead later

def Request.write (request : Request) : List UInt8 :=
  writeHead (request.startLine :: request.fields.map Field.line) ++ request.body

/-! Reading. -/

def cutLine : List UInt8 → Option (List UInt8 × List UInt8)
  | [] => none
  | 13 :: 10 :: rest => some ([], rest)
  | char :: rest => (cutLine rest).map fun (line, later) => (char :: line, later)

-- The lines up to the empty one. `fuel` is the length of the text.
def readHead : Nat → List UInt8 → Option (List (List UInt8) × List UInt8)
  | 0, _ => none
  | fuel + 1, text =>
      match cutLine text with
      | none => none
      | some ([], rest) => some ([], rest)
      | some (line, rest) => (readHead fuel rest).map fun (lines, later) => (line :: lines, later)

def cutAt (mark : UInt8) : List UInt8 → Option (List UInt8 × List UInt8)
  | [] => none
  | char :: rest =>
      if char = mark then some ([], rest)
      else (cutAt mark rest).map fun (front, back) => (char :: front, back)

def isGap (char : UInt8) : Bool := char = 32 || char = 9

def trim (text : List UInt8) : List UInt8 := (text.dropWhile isGap).rdropWhile isGap

def isFieldChar (char : UInt8) : Bool := isVisible char || isGap char || 128 ≤ char

def readStart (line : List UInt8) : Option (List UInt8 × List UInt8 × List UInt8) := do
  let (method, rest) ← cutAt 32 line
  let (target, version) ← cutAt 32 rest
  if isToken method && isOriginForm target && decide (version = ascii "HTTP/1.1") then
    some (method, target, version)
  else none

def readField (line : List UInt8) : Option Field := do
  let (name, rest) ← cutAt 58 line
  if isToken name && (trim rest).all isFieldChar then some ⟨name, trim rest⟩ else none

def readNumber (digits : List UInt8) : Option Nat :=
  if digits ≠ [] ∧ digits.all isDigit then some (numeral 10 digits) else none

def valuesOf (name : List UInt8) (fields : List Field) : List (List UInt8) :=
  (fields.filter fun field => sameIgnoringCase field.name name).map Field.value

def hosted (fields : List Field) : Bool :=
  match valuesOf (ascii "Host") fields with
  | [host] => isHost host
  | _ => false

-- The length of the body; 0 when no field tells it. A coded body is not read.
def announced (fields : List Field) : Option Nat :=
  match valuesOf (ascii "Transfer-Encoding") fields, valuesOf (ascii "Content-Length") fields with
  | [], [] => some 0
  | [], [length] => readNumber length
  | _, _ => none

def readRequest (text : List UInt8) : Option (Request × List UInt8) := do
  let (lines, rest) ← readHead text.length text
  match lines with
  | [] => none
  | start :: others =>
      let (method, target, version) ← readStart start
      let fields ← others.mapM readField
      let length ← announced fields
      if hosted fields && decide (length ≤ rest.length) then
        some (⟨method, target, version, fields, rest.take length⟩, rest.drop length)
      else none

structure Field.WellFormed (field : Field) : Prop where
  name : isToken field.name = true
  value : trim field.value = field.value
  chars : field.value.all isFieldChar = true

structure Request.WellFormed (request : Request) : Prop where
  method : isToken request.method = true
  target : isOriginForm request.target = true
  version : request.version = ascii "HTTP/1.1"
  fields : ∀ field ∈ request.fields, field.WellFormed
  host : hosted request.fields = true
  framed : announced request.fields = some request.body.length

/-! Lines. -/

theorem cutLine_write (line rest : List UInt8) (clean : 13 ∉ line) :
    cutLine (line ++ 13 :: 10 :: rest) = some (line, rest) := by
  induction line with
  | nil => rfl
  | cons char line ih =>
      rw [List.mem_cons, not_or] at clean
      rw [List.cons_append, cutLine]
      · rw [ih clean.2]
        rfl
      · rintro later rfl -
        exact clean.1 rfl

theorem writeHead_length (lines : List (List UInt8)) :
    lines.length + 1 ≤ (writeHead lines).length := by
  induction lines with
  | nil => simp [writeHead]
  | cons line later ih =>
      simp only [writeHead, List.length_append, List.length_cons]
      omega

theorem readHead_write (fuel : Nat) (lines : List (List UInt8)) (rest : List UInt8)
    (enough : lines.length < fuel)
    (whole : ∀ line ∈ lines, line ≠ [] ∧ 13 ∉ line) :
    readHead fuel (writeHead lines ++ rest) = some (lines, rest) := by
  induction lines generalizing fuel with
  | nil =>
      cases fuel with
      | zero => simp at enough
      | succ fuel => simp [readHead, writeHead, cutLine]
  | cons line later ih =>
      cases fuel with
      | zero => simp at enough
      | succ fuel =>
          rcases whole line List.mem_cons_self with ⟨some_, still⟩
          have tail := ih fuel (by simpa using enough)
            fun other present => whole other (List.mem_cons_of_mem line present)
          have cut := cutLine_write line (writeHead later ++ rest) still
          simp only [readHead, writeHead, List.append_assoc, List.cons_append, cut]
          cases line with
          | nil => exact absurd rfl some_
          | cons char line => simp [tail]

/-! Words, names and values. -/

theorem cutAt_iff (mark : UInt8) (text front back : List UInt8) :
    cutAt mark text = some (front, back) ↔ text = front ++ mark :: back ∧ mark ∉ front := by
  induction text generalizing front with
  | nil => simp [cutAt]
  | cons char rest ih =>
      unfold cutAt
      split
      · rename_i same
        subst same
        cases front with
        | nil => simp [eq_comm]
        | cons first front =>
            simp only [Option.some.injEq, Prod.mk.injEq, reduceCtorEq, false_and, List.cons_append,
              List.cons.injEq, List.mem_cons, not_or, false_iff, not_and]
            rintro ⟨rfl, -⟩
            simp
      · rename_i different
        cases front with
        | nil =>
            simp only [Option.map_eq_some_iff, Prod.mk.injEq, reduceCtorEq, false_and, and_false,
              exists_false, List.nil_append, List.cons.injEq, false_iff, not_and]
            rintro ⟨rfl, -⟩
            exact absurd rfl different
        | cons first front =>
            simp only [Option.map_eq_some_iff, Prod.exists, Prod.mk.injEq, List.cons.injEq,
              List.cons_append, List.mem_cons, not_or]
            constructor
            · rintro ⟨tail, behind, found, ⟨rfl, rfl⟩, rfl⟩
              rcases (ih tail).mp found with ⟨rfl, absent⟩
              exact ⟨⟨rfl, rfl⟩, fun same => different same.symm, absent⟩
            · rintro ⟨⟨rfl, rfl⟩, -, absent⟩
              exact ⟨front, back, (ih front).mpr ⟨rfl, absent⟩, ⟨rfl, rfl⟩, rfl⟩

theorem visible_clean (text : List UInt8) (visible : ∀ char ∈ text, isVisible char = true) :
    13 ∉ text ∧ 32 ∉ text :=
  ⟨fun member => absurd (visible 13 member) (by decide),
    fun member => absurd (visible 32 member) (by decide)⟩

theorem token_clean (text : List UInt8) (token : isToken text = true) :
    text ≠ [] ∧ 13 ∉ text ∧ 32 ∉ text ∧ 58 ∉ text := by
  simp only [isToken, Bool.and_eq_true, decide_eq_true_iff, List.all_eq_true] at token
  have clean := visible_clean text fun char member => tokenChar_visible char (token.2 char member)
  exact ⟨token.1, clean.1, clean.2, fun member => absurd (token.2 58 member) (by decide)⟩

theorem target_clean (target : List UInt8) (form : isOriginForm target = true) :
    13 ∉ target ∧ 32 ∉ target :=
  visible_clean target (originForm_visible target form)

theorem fieldChars_clean (text : List UInt8) (chars : text.all isFieldChar = true) :
    13 ∉ text := by
  rw [List.all_eq_true] at chars
  exact fun member => absurd (chars 13 member) (by decide)

theorem visible_value (text : List UInt8) (visible : ∀ char ∈ text, isVisible char = true) :
    trim text = text ∧ text.all isFieldChar = true := by
  have ungapped : ∀ char ∈ text, isGap char = false := by
    intro char member
    have seen := visible char member
    by_contra gap
    simp only [isGap, Bool.not_eq_false, Bool.or_eq_true, decide_eq_true_eq] at gap
    rcases gap with rfl | rfl
    · exact absurd seen (by decide)
    · exact absurd seen (by decide)
  constructor
  · have front : text.dropWhile isGap = text := by
      rw [List.dropWhile_eq_self_iff]
      intro some
      simp [ungapped _ (List.getElem_mem some)]
    rw [trim, front, List.rdropWhile_eq_self_iff]
    intro some
    simp [ungapped _ (List.getLast_mem some)]
  · rw [List.all_eq_true]
    intro char member
    simp [isFieldChar, visible char member]

theorem readStart_iff (line method target version : List UInt8) :
    readStart line = some (method, target, version) ↔
      line = method ++ 32 :: (target ++ 32 :: version) ∧ isToken method = true ∧
        isOriginForm target = true ∧ version = ascii "HTTP/1.1" := by
  constructor
  · intro read
    simp only [readStart, Option.bind_eq_bind, Option.bind_eq_some_iff, Prod.exists] at read
    rcases read with ⟨first, rest, cut, second, third, again, ended⟩
    simp only [Option.ite_none_right_eq_some, Option.some.injEq, Prod.mk.injEq,
      Bool.and_eq_true, decide_eq_true_iff] at ended
    rcases ended with ⟨⟨⟨one, two⟩, three⟩, rfl, rfl, rfl⟩
    rcases (cutAt_iff 32 line first rest).mp cut with ⟨rfl, -⟩
    rcases (cutAt_iff 32 rest second third).mp again with ⟨rfl, -⟩
    exact ⟨rfl, one, two, three⟩
  · rintro ⟨rfl, token, form, rfl⟩
    have cut := (cutAt_iff 32 _ method (target ++ 32 :: ascii "HTTP/1.1")).mpr
      ⟨rfl, (token_clean method token).2.2.1⟩
    have again := (cutAt_iff 32 _ target (ascii "HTTP/1.1")).mpr
      ⟨rfl, (target_clean target form).2⟩
    simp [readStart, cut, again, token, form]

theorem trim_trim (text : List UInt8) : trim (trim text) = trim text := by
  unfold trim
  have kept := List.rdropWhile_prefix isGap (text.dropWhile isGap)
  have starts : (List.rdropWhile isGap (text.dropWhile isGap)).dropWhile isGap =
      List.rdropWhile isGap (text.dropWhile isGap) := by
    rw [List.dropWhile_eq_self_iff]
    intro some
    -- its first character is the first one behind the leading gap
    have same := kept.getElem some
    rw [same]
    exact List.dropWhile_get_zero_not isGap text (Nat.lt_of_lt_of_le some kept.length_le)
  rw [starts, List.rdropWhile_idempotent]

theorem trim_blank (text : List UInt8) : trim (32 :: text) = trim text := by
  simp [trim, isGap]

theorem readField_line (field : Field) (formed : field.WellFormed) :
    readField field.line = some field := by
  have cut := (cutAt_iff 58 field.line field.name (32 :: field.value)).mpr
    ⟨rfl, (token_clean field.name formed.name).2.2.2⟩
  simp only [readField, Option.bind_eq_bind, cut, Option.bind_some, formed.name, trim_blank,
    formed.value, formed.chars, Bool.and_self, if_true]

theorem readField_formed (line : List UInt8) (field : Field)
    (read : readField line = some field) : field.WellFormed := by
  simp only [readField, Option.bind_eq_bind, Option.bind_eq_some_iff, Prod.exists] at read
  rcases read with ⟨name, rest, cut, ended⟩
  rw [Option.ite_none_right_eq_some, Bool.and_eq_true] at ended
  rcases ended with ⟨⟨named, chars⟩, ⟨⟩⟩
  exact ⟨named, trim_trim rest, chars⟩

theorem line_clean (field : Field) (formed : field.WellFormed) :
    field.line ≠ [] ∧ 13 ∉ field.line := by
  have name := (token_clean field.name formed.name).2.1
  have value := fieldChars_clean field.value formed.chars
  simp [Field.line, name, value]

/-! Requests. -/

theorem startLine_clean (request : Request) (formed : request.WellFormed) :
    request.startLine ≠ [] ∧ 13 ∉ request.startLine := by
  have method := (token_clean request.method formed.method).2.1
  have target := (target_clean request.target formed.target).1
  have version : 13 ∉ request.version := by
    rw [formed.version]
    decide
  simp [Request.startLine, method, target, version]

theorem mapM_readField (fields : List Field) (formed : ∀ field ∈ fields, field.WellFormed) :
    (fields.map Field.line).mapM readField = some fields := by
  induction fields with
  | nil => rfl
  | cons field later ih =>
      have first := readField_line field (formed field List.mem_cons_self)
      have rest := ih fun other present => formed other (List.mem_cons_of_mem field present)
      simp [List.mapM_cons, first, rest]

theorem mapM_formed (lines : List (List UInt8)) (fields : List Field)
    (read : lines.mapM readField = some fields) : ∀ field ∈ fields, field.WellFormed := by
  induction lines generalizing fields with
  | nil =>
      cases read
      simp
  | cons line later ih =>
      simp only [List.mapM_cons, Option.bind_eq_bind, Option.pure_def, Option.bind_eq_some_iff,
        Option.some.injEq] at read
      rcases read with ⟨field, first, others, rest, rfl⟩
      intro other present
      rcases List.mem_cons.mp present with rfl | further
      · exact readField_formed line other first
      · exact ih others rest other further

/-- What has been written is read again, and the stream goes on behind it. -/
theorem read_write (request : Request) (later : List UInt8) (formed : request.WellFormed) :
    readRequest (request.write ++ later) = some (request, later) := by
  have lines : ∀ line ∈ request.startLine :: request.fields.map Field.line,
      line ≠ [] ∧ 13 ∉ line := by
    intro line present
    rcases List.mem_cons.mp present with rfl | further
    · exact startLine_clean request formed
    · rcases List.mem_map.mp further with ⟨field, member, rfl⟩
      exact line_clean field (formed.fields field member)
  have size := writeHead_length (request.startLine :: request.fields.map Field.line)
  have head := readHead_write (request.write ++ later).length _ (request.body ++ later)
    (by
      simp only [Request.write, List.length_append]
      omega)
    lines
  have text : request.write ++ later =
      writeHead (request.startLine :: request.fields.map Field.line) ++ (request.body ++ later) :=
    List.append_assoc _ _ _
  have start := (readStart_iff request.startLine _ _ _).mpr
    ⟨rfl, formed.method, formed.target, formed.version⟩
  rw [← text] at head
  rw [readRequest, head]
  simp [start, mapM_readField request.fields formed.fields, formed.framed, formed.host]

/-- What has been read is well formed. -/
theorem read_formed (text later : List UInt8) (request : Request)
    (read : readRequest text = some (request, later)) : request.WellFormed := by
  simp only [readRequest, Option.bind_eq_bind, Option.bind_eq_some_iff, Prod.exists] at read
  rcases read with ⟨lines, rest, head, read⟩
  cases lines with
  | nil => cases read
  | cons start others =>
      simp only [Option.bind_eq_some_iff, Prod.exists] at read
      rcases read with ⟨method, target, version, first, fields, mapped, length, told, ended⟩
      simp only [Option.ite_none_right_eq_some, Option.some.injEq, Prod.mk.injEq,
        Bool.and_eq_true, decide_eq_true_iff] at ended
      rcases ended with ⟨⟨host, enough⟩, rfl, rfl⟩
      rcases (readStart_iff _ _ _ _).mp first with ⟨-, one, two, three⟩
      refine ⟨one, two, three, mapM_formed others fields mapped, host, ?_⟩
      rw [told, List.length_take_of_le enough]

theorem read_write_iff (request : Request) :
    readRequest request.write = some (request, []) ↔ request.WellFormed := by
  refine ⟨read_formed request.write [] request, fun formed => ?_⟩
  have again := read_write request [] formed
  rwa [List.append_nil] at again

end CircleStdlib.HttpMessages
