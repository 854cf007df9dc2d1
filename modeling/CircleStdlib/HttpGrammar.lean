import CircleStdlib.CText

/-!
The characters and names of HTTP/1.1 and of the URIs in it: tokens, targets in
origin form, hosts with a port. Nothing here is specific to one client.
-/

namespace CircleStdlib.HttpGrammar

open CText

def isDigit (char : UInt8) : Bool := 48 ≤ char && char ≤ 57

def isAlpha (char : UInt8) : Bool := (65 ≤ char && char ≤ 90) || (97 ≤ char && char ≤ 122)

def isHexDigit (char : UInt8) : Bool :=
  isDigit char || (65 ≤ char && char ≤ 70) || (97 ≤ char && char ≤ 102)

def isVisible (char : UInt8) : Bool := 33 ≤ char && char ≤ 126

def isTokenChar (char : UInt8) : Bool :=
  isAlpha char || isDigit char || decide (char ∈ ascii "!#$%&'*+-.^_`|~")

def isToken (text : List UInt8) : Bool := decide (text ≠ []) && text.all isTokenChar

def isUnreserved (char : UInt8) : Bool :=
  isAlpha char || isDigit char || decide (char ∈ ascii "-._~")

-- In the name of a host: unreserved, or a sub-delimiter.
def isNameChar (char : UInt8) : Bool := isUnreserved char || decide (char ∈ ascii "!$&'()*+,;=")

def isTargetChar (char : UInt8) : Bool := isNameChar char || decide (char ∈ ascii ":@/?")

def encoded (plain : UInt8 → Bool) : List UInt8 → Bool
  | [] => true
  | 37 :: high :: low :: rest => isHexDigit high && isHexDigit low && encoded plain rest
  | char :: rest => plain char && encoded plain rest

-- `absolute-path [ "?" query ]`.
def isOriginForm : List UInt8 → Bool
  | 47 :: rest => encoded isTargetChar rest
  | _ => false

/-! Hosts. 46 and 58 are the dot and the colon, 91 and 93 the brackets. -/

def isOctet (text : List UInt8) : Bool :=
  decide (text ≠ []) && text.all isDigit && decide (text.length = 1 ∨ text.head? ≠ some 48) &&
    decide (numeral 10 text < 256)

def isIPv4 (text : List UInt8) : Bool :=
  (text.splitOn 46).length = 4 && (text.splitOn 46).all isOctet

def isGroup (text : List UInt8) : Bool :=
  decide (text ≠ []) && decide (text.length ≤ 4) && text.all isHexDigit

-- How many groups of 16 bits there are; an IPv4 address at the end is two.
def groups (text : List UInt8) : Option Nat :=
  if text = [] then some 0
  else if (text.splitOn 58).all isGroup then some (text.splitOn 58).length
  else if (text.splitOn 58).dropLast.all isGroup && isIPv4 ((text.splitOn 58).getLastD []) then
    some ((text.splitOn 58).length + 1)
  else none

def isIPv6 (text : List UInt8) : Bool :=
  groups text = some 8 || (List.range text.length).any fun place =>
    (text.drop place).take 2 = [58, 58] &&
      ((text.take place = [] || ((text.take place).splitOn 58).all isGroup) &&
        match groups (text.take place), groups (text.drop (place + 2)) with
        | some front, some back => decide (front + back < 8)
        | _, _ => false)

def isIPvFuture : List UInt8 → Bool
  | version :: rest =>
      decide (version = 86 ∨ version = 118) && decide (rest.takeWhile isHexDigit ≠ []) &&
        match rest.dropWhile isHexDigit with
        | 46 :: address =>
            decide (address ≠ []) && address.all fun char => isNameChar char || char = 58
        | _ => false
  | [] => false

def isPort : List UInt8 → Bool
  | [] => true
  | char :: digits => char = 58 && digits.all isDigit

def isHost : List UInt8 → Bool
  | 91 :: rest =>
      ((rest.takeWhile (· ≠ 93)).all isVisible &&
        (isIPv6 (rest.takeWhile (· ≠ 93)) || isIPvFuture (rest.takeWhile (· ≠ 93)))) &&
      match rest.dropWhile (· ≠ 93) with
      | _ :: port => isPort port
      | [] => false
  | text =>
      decide (text.takeWhile (· ≠ 58) ≠ []) && encoded isNameChar (text.takeWhile (· ≠ 58)) &&
        isPort (text.dropWhile (· ≠ 58))

/-! All of these characters are visible. -/

theorem visible_iff (char : UInt8) :
    isVisible char = true ↔ 33 ≤ char.toNat ∧ char.toNat ≤ 126 := by
  simp only [isVisible, Bool.and_eq_true, decide_eq_true_eq, UInt8.le_iff_toNat_le]
  rfl

theorem digit_visible (char : UInt8) (digit : isDigit char = true) : isVisible char = true := by
  rw [visible_iff]
  simp only [isDigit, Bool.and_eq_true, decide_eq_true_eq, UInt8.le_iff_toNat_le,
    UInt8.reduceToNat] at digit
  omega

theorem hexDigit_visible (char : UInt8) (digit : isHexDigit char = true) :
    isVisible char = true := by
  rw [visible_iff]
  simp only [isHexDigit, isDigit, Bool.or_eq_true, Bool.and_eq_true, decide_eq_true_eq,
    UInt8.le_iff_toNat_le, UInt8.reduceToNat] at digit
  omega

theorem alpha_visible (char : UInt8) (alpha : isAlpha char = true) : isVisible char = true := by
  rw [visible_iff]
  simp only [isAlpha, Bool.or_eq_true, Bool.and_eq_true, decide_eq_true_eq,
    UInt8.le_iff_toNat_le, UInt8.reduceToNat] at alpha
  omega

theorem tokenChar_visible (char : UInt8) (token : isTokenChar char = true) :
    isVisible char = true := by
  simp only [isTokenChar, Bool.or_eq_true, decide_eq_true_eq] at token
  rcases token with (alpha | digit) | mark
  · exact alpha_visible char alpha
  · exact digit_visible char digit
  · exact List.all_eq_true.mp (by decide : (ascii "!#$%&'*+-.^_`|~").all isVisible = true) char mark

theorem nameChar_visible (char : UInt8) (name : isNameChar char = true) :
    isVisible char = true := by
  simp only [isNameChar, isUnreserved, Bool.or_eq_true, decide_eq_true_eq] at name
  rcases name with ((alpha | digit) | mark) | delim
  · exact alpha_visible char alpha
  · exact digit_visible char digit
  · exact List.all_eq_true.mp (by decide : (ascii "-._~").all isVisible = true) char mark
  · exact List.all_eq_true.mp (by decide : (ascii "!$&'()*+,;=").all isVisible = true) char delim

theorem targetChar_visible (char : UInt8) (target : isTargetChar char = true) :
    isVisible char = true := by
  simp only [isTargetChar, Bool.or_eq_true, decide_eq_true_eq] at target
  rcases target with name | mark
  · exact nameChar_visible char name
  · exact List.all_eq_true.mp (by decide : (ascii ":@/?").all isVisible = true) char mark

theorem encoded_visible (plain : UInt8 → Bool) (text : List UInt8)
    (visible : ∀ char, plain char = true → isVisible char = true)
    (valid : encoded plain text = true) : ∀ char ∈ text, isVisible char = true := by
  induction text using encoded.induct with
  | case1 => simp
  | case2 high low rest ih =>
      simp only [encoded, Bool.and_eq_true] at valid
      intro char member
      simp only [List.mem_cons] at member
      rcases member with rfl | rfl | rfl | later
      · decide
      · exact hexDigit_visible char valid.1.1
      · exact hexDigit_visible char valid.1.2
      · exact ih valid.2 char later
  | case3 first rest single ih =>
      rw [encoded] at valid
      · rw [Bool.and_eq_true] at valid
        intro char member
        rcases List.mem_cons.mp member with rfl | later
        · exact visible char valid.1
        · exact ih valid.2 char later
      · exact single

theorem originForm_visible (target : List UInt8) (form : isOriginForm target = true) :
    ∀ char ∈ target, isVisible char = true := by
  unfold isOriginForm at form
  split at form
  · rename_i rest
    intro char member
    rcases List.mem_cons.mp member with rfl | later
    · decide
    · exact encoded_visible isTargetChar rest targetChar_visible form char later
  · cases form

theorem port_visible (text : List UInt8) (port : isPort text = true) :
    ∀ char ∈ text, isVisible char = true := by
  cases text with
  | nil => simp
  | cons first digits =>
      simp only [isPort, Bool.and_eq_true, decide_eq_true_eq, List.all_eq_true] at port
      intro char member
      rcases List.mem_cons.mp member with rfl | later
      · rw [port.1]
        decide
      · exact digit_visible char (port.2 char later)

theorem host_visible (host : List UInt8) (valid : isHost host = true) :
    ∀ char ∈ host, isVisible char = true := by
  unfold isHost at valid
  split at valid
  · rename_i rest
    rw [Bool.and_eq_true, Bool.and_eq_true, List.all_eq_true] at valid
    intro char member
    rcases List.mem_cons.mp member with rfl | later
    · decide
    · rw [← List.takeWhile_append_dropWhile (p := (· ≠ 93)) (l := rest)] at later
      rcases List.mem_append.mp later with inside | behind
      · exact valid.1.1 char inside
      · have port := valid.2
        split at port
        · rename_i first port left
          rw [left] at behind
          rcases List.mem_cons.mp behind with rfl | last
          · have bracket : char = 93 := by
              simpa using head_dropWhile (· ≠ 93) rest char (by rw [left]; rfl)
            rw [bracket]
            decide
          · exact port_visible _ ‹isPort _ = true› char last
        · cases port
  · rename_i text bare
    simp only [Bool.and_eq_true] at valid
    intro char member
    rw [← List.takeWhile_append_dropWhile (p := (· ≠ 58)) (l := host)] at member
    rcases List.mem_append.mp member with name | port
    · exact encoded_visible isNameChar _ nameChar_visible valid.1.2 char name
    · exact port_visible _ valid.2 char port

end CircleStdlib.HttpGrammar
