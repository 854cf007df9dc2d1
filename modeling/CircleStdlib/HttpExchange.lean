import CircleStdlib.HttpMessages
import CircleStdlib.HttpBody

/-!
A request and its response, from one end to the other. The text that `Request` sends is the
written form of the request that its caller asks for; an origin server reads it, and its reply
comes back in pieces.
-/

namespace CircleStdlib.HttpExchange

open CText HttpClient HttpLines HttpHeaders HttpBody
open HttpGrammar (isDigit isOriginForm isHost isToken host_visible digit_visible)
open HttpMessages (Field readRequest readNumber valuesOf hosted announced writeHead visible_value
  read_write_iff)

def methodName : RequestMethod → List UInt8
  | .get => ascii "GET"
  | .post => ascii "POST"

def formFields : Option (List UInt8) → List Field
  | none => []
  | some data =>
      [⟨ascii "Content-Type", ascii "application/x-www-form-urlencoded"⟩,
        ⟨ascii "Content-Length", ascii (toString (data.length % 2 ^ 32))⟩]

def asked (method : RequestMethod) (path serverName : List UInt8)
    (formData : Option (List UInt8)) : HttpMessages.Request where
  method := methodName method
  target := path
  version := ascii "HTTP/1.1"
  fields := (if serverName.length > 0 then [⟨ascii "Host", serverName⟩] else []) ++
    ⟨ascii "User-Agent", ascii userAgent⟩ :: ⟨ascii "Connection", ascii "close"⟩ ::
      formFields formData
  body := formData.getD []

structure Clean (path serverName : List UInt8) (formData : Option (List UInt8)) : Prop where
  path : isOriginForm path = true
  host : isHost serverName = true
  short : ∀ data ∈ formData, data.length < 2 ^ 32

theorem requestText_write (method : RequestMethod) (path serverName : List UInt8)
    (formData : Option (List UInt8)) :
    requestText method path serverName formData =
      (asked method path serverName formData).write := by
  have lineEnd : ascii "\r\n" = [13, 10] := by decide
  have version : ascii " HTTP/1.1\r\n" = 32 :: (ascii "HTTP/1.1" ++ [13, 10]) := by decide
  have blank : ascii " " = [32] := by decide
  have host : ascii "Host: " = ascii "Host" ++ [58, 32] := by decide
  have agent : ascii "User-Agent: " = ascii "User-Agent" ++ [58, 32] := by decide
  have closing : ascii "Connection: close\r\n" =
      ascii "Connection" ++ 58 :: 32 :: (ascii "close" ++ [13, 10]) := by decide
  have type : ascii "Content-Type: application/x-www-form-urlencoded\r\n" =
      ascii "Content-Type" ++ 58 :: 32 ::
        (ascii "application/x-www-form-urlencoded" ++ [13, 10]) := by decide
  have length : ascii "Content-Length: " = ascii "Content-Length" ++ [58, 32] := by decide
  unfold requestText asked
  rw [lineEnd, version, blank, host, agent, closing, type, length]
  by_cases named : serverName.length > 0
  · cases method <;> cases formData <;>
      simp [named, HttpMessages.Request.write, HttpMessages.Request.startLine, writeHead,
        formFields, Field.line, methodName]
  · cases method <;> cases formData <;>
      simp [named, HttpMessages.Request.write, HttpMessages.Request.startLine, writeHead,
        formFields, Field.line, methodName]

/-! Numbers. -/

theorem toDigits_char (number : Nat) (char : Char) (present : char ∈ Nat.toDigits 10 number) :
    48 ≤ char.toNat ∧ char.toNat ≤ 57 := by
  have digit := Nat.isDigit_of_mem_toDigits (by decide) (by decide) present
  simp only [Char.isDigit, Bool.and_eq_true, decide_eq_true_eq] at digit
  exact ⟨digit.1, digit.2⟩

theorem digitValue_char (char : Char) (digit : 48 ≤ char.toNat ∧ char.toNat ≤ 57) :
    digitValue (UInt8.ofNat char.toNat) = char.toNat - 48 := by
  have small : (UInt8.ofNat char.toNat).toNat = char.toNat := by
    rw [UInt8.toNat_ofNat']
    omega
  have low : (48 : UInt8) ≤ UInt8.ofNat char.toNat := by
    rw [UInt8.le_iff_toNat_le, small]
    exact digit.1
  have high : UInt8.ofNat char.toNat ≤ (57 : UInt8) := by
    rw [UInt8.le_iff_toNat_le, small]
    exact digit.2
  simp [digitValue, low, high, small]

theorem ascii_number (number : Nat) : ascii (toString number) =
    (Nat.toDigits 10 number).map fun char => UInt8.ofNat char.toNat := by
  rw [ascii]
  congr 1
  exact Nat.toList_repr

theorem numeral_digits (chars : List Char) (value : Nat)
    (digits : ∀ char ∈ chars, 48 ≤ char.toNat ∧ char.toNat ≤ 57) :
    (chars.map fun char => UInt8.ofNat char.toNat).foldl
      (fun value digit => value * 10 + digitValue digit) value =
        Nat.ofDigitChars 10 chars value := by
  induction chars generalizing value with
  | nil => rfl
  | cons char later ih =>
      have first := digitValue_char char (digits char List.mem_cons_self)
      have rest := ih (value * 10 + (char.toNat - 48))
        fun other present => digits other (List.mem_cons_of_mem char present)
      rw [List.map_cons, List.foldl_cons, first, rest, Nat.ofDigitChars_cons, Nat.mul_comm]
      rfl

theorem number_digits (number : Nat) (char : UInt8)
    (present : char ∈ ascii (toString number)) : isDigit char = true := by
  rw [ascii_number] at present
  rcases List.mem_map.mp present with ⟨digit, member, rfl⟩
  have bounds := toDigits_char number digit member
  have small : (UInt8.ofNat digit.toNat).toNat = digit.toNat := by
    rw [UInt8.toNat_ofNat']
    omega
  simp only [isDigit, Bool.and_eq_true, decide_eq_true_eq, UInt8.le_iff_toNat_le, small]
  exact bounds

theorem readNumber_toString (number : Nat) :
    readNumber (ascii (toString number)) = some number := by
  have digits : (ascii (toString number)).all isDigit = true :=
    List.all_eq_true.mpr (number_digits number)
  have some_ : ascii (toString number) ≠ [] := by
    rw [ascii_number]
    simp
  rw [readNumber, if_pos ⟨some_, digits⟩]
  rw [ascii_number, numeral, numeral_digits _ 0 (toDigits_char number),
    Nat.ofDigitChars_ten_toDigits]

/-! The request that is asked for. -/

theorem formFields_formed (formData : Option (List UInt8)) :
    ∀ field ∈ formFields formData, field.WellFormed := by
  intro field present
  cases formData with
  | none => cases present
  | some data =>
      simp only [formFields, List.mem_cons, List.not_mem_nil, or_false] at present
      rcases present with rfl | rfl
      · exact ⟨by decide, by decide, by decide⟩
      · have name : isToken (ascii "Content-Length") = true := by decide
        have value := visible_value _ fun char member =>
          digit_visible char (number_digits (data.length % 2 ^ 32) char member)
        exact ⟨name, value.1, value.2⟩

/-- No field in front of those of the form has one of these names, except the host. -/
theorem valuesOf_asked (name : String) (method : RequestMethod) (path serverName : List UInt8)
    (formData : Option (List UInt8))
    (agent : sameIgnoringCase (ascii "User-Agent") (ascii name) = false)
    (closing : sameIgnoringCase (ascii "Connection") (ascii name) = false) :
    valuesOf (ascii name) (asked method path serverName formData).fields =
      (if serverName.length > 0 ∧ sameIgnoringCase (ascii "Host") (ascii name) = true then
        [serverName] else []) ++ valuesOf (ascii name) (formFields formData) := by
  by_cases named : serverName.length > 0
  · by_cases host : sameIgnoringCase (ascii "Host") (ascii name) = true
    · simp [valuesOf, asked, named, agent, closing, host]
    · simp [valuesOf, asked, named, agent, closing, host]
  · simp [valuesOf, asked, named, agent, closing]

theorem asked_hosted (method : RequestMethod) (path serverName : List UInt8)
    (formData : Option (List UInt8)) :
    hosted (asked method path serverName formData).fields = true ↔ isHost serverName = true := by
  have form : valuesOf (ascii "Host") (formFields formData) = [] := by
    cases formData with
    | none => rfl
    | some data =>
        have type : sameIgnoringCase (ascii "Content-Type") (ascii "Host") = false := by decide
        have length : sameIgnoringCase (ascii "Content-Length") (ascii "Host") = false := by decide
        simp [valuesOf, formFields, type, length]
  have host : sameIgnoringCase (ascii "Host") (ascii "Host") = true := by decide
  rw [hosted, valuesOf_asked "Host" method path serverName formData (by decide) (by decide), form]
  by_cases named : serverName.length > 0
  · simp [named, host]
  · obtain rfl : serverName = [] := by simpa using named
    simp [isHost]

theorem asked_framed (method : RequestMethod) (path serverName : List UInt8)
    (formData : Option (List UInt8)) :
    announced (asked method path serverName formData).fields =
        some (asked method path serverName formData).body.length ↔
      ∀ data ∈ formData, data.length < 2 ^ 32 := by
  have coding := valuesOf_asked "Transfer-Encoding" method path serverName formData (by decide)
    (by decide)
  have length := valuesOf_asked "Content-Length" method path serverName formData (by decide)
    (by decide)
  rw [if_neg fun both => absurd both.2 (by decide)] at coding length
  rw [announced, coding, length]
  cases formData with
  | none => simp [formFields, valuesOf, asked]
  | some data =>
      have first : valuesOf (ascii "Transfer-Encoding") (formFields (some data)) = [] := by
        have type : sameIgnoringCase (ascii "Content-Type") (ascii "Transfer-Encoding") = false := by
          decide
        have length : sameIgnoringCase (ascii "Content-Length") (ascii "Transfer-Encoding") =
            false := by decide
        simp [valuesOf, formFields, type, length]
      have second : valuesOf (ascii "Content-Length") (formFields (some data)) =
          [ascii (toString (data.length % 2 ^ 32))] := by
        have type : sameIgnoringCase (ascii "Content-Type") (ascii "Content-Length") = false := by
          decide
        have length : sameIgnoringCase (ascii "Content-Length") (ascii "Content-Length") = true := by
          decide
        simp [valuesOf, formFields, type, length]
      simp only [first, second, List.nil_append, readNumber_toString, asked, Option.getD_some,
        Option.some.injEq, Option.mem_def, forall_eq']
      omega

theorem asked_formed_iff (method : RequestMethod) (path serverName : List UInt8)
    (formData : Option (List UInt8)) :
    (asked method path serverName formData).WellFormed ↔ Clean path serverName formData := by
  constructor
  · intro formed
    exact ⟨formed.target, (asked_hosted method path serverName formData).mp formed.host,
      (asked_framed method path serverName formData).mp formed.framed⟩
  · intro clean
    have word : isToken (methodName method) = true := by
      cases method <;> decide
    have value := visible_value serverName (host_visible serverName clean.host)
    refine ⟨word, clean.path, rfl, ?_, (asked_hosted method path serverName formData).mpr clean.host,
      (asked_framed method path serverName formData).mpr clean.short⟩
    intro field present
    simp only [asked, List.mem_append, List.mem_cons] at present
    rcases present with named | rfl | rfl | form
    · split at named
      · obtain rfl := List.mem_singleton.mp named
        have host : isToken (ascii "Host") = true := by decide
        exact ⟨host, value.1, value.2⟩
      · cases named
    · exact ⟨by decide, by decide, by decide⟩
    · exact ⟨by decide, by decide, by decide⟩
    · exact formFields_formed formData field form

/-- What `Request` sends is read as the request that the caller asked for, and nothing is left
behind it: exactly when the path is in origin form, the name of the server is a host, and the
form is shorter than 2^32 bytes. -/
theorem request_understood_iff (method : RequestMethod) (path serverName : List UInt8)
    (formData : Option (List UInt8)) :
    readRequest (requestText method path serverName formData) =
        some (asked method path serverName formData, []) ↔
      Clean path serverName formData := by
  rw [requestText_write, read_write_iff, asked_formed_iff]

/-! The reply. -/

inductive Content where
  | plain (body : List UInt8)
  | chunked (coding : Coding) (rest : List UInt8)

def Content.bytes : Content → List UInt8
  | .plain body => body
  | .chunked coding rest => coding.bytes ++ rest

def Content.body : Content → List UInt8
  | .plain body => body
  | .chunked coding _ => coding.body

structure Reply where
  header : Header
  content : Content

def Reply.bytes (reply : Reply) : List UInt8 := reply.header.bytes ++ reply.content.bytes

/-- The header fits the content, and `Line` has room for what matters of both. -/
def Reply.Sound (ulongMax : Nat) (reply : Reply) : Prop :=
  reply.header.WellFormed ∧ reply.header.Legible ∧
    match reply.content with
    | .plain _ => reply.header.Plain
    | .chunked coding _ => reply.header.Chunked ∧ coding.Legible ∧ coding.Small ulongMax

theorem respond_reply (ulongMax length : Nat) (reads : List (List UInt8)) (reply : Reply)
    (sound : reply.Sound ulongMax) (room : reply.content.body.length ≤ length)
    (stream : delivered reads = reply.bytes) :
    respond ulongMax length reads =
      ⟨.returned httpOK, reply.content.body, reply.content.body.length⟩ := by
  rcases reply with ⟨header, content⟩
  rcases sound with ⟨wellFormed, legible, fits⟩
  cases content with
  | plain body =>
      exact respond_plain ulongMax length reads header wellFormed legible body fits room stream
  | chunked coding rest =>
      rcases fits with ⟨chunked, coded, small⟩
      exact respond_coded ulongMax length reads header wellFormed legible coding rest chunked coded
        small room stream

structure Origin where
  answer : HttpMessages.Request → Reply

/-- A second request behind the first one, or a part of it, is not what a client sends that
closes the connection. -/
def Origin.serve (origin : Origin) (text : List UInt8) : Option Reply :=
  match readRequest text with
  | some (request, []) => some (origin.answer request)
  | _ => none

/-- From one end to the other: for arguments as above, a socket that takes the whole text and
an origin whose reply to what has arrived comes back in any pieces, `Request` returns the body
that the origin has for the request that the caller asked for. -/
theorem exchange_returns_answer (ulongMax : Nat) (origin : Origin) (server : Server)
    (method : RequestMethod) (path serverName : List UInt8) (length : Nat)
    (formData : Option (List UInt8)) (clean : Clean path serverName formData)
    (accepts : Accepts server serverName (requestText method path serverName formData))
    (whole : server.send (requestText method path serverName formData) =
      (requestText method path serverName formData).length)
    (answered : (origin.serve ((requestText method path serverName formData).take
      (server.send (requestText method path serverName formData)).toNat)).map Reply.bytes =
        some (delivered server.reads))
    (sound : (origin.answer (asked method path serverName formData)).Sound ulongMax)
    (room : (origin.answer (asked method path serverName formData)).content.body.length ≤
      length) :
    request ulongMax server method path serverName length formData =
      ⟨.returned httpOK, (origin.answer (asked method path serverName formData)).content.body,
        (origin.answer (asked method path serverName formData)).content.body.length⟩ := by
  have understood := (HttpMessages.read_write_iff _).mpr
    ((asked_formed_iff method path serverName formData).mpr clean)
  rw [← requestText_write] at understood
  simp only [whole, Int.toNat_natCast, List.take_length, Origin.serve, understood,
    Option.map_some, Option.some.injEq] at answered
  rw [request_accepted ulongMax server method path serverName length formData accepts]
  exact respond_reply ulongMax length server.reads _ sound room answered.symm

def echo : Origin :=
  ⟨fun request => ⟨⟨ascii "1.1", ascii "OK", []⟩, .plain (request.target ++ request.body)⟩⟩

def echoing : Server :=
  { useSSL := false, addCertificatePath := 0, setup := 0, connect := 0,
    send := fun text => text.length
    reads := [ascii "HTTP/1.1 200 OK\r\n\r", ascii "\n/ax=1"] }

theorem echo_returns : request (2 ^ 32 - 1) echoing .post (ascii "/a") (ascii "h") 8
    (some (ascii "x=1")) = ⟨.returned httpOK, ascii "/ax=1", 5⟩ := by
  have clean : Clean (ascii "/a") (ascii "h") (some (ascii "x=1")) :=
    ⟨by decide, by decide, by decide⟩
  have understood := (HttpMessages.read_write_iff _).mpr
    ((asked_formed_iff .post (ascii "/a") (ascii "h") (some (ascii "x=1"))).mpr clean)
  rw [← requestText_write] at understood
  apply exchange_returns_answer (2 ^ 32 - 1) echo echoing .post (ascii "/a") (ascii "h") 8
    (some (ascii "x=1")) clean
  · exact ⟨by simp [echoing], by simp [echoing], by simp [echoing]⟩
  · rfl
  · simp only [echoing, Int.toNat_natCast, List.take_length, Origin.serve, understood]
    decide
  · refine ⟨⟨by decide, by decide, by decide, ?_⟩, ⟨by decide, by decide, by decide, by decide⟩, ?_⟩
    · intro line member
      cases member
    · intro line member
      cases member
  · decide

end CircleStdlib.HttpExchange
