import CircleStdlib.CText
import Mathlib.Algebra.Group.Nat.Defs

/-!
`CHTTPClient::Request` of httpclient.cpp: the connection set-up, the request
text, and the response parser that takes one character at a time through six
states. The socket is not modelled beyond what it answers: the results of
set-up, connect and send, and the reads it delivers until one of them is not
positive. `ulongMax` is the platform's `ULONG_MAX` (32 and 64 bit targets
exist).
-/

namespace CircleStdlib.HttpClient

open CText

/-! The `THTTPStatus` values the client itself returns. -/
def httpOK : Nat := 200
def httpRequestTimeout : Nat := 408
def httpConnectionReset : Nat := 550
def httpInvalidResponseCode : Nat := 551
def httpInvalidChunkHeader : Nat := 552
def httpContentBufferTooSmall : Nat := 553
def httpInternalClientError : Nat := 554

def httpMaxRequestLine : Nat := 2048

/-- The values 0 to 5 of `nState`. -/
inductive ResponseState where
  | header
  | content
  | chunkHeader
  | chunkData
  | chunkTrailer
  | finished
  deriving DecidableEq, Repr

/-- How `Request` ends: with a status, by handing `strtoul` the null pointer
that `strtok_r` returned, or in an assertion. -/
inductive Outcome where
  | returned (status : Nat)
  | nullToken
  | assertionFailed
  deriving DecidableEq, Repr

structure Exit where
  outcome : Outcome
  stored : List UInt8
  deriving DecidableEq, Repr

/-- The local variables of the parser. `stored` are the bytes written to
`pBuffer`, in order. -/
structure Parser where
  state : ResponseState
  nLine : Nat
  nChar : Nat
  nLength : Nat
  chunked : Bool
  ulBytes : Nat
  line : List UInt8
  stored : List UInt8
  deriving DecidableEq, Repr

def Parser.start : Parser := ⟨.header, 0, 0, 0, false, 0, [], []⟩

-- `Line[nChar++] = chChar; Line[nChar] = '\0'` while there is room.
def Parser.accumulate (parser : Parser) (char : UInt8) : Parser :=
  if parser.nChar < httpMaxRequestLine - 1 then
    { parser with
      line := parser.line.take parser.nChar ++ [char]
      nChar := parser.nChar + 1 }
  else parser

/-- What the tests on the first line come to. A rejected line leaves `pToken` at
the token that failed, or at null when a token is missing. -/
inductive Verdict where
  | accepted (cells : List UInt8)
  | rejected (token : List UInt8)
  | missing
  deriving DecidableEq, Repr

-- `"HTTP/1.x 200 OK" expected`.
def statusLine (cells : List UInt8) : Verdict :=
  let first := strtokR cells 0 (ascii "/")
  match first.token with
  | none => .missing
  | some protocol =>
      if protocol ≠ ascii "HTTP" then .rejected protocol
      else
        let second := strtokR first.cells first.save (ascii " ")
        match second.token with
        | none => .missing
        | some _ =>
            let third := strtokR second.cells second.save (ascii " ")
            match third.token with
            | none => .missing
            | some code => if code ≠ ascii "200" then .rejected code else .accepted third.cells

-- The status made of a rejected token; the cast to `THTTPStatus` keeps 32 bits.
def rejectedStatus (ulongMax : Nat) (token : List UInt8) : Nat :=
  let (ulStatus, rest) := strtoul ulongMax 10 token
  (if rest ≠ [] then httpInvalidResponseCode else ulStatus) % 2 ^ 32

def headerOption (cells : List UInt8) : List UInt8 × Bool :=
  let name := strtokR cells 0 (ascii ": ")
  match name.token with
  | none => (name.cells, false)
  | some token =>
      if sameIgnoringCase token (ascii "Transfer-Encoding") then
        let value := strtokR name.cells name.save (ascii " ")
        match value.token with
        | none => (value.cells, false)
        | some coding => (value.cells, sameIgnoringCase coding (ascii "chunked"))
      else (name.cells, false)

-- `'\n'` in state 0.
def Parser.endHeaderLine (ulongMax : Nat) (parser : Parser) : Except Exit Parser :=
  if parser.nChar = 0 then
    .ok { parser with state := if parser.chunked then .chunkHeader else .content, nChar := 0 }
  else if parser.nLine = 0 then
    match statusLine parser.line with
    | .accepted cells =>
        .ok { parser with nLine := (parser.nLine + 1) % 2 ^ 32, nChar := 0, line := cells }
    | .rejected token => .error ⟨.returned (rejectedStatus ulongMax token), parser.stored⟩
    | .missing => .error ⟨.nullToken, parser.stored⟩
  else
    let (cells, chunked) := headerOption parser.line
    .ok { parser with
      nLine := (parser.nLine + 1) % 2 ^ 32
      nChar := 0
      line := cells
      chunked := parser.chunked || chunked }

def Parser.store (bufferLength : Nat) (parser : Parser) (char : UInt8) : Except Exit Parser :=
  if parser.nLength ≥ bufferLength then
    .error ⟨.returned httpContentBufferTooSmall, parser.stored⟩
  else .ok { parser with stored := parser.stored ++ [char], nLength := parser.nLength + 1 }

-- `'\n'` in state 2.
def Parser.endChunkHeader (ulongMax : Nat) (parser : Parser) : Except Exit Parser :=
  let (ulBytes, rest) := strtoul ulongMax 16 (cstr parser.line)
  if rest ≠ [] then .error ⟨.returned httpInvalidChunkHeader, parser.stored⟩
  else
    .ok { parser with ulBytes := ulBytes, state := if ulBytes ≠ 0 then .chunkData else .finished }

-- One character; 13 and 10 are `'\r'` and `'\n'`.
def Parser.step (ulongMax bufferLength : Nat) (parser : Parser) (char : UInt8) :
    Except Exit Parser :=
  match parser.state with
  | .header =>
      if char = 13 then .ok parser
      else if char = 10 then parser.endHeaderLine ulongMax
      else .ok (parser.accumulate char)
  | .content => parser.store bufferLength char
  | .chunkHeader =>
      if char = 13 then .ok parser
      else if char = 10 then parser.endChunkHeader ulongMax
      else .ok (parser.accumulate char)
  | .chunkData =>
      match parser.store bufferLength char with
      | .error exit => .error exit
      | .ok written =>
          if written.ulBytes - 1 = 0 then
            .ok { written with ulBytes := written.ulBytes - 1, state := .chunkTrailer }
          else .ok { written with ulBytes := written.ulBytes - 1 }
  | .chunkTrailer =>
      if char = 13 then .ok parser
      else if char ≠ 10 then .error ⟨.returned httpInvalidChunkHeader, parser.stored⟩
      else .ok { parser with nChar := 0, state := .chunkHeader }
  | .finished => .ok parser

def Parser.feed (ulongMax bufferLength : Nat) : Parser → List UInt8 → Except Exit Parser
  | parser, [] => .ok parser
  | parser, char :: rest =>
      match parser.step ulongMax bufferLength char with
      | .error exit => .error exit
      | .ok next => next.feed ulongMax bufferLength rest

-- The outer loop: it ends in state 5, at a read that is not positive, here an
-- empty one, or when the list of reads does.
def Parser.receive (ulongMax bufferLength : Nat) :
    Parser → List (List UInt8) → Except Exit Parser
  | parser, [] => .ok parser
  | parser, read :: rest =>
      if parser.state = .finished then .ok parser
      else if read = [] then .ok parser
      else
        match parser.feed ulongMax bufferLength read with
        | .error exit => .error exit
        | .ok next => next.receive ulongMax bufferLength rest

structure Server where
  useSSL : Bool
  addCertificatePath : Int
  setup : Int
  connect : Int
  send : List UInt8 → Int
  reads : List (List UInt8)

inductive RequestMethod where
  | get
  | post
  deriving DecidableEq, Repr

def userAgent : String := "CHTTPClient/0.10 (Circle)"

def requestText (method : RequestMethod) (path serverName : List UInt8)
    (formData : Option (List UInt8)) : List UInt8 :=
  (match method with | .get => ascii "GET" | .post => ascii "POST") ++ ascii " " ++ path ++
    ascii " HTTP/1.1\r\n" ++
  (if serverName.length > 0 then ascii "Host: " ++ serverName ++ ascii "\r\n" else []) ++
  ascii "User-Agent: " ++ ascii userAgent ++ ascii "\r\n" ++
  ascii "Connection: close\r\n" ++
  (match formData with
    | none => []
    | some data =>
        ascii "Content-Type: application/x-www-form-urlencoded\r\n" ++
        ascii "Content-Length: " ++ ascii (toString (data.length % 2 ^ 32)) ++ ascii "\r\n") ++
  ascii "\r\n" ++ formData.getD []

structure Response where
  outcome : Outcome
  stored : List UInt8
  length : Nat
  deriving DecidableEq, Repr

def finish (length : Nat) (parser : Parser) : Response :=
  if parser.state ≠ .finished ∧ parser.state ≠ .content then
    ⟨.returned httpConnectionReset, parser.stored, length⟩
  else ⟨.returned httpOK, parser.stored, parser.nLength⟩

-- The part of `Request` behind the successful send.
def respond (ulongMax length : Nat) (reads : List (List UInt8)) : Response :=
  match Parser.start.receive ulongMax length reads with
  | .error exit => ⟨exit.outcome, exit.stored, length⟩
  | .ok parser => finish length parser

def request (ulongMax : Nat) (server : Server) (method : RequestMethod)
    (path serverName : List UInt8) (length : Nat) (formData : Option (List UInt8)) : Response :=
  if server.useSSL ∧ server.addCertificatePath < 0 then
    ⟨.returned httpInternalClientError, [], length⟩
  -- assert (m_ServerName.GetLength () > 0)
  else if server.useSSL ∧ serverName.length = 0 then ⟨.assertionFailed, [], length⟩
  else if server.useSSL ∧ server.setup ≠ 0 then ⟨.returned httpInternalClientError, [], length⟩
  else if server.connect < 0 then ⟨.returned httpRequestTimeout, [], length⟩
  else if server.send (requestText method path serverName formData) < 0 then
    ⟨.returned httpConnectionReset, [], length⟩
  else respond ulongMax length server.reads

end CircleStdlib.HttpClient
