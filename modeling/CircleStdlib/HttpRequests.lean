import CircleStdlib.Execution
import CircleStdlib.HttpLines

/-!
`CHTTPClient` as an object: `m_pSocket` over a sequence of `Get` and `Post` calls, with the
sockets that are made and deleted, what the socket takes of a request, and the caller's
buffer. A call that hands a null pointer to `strtoul`, or fails the assertion on the server
name, does not return. What `Request` answers is the response of HttpClient.
-/

namespace CircleStdlib.HttpRequests

open CText HttpClient HttpLines Execution

/-- The members of the client. `created` counts the sockets made so far and `released` has
those deleted, in their order. -/
structure Client where
  useSSL : Bool
  serverName : List UInt8
  socket : Option Nat
  created : Nat
  released : List Nat
  deriving DecidableEq, Repr

namespace Client

def openSocket (client : Client) : Client :=
  { client with socket := some client.created, created := client.created + 1 }

def release (client : Client) : Client :=
  { client with released := client.released ++ client.socket.toList, socket := none }

end Client

/-- The arguments of a call, with what stands at and behind `pBuffer`, and what the world
answers. `Get` is without form data. -/
structure Call where
  server : Server
  path : List UInt8
  length : Nat
  formData : Option (List UInt8)
  memory : Nat → UInt8

namespace Call

def method (call : Call) : RequestMethod := if call.formData.isSome then .post else .get

def text (call : Call) (client : Client) : List UInt8 :=
  requestText call.method call.path client.serverName call.formData

end Call

/-- A call as it has ended, or got stuck. `accepted` is what the socket took of the request;
`waited` says that `Receive` has been called. -/
structure Done where
  client : Client
  outcome : Outcome
  stored : List UInt8
  length : Nat
  accepted : List UInt8
  waited : Bool

def Done.memory (done : Done) (call : Call) : Nat → UInt8 :=
  fun place => done.stored.getD place (call.memory place)

def Client.giveUp (client : Client) (call : Call) (status : Nat) : Done :=
  ⟨client.release, .returned status, [], call.length, [], false⟩

-- `Request` behind its first assertion.
def Client.request (ulongMax : Nat) (client : Client) (call : Call) : Done :=
  let opened := client.openSocket
  if client.useSSL ∧ call.server.addCertificatePath < 0 then
    opened.giveUp call httpInternalClientError
  -- assert (m_ServerName.GetLength () > 0)
  else if client.useSSL ∧ client.serverName.length = 0 then
    ⟨opened, .assertionFailed, [], call.length, [], false⟩
  else if client.useSSL ∧ call.server.setup ≠ 0 then opened.giveUp call httpInternalClientError
  else if call.server.connect < 0 then opened.giveUp call httpRequestTimeout
  else
    let text := call.text client
    let sent := call.server.send text
    if sent < 0 then opened.giveUp call httpConnectionReset
    else
      let accepted := text.take sent.toNat
      match Parser.start.receive ulongMax call.length call.server.reads with
      -- each return from inside the loop has its own `delete`
      | .error ⟨.returned status, stored⟩ =>
          ⟨opened.release, .returned status, stored, call.length, accepted, true⟩
      | .error ⟨outcome, stored⟩ => ⟨opened, outcome, stored, call.length, accepted, true⟩
      | .ok parser =>
          if parser.state ≠ .finished ∧ parser.state ≠ .content then
            ⟨opened.release, .returned httpConnectionReset, parser.stored, call.length, accepted,
              true⟩
          else
            ⟨opened.release, .returned httpOK, parser.stored, parser.nLength, accepted, true⟩

def Call.toServer (call : Call) (client : Client) : Server :=
  { call.server with useSSL := client.useSSL }

structure Gone (client : Client) (call : Call) : Prop where
  certified : ¬ (client.useSSL = true ∧ call.server.addCertificatePath < 0)
  named : ¬ (client.useSSL = true ∧ client.serverName.length = 0)
  configured : ¬ (client.useSSL = true ∧ call.server.setup ≠ 0)
  connected : ¬ call.server.connect < 0
  sent : ¬ call.server.send (call.text client) < 0

/-- The assertion on the server name is reached, and fails. -/
structure Nameless (client : Client) (call : Call) : Prop where
  secured : client.useSSL = true
  certified : 0 ≤ call.server.addCertificatePath
  empty : client.serverName = []

-- the ways in which a call can go
theorem request_cases (ulongMax : Nat) (client : Client) (call : Call) :
    (¬ Gone client call ∧ ¬ Nameless client call ∧
      ∃ status ∈ [httpInternalClientError, httpRequestTimeout, httpConnectionReset],
        client.request ulongMax call = client.openSocket.giveUp call status) ∨
    (¬ Gone client call ∧ Nameless client call ∧
      client.request ulongMax call =
        ⟨client.openSocket, .assertionFailed, [], call.length, [], false⟩) ∨
    Gone client call ∧ ¬ Nameless client call ∧
      (client.request ulongMax call).waited = true ∧
      (client.request ulongMax call).accepted =
        (call.text client).take (call.server.send (call.text client)).toNat := by
  have unnamed : ¬ (client.useSSL = true ∧ client.serverName.length = 0) →
      ¬ Nameless client call :=
    fun named nameless => named ⟨nameless.secured, congrArg List.length nameless.empty⟩
  unfold Client.request
  dsimp only
  split
  case isTrue failed =>
    refine .inl ⟨fun gone => gone.certified failed, fun nameless => ?_, _, by simp, rfl⟩
    exact absurd failed.2 (Int.not_lt.mpr nameless.certified)
  case isFalse certified =>
    split
    case isTrue failed =>
      refine .inr (.inl ⟨fun gone => gone.named failed, ⟨failed.1, ?_, ?_⟩, rfl⟩)
      · exact Int.not_lt.mp fun short => certified ⟨failed.1, short⟩
      · exact List.length_eq_zero_iff.mp failed.2
    case isFalse named =>
      split
      case isTrue failed =>
        exact .inl ⟨fun gone => gone.configured failed, unnamed named, _, by simp, rfl⟩
      case isFalse configured =>
        split
        case isTrue failed =>
          exact .inl ⟨fun gone => gone.connected failed, unnamed named, _, by simp, rfl⟩
        case isFalse connected =>
          split
          case isTrue failed =>
            exact .inl ⟨fun gone => gone.sent failed, unnamed named, _, by simp, rfl⟩
          case isFalse sent =>
            refine .inr (.inr
              ⟨⟨certified, named, configured, connected, sent⟩, unnamed named, ?_⟩)
            split
            · exact ⟨rfl, rfl⟩
            · exact ⟨rfl, rfl⟩
            · split <;> exact ⟨rfl, rfl⟩

theorem request_gone (ulongMax : Nat) (client : Client) (call : Call)
    (gone : Gone client call) :
    client.request ulongMax call =
      let accepted := (call.text client).take (call.server.send (call.text client)).toNat
      match Parser.start.feed ulongMax call.length (delivered call.server.reads) with
      | .error ⟨.returned status, stored⟩ =>
          ⟨client.openSocket.release, .returned status, stored, call.length, accepted, true⟩
      | .error ⟨outcome, stored⟩ =>
          ⟨client.openSocket, outcome, stored, call.length, accepted, true⟩
      | .ok parser =>
          if parser.state ≠ .finished ∧ parser.state ≠ .content then
            ⟨client.openSocket.release, .returned httpConnectionReset, parser.stored,
              call.length, accepted, true⟩
          else
            ⟨client.openSocket.release, .returned httpOK, parser.stored, parser.nLength, accepted,
              true⟩ := by
  unfold Client.request
  dsimp only
  rw [if_neg gone.certified, if_neg gone.named, if_neg gone.configured, if_neg gone.connected,
    if_neg gone.sent, receive_delivered]

/-- The object answers what the function of HttpClient does. -/
theorem request_response (ulongMax : Nat) (client : Client) (call : Call) :
    HttpClient.request ulongMax (call.toServer client) call.method call.path client.serverName
        call.length call.formData =
      ⟨(client.request ulongMax call).outcome, (client.request ulongMax call).stored,
        (client.request ulongMax call).length⟩ := by
  have same : (call.toServer client).send (requestText call.method call.path client.serverName
      call.formData) = call.server.send (call.text client) := rfl
  simp only [HttpClient.request, Client.request, same]
  simp only [Call.toServer]
  by_cases certified : client.useSSL = true ∧ call.server.addCertificatePath < 0
  · simp only [certified, and_self, ↓reduceIte, Client.giveUp]
  · simp only [certified, ↓reduceIte]
    by_cases named : client.useSSL = true ∧ client.serverName.length = 0
    · simp only [named, and_self, ↓reduceIte]
    · simp only [named, ↓reduceIte]
      by_cases configured : client.useSSL = true ∧ call.server.setup ≠ 0
      · simp only [configured, ne_eq, not_false_eq_true, and_self, ↓reduceIte, Client.giveUp]
      · simp only [configured, ↓reduceIte]
        by_cases connected : call.server.connect < 0
        · simp only [connected, ↓reduceIte, Client.giveUp]
        · simp only [connected, ↓reduceIte]
          by_cases sent : call.server.send (call.text client) < 0
          · simp only [sent, ↓reduceIte, Client.giveUp]
          · simp only [sent, ↓reduceIte, respond]
            cases Parser.start.receive ulongMax call.length call.server.reads with
            | error exit =>
                obtain ⟨outcome, stored⟩ := exit
                cases outcome <;> rfl
            | ok parser =>
                dsimp only [finish]
                split <;> rfl

/-! The request is sent with one `Send`, and only its failure is looked at. -/

def TakesSome (send : List UInt8 → Int) : Prop :=
  ∀ data, data ≠ [] → send data < 0 ∨ 0 < send data ∧ send data ≤ data.length

/-- The response is waited for when the socket has the whole request, and otherwise the
call returns an error. -/
structure SendsFirst (client : Client) (call : Call) (done : Done) : Prop where
  complete : done.waited = true → done.accepted = call.text client
  otherwise : done.accepted ≠ call.text client →
    ∃ status, status ≠ httpOK ∧ done.outcome = .returned status

/-- For every client and every call on a socket that takes what it likes: the response is
waited for only behind the whole request, and anything else is answered with an error, exactly
when the assertion on the server name holds and `Send`, if it is called and does not fail,
takes everything at once. -/
theorem sendsFirst_iff_whole (ulongMax : Nat) (client : Client) (call : Call)
    (takes : TakesSome call.server.send) :
    SendsFirst client call (client.request ulongMax call) ↔
      ¬ Nameless client call ∧
        (Gone client call →
          call.server.send (call.text client) = (call.text client).length) := by
  have some : call.text client ≠ [] := by
    simp only [Call.text, requestText, Call.method]
    split <;> simp [ascii]
  rcases request_cases ulongMax client call with
    ⟨back, named, status, among, done⟩ | ⟨-, nameless, done⟩ | ⟨gone, named, waited, accepted⟩
  · have error : status ≠ httpOK := by
      rintro rfl
      revert among
      decide
    rw [done]
    constructor
    · exact fun _ => ⟨named, fun gone => absurd gone back⟩
    · intro _
      constructor
      · intro waited
        cases waited
      · exact fun _ => ⟨status, error, rfl⟩
  · refine iff_of_false (fun first => ?_) fun held => held.1 nameless
    rcases first.otherwise (by rw [done]; exact fun same => some same.symm) with
      ⟨status, -, returned⟩
    rw [done] at returned
    cases returned
  · constructor
    · refine fun first => ⟨named, fun _ => ?_⟩
      have whole := congrArg List.length (accepted.symm.trans (first.complete waited))
      rw [List.length_take] at whole
      have range := takes (call.text client) some
      have sent := gone.sent
      omega
    · rintro ⟨-, whole⟩
      have all : (client.request ulongMax call).accepted = call.text client := by
        rw [accepted, whole gone, Int.toNat_natCast, List.take_length]
      exact ⟨fun _ => all, fun short => absurd all short⟩

def plainClient : Client := ⟨false, [], none, 0, []⟩

def limitedServer (limit : Nat) : Server :=
  ⟨false, 0, 0, 0, fun data => min data.length limit, []⟩

theorem limited_takes (limit : Nat) (positive : 0 < limit) :
    TakesSome (limitedServer limit).send := by
  intro data some
  have length := List.length_pos_iff.mpr some
  simp only [limitedServer]
  omega

def longForm : Call := ⟨limitedServer 16384, ascii "/", 100, some (List.replicate 16384 97),
  fun _ => 0⟩

def shortForm : Call := ⟨limitedServer 16384, ascii "/", 100, some (ascii "a=1"), fun _ => 0⟩

theorem shortForm_sendsFirst : TakesSome shortForm.server.send ∧
    SendsFirst plainClient shortForm (plainClient.request (2 ^ 32 - 1) shortForm) :=
  ⟨limited_takes 16384 (by decide),
    (sendsFirst_iff_whole (2 ^ 32 - 1) plainClient shortForm
      (limited_takes 16384 (by decide))).mpr
        ⟨fun nameless => absurd nameless.secured (by decide), fun _ => by decide +kernel⟩⟩

theorem longForm_length : 16384 < (longForm.text plainClient).length := by
  simp only [Call.text, longForm, requestText, List.length_append, Option.getD_some,
    List.length_replicate]
  have header : 0 < (ascii "\r\n").length := by decide
  omega

-- the socket has 16384 bytes of a longer request, and the client waits
theorem longForm_waits_early :
    TakesSome longForm.server.send ∧
      ¬ SendsFirst plainClient longForm (plainClient.request (2 ^ 32 - 1) longForm) := by
  refine ⟨limited_takes 16384 (by decide), fun first => ?_⟩
  have length := longForm_length
  have sent : longForm.server.send (longForm.text plainClient) = 16384 := by
    simp only [longForm, limitedServer] at length ⊢
    omega
  have gone : Gone plainClient longForm := by
    refine ⟨by decide, by decide, by decide, by decide, ?_⟩
    rw [sent]
    decide
  rcases request_cases (2 ^ 32 - 1) plainClient longForm with
    ⟨back, -⟩ | ⟨back, -⟩ | ⟨-, -, waited, accepted⟩
  · exact back gone
  · exact back gone
  · have whole := congrArg List.length (accepted.symm.trans (first.complete waited))
    rw [List.length_take, sent] at whole
    omega

end CircleStdlib.HttpRequests
