import CircleStdlib.PublishRoundTrip
import CircleStdlib.ExactlyOnce

/-!
Which PUBLISH packets get to `OnMessage`. The grammar of a PUBLISH is stated on its own, and
compared with what a round of `Receiver` does with a packet that is complete in the buffer.
The code decides in three places, and differs at two kinds of packets: those that end inside
the identifier, and those with a NUL in the topic. Should the size of the topic buffer wrap,
it has no room for topics that are not too long.
-/

namespace CircleStdlib.Mqtt.PublishAcceptance

open Checked CText Execution ExactlyOnce

inductive IdentifierField : UInt8 → UInt16 → List UInt8 → Prop where
  | absent : IdentifierField 0 0 []
  | present (uchQoS high low : UInt8) (asked : 0 < uchQoS) (some : word high low ≠ 0) :
      IdentifierField uchQoS (word high low) [high, low]

structure Form (first : Packet) (topic : List UInt8) (usPacketIdentifier : UInt16)
    (payload : List UInt8) : Prop where
  qos : first.qos ≤ 2
  nonempty : topic ≠ []
  text : ∀ char ∈ topic, char ≠ 0 ∧ char.toNat < 128
  body : ∃ high low field, (word high low).toNat = topic.length ∧
    IdentifierField first.qos usPacketIdentifier field ∧
    first.body = high :: low :: (topic ++ (field ++ payload))

def messages (log : List Event) : List Message :=
  log.filterMap fun event =>
    match event with
    | .onMessage message => some message
    | _ => none

/-- A round that finds the packet calls `OnMessage` with the parts of a well-formed one, unless
it repeats an exchange of QoS 2 that is under way, and closes the connection otherwise. -/
structure ByGrammar (config : Config) (client : Client) (input : ReceiveInput config.toPlatform)
    (first : Packet) : Prop where
  delivered : ∀ topic usPacketIdentifier payload,
    Form first topic usPacketIdentifier payload →
      ∃ next, client.receiverPass config input = .ok (true, next) ∧
        messages next.log = messages client.log ++
          if first.qos = 2 ∧ usPacketIdentifier ∈ client.packetIdentifierStore then []
          else [⟨topic, some payload, payload.length, retainOfFlags first.flags⟩]
  refused : (∀ topic usPacketIdentifier payload, ¬ Form first topic usPacketIdentifier payload) →
    ∃ more next, client.receiverPass config input = .ok (more, next) ∧
      messages next.log = messages client.log ∧ next.socket = false

def topicLength : List UInt8 → Nat
  | high :: low :: _ => (word high low).toNat
  | _ => 0

def NulTopic (limit : Nat) (first : Packet) : Prop :=
  first.Accepted ∧ ∃ topic tail, takeTopic limit first.body = some (topic, tail) ∧ 0 ∈ topic ∧
    (0 < first.qos → ∃ high low payload, tail = high :: low :: payload ∧ word high low ≠ 0)

/-- A well-formed packet with news, whose topic is not too long for the client but for the
buffer that it has for topics. -/
def Crowded (config : Config) (client : Client) (first : Packet) : Prop :=
  topicLength first.body ≤ config.maxTopicSize ∧ config.topicLimit < topicLength first.body ∧
    ∃ topic usPacketIdentifier payload, Form first topic usPacketIdentifier payload ∧
      ¬ (first.qos = 2 ∧ usPacketIdentifier ∈ client.packetIdentifierStore)

def Acknowledged (limit : Nat) (first : Packet) (input : SendInput) : Prop :=
  ∀ usPacketIdentifier message,
    publishRead limit first.flags first.body = some (.arrived usPacketIdentifier message) →
      (first.qos = 1 → Client.Takes .pubAck usPacketIdentifier input) ∧
      (first.qos = 2 → Client.Takes .pubRec usPacketIdentifier input)

theorem messages_append (log more : List Event) :
    messages (log ++ more) = messages log ++ messages more := List.filterMap_append

section Packets
variable (limit : Nat) (first : Packet)

theorem form_takeTopic (topic payload : List UInt8) (usPacketIdentifier : UInt16)
    (form : Form first topic usPacketIdentifier payload)
    (short : topicLength first.body ≤ limit) :
    ∃ field, IdentifierField first.qos usPacketIdentifier field ∧
      takeTopic limit first.body = some (topic, field ++ payload) := by
  obtain ⟨high, low, field, size, numbered, body⟩ := form.body
  refine ⟨field, numbered, ?_⟩
  have some := List.length_pos_iff.mpr form.nonempty
  rw [body] at short ⊢
  simp only [topicLength] at short
  simp only [takeTopic, size, List.take_left, List.drop_left, List.length_append]
  rw [if_pos ⟨some, by omega, by omega, fun char member => (form.text char member).2⟩]

theorem takeTopic_long (long : limit < topicLength first.body) :
    takeTopic limit first.body = none := by
  unfold takeTopic
  split
  · rename_i high low tail body
    rw [body, topicLength] at long
    exact if_neg fun fits => absurd fits.2.1 (Nat.not_le_of_lt long)
  · rfl

/-- The topic that is taken is the one that a well-formed packet has. -/
theorem form_taken (topic other tail payload : List UInt8) (usPacketIdentifier : UInt16)
    (form : Form first other usPacketIdentifier payload)
    (taken : takeTopic limit first.body = some (topic, tail)) :
    topicLength first.body ≤ limit ∧ topic = other := by
  have short : topicLength first.body ≤ limit := by
    by_contra long
    cases taken.symm.trans (takeTopic_long limit first (Nat.lt_of_not_le long))
  obtain ⟨field, -, again⟩ := form_takeTopic limit first other payload usPacketIdentifier form short
  cases taken.symm.trans again
  exact ⟨short, rfl⟩

theorem form_read (topic payload : List UInt8) (usPacketIdentifier : UInt16)
    (form : Form first topic usPacketIdentifier payload)
    (short : topicLength first.body ≤ limit) :
    publishRead limit first.flags first.body = some (.arrived usPacketIdentifier
      ⟨topic, some payload, payload.length, retainOfFlags first.flags⟩) := by
  obtain ⟨field, numbered, taken⟩ := form_takeTopic limit first topic payload _ form short
  have clean : cstr topic = topic := cstr_clean topic fun zero => (form.text 0 zero).1 rfl
  have same : qosOfFlags first.flags = first.qos := rfl
  simp only [publishRead, taken, clean, same]
  generalize first.qos = uchQoS at numbered
  cases numbered with
  | absent => rfl
  | present _ high low asked some =>
      rw [if_pos asked]
      simp only [List.cons_append, List.nil_append, some, ↓reduceIte]

theorem form_accepted (topic payload : List UInt8) (usPacketIdentifier : UInt16)
    (form : Form first topic usPacketIdentifier payload) (publish : first.type = .publish) :
    first.Accepted := by
  obtain ⟨high, low, field, -, numbered, body⟩ := form.body
  have some := List.length_pos_iff.mpr form.nonempty
  have valid : qosOfFlags first.flags ≤ 2 := form.qos
  have enough : (if qosOfFlags first.flags = 0 then 3 else 5) ≤ first.body.length := by
    rw [body]
    simp only [List.length_cons, List.length_append]
    have same : qosOfFlags first.flags = first.qos := rfl
    rw [same]
    generalize first.qos = uchQoS at numbered
    cases numbered with
    | absent =>
        rw [if_pos rfl]
        omega
    | present _ idHigh idLow =>
        simp only [List.length_cons, List.length_nil]
        split <;> omega
  simp only [Packet.Accepted, ReceivePacket.wellFormed, publish, valid, enough, and_self,
    decide_true]

/-- A topic that is taken, without a NUL, makes a well-formed packet of what is read. -/
theorem form_of_read (topic tail : List UInt8) (usPacketIdentifier : UInt16) (message : Message)
    (qos : first.qos ≤ 2) (taken : takeTopic limit first.body = some (topic, tail))
    (clean : 0 ∉ topic)
    (read : publishRead limit first.flags first.body =
      some (.arrived usPacketIdentifier message)) :
    ∃ payload, Form first topic usPacketIdentifier payload := by
  obtain ⟨high, low, body, size, nonempty, -, plain⟩ :=
    ReceivePacket.takeTopic_split limit first.body topic tail taken
  have text : ∀ char ∈ topic, char ≠ 0 ∧ char.toNat < 128 :=
    fun char member => ⟨fun zero => clean (zero ▸ member), plain char member⟩
  have same : qosOfFlags first.flags = first.qos := rfl
  simp only [publishRead, taken, same] at read
  split at read
  case isTrue asked =>
    split at read
    · rename_i idHigh idLow payload
      split at read
      · cases read
      · rename_i some
        cases read
        exact ⟨payload, qos, nonempty, text, high, low, [idHigh, idLow], size.symm,
          .present first.qos idHigh idLow asked some, body⟩
    · cases read
  case isFalse unasked =>
    cases read
    have zero : first.qos = 0 := by
      by_contra some
      exact unasked (UInt8.pos_iff_ne_zero.mpr some)
    refine ⟨tail, qos, nonempty, text, high, low, [], size.symm, ?_, body⟩
    rw [zero]
    exact .absent

/-- What is read as a message has a topic, and an identifier where the QoS calls for one. -/
theorem arrived_iff :
    (∃ usPacketIdentifier message, publishRead limit first.flags first.body =
      some (.arrived usPacketIdentifier message)) ↔
    ∃ topic tail, takeTopic limit first.body = some (topic, tail) ∧
      (0 < first.qos →
        ∃ high low payload, tail = high :: low :: payload ∧ word high low ≠ 0) := by
  have same : qosOfFlags first.flags = first.qos := rfl
  unfold publishRead
  rw [same]
  constructor
  · rintro ⟨usPacketIdentifier, message, read⟩
    split at read
    · cases read
    · rename_i topic tail taken
      refine ⟨topic, tail, taken, fun asked => ?_⟩
      rw [if_pos asked] at read
      split at read
      · rename_i high low payload
        split at read
        · cases read
        · exact ⟨high, low, payload, rfl, by assumption⟩
      · cases read
  · rintro ⟨topic, tail, taken, numbered⟩
    rw [taken]
    dsimp only
    split
    case isTrue asked =>
      obtain ⟨high, low, payload, rfl, some⟩ := numbered asked
      simp only [some, ↓reduceIte]
      exact ⟨_, _, rfl⟩
    case isFalse => exact ⟨_, _, rfl⟩

end Packets

section Rounds
variable (config : Config) (client : Client) (input : ReceiveInput config.toPlatform)

def answered (uchQoS : UInt8) (usPacketIdentifier : UInt16) : List Event :=
  if uchQoS = 0 then []
  else if uchQoS = 1 then [.sent (Client.acknowledgement .pubAck usPacketIdentifier) true]
  else [.sent (Client.acknowledgement .pubRec usPacketIdentifier) true]

theorem messages_answered (uchQoS : UInt8) (usPacketIdentifier : UInt16) :
    messages (answered uchQoS usPacketIdentifier) = [] := by
  unfold answered
  split
  · rfl
  · split <;> rfl

-- the three ways of the PUBLISH branch, when the acknowledgement is sent
theorem respondMessage_delivers (uchQoS : UInt8) (usPacketIdentifier : UInt16)
    (message : Message) (send : SendInput) (linked : client.Linked)
    (online : client.status ≠ .disconnected) (valid : uchQoS ≤ 2)
    (once : uchQoS = 1 → Client.Takes .pubAck usPacketIdentifier send)
    (twice : uchQoS = 2 → Client.Takes .pubRec usPacketIdentifier send) :
    ∃ next, client.respondMessage config.toPlatform uchQoS usPacketIdentifier message send =
        .ok next ∧ next.status = client.status ∧
      next.log = client.log ++ (answered uchQoS usPacketIdentifier ++
        if uchQoS = 2 ∧ usPacketIdentifier ∈ client.packetIdentifierStore then []
        else [.onMessage message]) := by
  rcases qos_values uchQoS valid with rfl | rfl | rfl
  · exact ⟨client.record (.onMessage message), rfl, rfl, rfl⟩
  · obtain ⟨middle, answer, -, status, accepted, -⟩ := client.answer_outcome config.toPlatform
      .pubAck usPacketIdentifier send linked online rfl
    have takes := once rfl
    refine ⟨middle.record (.onMessage message), ?_, status, ?_⟩
    · have other : ¬ (1 : UInt8) = 0 := by decide
      simp only [Client.respondMessage, other, ↓reduceIte, answer, ok_bind, takes, decide_true]
      rfl
    · have log := accepted takes
      simp [Client.record, log, answered]
  · obtain ⟨next, done, received, -⟩ := respondMessage_receives config.toPlatform client
      usPacketIdentifier message send linked online
    have receives := received (twice rfl)
    refine ⟨next, done, receives.status, ?_⟩
    rw [receives.log]
    simp [answered]

theorem close_silent (reason : DisconnectReason) (linked : client.Linked) :
    ∃ next, client.closeConnection reason = .ok next ∧ next.socket = false ∧
      messages next.log = messages client.log := by
  obtain ⟨next, done, shut⟩ := client.close_shut reason linked
  refine ⟨next, done, shut, ?_⟩
  rcases client.closeConnection_cases next reason done with ⟨-, rfl⟩ | ⟨-, -, rfl⟩
  · rfl
  · simp [Client.closed, messages]

variable (first : Packet) (rest : List UInt8) (sound : Sound config client)
  (there : client.front config input = some (first, rest)) (publish : first.type = .publish)

include sound there

theorem round_refused (refused : ¬ first.Accepted) :
    ∃ more next, client.receiverPass config input = .ok (more, next) ∧
      messages next.log = messages client.log ∧ next.socket = false := by
  have round := Client.receiverPass_round config client input sound
  generalize client.receiverPass config input = outcome at round
  cases round with
  | idle closed => simp [Client.front, Client.arrival, closed] at there
  | unread open_ nothing => simp [Client.front, nothing] at there
  | waiting stream packet open_ arrived unfinished =>
      simp [Client.front, arrived, unfinished] at there
  | rejected stream packet open_ arrived invalid =>
      obtain ⟨next, done, shut, silent⟩ := close_silent client .invalidPacket sound.linked
      rw [done]
      exact ⟨false, next.withPacket packet, rfl, silent, shut⟩
  | dispatched stream other tail packet open_ arrived whole accepted =>
      rw [Client.front, arrived] at there
      cases Option.some.inj (whole.symm.trans there)
      exact absurd accepted refused

include publish

/-- What a round makes of a packet that `Receive` accepts. -/
theorem round_publish (accepted : first.Accepted) :
    client.status ≠ .disconnected ∧ ∃ packet, client.receiverPass config input =
      (client.respondPublish config first input.send).map
        fun next => (true, next.withPacket packet) := by
  obtain ⟨online, packet, pass⟩ :=
    receiver_responds config client input first rest sound there accepted
  refine ⟨online, packet, ?_⟩
  rw [pass, Client.respond, publish]

theorem round_cut (accepted : first.Accepted)
    (cut : publishRead config.topicLimit first.flags first.body = none) :
    client.receiverPass config input = .error .consumedBeyondPacket := by
  obtain ⟨-, packet, pass⟩ := round_publish config client input first rest sound there publish
    accepted
  rw [pass, Client.respondPublish, cut]
  rfl

theorem round_closes (accepted : first.Accepted) (reason : DisconnectReason)
    (refused : publishRead config.topicLimit first.flags first.body =
      some (.refused reason)) :
    ∃ next, client.receiverPass config input = .ok (true, next) ∧
      messages next.log = messages client.log ∧ next.socket = false := by
  obtain ⟨-, packet, pass⟩ := round_publish config client input first rest sound there publish
    accepted
  obtain ⟨next, done, shut, silent⟩ := close_silent client reason sound.linked
  refine ⟨next.withPacket packet, ?_, silent, shut⟩
  rw [pass, Client.respondPublish, refused]
  simp only [done]
  rfl

theorem round_long (accepted : first.Accepted)
    (long : config.topicLimit < topicLength first.body) :
    ∃ next, client.receiverPass config input = .ok (true, next) ∧
      messages next.log = messages client.log ∧ next.socket = false := by
  have refused : publishRead config.topicLimit first.flags first.body =
      some (.refused .notSupported) := by
    rw [publishRead, takeTopic_long config.topicLimit first long]
  exact round_closes config client input first rest sound there publish accepted _ refused

theorem round_delivers (accepted : first.Accepted) (usPacketIdentifier : UInt16)
    (message : Message)
    (read : publishRead config.topicLimit first.flags first.body =
      some (.arrived usPacketIdentifier message))
    (acknowledged : Acknowledged config.topicLimit first input.send) :
    ∃ next, client.receiverPass config input = .ok (true, next) ∧
      next.status ≠ .disconnected ∧
      messages next.log = messages client.log ++
        if first.qos = 2 ∧ usPacketIdentifier ∈ client.packetIdentifierStore then []
        else [message] := by
  obtain ⟨online, packet, pass⟩ := round_publish config client input first rest sound there
    publish accepted
  obtain ⟨once, twice⟩ := acknowledged usPacketIdentifier message read
  obtain ⟨next, done, status, log⟩ := respondMessage_delivers config client first.qos
    usPacketIdentifier message input.send sound.linked online
    (accepted_publish first accepted publish).1 once twice
  refine ⟨next.withPacket packet, ?_, ?_, ?_⟩
  · rw [pass, Client.respondPublish, read]
    simp only [done]
    rfl
  · intro offline
    exact online (status.symm.trans offline)
  · have same : (next.withPacket packet).log = next.log := rfl
    rw [same, log, messages_append, messages_append, messages_answered]
    split <;> rfl

theorem byGrammar_of_clear (allowed : topicLength first.body ≤ config.maxTopicSize)
    (acknowledged : Acknowledged config.topicLimit first input.send)
    (whole : ¬ CutIdentifier config.topicLimit first)
    (clean : ¬ NulTopic config.topicLimit first) (roomy : ¬ Crowded config client first) :
    ByGrammar config client input first := by
  constructor
  · intro topic usPacketIdentifier payload form
    have accepted := form_accepted first topic payload usPacketIdentifier form publish
    rcases Nat.lt_or_ge config.topicLimit (topicLength first.body) with long | short
    · -- nothing is delivered, which is right of a duplicate only
      obtain ⟨next, pass, silent, -⟩ := round_long config client input first rest sound there
        publish accepted long
      have again : first.qos = 2 ∧ usPacketIdentifier ∈ client.packetIdentifierStore := by
        by_contra news
        exact roomy ⟨allowed, long, topic, usPacketIdentifier, payload, form, news⟩
      refine ⟨next, pass, ?_⟩
      rw [if_pos again, silent, List.append_nil]
    · have read := form_read config.topicLimit first topic payload usPacketIdentifier form short
      obtain ⟨next, pass, -, delivered⟩ := round_delivers config client input first rest sound
        there publish accepted usPacketIdentifier _ read acknowledged
      exact ⟨next, pass, delivered⟩
  · intro formless
    by_cases accepted : first.Accepted
    · cases read : publishRead config.topicLimit first.flags first.body with
      | none => exact absurd ((cutIdentifier_iff _ first accepted publish).mpr read) whole
      | some found =>
          cases found with
          | refused reason =>
              obtain ⟨next, pass, silent, shut⟩ := round_closes config client input first rest
                sound there publish accepted reason read
              exact ⟨true, next, pass, silent, shut⟩
          | arrived usPacketIdentifier message =>
              -- what is read has a topic, and without a NUL it would be well-formed
              obtain ⟨topic, tail, taken, numbered⟩ :=
                (arrived_iff config.topicLimit first).mp ⟨usPacketIdentifier, message, read⟩
              have text : 0 ∉ topic :=
                fun zero => clean ⟨accepted, topic, tail, taken, zero, numbered⟩
              obtain ⟨payload, form⟩ := form_of_read config.topicLimit first topic tail
                usPacketIdentifier message (accepted_publish first accepted publish).1 taken text
                read
              exact absurd form (formless topic usPacketIdentifier payload)
    · exact round_refused config client input first rest sound there accepted

/-- A cut identifier stops the round at an assertion. -/
theorem uncut_of_byGrammar (grammar : ByGrammar config client input first) :
    ¬ CutIdentifier config.topicLimit first := by
  intro cut
  have accepted := cut.2.1
  have unread := (cutIdentifier_iff _ first accepted publish).mp cut
  have fails := round_cut config client input first rest sound there publish accepted unread
  obtain ⟨-, -, -, topic, tail, taken, -⟩ := cut
  have formless : ∀ topic usPacketIdentifier payload,
      ¬ Form first topic usPacketIdentifier payload := by
    intro other usPacketIdentifier payload form
    have short := (form_taken config.topicLimit first topic other tail payload usPacketIdentifier form
      taken).1
    have read := form_read config.topicLimit first other payload usPacketIdentifier form short
    rw [unread] at read
    cases read
  obtain ⟨more, next, pass, -⟩ := grammar.refused formless
  rw [fails] at pass
  cases pass

/-- A topic with a NUL leaves the connection open. -/
theorem clean_of_byGrammar (acknowledged : Acknowledged config.topicLimit first input.send)
    (grammar : ByGrammar config client input first) : ¬ NulTopic config.topicLimit first := by
  rintro ⟨accepted, topic, tail, taken, zero, numbered⟩
  obtain ⟨usPacketIdentifier, message, read⟩ :=
    (arrived_iff config.topicLimit first).mpr ⟨topic, tail, taken, numbered⟩
  obtain ⟨next, pass, online, -⟩ := round_delivers config client input first rest sound there
    publish accepted usPacketIdentifier message read acknowledged
  have formless : ∀ topic usPacketIdentifier payload,
      ¬ Form first topic usPacketIdentifier payload := by
    intro other identifier payload form
    cases (form_taken config.topicLimit first topic other tail payload identifier form taken).2
    exact (form.text 0 zero).1 rfl
  obtain ⟨more, closed, again, -, shut⟩ := grammar.refused formless
  cases pass.symm.trans again
  have after : Sound config next := perform_sound config client next (.receiver input) sound
    (by simp [perform, pass])
  rw [after.linked.mpr online] at shut
  cases shut

/-- A message that has no room is not delivered. -/
theorem roomy_of_byGrammar (grammar : ByGrammar config client input first) :
    ¬ Crowded config client first := by
  rintro ⟨-, long, topic, usPacketIdentifier, payload, form, news⟩
  have accepted := form_accepted first topic payload usPacketIdentifier form publish
  obtain ⟨next, pass, silent, -⟩ := round_long config client input first rest sound there publish
    accepted long
  obtain ⟨other, again, delivered⟩ := grammar.delivered topic usPacketIdentifier payload form
  cases pass.symm.trans again
  rw [if_neg news, silent] at delivered
  have longer := congrArg List.length delivered
  simp at longer

end Rounds

/-- For every PUBLISH that is complete in the buffer of a client in any state it can reach,
with a topic that is not too long and an acknowledgement that can be sent: it is treated as
the grammar says exactly when it does not end inside the identifier that its QoS calls for,
is not taken with a NUL in its topic, and is no message that the topic buffer cannot take. -/
theorem publish_byGrammar_iff (config : Config) (client last : Client)
    (operations : List (Operation config.toPlatform)) (constructed : Constructed config client)
    (reached : run (step config) (.running client) operations = some (.running last))
    (input : ReceiveInput config.toPlatform) (first : Packet) (rest : List UInt8)
    (there : last.front config input = some (first, rest)) (publish : first.type = .publish)
    (short : topicLength first.body ≤ config.maxTopicSize)
    (acknowledged : Acknowledged config.topicLimit first input.send) :
    ByGrammar config last input first ↔
      ¬ CutIdentifier config.topicLimit first ∧ ¬ NulTopic config.topicLimit first ∧
        ¬ Crowded config last first := by
  have sound := reached_sound config client last operations constructed reached
  constructor
  · intro grammar
    exact ⟨uncut_of_byGrammar config last input first rest sound there publish grammar,
      clean_of_byGrammar config last input first rest sound there publish acknowledged grammar,
      roomy_of_byGrammar config last input first rest sound there publish grammar⟩
  · rintro ⟨whole, clean, roomy⟩
    exact byGrammar_of_clear config last input first rest sound there publish short acknowledged
      whole clean roomy

def plainPublish : Packet := ⟨0x30, [0, 1, 97, 98]⟩

theorem plainPublish_short :
    ([0x30, 4, 0, 1, 97, 98] : List UInt8).length ≤ Config.default.frameBufferSize := by decide

def nulPublish : Packet := ⟨0x30, [0, 2, 97, 0, 98]⟩

theorem nulPublish_short :
    ([0x30, 5, 0, 2, 97, 0, 98] : List UInt8).length ≤ Config.default.frameBufferSize := by decide

theorem plain_acknowledged (first : Packet) (send : SendInput) (unasked : first.qos = 0) :
    Acknowledged 256 first send := by
  intro usPacketIdentifier message _
  rw [unasked]
  exact ⟨fun once => absurd once (by decide), fun twice => absurd twice (by decide)⟩

theorem plainPublish_byGrammar :
    ∃ last, run (step Config.default) (.running (Client.fresh Config.default))
        PublishRoundTrip.connected = some (.running last) ∧
      ByGrammar Config.default last (delivers [0x30, 4, 0, 1, 97, 98] plainPublish_short)
        plainPublish := by
  have uncut : ¬ CutIdentifier 256 plainPublish := fun cut => absurd cut.2.2.1 (by decide)
  have clean : ¬ NulTopic 256 plainPublish := by
    rintro ⟨-, topic, tail, taken, zero, -⟩
    have same : takeTopic 256 plainPublish.body = some ([97], [98]) := by decide +kernel
    cases same.symm.trans taken
    exact absurd zero (by decide)
  exact ⟨_, rfl, (publish_byGrammar_iff Config.default (Client.fresh Config.default) _
    PublishRoundTrip.connected (fresh_constructed Config.default) rfl
    (delivers [0x30, 4, 0, 1, 97, 98] plainPublish_short) plainPublish [] rfl (by decide)
    (by decide) (plain_acknowledged plainPublish _ (by decide))).mpr
    ⟨uncut, clean, fun crowded => absurd crowded.2.1 (by decide)⟩⟩

-- `OnMessage` gets the topic `a` of a packet whose topic is not well-formed
theorem nulPublish_delivered :
    ∃ last next, run (step Config.default) (.running (Client.fresh Config.default))
        PublishRoundTrip.connected = some (.running last) ∧
      last.receiverPass Config.default (delivers [0x30, 5, 0, 2, 97, 0, 98] nulPublish_short) =
        .ok (true, next) ∧
      next.log = last.log ++ [.onMessage ⟨[97], some [98], 1, false⟩] ∧
      ¬ ByGrammar Config.default last (delivers [0x30, 5, 0, 2, 97, 0, 98] nulPublish_short)
        nulPublish := by
  refine ⟨_, _, rfl, rfl, rfl, fun grammar => ?_⟩
  have sound := reached_sound Config.default (Client.fresh Config.default) _
    PublishRoundTrip.connected (fresh_constructed Config.default) rfl
  have nul : NulTopic 256 nulPublish :=
    ⟨by decide, [97, 0], [98], by decide +kernel, by decide, fun asked => absurd asked (by decide)⟩
  exact clean_of_byGrammar Config.default _ _ nulPublish [] sound rfl (by decide)
    (plain_acknowledged nulPublish _ (by decide)) grammar nul

end CircleStdlib.Mqtt.PublishAcceptance
