import CircleStdlib.Execution
import CircleStdlib.MqttClient

/-!
The three functions that the loop of the `CMQTTClient` task calls, and the
client as a machine. `Receiver` is its loop: one round is `receiverPass`, which
also answers whether the loop goes on. A step of the machine is one public
operation, one round of `Receiver`, or one call of `Sender` or
`KeepAliveHandler`; the order is up to the run.
-/

namespace CircleStdlib.Mqtt

open Checked CText

inductive PublishRead where
  | refused (reason : DisconnectReason)
  | arrived (usPacketIdentifier : UInt16) (message : Message)
  deriving DecidableEq, Repr

namespace ReceivePacket

-- The PUBLISH branch up to `GetData`. The word is read in front of the test
-- on `nPayloadLength`.
def readPublish (packet : ReceivePacket) (nTopicBufferSize : Nat) :
    Except Fault (PublishRead × ReceivePacket) := do
  let (topic, packet) ← packet.getString nTopicBufferSize
  if topic = [] then return (.refused .notSupported, packet)
  let nPayloadLength := packet.remainingLength - (topic.length + 2)
  if qosOfFlags packet.flags > 0 then
    let (usPacketIdentifier, packet) ← packet.getWord
    if usPacketIdentifier = 0 ∨ nPayloadLength < 2 then
      return (.refused .invalidPacket, packet)
    let (payload, packet) ← packet.getData (nPayloadLength - 2)
    return (.arrived usPacketIdentifier
      ⟨cstr topic, payload, nPayloadLength - 2, retainOfFlags packet.flags⟩, packet)
  else
    let (payload, packet) ← packet.getData nPayloadLength
    return (.arrived 0 ⟨cstr topic, payload, nPayloadLength, retainOfFlags packet.flags⟩, packet)

end ReceivePacket

namespace Client

def withPacket (client : Client) (packet : ReceivePacket) : Client :=
  { client with receivePacket := packet }

def completePacket (client : Client) : Except Fault Client := do
  let packet ← client.receivePacket.complete
  return client.withPacket packet

def takeIdentifier (client : Client) : Except Fault (UInt16 × Client) := do
  let (usPacketIdentifier, packet) ← client.receivePacket.getWord
  let client ← (client.withPacket packet).completePacket
  return (usPacketIdentifier, client)

def answer (platform : Platform) (client : Client) (type : PacketType)
    (usPacketIdentifier : UInt16) (input : SendInput) : Except Fault (Bool × Client) := do
  let packet ← (SendPacket.create type 128 input.memory).appendWord usPacketIdentifier
  let (sent, _, client) ← client.sendPacket platform packet input
  return (sent, client)

def handleConnAck (client : Client) : Except Fault Client := do
  let (uchConnAckFlags, packet) ← client.receivePacket.getByte
  let (uchReturnCode, packet) ← packet.getByte
  let client ← (client.withPacket packet).completePacket
  if client.status ≠ .connectPending then client.closeConnection .invalidPacket
  else if uchReturnCode = 0 then
    return { client with status := .connected }.record
      (.onConnect (uchConnAckFlags &&& connackFlagSP != 0))
  else client.closeConnection (DisconnectReason.ofReturnCode uchReturnCode)

-- The three ways of the PUBLISH branch behind `GetData`. A QoS of 3 would take
-- none of them; `Receive` lets no such packet pass.
def deliver (platform : Platform) (client : Client) (uchQoS : UInt8) (usPacketIdentifier : UInt16)
    (message : Message) (input : SendInput) : Except Fault Client := do
  if uchQoS = 0 then (client.record (.onMessage message)).completePacket
  else if uchQoS = 1 then
    let (sent, client) ← client.answer platform .pubAck usPacketIdentifier input
    if sent then (client.record (.onMessage message)).completePacket
    else
      let client ← client.completePacket
      client.closeConnection .sendFailed
  else if uchQoS = 2 then
    let (sent, client) ← client.answer platform .pubRec usPacketIdentifier input
    if sent then
      if client.isPacketIdentifierInStore usPacketIdentifier then client.completePacket
      else
        let client := client.insertPacketIdentifierIntoStore usPacketIdentifier
        (client.record (.onMessage message)).completePacket
    else
      let client ← client.completePacket
      client.closeConnection .sendFailed
  else return client

def handlePublish (config : Config) (client : Client) (input : SendInput) :
    Except Fault Client := do
  let uchQoS := qosOfFlags client.receivePacket.flags
  let (read, packet) ← client.receivePacket.readPublish config.topicBufferSize
  let client := client.withPacket packet
  match read with
  | .refused reason => client.closeConnection reason
  | .arrived usPacketIdentifier message =>
      client.deliver config.toPlatform uchQoS usPacketIdentifier message input

def release (client : Client) (usPacketIdentifier : UInt16) (uchQoS : UInt8) :
    Except Fault Client :=
  let (found, client) := client.removePacketFromQueue usPacketIdentifier
  match found with
  | none => client.closeConnection .packetIdentifier
  | some packet =>
      if packet.qos ≠ uchQoS then client.closeConnection .packetIdentifier else .ok client

def acknowledged (client : Client) (uchQoS : UInt8) : Except Fault Client := do
  let (usPacketIdentifier, client) ← client.takeIdentifier
  client.release usPacketIdentifier uchQoS

def handlePubAck (client : Client) : Except Fault Client := client.acknowledged 1

def handlePubRec (platform : Platform) (client : Client) (input : SendInput) :
    Except Fault Client := do
  let (usPacketIdentifier, client) ← client.takeIdentifier
  let (found, client) := client.removePacketFromQueue usPacketIdentifier
  match found with
  | none => client.closeConnection .packetIdentifier
  | some packet =>
      if packet.qos ≠ 2 then client.closeConnection .packetIdentifier
      else
        let packet ← (SendPacket.create .pubRel 128 input.memory).appendWord usPacketIdentifier
        client.sendAndQueue platform packet 2 usPacketIdentifier input

def handlePubRel (platform : Platform) (client : Client) (input : SendInput) :
    Except Fault Client := do
  let (usPacketIdentifier, client) ← client.takeIdentifier
  if usPacketIdentifier = 0 then client.closeConnection .invalidPacket
  else
    let (sent, client) ← client.answer platform .pubComp usPacketIdentifier input
    if sent then return client.removePacketIdentifierFromStore usPacketIdentifier
    else client.closeConnection .sendFailed

def handlePubComp (client : Client) : Except Fault Client := client.acknowledged 2

-- Only the first return code of a SUBACK is read.
def handleSubAck (client : Client) : Except Fault Client := do
  let (usPacketIdentifier, packet) ← client.receivePacket.getWord
  let (uchReturnCode, packet) ← packet.getByte
  let client ← (client.withPacket packet).completePacket
  if uchReturnCode > 2 then client.closeConnection .subscribeError
  else client.release usPacketIdentifier 1

def handleUnsubAck (client : Client) : Except Fault Client := client.acknowledged 1

def handlePingResp (platform : Platform) (client : Client) (ticks : UInt32) :
    Except Fault Client := do
  let client ← client.completePacket
  let client := { client with status := .connected }
  if client.keepAliveSeconds > 0 then
    return client.startTimer (ticks + client.keepAliveSeconds * platform.hz)
  else return client

def handlePacket (config : Config) (client : Client) (input : SendInput) : Except Fault Client :=
  match client.receivePacket.type with
  | .connAck => client.handleConnAck
  | .publish => client.handlePublish config input
  | .pubAck => client.handlePubAck
  | .pubRec => client.handlePubRec config.toPlatform input
  | .pubRel => client.handlePubRel config.toPlatform input
  | .pubComp => client.handlePubComp
  | .subAck => client.handleSubAck
  | .unsubAck => client.handleUnsubAck
  | .pingResp => client.handlePingResp config.toPlatform input.timerTicks
  | _ => .error .unexpectedType

end Client

/-- One round of `Receiver`: the socket returns at most `FRAME_BUFFER_SIZE` bytes,
or a negative result. -/
structure ReceiveInput (platform : Platform) where
  read : Option { bytes : List UInt8 // bytes.length ≤ platform.frameBufferSize }
  send : SendInput

def ReceiveInput.bytes {platform : Platform} (input : ReceiveInput platform) :
    Option (List UInt8) :=
  input.read.map Subtype.val

namespace Client

def receiverPass (config : Config) (client : Client) (input : ReceiveInput config.toPlatform) :
    Except Fault (Bool × Client) :=
  if client.socket = false then .ok (false, client)
  else do
    let (status, packet) ← client.receivePacket.receive config.toPlatform input.bytes
    let client := client.withPacket packet
    match status with
    | .continue => return (false, client)
    | .packetInvalid => return (false, ← client.closeConnection .invalidPacket)
    | .disconnect => return (false, ← client.closeConnection .fromPeer)
    | .notEnoughMemory => return (false, ← client.closeConnection .insufficientResources)
    | .packetOK => return (true, ← client.handlePacket config input.send)

def withQueue (client : Client) (queue : List SendPacket) : Client :=
  { client with retransmissionQueue := queue }

def stopTimer (client : Client) : Client := { client with timerRunning := false }

-- `m_RetransmissionQueue` in `Sender`: `passed` stands in front of `pElement`,
-- `ahead` from there on. A packet inserted directly in front of `pElement` is passed.
def reinsert (packet : SendPacket) (passed ahead : List SendPacket) :
    List SendPacket × List SendPacket :=
  if passed.any fun other => later other.scheduledTime packet.scheduledTime then
    (insertByTime packet passed, ahead)
  else
    match ahead with
    | [] => (passed ++ [packet], [])
    | other :: rest =>
        if later other.scheduledTime packet.scheduledTime then (passed ++ [packet], ahead)
        else (passed, other :: insertByTime packet rest)

def markRepeated (packet : SendPacket) : Except Fault SendPacket :=
  if packet.type = .publish then packet.setFlags (packet.flags ||| flagDup) else .ok packet

-- The loop of `Sender`, one input for each retransmission. `none` means that
-- there are not enough of them; then nothing is known about the call.
def senderLoop (platform : Platform) (nTicks : UInt32) (client : Client)
    (passed ahead : List SendPacket) (inputs : List SendInput) : Except Fault (Option Client) :=
  match ahead with
  | [] => .ok (some (client.withQueue passed))
  | packet :: rest =>
      if later packet.scheduledTime nTicks then
        .ok (some (client.withQueue (passed ++ ahead)))
      else
        match inputs with
        | [] => .ok none
        | input :: inputs => do
            let client := client.withQueue (passed ++ rest)
            let packet ← markRepeated packet
            let (sent, packet, client) ← client.sendPacket platform packet input
            if sent then
              let (passed, ahead) := reinsert
                { packet with scheduledTime := input.queueTicks + platform.resendTimeout }
                passed rest
              senderLoop platform nTicks client passed ahead inputs
            else return some (← client.closeConnection .sendFailed)

def sender (platform : Platform) (client : Client) (nTicks : UInt32) (inputs : List SendInput) :
    Except Fault (Option Client) :=
  client.senderLoop platform nTicks [] client.retransmissionQueue inputs

def keepAliveHandler (platform : Platform) (client : Client) (ticks : UInt32)
    (input : SendInput) : Except Fault Client :=
  if client.timerRunning ∧ ¬ later client.timerElapsesAt ticks then do
    let client := client.stopTimer
    if client.status = .connected then
      let packet := SendPacket.create .pingReq 128 input.memory
      let (sent, _, client) ← client.sendPacket platform packet input
      if sent then return client else client.closeConnection .sendFailed
    else
      require (client.status = .waitForPingResp) .notWaitingForPing
      client.closeConnection .pingFailed
  else .ok client

-- The whole loop of `Receiver`, one input for each round. `none` means that there
-- are not enough of them, as for `Sender`.
def receiver (config : Config) (client : Client) :
    List (ReceiveInput config.toPlatform) → Except Fault (Option Client)
  | [] => .ok none
  | input :: inputs => do
      let (more, client) ← client.receiverPass config input
      if more then receiver config client inputs else return some client

end Client

structure RunInput (platform : Platform) where
  reads : List (ReceiveInput platform)
  nTicks : UInt32
  sends : List SendInput
  ticks : UInt32
  ping : SendInput

namespace Client

-- One iteration of the loop in `Run`. The status is tested once, at its beginning.
def runPass (config : Config) (client : Client) (input : RunInput config.toPlatform) :
    Except Fault (Option Client) :=
  if client.status ≠ .disconnected then do
    let some client ← client.receiver config input.reads | return none
    let some client ← client.sender config.toPlatform input.nTicks input.sends | return none
    return some (← client.keepAliveHandler config.toPlatform input.ticks input.ping)
  else .ok (some client)

end Client

inductive Operation (platform : Platform) where
  | connect (request : ConnectRequest) (input : ConnectInput)
  | disconnect (bForce : Bool) (input : SendInput)
  | subscribe (pTopic : List UInt8) (uchQoS : UInt8) (input : SendInput)
  | unsubscribe (pTopic : List UInt8) (input : SendInput)
  | publish (pTopic payload : List UInt8) (uchQoS : UInt8) (bRetain : Bool) (input : SendInput)
  | receiver (input : ReceiveInput platform)
  | sender (nTicks : UInt32) (inputs : List SendInput)
  | keepAliveHandler (ticks : UInt32) (input : SendInput)

-- The operation carried out; `none` when it holds too few inputs.
def perform (config : Config) (client : Client) :
    Operation config.toPlatform → Except Fault (Option Client)
  | .connect request input => do return some (← client.connect config request input)
  | .disconnect bForce input => do return some (← client.disconnect config bForce input)
  | .subscribe pTopic uchQoS input => do
      return some (← client.subscribe config pTopic uchQoS input)
  | .unsubscribe pTopic input => do return some (← client.unsubscribe config pTopic input)
  | .publish pTopic payload uchQoS bRetain input => do
      return some (← client.publish config pTopic payload uchQoS bRetain input)
  | .receiver input => do return some (← client.receiverPass config input).2
  | .sender nTicks inputs => client.sender config.toPlatform nTicks inputs
  | .keepAliveHandler ticks input => do
      return some (← client.keepAliveHandler config.toPlatform ticks input)

-- The default arguments of the constructor, on a 64 bit system.
def Config.default : Config :=
  { sizeBits := 64, frameBufferSize := 1600, hz := 100
    maxPacketSize := 1024, maxPacketsQueued := 4, maxTopicSize := 256
    packetSize := by decide, packetsQueued := by decide }

def Client.fresh (config : Config) : Client :=
  { topicBuffer := true
    socket := false
    status := .disconnected
    keepAliveSeconds := 0
    timerRunning := false
    timerElapsesAt := 0
    nextPacketIdentifier := 0
    receivePacket :=
      { bufferSize := config.bufferSize
        allocated := true
        buffer := fun _ => 0
        inPtr := 0
        outPtr := 0
        type := .reserved
        flags := 0
        remainingLength := 0
        bytesConsumed := 0 }
    retransmissionQueue := []
    packetIdentifierStore := []
    log := [] }

def SendInput.willing : SendInput :=
  { memory := some fun _ => 0
    socket := fun bytes => bytes.length
    timerTicks := 0
    queueTicks := 0 }

def plainRequest : ConnectRequest :=
  { clientIdentifier := some [], username := none, password := none, keepAliveSeconds := 60
    cleanSession := true, willTopic := none, willQoS := 0, willRetain := false, willPayload := [] }

def smoothConnect : ConnectInput :=
  { resolved := true, useSSL := false, certificates := 0, setup := 0, connect := 0, serial := none
    send := .willing }

theorem fresh_constructed (config : Config) : Constructed config (Client.fresh config) :=
  ⟨rfl, rfl, rfl, rfl, rfl, rfl, rfl⟩

def delivers (bytes : List UInt8) (short : bytes.length ≤ Config.default.frameBufferSize) :
    ReceiveInput Config.default.toPlatform :=
  { read := some ⟨bytes, short⟩, send := .willing }

theorem connAck_short : ([0x20, 2, 0, 0] : List UInt8).length ≤ Config.default.frameBufferSize := by
  decide

theorem pingResp_short : ([0xD0, 0] : List UInt8).length ≤ Config.default.frameBufferSize := by
  decide

theorem nothing_short : ([] : List UInt8).length ≤ Config.default.frameBufferSize := by decide

end CircleStdlib.Mqtt
