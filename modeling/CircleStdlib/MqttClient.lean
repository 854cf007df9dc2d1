import CircleStdlib.ReceivePacket
import CircleStdlib.SendPacket

/-!
`CMQTTClient` of mqttclient.cpp. Every operation takes what the world answers
during it as an argument: the reads and the results of the socket, the tick
counts, the memory for packet buffers, the outcome of name resolution and
connection set-up. `log` keeps, in order, what is handed to the socket and the
callbacks, which return without calling back. Packet objects are taken to be
allocated; only their buffers may be missing. The logger is left out.
-/

namespace CircleStdlib.Mqtt

open Checked CText

/-- The arguments of `OnMessage`; `payload` is `none` for a null pointer. -/
structure Message where
  topic : List UInt8
  payload : Option (List UInt8)
  payloadLength : Nat
  retain : Bool
  deriving DecidableEq, Repr

inductive Event where
  | sent (bytes : List UInt8) (accepted : Bool)
  | onConnect (sessionPresent : Bool)
  | onMessage (message : Message)
  | onDisconnect (reason : DisconnectReason)
  deriving DecidableEq, Repr

/-- What one transmission meets: the buffer of the packet, the answer of the
socket, and the ticks read for the keep-alive timer and for the queue. -/
structure SendInput where
  memory : Option (Nat → UInt8)
  socket : List UInt8 → Int
  timerTicks : UInt32
  queueTicks : UInt32

/-- `socket` is `m_pSocket != 0`, `topicBuffer` is `m_pTopicBuffer != 0`. -/
structure Client where
  topicBuffer : Bool
  socket : Bool
  status : ConnectStatus
  keepAliveSeconds : UInt32
  timerRunning : Bool
  timerElapsesAt : UInt32
  nextPacketIdentifier : UInt16
  receivePacket : ReceivePacket
  retransmissionQueue : List SendPacket
  packetIdentifierStore : List UInt16
  log : List Event

/-- A client as the constructor leaves it. The members not named here are
undefined until `Connect` sets them. -/
structure Constructed (config : Config) (client : Client) : Prop where
  socket : client.socket = false
  status : client.status = .disconnected
  bufferSize : client.receivePacket.bufferSize = config.bufferSize
  inPtr : client.receivePacket.inPtr = 0
  retransmissionQueue : client.retransmissionQueue = []
  packetIdentifierStore : client.packetIdentifierStore = []
  log : client.log = []

-- `InsertPacketIntoQueue` behind `SetScheduledTime`: in front of the first
-- packet that is scheduled later.
def insertByTime (packet : SendPacket) : List SendPacket → List SendPacket
  | [] => [packet]
  | other :: rest =>
      if later other.scheduledTime packet.scheduledTime then packet :: other :: rest
      else other :: insertByTime packet rest

def removeByIdentifier (usPacketIdentifier : UInt16) :
    List SendPacket → Option SendPacket × List SendPacket
  | [] => (none, [])
  | packet :: rest =>
      if packet.packetIdentifier = usPacketIdentifier then (some packet, rest)
      else
        let (found, left) := removeByIdentifier usPacketIdentifier rest
        (found, packet :: left)

namespace Client

def isConnected (client : Client) : Bool :=
  client.status = .connected || client.status = .waitForPingResp

def record (client : Client) (event : Event) : Client :=
  { client with log := client.log ++ [event] }

def closeConnection (client : Client) (reason : DisconnectReason) : Except Fault Client :=
  if client.status = .disconnected then .ok client
  else do
    require (client.socket = true) .nullSocket
    let client := { client with
      status := .disconnected
      timerRunning := false
      retransmissionQueue := []
      packetIdentifierStore := []
      socket := false }
    return client.record (.onDisconnect reason)

def startTimer (client : Client) (nTimerElapsesAt : UInt32) : Client :=
  { client with timerElapsesAt := nTimerElapsesAt, timerRunning := true }

-- The switch at the end of `SendPacket`.
def keepAlive (platform : Platform) (client : Client) (type : PacketType) (ticks : UInt32) :
    Except Fault Client :=
  match type with
  | .connect | .publish | .pubAck | .pubRec | .pubRel | .pubComp | .subscribe | .unsubscribe =>
      if client.status = .connected ∧ client.keepAliveSeconds > 0 then
        .ok (client.startTimer (ticks + client.keepAliveSeconds * platform.hz))
      else .ok client
  | .pingReq => do
      require (client.keepAliveSeconds > 0) .pingWithoutKeepAlive
      require (client.status = .connected) .pingNotConnected
      require (client.timerRunning = false) .timerRunning
      return { client with status := .waitForPingResp }.startTimer (ticks + platform.pingTimeout)
  | .disconnect => .ok client
  | _ => .error .unexpectedType

def recordHanded (client : Client) (sending : Sending) : Client :=
  match sending.handed with
  | none => client
  | some bytes => client.record (.sent bytes sending.result)

def sendPacket (platform : Platform) (client : Client) (packet : SendPacket) (input : SendInput) :
    Except Fault (Bool × SendPacket × Client) :=
  if client.status = .disconnected then .ok (false, packet, client)
  else do
    require (client.socket = true) .nullSocket
    let sending ← packet.send input.socket
    let client := client.recordHanded sending
    if sending.result then
      let client ← client.keepAlive platform packet.type input.timerTicks
      return (true, sending.packet, client)
    else return (false, sending.packet, client)

def insertPacketIntoQueue (client : Client) (packet : SendPacket) (nScheduledTime : UInt32) :
    Client :=
  { client with
    retransmissionQueue :=
      insertByTime { packet with scheduledTime := nScheduledTime } client.retransmissionQueue }

def removePacketFromQueue (client : Client) (usPacketIdentifier : UInt16) :
    Option SendPacket × Client :=
  let (found, left) := removeByIdentifier usPacketIdentifier client.retransmissionQueue
  (found, { client with retransmissionQueue := left })

def isPacketIdentifierInStore (client : Client) (usPacketIdentifier : UInt16) : Bool :=
  client.packetIdentifierStore.contains usPacketIdentifier

def insertPacketIdentifierIntoStore (client : Client) (usPacketIdentifier : UInt16) : Client :=
  { client with packetIdentifierStore := usPacketIdentifier :: client.packetIdentifierStore }

def removePacketIdentifierFromStore (client : Client) (usPacketIdentifier : UInt16) : Client :=
  { client with packetIdentifierStore := client.packetIdentifierStore.erase usPacketIdentifier }

-- `m_usNextPacketIdentifier` advanced; 0 is left out.
def advanceIdentifier (client : Client) : Client :=
  { client with
    nextPacketIdentifier :=
      if client.nextPacketIdentifier + 1 = 0 then client.nextPacketIdentifier + 1 + 1
      else client.nextPacketIdentifier + 1 }

-- The end that `Subscribe`, `Unsubscribe`, `Publish` and the PUBREC handler
-- share: the packet is sent and, with a QoS, queued for retransmission.
def sendAndQueue (platform : Platform) (client : Client) (packet : SendPacket) (uchQoS : UInt8)
    (usPacketIdentifier : UInt16) (input : SendInput) : Except Fault Client := do
  let (sent, packet, client) ← client.sendPacket platform packet input
  if sent then
    if uchQoS ≥ 1 then
      return client.insertPacketIntoQueue
        { packet with qos := uchQoS, packetIdentifier := usPacketIdentifier }
        (input.queueTicks + platform.resendTimeout)
    else return client
  else client.closeConnection .sendFailed

def subscribePacket (config : Config) (usPacketIdentifier : UInt16) (pTopic : List UInt8)
    (uchQoS : UInt8) (memory : Option (Nat → UInt8)) : Except Fault SendPacket := do
  let packet := SendPacket.create .subscribe config.maxPacketSize memory
  let packet ← packet.appendWord usPacketIdentifier
  let packet ← packet.appendString config.toPlatform pTopic
  packet.appendByte uchQoS

def subscribe (config : Config) (client : Client) (pTopic : List UInt8) (uchQoS : UInt8)
    (input : SendInput) : Except Fault Client := do
  require (uchQoS ≤ 2) .qosTooLarge
  let usPacketIdentifier := client.nextPacketIdentifier
  let packet ← subscribePacket config usPacketIdentifier pTopic uchQoS input.memory
  client.advanceIdentifier.sendAndQueue config.toPlatform packet 1 usPacketIdentifier input

def unsubscribePacket (config : Config) (usPacketIdentifier : UInt16) (pTopic : List UInt8)
    (memory : Option (Nat → UInt8)) : Except Fault SendPacket := do
  let packet := SendPacket.create .unsubscribe config.maxPacketSize memory
  let packet ← packet.appendWord usPacketIdentifier
  packet.appendString config.toPlatform pTopic

def unsubscribe (config : Config) (client : Client) (pTopic : List UInt8) (input : SendInput) :
    Except Fault Client := do
  let usPacketIdentifier := client.nextPacketIdentifier
  let packet ← unsubscribePacket config usPacketIdentifier pTopic input.memory
  client.advanceIdentifier.sendAndQueue config.toPlatform packet 1 usPacketIdentifier input

def publishFlags (uchQoS : UInt8) (bRetain : Bool) : UInt8 :=
  if bRetain then uchQoS <<< flagQosShift ||| flagRetain else uchQoS <<< flagQosShift

-- The packet of `Publish`: the identifier is appended whatever the QoS is.
def publishPacket (config : Config) (usPacketIdentifier : UInt16) (pTopic payload : List UInt8)
    (uchQoS : UInt8) (bRetain : Bool) (memory : Option (Nat → UInt8)) :
    Except Fault SendPacket := do
  let packet := SendPacket.create .publish config.maxPacketSize memory
  let packet ← packet.setFlags (publishFlags uchQoS bRetain)
  let packet ← packet.appendString config.toPlatform pTopic
  let packet ← packet.appendWord usPacketIdentifier
  if payload.length > 0 then packet.appendData config.toPlatform payload else return packet

def publish (config : Config) (client : Client) (pTopic payload : List UInt8) (uchQoS : UInt8)
    (bRetain : Bool) (input : SendInput) : Except Fault Client := do
  require (uchQoS ≤ 2) .qosTooLarge
  let usPacketIdentifier := client.nextPacketIdentifier
  let packet ← publishPacket config usPacketIdentifier pTopic payload uchQoS bRetain input.memory
  client.advanceIdentifier.sendAndQueue config.toPlatform packet uchQoS usPacketIdentifier input

def disconnect (config : Config) (client : Client) (bForce : Bool) (input : SendInput) :
    Except Fault Client := do
  if bForce then client.closeConnection .fromApplication
  else
    let packet := SendPacket.create .disconnect 128 input.memory
    let (_, _, client) ← client.sendPacket config.toPlatform packet input
    client.closeConnection .fromApplication

end Client

/-- The arguments of `Connect` that reach the CONNECT packet; the null pointers
of the source are `none`. -/
structure ConnectRequest where
  clientIdentifier : Option (List UInt8)
  username : Option (List UInt8)
  password : Option (List UInt8)
  keepAliveSeconds : UInt16
  cleanSession : Bool
  willTopic : Option (List UInt8)
  willQoS : UInt8
  willRetain : Bool
  willPayload : List UInt8

/-- What happens on the way to a connection. `certificates` and `setup` are the
results of the TLS socket and only matter with `useSSL`; `serial` is what the
property tag answers. -/
structure ConnectInput where
  resolved : Bool
  useSSL : Bool
  certificates : Int
  setup : Int
  connect : Int
  serial : Option (UInt32 × UInt32)
  send : SendInput

def hexDigit (value : Nat) : UInt8 :=
  if value < 10 then UInt8.ofNat (48 + value) else UInt8.ofNat (87 + value)

def hexWord (value : UInt32) : List UInt8 :=
  (List.range 8).map fun index => hexDigit (value.toNat / 16 ^ (7 - index) % 16)

def clientIdentifierText (request : ConnectRequest) (input : ConnectInput) : List UInt8 :=
  match request.clientIdentifier with
  | some identifier => cstr identifier
  | none =>
      let (low, high) := input.serial.getD (0, 0)
      ascii "raspi" ++ hexWord high ++ hexWord low

def connectFlags (request : ConnectRequest) : UInt8 :=
  let uchConnectFlags : UInt8 := if request.cleanSession then connectFlagCleanSession else 0
  let uchConnectFlags :=
    if request.willTopic.isSome then
      let uchConnectFlags := uchConnectFlags ||| connectFlagWill |||
        request.willQoS <<< connectFlagWillQosShift
      if request.willRetain then uchConnectFlags ||| connectFlagWillRetain else uchConnectFlags
    else uchConnectFlags
  if request.username.isSome then
    let uchConnectFlags := uchConnectFlags ||| connectFlagUserName
    if request.password.isSome then uchConnectFlags ||| connectFlagPassword else uchConnectFlags
  else uchConnectFlags

namespace Client

def appendWill (config : Config) (packet : SendPacket) (request : ConnectRequest) :
    Except Fault SendPacket :=
  match request.willTopic with
  | none => .ok packet
  | some willTopic => do
      let packet ← packet.appendString config.toPlatform willTopic
      require (request.willPayload.length < 0x10000) .willTooLong
      let packet ← packet.appendWord (UInt16.ofNat request.willPayload.length)
      if request.willPayload.length > 0 then
        packet.appendData config.toPlatform request.willPayload
      else return packet

def appendLogin (config : Config) (packet : SendPacket) (request : ConnectRequest) :
    Except Fault SendPacket :=
  match request.username with
  | none => .ok packet
  | some username => do
      let packet ← packet.appendString config.toPlatform username
      match request.password with
      | none => return packet
      | some password => packet.appendString config.toPlatform password

def connectPacket (config : Config) (request : ConnectRequest) (input : ConnectInput) :
    Except Fault SendPacket := do
  require (request.willTopic.isSome → request.willQoS ≤ 2) .qosTooLarge
  let packet := SendPacket.create .connect config.maxPacketSize input.send.memory
  let packet ← packet.appendString config.toPlatform (ascii "MQTT")
  let packet ← packet.appendByte protocolLevel
  let packet ← packet.appendByte (connectFlags request)
  let packet ← packet.appendWord request.keepAliveSeconds
  let packet ← packet.appendString config.toPlatform (clientIdentifierText request input)
  let packet ← appendWill config packet request
  appendLogin config packet request

-- What `Connect` sets when the TCP connection is there.
def opened (client : Client) (usKeepAliveSeconds : UInt16) : Client :=
  { client with
    socket := true
    keepAliveSeconds := usKeepAliveSeconds.toUInt32
    timerRunning := false
    nextPacketIdentifier := 1
    receivePacket := client.receivePacket.reset
    status := .connectPending }

def connect (config : Config) (client : Client) (request : ConnectRequest) (input : ConnectInput) :
    Except Fault Client := do
  require (client.status = .disconnected) .alreadyConnected
  if client.topicBuffer = false then return client.record (.onDisconnect .insufficientResources)
  if input.resolved = false then return client.record (.onDisconnect .dnsError)
  require (client.socket = false) .socketOpen
  if input.useSSL ∧ (input.certificates < 0 ∨ input.setup ≠ 0) then
    return client.record (.onDisconnect .sslSetupFailed)
  if input.connect ≠ 0 then return client.record (.onDisconnect .connectFailed)
  let client := client.opened request.keepAliveSeconds
  let packet ← connectPacket config request input
  let (sent, _, client) ← client.sendPacket config.toPlatform packet input.send
  if sent then return client else client.closeConnection .sendFailed

end Client

end CircleStdlib.Mqtt
