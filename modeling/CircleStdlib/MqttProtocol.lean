import CircleStdlib.Checked
import Mathlib

/-!
The enumerations and constants of mqtt.h and mqttclient.h, and the parameters
everything else is stated over. `Platform` stands for what Circle and the
compiler fix: the width of `size_t`, `FRAME_BUFFER_SIZE` and `HZ`. `Config`
holds the arguments of the `CMQTTClient` constructor with the two assertions
made on them. Texts that only go to the logger are left out.
-/

namespace CircleStdlib.Mqtt

/-- `TMQTTPacketType`; `reserved` is the value 0 that four bits can also hold. -/
inductive PacketType where
  | reserved
  | connect
  | connAck
  | publish
  | pubAck
  | pubRec
  | pubRel
  | pubComp
  | subscribe
  | subAck
  | unsubscribe
  | unsubAck
  | pingReq
  | pingResp
  | disconnect
  | unknown
  deriving DecidableEq, Repr

def PacketType.code : PacketType → UInt8
  | .reserved => 0
  | .connect => 1
  | .connAck => 2
  | .publish => 3
  | .pubAck => 4
  | .pubRec => 5
  | .pubRel => 6
  | .pubComp => 7
  | .subscribe => 8
  | .subAck => 9
  | .unsubscribe => 10
  | .unsubAck => 11
  | .pingReq => 12
  | .pingResp => 13
  | .disconnect => 14
  | .unknown => 15

def PacketType.ofControl (control : UInt8) : PacketType :=
  match control.toNat / 16 with
  | 0 => .reserved
  | 1 => .connect
  | 2 => .connAck
  | 3 => .publish
  | 4 => .pubAck
  | 5 => .pubRec
  | 6 => .pubRel
  | 7 => .pubComp
  | 8 => .subscribe
  | 9 => .subAck
  | 10 => .unsubscribe
  | 11 => .unsubAck
  | 12 => .pingReq
  | 13 => .pingResp
  | 14 => .disconnect
  | _ => .unknown

inductive DisconnectReason where
  | fromApplication
  | unacceptableProtocolVersion
  | identifierRejected
  | serverUnavailable
  | badUsernameOrPassword
  | notAuthorized
  | dnsError
  | connectFailed
  | fromPeer
  | invalidPacket
  | packetIdentifier
  | subscribeError
  | sendFailed
  | pingFailed
  | notSupported
  | insufficientResources
  | sslSetupFailed
  | unknown
  deriving DecidableEq, Repr

def DisconnectReason.ofReturnCode (code : UInt8) : DisconnectReason :=
  match code.toNat with
  | 0 => .fromApplication
  | 1 => .unacceptableProtocolVersion
  | 2 => .identifierRejected
  | 3 => .serverUnavailable
  | 4 => .badUsernameOrPassword
  | 5 => .notAuthorized
  | _ => .unknown

inductive ConnectStatus where
  | disconnected
  | connectPending
  | connected
  | waitForPingResp
  deriving DecidableEq, Repr

inductive ReceiveStatus where
  | continue
  | packetOK
  | packetInvalid
  | disconnect
  | notEnoughMemory
  deriving DecidableEq, Repr

/-- The assertions of the three classes, and the accesses outside a buffer that
no assertion guards. -/
inductive Fault where
  | consumedBeyondPacket
  | inBeforeOut
  | unexpectedType
  | readBeyondIn
  | writeOutside
  | flagsOfOtherType
  | flagsTooLarge
  | lengthBytes
  | bufPtrTooSmall
  | nullBuffer
  | nullSocket
  | socketOpen
  | alreadyConnected
  | qosTooLarge
  | willTooLong
  | pingWithoutKeepAlive
  | pingNotConnected
  | timerRunning
  | notWaitingForPing
  deriving DecidableEq, Repr

def protocolLevel : UInt8 := 4

def flagRetain : UInt8 := 1
def flagQosShift : UInt8 := 1
def flagQosMask : UInt8 := (3 : UInt8) <<< flagQosShift
def flagDup : UInt8 := (1 : UInt8) <<< (3 : UInt8)

def connectFlagCleanSession : UInt8 := (1 : UInt8) <<< (1 : UInt8)
def connectFlagWill : UInt8 := (1 : UInt8) <<< (2 : UInt8)
def connectFlagWillQosShift : UInt8 := 3
def connectFlagWillRetain : UInt8 := (1 : UInt8) <<< (5 : UInt8)
def connectFlagPassword : UInt8 := (1 : UInt8) <<< (6 : UInt8)
def connectFlagUserName : UInt8 := (1 : UInt8) <<< (7 : UInt8)

def connackFlagSP : UInt8 := 1

def mqttSendTries : Nat := 5

structure Platform where
  sizeBits : Nat
  frameBufferSize : Nat
  hz : UInt32

def Platform.resendTimeout (platform : Platform) : UInt32 := 5 * platform.hz
def Platform.pingTimeout (platform : Platform) : UInt32 := 5 * platform.hz

structure Config extends Platform where
  maxPacketSize : Nat
  maxPacketsQueued : Nat
  maxTopicSize : Nat
  packetSize : 128 ≤ maxPacketSize
  packetsQueued : 1 ≤ maxPacketsQueued

-- `(int) (left-right) > 0` for two tick counts.
def later (left right : UInt32) : Bool :=
  decide (0 < (left - right).toNat) && decide ((left - right).toNat < 2 ^ 31)

def qosOfFlags (flags : UInt8) : UInt8 := (flags &&& flagQosMask) >>> flagQosShift

def retainOfFlags (flags : UInt8) : Bool := flags &&& flagRetain != 0

def word (high low : UInt8) : UInt16 := high.toUInt16 <<< 8 ||| low.toUInt16

/-- The QoS values that there are. -/
theorem qos_values (uchQoS : UInt8) (valid : uchQoS ≤ 2) :
    uchQoS = 0 ∨ uchQoS = 1 ∨ uchQoS = 2 := by
  have bound : uchQoS.toNat ≤ 2 := UInt8.le_iff_toNat_le.mp valid
  rcases (by omega : uchQoS.toNat = 0 ∨ uchQoS.toNat = 1 ∨ uchQoS.toNat = 2) with
    zero | one | two
  · exact Or.inl (UInt8.toNat_inj.mp zero)
  · exact Or.inr (Or.inl (UInt8.toNat_inj.mp one))
  · exact Or.inr (Or.inr (UInt8.toNat_inj.mp two))

end CircleStdlib.Mqtt
