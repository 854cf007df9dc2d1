import CircleStdlib.ByteMemory
import CircleStdlib.CText
import CircleStdlib.MqttProtocol

/-!
`CMQTTSendPacket` of mqttsendpacket.cpp. `m_nBufPtr` is 32 bit wide, and its sum
with a `size_t` has the width of that. `memory` is the block that `new` hands
out for the buffer, with whatever is in it; `none` is a failed allocation. A
write outside the buffer is a fault. The three members for the queue are
undefined until they are set, here 0.
-/

namespace CircleStdlib.Mqtt

open ByteMemory Checked CText

def maxLengthFixedHeader : Nat := 5

structure SendPacket where
  type : PacketType
  maxPacketSize : Nat
  error : Bool
  allocated : Bool
  buffer : Nat → UInt8
  bufPtr : Nat
  flags : UInt8
  sendTries : Nat
  scheduledTime : UInt32
  qos : UInt8
  packetIdentifier : UInt16

structure Sending where
  result : Bool
  packet : SendPacket
  handed : Option (List UInt8)

namespace SendPacket

def initialFlags : PacketType → UInt8
  | .pubRel | .subscribe | .unsubscribe => (1 : UInt8) <<< (1 : UInt8)
  | _ => 0

-- The constructor; `nMaxPacketSize` is 128 where the source leaves it out.
def create (type : PacketType) (nMaxPacketSize : Nat) (memory : Option (Nat → UInt8)) :
    SendPacket :=
  { type
    maxPacketSize := nMaxPacketSize
    error := memory.isNone
    allocated := memory.isSome
    buffer := memory.getD fun _ => 0
    bufPtr := maxLengthFixedHeader
    flags := if memory.isSome then initialFlags type else 0
    sendTries := mqttSendTries
    scheduledTime := 0
    qos := 0
    packetIdentifier := 0 }

def setFlags (packet : SendPacket) (uchFlags : UInt8) : Except Fault SendPacket := do
  require (packet.type = .publish) .flagsOfOtherType
  require (uchFlags ≤ 0x0F) .flagsTooLarge
  return { packet with flags := uchFlags }

def put (packet : SendPacket) (uchValue : UInt8) : Except Fault SendPacket := do
  require (packet.allocated = true) .nullBuffer
  require (packet.bufPtr < packet.maxPacketSize) .writeOutside
  return { packet with
    buffer := write packet.buffer packet.bufPtr [uchValue]
    bufPtr := (packet.bufPtr + 1) % 2 ^ 32 }

def copyIn (packet : SendPacket) (bytes : List UInt8) : Except Fault SendPacket := do
  require (packet.allocated = true) .nullBuffer
  require (packet.bufPtr + bytes.length ≤ packet.maxPacketSize) .writeOutside
  return { packet with
    buffer := write packet.buffer packet.bufPtr bytes
    bufPtr := (packet.bufPtr + bytes.length) % 2 ^ 32 }

def fail (packet : SendPacket) : SendPacket := { packet with error := true }

def appendByte (packet : SendPacket) (uchValue : UInt8) : Except Fault SendPacket :=
  if packet.error then .ok packet
  else if packet.bufPtr ≥ packet.maxPacketSize then .ok packet.fail
  else packet.put uchValue

def appendWord (packet : SendPacket) (usValue : UInt16) : Except Fault SendPacket :=
  if packet.error then .ok packet
  else if (packet.bufPtr + 1) % 2 ^ 32 ≥ packet.maxPacketSize then .ok packet.fail
  else do
    let packet ← packet.put (usValue >>> 8).toUInt8
    packet.put (usValue &&& 0xFF).toUInt8

def appendString (platform : Platform) (packet : SendPacket) (pString : List UInt8) :
    Except Fault SendPacket :=
  if packet.error then .ok packet
  else
    let nLength := (cstr pString).length
    if (packet.bufPtr + nLength + 2) % 2 ^ platform.sizeBits > packet.maxPacketSize then
      .ok packet.fail
    else do
      let packet ← packet.put (UInt8.ofNat (nLength >>> 8))
      let packet ← packet.put (UInt8.ofNat (nLength &&& 0xFF))
      if nLength > 0 then packet.copyIn (cstr pString) else return packet

def appendData (platform : Platform) (packet : SendPacket) (data : List UInt8) :
    Except Fault SendPacket :=
  if packet.error then .ok packet
  else if (packet.bufPtr + data.length) % 2 ^ platform.sizeBits > packet.maxPacketSize then
    .ok packet.fail
  else if data.length > 0 then packet.copyIn data
  else .ok packet

-- The loop that fills `EncodedLength`. The assertion fails in the fifth round
-- at the latest, so five units of fuel are never used up.
def encodeLength (nTempLength : Nat) (encoded : List UInt8) : Nat → Except Fault (List UInt8)
  | 0 => .error .lengthBytes
  | fuel + 1 => do
      let uchByte := UInt8.ofNat (nTempLength &&& 0x7F)
      let nTempLength := nTempLength >>> 7
      let uchByte := if nTempLength > 0 then uchByte ||| 0x80 else uchByte
      require (encoded.length < 4) .lengthBytes
      if nTempLength > 0 then encodeLength nTempLength (encoded ++ [uchByte]) fuel
      else return encoded ++ [uchByte]

def controlByte (packet : SendPacket) : UInt8 := packet.type.code <<< 4 ||| packet.flags

-- `socket` is what the socket answers to the bytes it is given.
def send (packet : SendPacket) (socket : List UInt8 → Int) : Except Fault Sending :=
  if packet.error then .ok ⟨false, packet, none⟩
  else if packet.sendTries = 0 then .ok ⟨false, packet, none⟩
  else do
    let packet := { packet with sendTries := packet.sendTries - 1 }
    require (packet.bufPtr ≥ maxLengthFixedHeader) .bufPtrTooSmall
    let nRemainingLength := packet.bufPtr - maxLengthFixedHeader
    let encodedLength ← encodeLength nRemainingLength [] 5
    require (encodedLength.length > 0) .lengthBytes
    require (encodedLength.length < maxLengthFixedHeader - 1) .lengthBytes
    require (packet.allocated = true) .nullBuffer
    let start := maxLengthFixedHeader - encodedLength.length - 1
    let buffer := write packet.buffer (start + 1) encodedLength
    let packet := { packet with buffer := write buffer start [packet.controlByte] }
    let nSendLength := 1 + encodedLength.length + nRemainingLength
    let bytes := slice packet.buffer start nSendLength
    return ⟨socket bytes = nSendLength, packet, some bytes⟩

end SendPacket

end CircleStdlib.Mqtt
