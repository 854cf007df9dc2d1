import CircleStdlib.ByteMemory
import CircleStdlib.MqttProtocol

/-!
`CMQTTReceivePacket` of mqttreceivepacket.cpp. `m_nInPtr` and `m_nOutPtr` are
32 bit wide, and `m_nBufferSize` is a `size_t`: the addition of a read to
`m_nInPtr` can wrap, and so can the size of the buffer. Every read of the buffer
is checked against `m_nInPtr`; where a write ends is up to the caller. Members
that the constructor leaves undefined have any value.
-/

namespace CircleStdlib.Mqtt

open ByteMemory Checked

/-- `allocated` is `m_pBuffer != 0`. -/
structure ReceivePacket where
  bufferSize : Nat
  allocated : Bool
  buffer : Nat → UInt8
  inPtr : Nat
  outPtr : Nat
  type : PacketType
  flags : UInt8
  remainingLength : Nat
  bytesConsumed : Nat

def Platform.sizeSub (platform : Platform) (left right : Nat) : Nat :=
  (left + (2 ^ platform.sizeBits - right % 2 ^ platform.sizeBits)) % 2 ^ platform.sizeBits

theorem Platform.sizeSub_within (platform : Platform) (left right : Nat) (within : right ≤ left)
    (bounded : left < 2 ^ platform.sizeBits) : platform.sizeSub left right = left - right := by
  rw [sizeSub, Nat.mod_eq_of_lt (within.trans_lt bounded),
    show left + (2 ^ platform.sizeBits - right) = left - right + 2 ^ platform.sizeBits by omega,
    Nat.add_mod_right, Nat.mod_eq_of_lt (by omega)]

def Config.bufferSize (config : Config) : Nat :=
  (config.maxPacketSize * config.maxPacketsQueued + config.frameBufferSize) % 2 ^ config.sizeBits

def Config.topicBufferSize (config : Config) : Nat :=
  (config.maxTopicSize + 1) % 2 ^ config.sizeBits

-- What `m_nBufferSize-FRAME_BUFFER_SIZE` comes to.
def Config.queueSize (config : Config) : Nat :=
  config.maxPacketSize * config.maxPacketsQueued % 2 ^ config.sizeBits

theorem Config.sizeSub_bufferSize (config : Config) :
    config.sizeSub config.bufferSize config.frameBufferSize = config.queueSize := by
  simp only [Platform.sizeSub, bufferSize, queueSize, Nat.mod_add_mod]
  have below := Nat.mod_lt config.frameBufferSize (Nat.two_pow_pos config.sizeBits)
  have whole : config.maxPacketSize * config.maxPacketsQueued + config.frameBufferSize +
      (2 ^ config.sizeBits - config.frameBufferSize % 2 ^ config.sizeBits) =
      config.maxPacketSize * config.maxPacketsQueued +
        2 ^ config.sizeBits * (config.frameBufferSize / 2 ^ config.sizeBits + 1) := by
    have split := Nat.div_add_mod config.frameBufferSize (2 ^ config.sizeBits)
    rw [Nat.mul_add, Nat.mul_one]
    omega
  rw [whole, Nat.add_mul_mod_self_left]

def Config.fillLimit (config : Config) : Nat := config.queueSize + config.frameBufferSize

theorem Config.bufferSize_fillLimit (config : Config) :
    config.bufferSize = config.fillLimit % 2 ^ config.sizeBits := by
  rw [bufferSize, fillLimit, queueSize, Nat.mod_add_mod]

abbrev Config.topicLimit (config : Config) : Nat := config.topicBufferSize - 1

namespace ReceivePacket

def reset (packet : ReceivePacket) : ReceivePacket := { packet with inPtr := 0 }

def readAt (packet : ReceivePacket) (position : Nat) : Except Fault UInt8 := do
  require (position < packet.inPtr) .readBeyondIn
  return packet.buffer position

def moveDown (buffer : Nat → UInt8) (i outPtr : Nat) : Nat → Nat → UInt8
  | 0 => buffer
  | count + 1 => moveDown (write buffer i [buffer outPtr]) (i + 1) (outPtr + 1) count

def complete (packet : ReceivePacket) : Except Fault ReceivePacket := do
  require (packet.outPtr ≤ packet.inPtr) .inBeforeOut
  return { packet with
    buffer := moveDown packet.buffer 0 packet.outPtr (packet.inPtr - packet.outPtr)
    inPtr := packet.inPtr - packet.outPtr
    outPtr := packet.inPtr }

inductive LengthField where
  | undecided (status : ReceiveStatus) (outPtr : Nat)
  | decoded (nRemainingLength : Nat) (outPtr : Nat)

-- The loop that decodes the remaining length. It is left at the fifth round at
-- the latest, so five units of fuel are never used up.
def decodeLength (packet : ReceivePacket) (nShift outPtr nRemainingLength : Nat) :
    Nat → Except Fault LengthField
  | 0 => return .undecided .packetInvalid outPtr
  | fuel + 1 => do
      if nShift > 7 * 3 then return .undecided .packetInvalid outPtr
      if packet.inPtr ≤ outPtr then return .undecided .continue outPtr
      let uchByte ← packet.readAt outPtr
      if uchByte = 0 ∧ outPtr > 1 then return .undecided .packetInvalid outPtr
      let nRemainingLength := nRemainingLength + (uchByte &&& 0x7F).toNat <<< nShift
      if uchByte &&& 0x80 ≠ 0 then
        packet.decodeLength (nShift + 7) (outPtr + 1) nRemainingLength fuel
      else return .decoded nRemainingLength (outPtr + 1)

def wellFormed (type : PacketType) (flags : UInt8) (nRemainingLength : Nat) : Bool :=
  match type with
  | .connAck | .pubAck | .pubRec | .pubComp | .unsubAck => flags = 0 ∧ nRemainingLength = 2
  | .publish =>
      qosOfFlags flags ≤ 2 ∧ (if qosOfFlags flags = 0 then 3 else 5) ≤ nRemainingLength
  | .pubRel => flags = (1 : UInt8) <<< (1 : UInt8) ∧ nRemainingLength = 2
  | .subAck => flags = 0 ∧ 3 ≤ nRemainingLength
  | .pingResp => flags = 0 ∧ nRemainingLength = 0
  | _ => false

def parse (packet : ReceivePacket) : Except Fault (ReceiveStatus × ReceivePacket) := do
  match ← packet.decodeLength 0 1 0 5 with
  | .undecided status outPtr => return (status, { packet with outPtr })
  | .decoded nRemainingLength outPtr =>
      if packet.inPtr < outPtr + nRemainingLength then
        return (.continue, { packet with outPtr })
      else
        let control ← packet.readAt 0
        let packet := { packet with
          outPtr
          type := PacketType.ofControl control
          flags := control &&& 0x0F
          remainingLength := nRemainingLength
          bytesConsumed := 0 }
        if wellFormed packet.type packet.flags nRemainingLength then return (.packetOK, packet)
        else return (.packetInvalid, packet)

def accept (packet : ReceivePacket) (bytes : List UInt8) : ReceivePacket :=
  { packet with
    buffer := write packet.buffer packet.inPtr bytes
    inPtr := (packet.inPtr + bytes.length) % 2 ^ 32 }

-- `read` is what the socket answers; `none` is a negative result.
def receive (platform : Platform) (packet : ReceivePacket) (read : Option (List UInt8)) :
    Except Fault (ReceiveStatus × ReceivePacket) :=
  if packet.allocated = false then .ok (.notEnoughMemory, packet)
  else if packet.inPtr > platform.sizeSub packet.bufferSize platform.frameBufferSize then
    .ok (.notEnoughMemory, packet)
  else
    match read with
    | none => .ok (.disconnect, packet)
    | some bytes => (packet.accept bytes).parse

def getByte (packet : ReceivePacket) : Except Fault (UInt8 × ReceivePacket) := do
  let packet := { packet with bytesConsumed := packet.bytesConsumed + 1 }
  require (packet.bytesConsumed ≤ packet.remainingLength) .consumedBeyondPacket
  let result ← packet.readAt packet.outPtr
  return (result, { packet with outPtr := packet.outPtr + 1 })

def getWord (packet : ReceivePacket) : Except Fault (UInt16 × ReceivePacket) := do
  let packet := { packet with bytesConsumed := packet.bytesConsumed + 2 }
  require (packet.bytesConsumed ≤ packet.remainingLength) .consumedBeyondPacket
  let high ← packet.readAt packet.outPtr
  let low ← packet.readAt (packet.outPtr + 1)
  return (word high low, { packet with outPtr := packet.outPtr + 2 })

-- The loop of `GetString`; `none` is the return at a character above 127.
def copyString (packet : ReceivePacket) (text : List UInt8) :
    Nat → Except Fault (Option (List UInt8) × ReceivePacket)
  | 0 => return (some text, packet)
  | count + 1 => do
      let chChar ← packet.readAt packet.outPtr
      let packet := { packet with outPtr := packet.outPtr + 1 }
      if chChar &&& 0x80 ≠ 0 then return (none, packet)
      else packet.copyString (text ++ [chChar]) count

-- The characters put in front of the terminator; the empty list for the result
-- 0, whatever the reason.
def getString (packet : ReceivePacket) (nBufferSize : Nat) :
    Except Fault (List UInt8 × ReceivePacket) := do
  let (usLength, packet) ← packet.getWord
  let packet := { packet with bytesConsumed := packet.bytesConsumed + usLength.toNat }
  if packet.remainingLength < packet.bytesConsumed then return ([], packet)
  if usLength.toNat + 1 > nBufferSize then return ([], packet)
  let (text, packet) ← packet.copyString [] usLength.toNat
  return (text.getD [], packet)

-- The bytes that the result points at; `none` is the null pointer.
def getData (packet : ReceivePacket) (nLength : Nat) :
    Except Fault (Option (List UInt8) × ReceivePacket) := do
  let packet := { packet with bytesConsumed := packet.bytesConsumed + nLength }
  if packet.remainingLength < packet.bytesConsumed then return (none, packet)
  require (packet.outPtr + nLength ≤ packet.inPtr) .readBeyondIn
  return (some (slice packet.buffer packet.outPtr nLength),
    { packet with outPtr := packet.outPtr + nLength })

end ReceivePacket

end CircleStdlib.Mqtt
