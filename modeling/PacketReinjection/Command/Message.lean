import PacketReinjection.Command.Header
import PacketReinjection.Command.SubCommand
import PacketReinjection.Packet
import PacketReinjection.Router.Timeout

/-!
# `Command.Message` — control messages

After the header come a command, a sequence number and three arguments, every word little-endian;
further data may follow and is ignored. A complete message has 24 bytes at least.

## Contents
- **`CommandFrame`** — raw bytes as they were delivered, at most `maxFrameLength` of them.
- **`Envelope`** — the part of a message that a reply is addressed by; `Envelope.peek` reads it off
  any frame with a full header for the control port.
- **`CommandMessage`** — a complete message, with one constructor function per request, `encode` and
  `decode`.
-/

namespace PacketReinjection

/-- Header, command and sequence number: the least that a reply is built from. -/
def envelopeLength : Nat := headerLength + 4

/-- The least length of a complete message. -/
def messageLength : Nat := 24

/-- The most data that may follow a complete message. -/
def maxDataLength : Nat := 256

/-- The longest frame. -/
def maxFrameLength : Nat := messageLength + maxDataLength

/-- The command that controls re-injection. -/
def reinjectionCommand : UInt16 := 30

/-! ## Frames -/

/-- A frame as it was delivered. -/
structure CommandFrame where
  bytes : List UInt8
  length_le : bytes.length ≤ maxFrameLength
  deriving DecidableEq

/-- A frame of the given bytes, unless they are too many. -/
def CommandFrame.ofBytes (bytes : List UInt8) : Except ControlError CommandFrame :=
  if h : bytes.length ≤ maxFrameLength then
    .ok ⟨bytes, h⟩
  else
    .error (.bufferTooSmall bytes.length maxFrameLength)

/-! ## Envelopes -/

/-- The part of a message that a reply is addressed by. -/
structure Envelope where
  header : MessageHeader
  /-- The command of a request, the result code of a reply. -/
  command : UInt16
  sequence : UInt16
  deriving DecidableEq, Inhabited

namespace Envelope

/-- The envelope of a frame for the control port. A command or sequence number that the end of the
    frame cuts off reads as zero. -/
def peek (bytes : List UInt8) : Except ControlError Envelope := do
  let header ← MessageHeader.decode bytes
  if header.destinationPort ≠ 0 then
    throw (.otherPort header.destinationPort)
  return { header, command := LittleEndian.word16At bytes 8,
           sequence := LittleEndian.word16At bytes 10 }

/-- The envelope as bytes. -/
def encode (e : Envelope) : List UInt8 :=
  e.header.encode ++ LittleEndian.bytes16 e.command ++ LittleEndian.bytes16 e.sequence

theorem length_encode (e : Envelope) : e.encode.length = envelopeLength := rfl

end Envelope

/-! ## Messages -/

/-- A complete control message. -/
structure CommandMessage where
  envelope : Envelope
  /-- The code of the request. -/
  argument₁ : UInt32
  /-- The value that the request carries. -/
  argument₂ : UInt32
  argument₃ : UInt32
  deriving DecidableEq, Inhabited

namespace CommandMessage

/-- A request to core 1 of chip (0, 0). -/
def request (sub : SubCommand) (value : UInt32) : CommandMessage where
  envelope :=
    { header := MessageHeader.toCore 0 0 1, command := reinjectionCommand, sequence := 0 }
  argument₁ := sub.code
  argument₂ := value
  argument₃ := 0

/-- Ask for a new primary wait field. -/
def setTimeout (t : RouterTimeout) : CommandMessage :=
  request .setTimeout t.field.toUInt32

/-- Ask for a new emergency wait field. -/
def setEmergencyTimeout (t : RouterTimeout) : CommandMessage :=
  request .setEmergencyTimeout t.field.toUInt32

/-- Ask for other packet classes. -/
def setPacketClasses (mask : UInt32) : CommandMessage :=
  request .setPacketClasses (mask &&& PacketClass.fullMask)

/-- Ask for the status. -/
def getStatus : CommandMessage := request .getStatus 0

/-- Ask for counters at zero. -/
def resetCounters : CommandMessage := request .resetCounters 0

/-- Ask the engine to stop. -/
def exit : CommandMessage := request .exit 0

/-- The message with another header. -/
def withHeader (m : CommandMessage) (header : MessageHeader) : CommandMessage :=
  { m with envelope := { m.envelope with header } }

/-- The message with another sequence number. -/
def withSequence (m : CommandMessage) (sequence : UInt16) : CommandMessage :=
  { m with envelope := { m.envelope with sequence } }

/-- The message with another command. -/
def withCommand (m : CommandMessage) (command : UInt16) : CommandMessage :=
  { m with envelope := { m.envelope with command } }

/-- The message at the front of a byte string. A wrong port is reported before a short message. -/
def decode (bytes : List UInt8) : Except ControlError CommandMessage := do
  let envelope ← Envelope.peek bytes
  if bytes.length < messageLength then
    throw (.tooShort messageLength bytes.length)
  return { envelope, argument₁ := LittleEndian.word32At bytes 12,
           argument₂ := LittleEndian.word32At bytes 16,
           argument₃ := LittleEndian.word32At bytes 20 }

/-- The message as bytes. -/
def toBytes (m : CommandMessage) : List UInt8 :=
  m.envelope.encode ++ LittleEndian.bytes32 m.argument₁ ++ LittleEndian.bytes32 m.argument₂
    ++ LittleEndian.bytes32 m.argument₃

theorem length_toBytes (m : CommandMessage) : m.toBytes.length = messageLength := rfl

/-- The message as a frame. -/
def encode (m : CommandMessage) : CommandFrame :=
  ⟨m.toBytes, by rw [length_toBytes]; decide⟩

end CommandMessage

end PacketReinjection
