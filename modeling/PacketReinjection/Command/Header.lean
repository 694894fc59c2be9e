import PacketReinjection.ControlError
import PacketReinjection.LittleEndian

/-!
# `Command.Header` — the addressing header of a message

Eight bytes: flags, tag, destination port and core, source port and core, destination chip, source
chip. Port 0 carries control messages.

## Contents
- **`MessageHeader`** — the fields, with `destinationPort`, `toCore` and `swapped`.
- **Bytes.** `encode` and `decode`.
-/

namespace PacketReinjection

/-- The bytes of a message header. -/
def headerLength : Nat := 8

/-- The addressing header of a message. -/
structure MessageHeader where
  flags : UInt8
  tag : UInt8
  /-- Port in the high three bits, core in the low five. -/
  destinationPortCore : UInt8
  /-- Port in the high three bits, core in the low five. -/
  sourcePortCore : UInt8
  /-- The chip: x in the high byte, y in the low byte. -/
  destinationChip : UInt16
  /-- The chip: x in the high byte, y in the low byte. -/
  sourceChip : UInt16
  deriving DecidableEq, Inhabited

namespace MessageHeader

/-- The flags of a message that expects a reply. -/
def replyExpected : UInt8 := 0x87

/-- The header of a message from the host to the control port of a core. -/
def toCore (x y core : UInt8) : MessageHeader where
  flags := replyExpected
  tag := 0xff
  destinationPortCore := core &&& 0x1f
  sourcePortCore := 0xff
  destinationChip := (x.toUInt16 <<< 8) ||| y.toUInt16
  sourceChip := 0

/-- The port that the message is for. -/
def destinationPort (h : MessageHeader) : UInt8 := (h.destinationPortCore &&& 0xe0) >>> 5

/-- The header of the answer: source and destination exchanged. -/
def swapped (h : MessageHeader) : MessageHeader where
  flags := h.flags
  tag := h.tag
  destinationPortCore := h.sourcePortCore
  sourcePortCore := h.destinationPortCore
  destinationChip := h.sourceChip
  sourceChip := h.destinationChip

theorem swapped_swapped (h : MessageHeader) : h.swapped.swapped = h := rfl

/-- The header as bytes. -/
def encode (h : MessageHeader) : List UInt8 :=
  [h.flags, h.tag, h.destinationPortCore, h.sourcePortCore]
    ++ LittleEndian.bytes16 h.destinationChip ++ LittleEndian.bytes16 h.sourceChip

theorem length_encode (h : MessageHeader) : h.encode.length = headerLength := rfl

/-- The header at the front of a byte string. -/
def decode : List UInt8 → Except ControlError MessageHeader
  | flags :: tag :: destinationPortCore :: sourcePortCore :: d₀ :: d₁ :: s₀ :: s₁ :: _ =>
    .ok { flags, tag, destinationPortCore, sourcePortCore,
          destinationChip := LittleEndian.word16 d₀ d₁, sourceChip := LittleEndian.word16 s₀ s₁ }
  | bytes => .error (.truncated bytes.length)

end MessageHeader

end PacketReinjection
