/-!
# `Packet` — dumped packets and their classes

A packet that the router gave up on is latched in its dump registers as three words: the header, the
routing key and a payload that counts only when the header says so. The header's bit fields are all
that re-injection looks at.

## Contents
- **Header layout.** `Header.controlMask`, `Header.payloadMask`, `Header.classMask`, `Header.routeMask`.
- **`PacketClass`** — the four classes, numbered by the class field of the header (`code`), with their
  bit in a class mask (`maskBit`) and their two-letter tag.
- **Words as text.** `Text.Hexadecimal.padded`, `Text.Hexadecimal.word`.
- **`DumpedPacket`** — the latched words, with the parts that the transmitter needs.
-/

namespace PacketReinjection

/-! ## Header layout -/

namespace Header

/-- Header bits that go into the transmitter's control register: bits 16 to 23. -/
def controlMask : UInt32 := 0x00ff0000

/-- The header bit that announces a payload: bit 17. -/
def payloadMask : UInt32 := 0x00020000

/-- Position of the class field. -/
def classShift : UInt32 := 22

/-- The class field: bits 22 and 23. -/
def classMask : UInt32 := 0x00c00000

/-- The route field: bits 24 to 26. -/
def routeMask : UInt32 := 0x07000000

end Header

/-! ## Packet classes -/

/-- The classes of packets that the router tells apart. -/
inductive PacketClass where
  | multicast
  | pointToPoint
  | nearestNeighbour
  | fixedRoute
  deriving DecidableEq, Inhabited

namespace PacketClass

/-- The classes in the order of their codes. -/
def all : List PacketClass := [multicast, pointToPoint, nearestNeighbour, fixedRoute]

/-- The value of the header's class field. -/
def code : PacketClass → UInt32
  | multicast => 0
  | pointToPoint => 1
  | nearestNeighbour => 2
  | fixedRoute => 3

/-- The largest code of a class. -/
def maxCode : UInt32 := 3

/-- The class with a given code; codes above `maxCode` name none. -/
def ofCode? : UInt32 → Option PacketClass
  | 0 => some multicast
  | 1 => some pointToPoint
  | 2 => some nearestNeighbour
  | 3 => some fixedRoute
  | _ => none

/-- The class of a packet, read off its header. Every header has one: the field has two bits. -/
def ofHeader (header : UInt32) : PacketClass :=
  match (header &&& Header.classMask) >>> Header.classShift with
  | 0 => multicast
  | 1 => pointToPoint
  | 2 => nearestNeighbour
  | _ => fixedRoute

/-- The bit of a class in a class mask. -/
def maskBit : PacketClass → UInt32
  | multicast => 1
  | pointToPoint => 2
  | nearestNeighbour => 4
  | fixedRoute => 8

/-- The class mask that names all four classes. -/
def fullMask : UInt32 := 0xf

/-- The two-letter tag of a class. -/
def tag : PacketClass → String
  | multicast => "MC"
  | pointToPoint => "PP"
  | nearestNeighbour => "NN"
  | fixedRoute => "FR"

theorem maskBit_eq_shift (c : PacketClass) : c.maskBit = 1 <<< c.code := by
  cases c <;> rfl

theorem ofCode?_code (c : PacketClass) : ofCode? c.code = some c := by
  cases c <;> rfl

end PacketClass

/-! ## Words as text -/

namespace Text.Hexadecimal

/-- The lower-case hexadecimal digits of `n`, filled with zeros on the left to at least `width` digits. -/
def padded (width n : Nat) : String :=
  let digits := Nat.toDigits 16 n
  String.ofList (List.replicate (width - digits.length) '0' ++ digits)

/-- A 32-bit word as `0x` and eight digits. -/
def word (w : UInt32) : String :=
  "0x" ++ padded 8 w.toNat

end Text.Hexadecimal

/-! ## Dumped packets -/

/-- The three words of a packet in the router's dump registers. -/
structure DumpedPacket where
  header : UInt32
  key : UInt32
  /-- Meaningful only when the header announces a payload. -/
  payload : UInt32
  deriving DecidableEq, Inhabited

namespace DumpedPacket

/-- The packet of three zero words, with which every slot of a queue starts. -/
def blank : DumpedPacket := ⟨0, 0, 0⟩

/-- The class of the packet. -/
def packetClass (p : DumpedPacket) : PacketClass := PacketClass.ofHeader p.header

/-- Whether the header announces a payload. -/
def hasPayload (p : DumpedPacket) : Bool := p.header &&& Header.payloadMask != 0

/-- The value for the transmitter's control register. -/
def controlBits (p : DumpedPacket) : UInt32 := p.header &&& Header.controlMask

/-- The route bits, joined to the node's source id on re-injection. -/
def routeBits (p : DumpedPacket) : UInt32 := p.header &&& Header.routeMask

/-- One line for people: class, header and key, and the payload if there is one. -/
def render (p : DumpedPacket) : String :=
  "Type: " ++ p.packetClass.tag
    ++ ", Header: " ++ Text.Hexadecimal.word p.header
    ++ ", Key: " ++ Text.Hexadecimal.word p.key
    ++ (if p.hasPayload then ", Payload: " ++ Text.Hexadecimal.word p.payload else "")

end DumpedPacket

end PacketReinjection
