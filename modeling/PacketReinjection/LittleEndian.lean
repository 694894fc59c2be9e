/-!
# `LittleEndian` — words as bytes, least significant byte first

## Contents
- **Writing.** `bytes16`, `bytes32`.
- **Reading.** `word16`, `word32` join bytes; `word16At`, `word32At` read at an offset of a byte
  string and give zero where the string ends too early.
-/

namespace PacketReinjection.LittleEndian

/-- The two bytes of a 16-bit word. -/
def bytes16 (w : UInt16) : List UInt8 :=
  [w.toUInt8, (w >>> 8).toUInt8]

/-- The four bytes of a 32-bit word. -/
def bytes32 (w : UInt32) : List UInt8 :=
  [w.toUInt8, (w >>> 8).toUInt8, (w >>> 16).toUInt8, (w >>> 24).toUInt8]

/-- The 16-bit word of two bytes. -/
def word16 (b₀ b₁ : UInt8) : UInt16 :=
  b₀.toUInt16 ||| (b₁.toUInt16 <<< 8)

/-- The 32-bit word of four bytes. -/
def word32 (b₀ b₁ b₂ b₃ : UInt8) : UInt32 :=
  b₀.toUInt32 ||| (b₁.toUInt32 <<< 8) ||| (b₂.toUInt32 <<< 16) ||| (b₃.toUInt32 <<< 24)

/-- The 16-bit word at an offset; zero unless both of its bytes are there. -/
def word16At (bytes : List UInt8) (offset : Nat) : UInt16 :=
  match bytes.drop offset with
  | b₀ :: b₁ :: _ => word16 b₀ b₁
  | _ => 0

/-- The 32-bit word at an offset; zero unless all of its bytes are there. -/
def word32At (bytes : List UInt8) (offset : Nat) : UInt32 :=
  match bytes.drop offset with
  | b₀ :: b₁ :: b₂ :: b₃ :: _ => word32 b₀ b₁ b₂ b₃
  | _ => 0

theorem length_bytes16 (w : UInt16) : (bytes16 w).length = 2 := rfl

theorem length_bytes32 (w : UInt32) : (bytes32 w).length = 4 := rfl

end PacketReinjection.LittleEndian
