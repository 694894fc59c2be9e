import PacketReinjection.ControlError

/-!
# `Router.Timeout` — the two halves of a wait field

A wait field is a mantissa in its low four bits and an exponent in its high four bits.

## Contents
- **`RouterTimeout`** — the two parts; `ofParts` refuses parts that do not fit, `ofField` and `field`
  convert from and to the 8-bit field.
-/

namespace PacketReinjection

/-- A wait field in two parts. -/
structure RouterTimeout where
  mantissa : UInt8
  exponent : UInt8
  deriving DecidableEq, Inhabited

namespace RouterTimeout

/-- The largest mantissa and the largest exponent. -/
def maxPart : UInt8 := 0xf

/-- A timeout from parts of four bits each; the mantissa is looked at first. -/
def ofParts (mantissa exponent : UInt8) : Except ControlError RouterTimeout :=
  if mantissa > maxPart then
    .error (.argumentOutOfRange mantissa.toUInt32 maxPart.toUInt32)
  else if exponent > maxPart then
    .error (.argumentOutOfRange exponent.toUInt32 maxPart.toUInt32)
  else
    .ok ⟨mantissa, exponent⟩

/-- The two parts of a wait field. -/
def ofField (field : UInt8) : RouterTimeout :=
  ⟨field &&& maxPart, field >>> 4⟩

/-- The wait field; of parts that are too large the low four bits count. -/
def field (t : RouterTimeout) : UInt8 :=
  (t.mantissa &&& maxPart) ||| ((t.exponent &&& maxPart) <<< 4)

end RouterTimeout

end PacketReinjection
