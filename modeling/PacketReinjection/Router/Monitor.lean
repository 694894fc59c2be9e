import PacketReinjection.Routine

/-!
# `Router.Monitor` — the blocked flag and the wait fields

Routines over the router's registers only; none of them touches the engine's memory.

## Contents
- **Reading.** `isBlocked`, `waitOf`.
- **Writing.** `setWait` replaces one wait field and refuses values that do not fit before it touches
  the hardware; `configure` is the router's part of start-up.
-/

namespace PacketReinjection.Router.Monitor

open Routine

/-- Whether the router cannot take packets from the transmitter. -/
def isBlocked : Routine Bool := do
  let status ← readRouter .status
  return status &&& blockedMask != 0

/-- The present value of a wait field. -/
def waitOf (f : WaitField) : Routine UInt8 := do
  let control ← readRouter .control
  return f.extract control

/-- Replace one wait field and keep every other bit of the control register. -/
def setWait (f : WaitField) (value : UInt32) : Routine (Except ControlError Unit) := do
  if value > WaitField.maxValue then
    return .error (.argumentOutOfRange value WaitField.maxValue)
  else
    let control ← readRouter .control
    writeRouter .control (f.replace control value)
    return .ok ()

/-- The two wait fields of a control word, its low half zero. -/
def waitBits (primary emergency : UInt8) : UInt32 :=
  (primary.toUInt32 <<< WaitField.primary.shift)
    ||| (emergency.toUInt32 <<< WaitField.emergency.shift)

/-- Write both wait fields, clear what the router has pending, and enable dump interrupts. The low
    half of the control register keeps its other bits. -/
def configure (primary emergency : UInt8) : Routine Unit := do
  let control ← readRouter .control
  writeRouter .control ((control &&& preservedMask) ||| waitBits primary emergency)
  let _ ← readRouter .status
  let _ ← readRouter .dumpStatus
  let control ← readRouter .control
  writeRouter .control (control ||| dumpEnableMask)

end PacketReinjection.Router.Monitor
