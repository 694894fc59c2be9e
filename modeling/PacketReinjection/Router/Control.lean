/-!
# `Router.Control` — bit fields of the router's registers

## Contents
- **Flags.** `blockedMask` of the status register, `dumpOverflowMask` of the dump status register,
  `dumpEnableMask` of the control register.
- **`WaitField`** — the two 8-bit wait fields of the control register, with `extract` and `replace`.
-/

namespace PacketReinjection.Router

/-! ## Flags -/

/-- Status bit: the router cannot take packets from the transmitter. -/
def blockedMask : UInt32 := 0x02000000

/-- Dump status bit: a further packet was lost while one was latched. -/
def dumpOverflowMask : UInt32 := 0x40000000

/-- Control bit: a dumped packet raises an interrupt. -/
def dumpEnableMask : UInt32 := 0x00000004

/-- The half of the control register that is never configured. -/
def preservedMask : UInt32 := 0x0000ffff

/-- The wait fields of a control word as they are set at start-up unless told otherwise. -/
def initialControl : UInt32 := 0x004f0000

/-! ## Wait fields -/

/-- The two wait fields of the control register. -/
inductive WaitField where
  /-- How long the router waits before it tries emergency routing. -/
  | primary
  /-- How long it then tries before it dumps the packet. -/
  | emergency
  deriving DecidableEq, Inhabited

namespace WaitField

/-- The position of a field in the control word. -/
def shift : WaitField → UInt32
  | primary => 16
  | emergency => 24

/-- The bits of a field in the control word. -/
def mask : WaitField → UInt32
  | primary => 0x00ff0000
  | emergency => 0xff000000

/-- The largest value of a field. -/
def maxValue : UInt32 := 0xff

/-- The value of a field in a control word. -/
def extract (f : WaitField) (control : UInt32) : UInt8 :=
  ((control &&& f.mask) >>> f.shift).toUInt8

/-- The control word with one field replaced and every other bit kept. -/
def replace (f : WaitField) (control value : UInt32) : UInt32 :=
  (control &&& ~~~f.mask) ||| ((value &&& maxValue) <<< f.shift)

end WaitField

end PacketReinjection.Router
