/-!
# `Interrupt` — the interrupt lines that re-injection owns or answers

## Contents
- **`InterruptSource`** — the four lines, with their number at the vectored interrupt controller
  (`line`), their bit in its masks (`mask`) and their `priority`.
- **`Priority`** — the one fast interrupt, or a slot of the controller.
-/

namespace PacketReinjection

/-- How an interrupt is delivered. -/
inductive Priority where
  /-- The fast interrupt: it preempts every other handler. -/
  | fast
  /-- A vectored interrupt in a slot of the controller. -/
  | standard (slot : Nat)
  deriving DecidableEq

/-- The lines for which handlers are installed. -/
inductive InterruptSource where
  /-- The router latched a dumped packet. -/
  | droppedPacket
  /-- The periodic timer ticked. -/
  | timerTick
  /-- The transmitter can take a packet. -/
  | transmitterReady
  /-- A message from the monitor processor arrived. -/
  | command
  deriving DecidableEq, Inhabited

namespace InterruptSource

/-- The line's number at the interrupt controller. -/
def line : InterruptSource → UInt32
  | droppedPacket => 17
  | timerTick => 4
  | transmitterReady => 12
  | command => 19

/-- The line's bit in the controller's masks. -/
def mask (s : InterruptSource) : UInt32 := 1 <<< s.line

/-- Dropped packets take the fast interrupt; the other lines take one slot each. -/
def priority : InterruptSource → Priority
  | droppedPacket => .fast
  | timerTick => .standard 2
  | transmitterReady => .standard 1
  | command => .standard 0

/-- The two lines that stay enabled from start-up to exit: the timer and dropped packets. -/
def standingMask : UInt32 := timerTick.mask ||| droppedPacket.mask

end InterruptSource

end PacketReinjection
