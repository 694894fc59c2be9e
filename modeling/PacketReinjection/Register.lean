/-!
# `Register` — the hardware registers, block by block

Each register is a word at a fixed word offset of its block. Only the registers that re-injection
touches are named.

## Contents
- **`RouterRegister`**, **`CommsRegister`**, **`TimerRegister`**, **`VicRegister`**, each with `offset`.
-/

namespace PacketReinjection

/-- Registers of the packet router. -/
inductive RouterRegister where
  | control
  /-- A read clears the router's pending interrupts. -/
  | status
  | dumpHeader
  | dumpKey
  | dumpData
  /-- A read releases the latched packet and clears the dump interrupt. -/
  | dumpStatus
  deriving DecidableEq, Inhabited

/-- The word offset inside the router's block. -/
def RouterRegister.offset : RouterRegister → Nat
  | .control => 0
  | .status => 1
  | .dumpHeader => 6
  | .dumpKey => 7
  | .dumpData => 8
  | .dumpStatus => 10

/-- Registers of the comms controller, the node's transmitter. -/
inductive CommsRegister where
  | txControl
  | txData
  /-- A write fires the packet. -/
  | txKey
  | sourceAddress
  deriving DecidableEq, Inhabited

/-- The word offset inside the comms controller's block. -/
def CommsRegister.offset : CommsRegister → Nat
  | .txControl => 0
  | .txData => 1
  | .txKey => 2
  | .sourceAddress => 6

/-- Registers of the periodic timer. -/
inductive TimerRegister where
  | load
  | control
  | interruptClear
  | backgroundLoad
  deriving DecidableEq, Inhabited

/-- The word offset inside the timer's block. -/
def TimerRegister.offset : TimerRegister → Nat
  | .load => 0
  | .control => 2
  | .interruptClear => 3
  | .backgroundLoad => 6

/-- The timer's control word while it ticks: enabled, periodic, interrupting, 32 bits wide. -/
def TimerRegister.ticking : UInt32 := 0xe2

/-- Registers of the vectored interrupt controller. -/
inductive VicRegister where
  /-- Which lines raise the fast interrupt. -/
  | select
  /-- A write enables the lines of its one bits. -/
  | enable
  /-- A write disables the lines of its one bits. -/
  | disable
  /-- A write ends the interrupt in progress. -/
  | vectorAddress
  deriving DecidableEq, Inhabited

/-- The word offset inside the interrupt controller's block. -/
def VicRegister.offset : VicRegister → Nat
  | .select => 3
  | .enable => 4
  | .disable => 5
  | .vectorAddress => 12

end PacketReinjection
