import PacketReinjection.Packet
import PacketReinjection.Platform
import PacketReinjection.Router.Control

/-!
# `Simulation.Hardware` — a simulated node

A register file that behaves like the hardware where the engine can tell: the router latches one
dumped packet at most and flags further ones as lost, reading the dump status releases the latch, and
writing the transmit key fires a packet. The transmitter is always ready.

## Contents
- **`TransmittedPacket`** — a packet as it left the transmitter.
- **`Simulation`** — the register file, a `Platform`.
- **Counters.** `Simulation.lostDumps`, `acknowledged`, `maskedSections`, `idleWaits`, as numbers.
- **The outside world.** `Simulation.injectDump`, `Simulation.setBlocked`.
-/

namespace PacketReinjection

/-! ## Transmitted packets -/

/-- A packet as it left the transmitter. -/
structure TransmittedPacket where
  control : UInt32
  sourceAddress : UInt32
  payload : Option UInt32
  key : UInt32
  deriving DecidableEq

/-- The packet as a router would dump it: of the header, control and route bits only. -/
def TransmittedPacket.asDumped (p : TransmittedPacket) : DumpedPacket :=
  ⟨p.control ||| (p.sourceAddress &&& Header.routeMask), p.key, p.payload.getD 0⟩

/-! ## The register file -/

/-- The simulated timer's registers. -/
structure SimulatedTimer where
  load : UInt32
  control : UInt32
  interruptClear : UInt32
  backgroundLoad : UInt32
  deriving DecidableEq, Inhabited

/-- The value of a timer register. -/
def SimulatedTimer.get (t : SimulatedTimer) : TimerRegister → UInt32
  | .load => t.load
  | .control => t.control
  | .interruptClear => t.interruptClear
  | .backgroundLoad => t.backgroundLoad

/-- Write a timer register. -/
def SimulatedTimer.set (t : SimulatedTimer) (r : TimerRegister) (value : UInt32) : SimulatedTimer :=
  match r with
  | .load => { t with load := value }
  | .control => { t with control := value }
  | .interruptClear => { t with interruptClear := value }
  | .backgroundLoad => { t with backgroundLoad := value }

/-- The state of a simulated node's hardware. -/
structure Simulation where
  clockMegahertz : UInt32
  routerControl : UInt32
  routerStatus : UInt32
  /-- The latched packet. -/
  dump : Option DumpedPacket
  /-- A packet was lost while one was latched. -/
  dumpOverflow : Bool
  /-- Counts the packets that were lost that way. -/
  lossCounter : UInt32
  txControl : UInt32
  /-- A payload written since the last packet left. -/
  txData : Option UInt32
  sourceAddress : UInt32
  /-- The packets sent, oldest first. -/
  transmitted : List TransmittedPacket
  timer : SimulatedTimer
  vicEnabled : UInt32
  vicSelect : UInt32
  /-- Counts the interrupts that were ended. -/
  endCounter : UInt32
  /-- The handlers installed, oldest first. -/
  bindings : List (InterruptSource × Priority)
  fastMasked : Bool
  /-- Counts how often the fast interrupt was masked. -/
  sectionCounter : UInt32
  waitCounter : UInt32
  deriving DecidableEq

namespace Simulation

/-- The simulated processor clock unless told otherwise. -/
def standardClock : UInt32 := 200

/-- A node with every register zero. -/
def fresh : Simulation where
  clockMegahertz := standardClock
  routerControl := 0
  routerStatus := 0
  dump := none
  dumpOverflow := false
  lossCounter := 0
  txControl := 0
  txData := none
  sourceAddress := 0
  transmitted := []
  timer := ⟨0, 0, 0, 0⟩
  vicEnabled := 0
  vicSelect := 0
  endCounter := 0
  bindings := []
  fastMasked := false
  sectionCounter := 0
  waitCounter := 0

/-- Whether a line is enabled at the interrupt controller. -/
def interruptEnabled (s : Simulation) (source : InterruptSource) : Bool :=
  s.vicEnabled &&& source.mask != 0

/-! ## Counters -/

/-- How many packets were lost while one was latched. -/
def lostDumps (s : Simulation) : Nat := s.lossCounter.toNat

/-- How many interrupts were ended. -/
def acknowledged (s : Simulation) : Nat := s.endCounter.toNat

/-- How many times the fast interrupt was masked. -/
def maskedSections (s : Simulation) : Nat := s.sectionCounter.toNat

/-- How many times an interrupt was waited for. -/
def idleWaits (s : Simulation) : Nat := s.waitCounter.toNat

/-! ## The outside world -/

/-- The router dumps a packet. It is lost if one is latched already; gives whether it was latched. -/
def injectDump (s : Simulation) (p : DumpedPacket) : Bool × Simulation :=
  match s.dump with
  | some _ => (false, { s with dumpOverflow := true, lossCounter := s.lossCounter + 1 })
  | none => (true, { s with dump := some p })

/-- The router starts or stops taking packets from the transmitter. -/
def setBlocked (s : Simulation) (blocked : Bool) : Simulation :=
  { s with routerStatus :=
      if blocked then s.routerStatus ||| Router.blockedMask
      else s.routerStatus &&& ~~~Router.blockedMask }

/-! ## Answering calls -/

/-- A read of a router register. Only the dump status changes by being read. -/
def readRouter (s : Simulation) : RouterRegister → UInt32 × Simulation
  | .control => (s.routerControl, s)
  | .status => (s.routerStatus, s)
  | .dumpHeader => ((s.dump.map (·.header)).getD 0, s)
  | .dumpKey => ((s.dump.map (·.key)).getD 0, s)
  | .dumpData => ((s.dump.map (·.payload)).getD 0, s)
  | .dumpStatus =>
    (if s.dumpOverflow then Router.dumpOverflowMask else 0,
      { s with dump := none, dumpOverflow := false })

/-- A write of a router register. Only the control register can be written. -/
def writeRouter (s : Simulation) (r : RouterRegister) (value : UInt32) : Simulation :=
  match r with
  | .control => { s with routerControl := value }
  | .status | .dumpHeader | .dumpKey | .dumpData | .dumpStatus => s

/-- A read of a register of the comms controller. -/
def readComms (s : Simulation) : CommsRegister → UInt32
  | .txControl => s.txControl
  | .txData => s.txData.getD 0
  | .txKey => 0
  | .sourceAddress => s.sourceAddress

/-- A write of a register of the comms controller. The key fires a packet, which uses up the
    payload. -/
def writeComms (s : Simulation) (r : CommsRegister) (value : UInt32) : Simulation :=
  match r with
  | .txControl => { s with txControl := value }
  | .txData => { s with txData := some value }
  | .sourceAddress => { s with sourceAddress := value }
  | .txKey =>
    { s with txData := none,
             transmitted := s.transmitted ++ [⟨s.txControl, s.sourceAddress, s.txData, value⟩] }

/-- A write of a register of the interrupt controller. -/
def writeVic (s : Simulation) (r : VicRegister) (value : UInt32) : Simulation :=
  match r with
  | .select => { s with vicSelect := value }
  | .enable => { s with vicEnabled := s.vicEnabled ||| value }
  | .disable => { s with vicEnabled := s.vicEnabled &&& ~~~value }
  | .vectorAddress => { s with endCounter := s.endCounter + 1 }

/-- Install a handler; the fast one is also selected at the interrupt controller. -/
def bindInterrupt (s : Simulation) (source : InterruptSource) : Simulation :=
  { s with
    vicSelect := if source.priority = .fast then s.vicSelect ||| source.mask else s.vicSelect
    bindings := s.bindings ++ [(source, source.priority)] }

/-- The answer to a call and the state after it. -/
def answer : (c : Call) → Simulation → c.Answer × Simulation
  | .readRouter r, s => s.readRouter r
  | .writeRouter r value, s => ((), s.writeRouter r value)
  | .readComms r, s => (s.readComms r, s)
  | .writeComms r value, s => ((), s.writeComms r value)
  | .writeTimer r value, s => ((), { s with timer := s.timer.set r value })
  | .writeVic r value, s => ((), s.writeVic r value)
  | .maskFast, s =>
    (if s.fastMasked then 1 else 0,
      { s with fastMasked := true, sectionCounter := s.sectionCounter + 1 })
  | .restoreFast saved, s => ((), { s with fastMasked := saved != 0 })
  | .readClock, s => (s.clockMegahertz, s)
  | .bind source, s => ((), s.bindInterrupt source)
  | .wait, s => ((), { s with waitCounter := s.waitCounter + 1 })

instance : Platform Simulation := ⟨answer⟩

end Simulation

end PacketReinjection
