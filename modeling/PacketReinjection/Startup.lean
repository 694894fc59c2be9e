import PacketReinjection.Router.Monitor

/-!
# `Startup` — bringing the node up and down

## Contents
- **`start`** — configure timer, transmitter and router, clear the statistics, install the handlers
  and enable the standing interrupts.
- **`shutdown`** — disable every interrupt that `start` owns and end the idle loop.
-/

namespace PacketReinjection

open Routine

/-- The product of two words, or the largest word where the product does not fit. -/
def saturatingMul (a b : UInt32) : UInt32 :=
  if a.toNat * b.toNat < UInt32.size then a * b else 0xffffffff

/-- Stop the timer and load its period, in processor clocks. -/
def configureTimer (config : EngineConfig) : Routine Unit := do
  let clock ← readClock
  let load := saturatingMul clock config.tickMicroseconds
  writeTimer .control 0
  writeTimer .interruptClear 1
  writeTimer .load load
  writeTimer .backgroundLoad load

/-- The low half of the source address register: the node's source id. -/
def sourceIdMask : UInt32 := 0x0000ffff

/-- Remember the node's source id. -/
def configureTransmitter : Routine Unit := do
  let address ← readComms .sourceAddress
  access (.setTransmitSource (address &&& sourceIdMask))

/-- Disable the standing interrupts and the transmitter-ready interrupt. -/
def disableInterrupts : Routine Unit := do
  writeVic .disable InterruptSource.standingMask
  writeVic .disable InterruptSource.transmitterReady.mask

/-- Bring the node up. The queue and the running flag stay as they are. -/
def start : Routine Unit := do
  let config ← access .config
  configureTimer config
  configureTransmitter
  Router.Monitor.configure config.primaryWait config.emergencyWait
  access .resetStatistics
  access (.setClassMask config.classMask)
  disableInterrupts
  bindInterrupt .command
  bindInterrupt .transmitterReady
  bindInterrupt .timerTick
  bindInterrupt .droppedPacket
  writeVic .enable InterruptSource.standingMask
  writeTimer .control TimerRegister.ticking
  log (.started config)

/-- Take the node down. Queued packets are abandoned. -/
def shutdown : Routine Unit := do
  disableInterrupts
  writeVic .select 0
  access .stop
  let queued ← access .queueLength
  log (.exiting queued)

end PacketReinjection
