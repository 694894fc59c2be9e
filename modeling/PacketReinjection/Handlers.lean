import PacketReinjection.Router.Monitor

/-!
# `Handlers` — the interrupt handlers

The dropped-packet handler is the fast interrupt's. Nothing preempts it, and it is the queue's only
producer.

Two standard handlers keep the transmitter-ready interrupt enabled exactly while there is something to
send and the router takes it. The timer tick arms it, since no interrupt says that the router is
unblocked; the transmitter-ready handler sends one packet per call and disarms itself when it cannot.
Both only set or clear the enable, so their order does not matter.

## Contents
- **The dropped packet.** `CaptureOutcome`, `keep`, `capture`: empty the dump registers and queue the
  packet if its class is enabled.
- **The timer tick.** `setTransmitterReady`, `armIfPending`, `timerTick`; the tick gives whether it armed.
- **The transmitter.** `DrainOutcome`, `transmit`, `drainOne`, `transmitterReady`: sending one packet.
- **Interrupt lines.** `HandlerOutcome` and `dispatch`: run the handler of a line.
-/

namespace PacketReinjection

open Routine

/-! ## The dropped packet -/

/-- What became of a dumped packet. -/
inductive CaptureOutcome where
  /-- Its class is disabled: discarded and counted nowhere, nor is a loss flagged with it. -/
  | filtered
  | queued
  /-- The queue was full: discarded and counted. -/
  | overflowed
  deriving DecidableEq, Inhabited

/-- Queue a packet that was read, given the dump status read beside it, if its class is enabled. -/
def keep (packet : DumpedPacket) (status : UInt32) : Routine CaptureOutcome := do
  if ← access (.isEnabled packet.packetClass) then
    if status &&& Router.dumpOverflowMask != 0 then
      access (.count .missedDropped)
    access (.count .dropped)
    if ← access (.enqueue packet) then
      return .queued
    else
      access (.count .queueOverflows)
      return .overflowed
  else
    return .filtered

/-- Read the latched packet, release the dump registers by reading their status last, and queue the
    packet. -/
def capture : Routine CaptureOutcome := do
  let header ← readRouter .dumpHeader
  let payload ← readRouter .dumpData
  let key ← readRouter .dumpKey
  let status ← readRouter .dumpStatus
  keep ⟨header, key, payload⟩ status

/-! ## The timer tick -/

/-- Arm or disarm the transmitter-ready interrupt. -/
def setTransmitterReady (armed : Bool) : Routine Unit :=
  writeVic (if armed then .enable else .disable) InterruptSource.transmitterReady.mask

/-- Arm the transmitter-ready interrupt if the router takes packets and one is queued. Gives whether
    it did. -/
def armIfPending : Routine Bool := do
  if ← Router.Monitor.isBlocked then
    return false
  else if ← withFastMasked (access .queueIsEmpty) then
    return false
  else
    setTransmitterReady true
    return true

/-- The timer's handler. Gives whether it armed the transmitter-ready interrupt. -/
def timerTick : Routine Bool := do
  writeTimer .interruptClear 1
  let armed ← armIfPending
  acknowledge
  return armed

/-! ## The transmitter -/

/-- What one transmitter-ready interrupt did. -/
inductive DrainOutcome where
  /-- The router is blocked: disarmed until the next tick. -/
  | blocked
  /-- Nothing is queued: disarmed. -/
  | idle
  | sent (packet : DumpedPacket)
  deriving DecidableEq, Inhabited

/-- Write a packet to the transmitter: control bits, route bits beside the node's source id, the
    payload if there is one, and the key, which fires it. -/
def transmit (packet : DumpedPacket) : Routine Unit := do
  writeComms .txControl packet.controlBits
  let source ← access .transmitSource
  writeComms .sourceAddress (source ||| packet.routeBits)
  if packet.hasPayload then
    writeComms .txData packet.payload
  writeComms .txKey packet.key

/-- Send the oldest packet, or disarm. The queue is touched with the fast interrupt masked, the
    transmitter is not. -/
def drainOne : Routine DrainOutcome := do
  if ← Router.Monitor.isBlocked then
    setTransmitterReady false
    return .blocked
  else
    match ← withFastMasked (access .dequeue) with
    | none =>
      setTransmitterReady false
      return .idle
    | some packet =>
      transmit packet
      access (.count .reinjected)
      return .sent packet

/-- The transmitter-ready handler. -/
def transmitterReady : Routine DrainOutcome := do
  let outcome ← drainOne
  acknowledge
  return outcome

/-! ## Interrupt lines -/

/-- What the handler of an interrupt line did. -/
inductive HandlerOutcome where
  | captured (outcome : CaptureOutcome)
  | ticked (armed : Bool)
  | drained (outcome : DrainOutcome)
  /-- Commands are read from a mailbox, not by their interrupt. -/
  | deferred
  deriving DecidableEq, Inhabited

/-- Run the handler of a line. -/
def dispatch : InterruptSource → Routine HandlerOutcome
  | .droppedPacket => return .captured (← capture)
  | .timerTick => return .ticked (← timerTick)
  | .transmitterReady => return .drained (← transmitterReady)
  | .command => return .deferred

end PacketReinjection
