import PacketReinjection.Handlers
import PacketReinjection.Simulation.Hardware

/-!
# `Simulation.Service` — delivering the interrupts of a simulated node

## Contents
- **`servicePending`** — what the simulated hardware has raised: a latched dump first, then
  transmitter-ready for as long as it stays enabled.
- **`tick`** — one timer tick and everything it unblocks.
-/

namespace PacketReinjection.Simulation

/-- Run the transmitter-ready handler while its interrupt is enabled, `budget` times at most. -/
def drainWhileEnabled : Nat → Node Simulation → List HandlerOutcome × Node Simulation
  | 0, n => ([], n)
  | budget + 1, n =>
    if n.hardware.interruptEnabled .transmitterReady then
      let r := (dispatch .transmitterReady).run n
      let later := drainWhileEnabled budget r.2
      (r.1 :: later.1, later.2)
    else
      ([], n)

/-- Run the capture handler if a dump is latched and its interrupt enabled. -/
def captureLatched (n : Node Simulation) : List HandlerOutcome × Node Simulation :=
  if n.hardware.dump.isSome && n.hardware.interruptEnabled .droppedPacket then
    let r := (dispatch .droppedPacket).run n
    ([r.1], r.2)
  else
    ([], n)

/-- Deliver whatever interrupts the hardware has raised. Each call of the transmitter-ready handler
    sends a packet or disarms itself, so one call more than there are packets is enough. -/
def servicePending (n : Node Simulation) : List HandlerOutcome × Node Simulation :=
  let captured := captureLatched n
  let drained := drainWhileEnabled (captured.2.engine.queue.length + 1) captured.2
  (captured.1 ++ drained.1, drained.2)

/-- One timer tick followed by everything it unblocks. -/
def tick (n : Node Simulation) : List HandlerOutcome × Node Simulation :=
  let ticked := (dispatch .timerTick).run n
  let serviced := servicePending ticked.2
  (ticked.1 :: serviced.1, serviced.2)

end PacketReinjection.Simulation
