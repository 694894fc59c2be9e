import PacketReinjection.ClassFilter
import PacketReinjection.Queue.Ring
import PacketReinjection.Router.Control
import PacketReinjection.Statistics

/-!
# `Engine` — the memory of the re-injection engine

Everything that the handlers share, apart from the hardware: configuration, queue, counters, filter,
the running flag and the node's source id. Handlers reach it through single accesses, so that one
handler may run between two accesses of another.

## Contents
- **`EngineConfig`** — the values applied at start-up.
- **`Engine`** — the memory; `Engine.fresh` is its state before start-up.
- **`Access`** — the accesses, with the type of what they give (`Access.Result`) and their effect
  (`Access.apply`).
-/

namespace PacketReinjection

/-! ## Configuration -/

/-- The values applied at start-up. -/
structure EngineConfig where
  primaryWait : UInt8
  emergencyWait : UInt8
  /-- The class mask in force until a command changes it. -/
  classMask : UInt32
  /-- The period of the timer tick in microseconds. -/
  tickMicroseconds : UInt32
  deriving DecidableEq, Inhabited

/-- The slots of the packet queue; one of them always stays free. -/
def queueSlots : Nat := 256

/-- The period of the timer tick unless told otherwise. -/
def standardTick : UInt32 := 10

/-- The wait fields of `Router.initialControl`, multicast packets only, and the standard tick. -/
def EngineConfig.standard : EngineConfig where
  primaryWait := Router.WaitField.primary.extract Router.initialControl
  emergencyWait := Router.WaitField.emergency.extract Router.initialControl
  classMask := PacketClass.multicast.maskBit
  tickMicroseconds := standardTick

/-! ## Memory -/

/-- The queue of captured packets. -/
abbrev PacketQueue := RingQueue DumpedPacket queueSlots

/-- The empty queue. -/
def PacketQueue.empty : PacketQueue :=
  RingQueue.empty DumpedPacket.blank queueSlots (by decide)

/-- The memory of the engine. -/
structure Engine where
  config : EngineConfig
  queue : PacketQueue
  statistics : Statistics
  filter : ClassFilter
  /-- Cleared by the exit command and never set again. -/
  running : Bool
  /-- The node's 16-bit source id, joined to the route bits of every packet sent. -/
  transmitSource : UInt32
  deriving DecidableEq

/-- An engine that has not touched the hardware yet. -/
def Engine.fresh (config : EngineConfig) : Engine where
  config := config
  queue := PacketQueue.empty
  statistics := Statistics.zero
  filter := ClassFilter.ofMask config.classMask
  running := true
  transmitSource := 0

/-! ## Accesses -/

/-- One access to the engine's memory. -/
inductive Access where
  | config
  | isEnabled (c : PacketClass)
  | classMask
  | setClassMask (mask : UInt32)
  | count (c : Counter)
  | statistics
  | resetStatistics
  | enqueue (p : DumpedPacket)
  | dequeue
  | queueIsEmpty
  | queueLength
  | transmitSource
  | setTransmitSource (source : UInt32)
  | isRunning
  | stop
  deriving DecidableEq

/-- The type of what an access gives. -/
@[reducible]
def Access.Result : Access → Type
  | .config => EngineConfig
  | .isEnabled _ | .enqueue _ | .queueIsEmpty | .isRunning => Bool
  | .classMask | .transmitSource => UInt32
  | .statistics => Statistics
  | .dequeue => Option DumpedPacket
  | .queueLength => Nat
  | .setClassMask _ | .count _ | .resetStatistics | .setTransmitSource _ | .stop => Unit

/-- What an access gives, and the memory after it. -/
def Access.apply : (a : Access) → Engine → a.Result × Engine
  | .config, e => (e.config, e)
  | .isEnabled c, e => (e.filter.isEnabled c, e)
  | .classMask, e => (e.filter.mask, e)
  | .setClassMask mask, e => ((), { e with filter := ClassFilter.ofMask mask })
  | .count c, e => ((), { e with statistics := e.statistics.count c })
  | .statistics, e => (e.statistics, e)
  | .resetStatistics, e => ((), { e with statistics := Statistics.zero })
  | .enqueue p, e => let r := e.queue.enqueue p; (r.1, { e with queue := r.2 })
  | .dequeue, e => let r := e.queue.dequeue; (r.1, { e with queue := r.2 })
  | .queueIsEmpty, e => (e.queue.isEmpty, e)
  | .queueLength, e => (e.queue.length, e)
  | .transmitSource, e => (e.transmitSource, e)
  | .setTransmitSource source, e => ((), { e with transmitSource := source })
  | .isRunning, e => (e.running, e)
  | .stop, e => ((), { e with running := false })

end PacketReinjection
