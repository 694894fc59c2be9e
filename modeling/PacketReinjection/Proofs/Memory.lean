import PacketReinjection.Command.Handler
import PacketReinjection.Handlers
import PacketReinjection.Proofs.Queue.Fifo
import PacketReinjection.Proofs.Routine.Trace

/-!
# `Proofs.Memory` — what each handler does to the engine's memory

One function on `Engine` for each thing that can happen to the memory, and one lemma for each handler
which says that the handler, on any hardware, does exactly that. Later proofs cite these lemmas and
never open a handler again.

## Contents
- **Effects.** `Engine.receive` (a captured packet), `Engine.sent` (a packet handed to the
  transmitter), `Engine.restarted`, `SubCommand.effect`.
- **Requests.** `CommandMessage.request?` and `frameRequest?`: what a message or frame asks for.
- **Handlers.** `run_capture`, `memory_timerTick`, `memory_transmitterReady`, `memory_start`,
  `memory_handleCommand`, `memory_handleFrame`.
-/

namespace PacketReinjection

/-! ## Effects -/

/-- The counters after a dumped packet of an enabled class, given the dump status read beside it. -/
def Statistics.received (s : Statistics) (status : UInt32) : Statistics :=
  (if status &&& Router.dumpOverflowMask != 0 then s.count .missedDropped else s).count .dropped

namespace Engine

/-- A captured packet arrives, with the dump status read beside it. -/
def receive (e : Engine) (p : DumpedPacket) (status : UInt32) : CaptureOutcome × Engine :=
  if e.filter.isEnabled p.packetClass then
    if (e.queue.enqueue p).1 then
      (.queued, { e with statistics := e.statistics.received status
                         queue := (e.queue.enqueue p).2 })
    else
      (.overflowed, { e with statistics := (e.statistics.received status).count .queueOverflows })
  else
    (.filtered, e)

/-- The oldest packet leaves for the transmitter. -/
def sent (e : Engine) : Engine :=
  { e with queue := e.queue.dequeue.2, statistics := e.statistics.count .reinjected }

/-- Start-up found the given source id. -/
def restarted (e : Engine) (source : UInt32) : Engine :=
  { e with statistics := Statistics.zero
           filter := ClassFilter.ofMask e.config.classMask
           transmitSource := source }

/-- **What can become of a packet.** It is filtered by its class, queued while there is room, and
    counted as an overflow otherwise. -/
theorem receive_cases (e : Engine) (p : DumpedPacket) (status : UInt32) :
    (e.filter.isEnabled p.packetClass = false ∧ e.receive p status = (.filtered, e))
      ∨ (e.filter.isEnabled p.packetClass = true ∧ e.queue.length ≠ 255
        ∧ e.receive p status =
            (.queued, { e with statistics := e.statistics.received status
                               queue := (e.queue.enqueue p).2 }))
      ∨ (e.filter.isEnabled p.packetClass = true ∧ e.queue.length = 255
        ∧ e.receive p status =
            (.overflowed,
              { e with statistics := (e.statistics.received status).count .queueOverflows })) := by
  unfold receive
  cases henabled : e.filter.isEnabled p.packetClass with
  | false => exact Or.inl ⟨rfl, if_neg (by simp)⟩
  | true =>
    right
    by_cases hfull : e.queue.length = 255
    · right
      have hrefused := RingQueue.enqueue_of_full hfull p
      exact ⟨rfl, hfull, by simp [hrefused]⟩
    · left
      have haccepted := RingQueue.enqueue_fst_of_room hfull p
      exact ⟨rfl, hfull, by simp [haccepted]⟩

end Engine

/-- What a request does to the memory. The wait fields are not in the memory but in the router. -/
def SubCommand.effect (value : UInt32) (e : Engine) : SubCommand → Engine
  | .setTimeout | .setEmergencyTimeout | .getStatus => e
  | .setPacketClasses => { e with filter := ClassFilter.ofMask value }
  | .resetCounters => { e with statistics := Statistics.zero }
  | .exit => { e with running := false }

/-! ## Requests -/

/-- The request of a message and its value, if the message is a control command that names one. -/
def CommandMessage.request? (m : CommandMessage) : Option (SubCommand × UInt32) :=
  if m.envelope.command = reinjectionCommand then
    (SubCommand.ofCode? m.argument₁).map fun sub => (sub, m.argument₂)
  else
    none

/-- The request of a frame and its value, if the frame is a complete control command. -/
def frameRequest? (bytes : List UInt8) : Option (SubCommand × UInt32) :=
  match CommandMessage.decode bytes with
  | .ok m => m.request?
  | .error _ => none

/-- The memory after a request, if there was one. -/
def Engine.afterRequest (e : Engine) : Option (SubCommand × UInt32) → Engine
  | some (sub, value) => sub.effect value e
  | none => e

/-- No request touches the queue. -/
theorem Engine.afterRequest_queue (e : Engine) (request : Option (SubCommand × UInt32)) :
    (e.afterRequest request).queue = e.queue := by
  cases request with
  | none => rfl
  | some request =>
    obtain ⟨sub, value⟩ := request
    cases sub <;> rfl

/-- Only a reset of the counters touches them. -/
theorem Engine.afterRequest_statistics (e : Engine) {request : Option (SubCommand × UInt32)}
    (h : (request.any fun r => r.1 = .resetCounters) = false) :
    (e.afterRequest request).statistics = e.statistics := by
  cases request with
  | none => rfl
  | some request =>
    obtain ⟨sub, value⟩ := request
    cases sub with
    | resetCounters => exact absurd h (by simp)
    | _ => rfl

/-! ## Handlers -/

section Handlers

variable {S : Type} [Platform S]

open Routine

/-- The latched packet, the dump status and the hardware afterwards, read in the capture's order. -/
def readDump (s : S) : DumpedPacket × UInt32 × S :=
  let header := Platform.call (.readRouter .dumpHeader) s
  let payload := Platform.call (.readRouter .dumpData) header.2
  let key := Platform.call (.readRouter .dumpKey) payload.2
  let status := Platform.call (.readRouter .dumpStatus) key.2
  (⟨header.1, key.1, payload.1⟩, status.1, status.2)

theorem run_keep (p : DumpedPacket) (status : UInt32) (n : Node S) :
    (keep p status).run n =
      ((n.engine.receive p status).1, { n with engine := (n.engine.receive p status).2 }) := by
  by_cases henabled : n.engine.filter.isEnabled p.packetClass = true
  · -- A refused packet leaves the ring as it was, which `receive` does not even mention.
    by_cases hroom : (n.engine.queue.enqueue p).1 = true
    · by_cases hflag : (status &&& Router.dumpOverflowMask != 0) = true <;>
        simp [keep, Engine.receive, Statistics.received, henabled, hflag, hroom]
    · have hsame := RingQueue.enqueue_snd_of_refused hroom
      by_cases hflag : (status &&& Router.dumpOverflowMask != 0) = true <;>
        simp [keep, Engine.receive, Statistics.received, henabled, hflag, hroom, hsame]
  · simp [keep, Engine.receive, henabled]

/-- **The capture, whole.** Four reads, and then the packet arrives in the memory. -/
theorem run_capture (n : Node S) :
    capture.run n =
      let d := readDump n.hardware
      let r := n.engine.receive d.1 d.2.1
      (r.1, ⟨d.2.2, r.2, n.events⟩) :=
  run_keep _ _ _

/-- The trace of a capture shows the packet that arrived. -/
theorem dumpedPacket_trace_capture (n : Node S) :
    dumpedPacket (capture.trace n) = some (readDump n.hardware).1 := rfl

/-- The trace of a capture shows the dump status that arrived with the packet. -/
theorem dumpStatus_trace_capture (n : Node S) :
    dumpStatus (capture.trace n) = some (readDump n.hardware).2.1 := rfl

/-- The tick looks at the queue and leaves the memory as it is. -/
theorem memory_timerTick (n : Node S) : (timerTick.run n).2.engine = n.engine := by
  cases hempty : n.engine.queue.isEmpty with
  | true =>
    simp [timerTick, armIfPending, Router.Monitor.isBlocked, withFastMasked, hempty]
    split <;> rfl
  | false =>
    simp [timerTick, armIfPending, Router.Monitor.isBlocked, withFastMasked, setTransmitterReady,
      hempty]
    split <;> rfl

/-- **The drain.** Either the oldest packet is sent and leaves the queue, or the memory stays. -/
theorem memory_transmitterReady (n : Node S) :
    (∃ p, (transmitterReady.run n).1 = .sent p ∧ n.engine.queue.dequeue.1 = some p
        ∧ (transmitterReady.run n).2.engine = n.engine.sent)
      ∨ (∀ p, (transmitterReady.run n).1 ≠ .sent p)
        ∧ (transmitterReady.run n).2.engine = n.engine := by
  cases hnext : n.engine.queue.dequeue.1 with
  | none =>
    have hsame := RingQueue.dequeue_snd_of_none hnext
    right
    simp [transmitterReady, drainOne, Router.Monitor.isBlocked, withFastMasked, setTransmitterReady,
      hnext, hsame]
    split <;> simp
  | some p =>
    simp [transmitterReady, drainOne, Router.Monitor.isBlocked, withFastMasked, setTransmitterReady,
      hnext, transmit]
    split
    · left
      split <;> simp [Engine.sent]
    · right
      simp

theorem memory_start (n : Node S) : ∃ source, (start.run n).2.engine = n.engine.restarted source := by
  exact ⟨_, rfl⟩

theorem memory_setWait (f : Router.WaitField) (value : UInt32) (n : Node S) :
    ((Router.Monitor.setWait f value).run n).2.engine = n.engine := by
  unfold Router.Monitor.setWait
  split <;> simp

theorem memory_perform (value : UInt32) (sub : SubCommand) (n : Node S) :
    ((perform value sub).run n).2.engine = sub.effect value n.engine := by
  cases sub with
  | setTimeout => simp [perform, run_bind, memory_setWait, SubCommand.effect]
  | setEmergencyTimeout => simp [perform, run_bind, memory_setWait, SubCommand.effect]
  | setPacketClasses => simp [perform, SubCommand.effect]
  | getStatus => simp [perform, reportStatus, Router.Monitor.waitOf, SubCommand.effect]
  | resetCounters => simp [perform, SubCommand.effect]
  | exit => simp [perform, shutdown, disableInterrupts, SubCommand.effect]

theorem memory_execute (m : CommandMessage) (n : Node S) :
    ((execute m).run n).2.engine = n.engine.afterRequest m.request? := by
  unfold execute CommandMessage.request?
  by_cases hcommand : m.envelope.command = reinjectionCommand
  · cases hsub : SubCommand.ofCode? m.argument₁ with
    | none => simp [hcommand, Engine.afterRequest]
    | some sub => simp [hcommand, Engine.afterRequest, memory_perform]
  · simp [hcommand, Engine.afterRequest]

theorem memory_handleCommand (m : CommandMessage) (n : Node S) :
    ((handleCommand m).run n).2.engine = n.engine.afterRequest m.request? := by
  rw [← memory_execute m n]
  simp only [handleCommand, run_bind]
  cases ((execute m).run n).1 with
  | ok reply => rfl
  | error error => rfl

theorem memory_handleAddressed (envelope : Envelope) (bytes : List UInt8) (n : Node S) :
    ((handleAddressed envelope bytes).run n).2.engine
      = n.engine.afterRequest (frameRequest? bytes) := by
  unfold handleAddressed frameRequest?
  cases CommandMessage.decode bytes with
  | ok m => exact memory_handleCommand m n
  | error error => rfl

/-- A frame without a readable envelope is no complete message either. -/
theorem frameRequest?_of_peek_error {bytes : List UInt8} {error : ControlError}
    (h : Envelope.peek bytes = .error error) : frameRequest? bytes = none := by
  simp [frameRequest?, CommandMessage.decode, h, bind, Except.bind]

theorem memory_handleFrame (bytes : List UInt8) (n : Node S) :
    ((handleFrame bytes).run n).2.engine =
      n.engine.afterRequest (if n.engine.running then frameRequest? bytes else none) := by
  unfold handleFrame
  cases hrunning : n.engine.running with
  | false =>
    -- After exit a frame is not even decoded.
    simp [hrunning, Engine.afterRequest]
  | true =>
    cases hpeek : Envelope.peek bytes with
    | error error =>
      simp [hrunning, frameRequest?_of_peek_error hpeek, Engine.afterRequest]
    | ok envelope => simp [hrunning, run_bind, memory_handleAddressed]

end Handlers

end PacketReinjection
