import PacketReinjection.Proofs.Masks
import PacketReinjection.Proofs.Memory
import PacketReinjection.Simulation.Hardware

/-!
# `Proofs.Simulation.Handlers` — the handlers on a simulated node, whole

On simulated hardware every handler has a closed form: what it gives, and the node it ends in. The
forms are put together from one function on the register file for each thing that a handler does to it.

## Contents
- **Register file.** `isBlocked`, `armed`, `disarmed`, `ended`, `sectioned`, `fired`; which lines they
  leave enabled, and what they leave `Untouched`.
- **`DumpedPacket.image`**, **`images`** — packets as they leave the transmitter.
- **Closed forms.** `run_capture_simulation`; `run_timerTick_blocked`, `_empty`, `_pending`; and
  `run_transmitterReady_blocked`, `_idle`, `_sent`.
- **`HandlerStep`** and **`handlerStep_dispatch`** — all closed forms as one inversion lemma.
-/

namespace PacketReinjection

/-! ## Packets at the transmitter -/

/-- A packet as it leaves a transmitter with the given source id: bits 16 to 23 of its header, the id
    beside bits 24 to 26, its payload if bit 17 announces one, and its key. `left` is a payload that was
    already in the transmitter: it goes out with a packet that brings none of its own. -/
def DumpedPacket.image (source : UInt32) (left : Option UInt32) (p : DumpedPacket) :
    TransmittedPacket where
  control := p.header &&& 0x00ff0000
  sourceAddress := source ||| (p.header &&& 0x07000000)
  payload := if p.header.toBitVec.getLsbD 17 then some p.payload else left
  key := p.key

/-- Packets as they leave the transmitter one after the other; the first uses up the payload that was
    left there. -/
def images (source : UInt32) : Option UInt32 → List DumpedPacket → List TransmittedPacket
  | _, [] => []
  | left, p :: ps => p.image source left :: images source none ps

namespace Simulation

/-! ## The register file -/

/-- Whether the router takes no packets from the transmitter. -/
def isBlocked (s : Simulation) : Bool := s.routerStatus &&& Router.blockedMask != 0

/-- The transmitter-ready interrupt is enabled. -/
def armed (s : Simulation) : Simulation := s.writeVic .enable InterruptSource.transmitterReady.mask

/-- The transmitter-ready interrupt is disabled. -/
def disarmed (s : Simulation) : Simulation :=
  s.writeVic .disable InterruptSource.transmitterReady.mask

/-- The interrupt in progress is ended. -/
def ended (s : Simulation) : Simulation := s.writeVic .vectorAddress 0

/-- The fast interrupt was masked once more and is now as it was before. -/
def sectioned (s : Simulation) : Simulation := { s with sectionCounter := s.sectionCounter + 1 }

/-- The timer's interrupt is cleared. -/
def timerCleared (s : Simulation) : Simulation := { s with timer := s.timer.set .interruptClear 1 }

/-- A packet went through the transmitter. -/
def fired (s : Simulation) (source : UInt32) (p : DumpedPacket) : Simulation :=
  { s with txControl := p.controlBits
           sourceAddress := source ||| p.routeBits
           txData := none
           transmitted := s.transmitted ++ [p.image source s.txData] }

/-- The dump registers are released. -/
def released (s : Simulation) : Simulation := { s with dump := none, dumpOverflow := false }

/-- The word that the dump status shows. -/
def lossStatus (s : Simulation) : UInt32 := if s.dumpOverflow then Router.dumpOverflowMask else 0

section Enabled

variable (s : Simulation)

theorem bits_or_and (a b c : UInt32) : (a ||| b) &&& c = (a &&& c) ||| (b &&& c) :=
  UInt32.toBitVec_inj.mp (by simp [BitVec.and_or_distrib_right])

@[simp]
theorem interruptEnabled_disarmed : s.disarmed.interruptEnabled .transmitterReady = false := by
  have hmask : ~~~InterruptSource.transmitterReady.mask &&& InterruptSource.transmitterReady.mask = 0 :=
    by decide
  simp [interruptEnabled, disarmed, writeVic, UInt32.and_assoc, hmask]

@[simp]
theorem interruptEnabled_armed : s.armed.interruptEnabled .transmitterReady = true := by
  have hmask : ¬InterruptSource.transmitterReady.mask = 0 := by decide
  simp [interruptEnabled, armed, writeVic, bits_or_and, hmask]

theorem interruptEnabled_ended (source : InterruptSource) :
    s.ended.interruptEnabled source = s.interruptEnabled source := rfl

theorem interruptEnabled_sectioned (source : InterruptSource) :
    s.sectioned.interruptEnabled source = s.interruptEnabled source := rfl

theorem interruptEnabled_timerCleared (source : InterruptSource) :
    s.timerCleared.interruptEnabled source = s.interruptEnabled source := rfl

end Enabled

/-- What a handler that neither captures nor sends leaves as it was: the dump registers and the
    capture's line, the blocked flag, and the transmitter. -/
structure Untouched (s s' : Simulation) : Prop where
  dump : s'.dump = s.dump
  dumpOverflow : s'.dumpOverflow = s.dumpOverflow
  captureEnabled : s'.interruptEnabled .droppedPacket = s.interruptEnabled .droppedPacket
  blocked : s'.isBlocked = s.isBlocked
  txData : s'.txData = s.txData
  transmitted : s'.transmitted = s.transmitted

section Untouched

theorem Untouched.trans {s s' s'' : Simulation} (h : Untouched s s') (h' : Untouched s' s'') :
    Untouched s s'' where
  dump := h'.dump.trans h.dump
  dumpOverflow := h'.dumpOverflow.trans h.dumpOverflow
  captureEnabled := h'.captureEnabled.trans h.captureEnabled
  blocked := h'.blocked.trans h.blocked
  txData := h'.txData.trans h.txData
  transmitted := h'.transmitted.trans h.transmitted

variable (s : Simulation)

theorem untouched_ended : Untouched s s.ended := ⟨rfl, rfl, rfl, rfl, rfl, rfl⟩

theorem untouched_sectioned : Untouched s s.sectioned := ⟨rfl, rfl, rfl, rfl, rfl, rfl⟩

theorem untouched_timerCleared : Untouched s s.timerCleared := ⟨rfl, rfl, rfl, rfl, rfl, rfl⟩

theorem untouched_disarmed : Untouched s s.disarmed := by
  have hmask : ~~~InterruptSource.transmitterReady.mask &&& InterruptSource.droppedPacket.mask
      = InterruptSource.droppedPacket.mask := by decide
  refine ⟨rfl, rfl, ?_, rfl, rfl, rfl⟩
  simp [interruptEnabled, disarmed, writeVic, UInt32.and_assoc, hmask]

theorem untouched_armed : Untouched s s.armed := by
  have hmask : InterruptSource.transmitterReady.mask &&& InterruptSource.droppedPacket.mask = 0 := by
    decide
  refine ⟨rfl, rfl, ?_, rfl, rfl, rfl⟩
  simp [interruptEnabled, armed, writeVic, bits_or_and, hmask]

end Untouched

end Simulation

/-! ## Closed forms -/

section ClosedForms

open Routine

variable {n : Node Simulation}

/-- An access in a masked section leaves the fast interrupt as it was. -/
theorem run_withFastMasked_access (a : Access) (n : Node Simulation) :
    (withFastMasked (access a)).run n =
      ((a.apply n.engine).1, ⟨n.hardware.sectioned, (a.apply n.engine).2, n.events⟩) := by
  obtain ⟨s, e, events⟩ := n
  -- Masking answers with the state to restore, so the section undoes itself from either state.
  cases hmasked : s.fastMasked <;>
    simp [withFastMasked, Platform.call, Simulation.answer, Simulation.sectioned, hmasked]

theorem run_lookAtQueue (n : Node Simulation) :
    (withFastMasked (access .queueIsEmpty) : Routine Bool).run n =
      (n.engine.queue.isEmpty, { n with hardware := n.hardware.sectioned }) :=
  run_withFastMasked_access .queueIsEmpty n

theorem run_takeFromQueue (n : Node Simulation) :
    (withFastMasked (access .dequeue) : Routine (Option DumpedPacket)).run n =
      (n.engine.queue.dequeue.1,
        ⟨n.hardware.sectioned, { n.engine with queue := n.engine.queue.dequeue.2 }, n.events⟩) :=
  run_withFastMasked_access .dequeue n

/-- A capture's reads show the latched packet, or a blank one, with the losses, and release the
    registers. -/
theorem readDump_simulation (s : Simulation) :
    readDump s = (s.dump.getD .blank, s.lossStatus, s.released) := by
  cases hdump : s.dump with
  | none =>
    simp [readDump, Platform.call, Simulation.answer, Simulation.readRouter, hdump,
      Simulation.lossStatus, Simulation.released, DumpedPacket.blank]
  | some p =>
    simp [readDump, Platform.call, Simulation.answer, Simulation.readRouter, hdump,
      Simulation.lossStatus, Simulation.released]

/-- The capture reads the latched packet, or a blank one, and releases the registers. -/
theorem run_capture_simulation (n : Node Simulation) :
    capture.run n =
      let r := n.engine.receive (n.hardware.dump.getD .blank) n.hardware.lossStatus
      (r.1, ⟨n.hardware.released, r.2, n.events⟩) := by
  rw [run_capture, readDump_simulation]

theorem run_isBlocked (n : Node Simulation) :
    Router.Monitor.isBlocked.run n = (n.hardware.isBlocked, n) := rfl

theorem run_timerTick (n : Node Simulation) :
    timerTick.run n =
      let r := armIfPending.run { n with hardware := n.hardware.timerCleared }
      (r.1, { r.2 with hardware := r.2.hardware.ended }) := by
  simp only [timerTick, run_bind]
  rfl

theorem run_timerTick_blocked (hblocked : n.hardware.isBlocked = true) :
    timerTick.run n = (false, { n with hardware := n.hardware.timerCleared.ended }) := by
  have hsame : n.hardware.timerCleared.isBlocked = true := hblocked
  rw [run_timerTick]
  simp only [armIfPending, run_bind, run_isBlocked, hsame, if_true]
  rfl

theorem run_timerTick_empty (hblocked : n.hardware.isBlocked = false)
    (hempty : n.engine.queue.isEmpty = true) :
    timerTick.run n = (false, { n with hardware := n.hardware.timerCleared.sectioned.ended }) := by
  have hsame : n.hardware.timerCleared.isBlocked = false := hblocked
  rw [run_timerTick]
  simp only [armIfPending, run_bind, run_isBlocked, hsame, Bool.false_eq_true, if_false,
    run_lookAtQueue, hempty, if_true]
  rfl

theorem run_timerTick_pending (hblocked : n.hardware.isBlocked = false)
    (hpending : n.engine.queue.isEmpty = false) :
    timerTick.run n = (true, { n with hardware := n.hardware.timerCleared.sectioned.armed.ended }) := by
  have hsame : n.hardware.timerCleared.isBlocked = false := hblocked
  rw [run_timerTick]
  simp only [armIfPending, run_bind, run_isBlocked, hsame, Bool.false_eq_true, if_false,
    run_lookAtQueue, hpending]
  rfl

/-- The transmitter's registers are written one by one; the last write sends the packet. -/
theorem run_transmit (p : DumpedPacket) (n : Node Simulation) :
    (transmit p).run n =
      ((), { n with hardware := n.hardware.fired n.engine.transmitSource p }) := by
  have hflag := p.hasPayload_eq
  cases hpayload : p.hasPayload <;> rw [hpayload] at hflag <;>
    simp [-BitVec.getLsbD_eq_getElem, transmit, hpayload, ← hflag, Platform.call, Simulation.answer,
      Simulation.writeComms, Simulation.fired, DumpedPacket.image, p.controlBits_eq, p.routeBits_eq]

theorem run_transmitterReady (n : Node Simulation) :
    transmitterReady.run n =
      let r := drainOne.run n
      (r.1, { r.2 with hardware := r.2.hardware.ended }) := by
  simp only [transmitterReady, run_bind]
  rfl

theorem run_transmitterReady_blocked (hblocked : n.hardware.isBlocked = true) :
    transmitterReady.run n = (.blocked, { n with hardware := n.hardware.disarmed.ended }) := by
  rw [run_transmitterReady]
  simp only [drainOne, run_bind, run_isBlocked, hblocked, if_true]
  rfl

theorem run_transmitterReady_idle (hblocked : n.hardware.isBlocked = false)
    (hempty : n.engine.queue.toList = []) :
    transmitterReady.run n =
      (.idle, { n with hardware := n.hardware.sectioned.disarmed.ended }) := by
  have htaken : n.engine.queue.dequeue = (none, n.engine.queue) :=
    RingQueue.dequeue_of_empty (n.engine.queue.toList_eq_nil_iff.mp hempty)
  rw [run_transmitterReady]
  simp only [drainOne, run_bind, run_isBlocked, hblocked, Bool.false_eq_true, if_false,
    run_takeFromQueue, htaken]
  rfl

theorem run_transmitterReady_sent (hblocked : n.hardware.isBlocked = false) {p : DumpedPacket}
    {ps : List DumpedPacket} (hwaiting : n.engine.queue.toList = p :: ps) :
    transmitterReady.run n =
      (.sent p,
        ⟨(n.hardware.sectioned.fired n.engine.transmitSource p).ended, n.engine.sent, n.events⟩) := by
  have htaken : n.engine.queue.dequeue.1 = some p := by
    rw [RingQueue.dequeue_fst, hwaiting]
    rfl
  rw [run_transmitterReady]
  simp only [drainOne, run_bind, run_isBlocked, hblocked, Bool.false_eq_true, if_false,
    run_takeFromQueue, htaken, run_transmit]
  rfl

end ClosedForms

/-! ## Handlers as steps -/

namespace Simulation

open Routine

/-- What a handler can do on a simulated node: its outcome, and the node afterwards. -/
inductive HandlerStep (n : Node Simulation) : HandlerOutcome → Node Simulation → Prop where
  /-- The latched packet, or a blank one, arrives in the memory. -/
  | captured {r : CaptureOutcome × Engine}
      (hreceived : r = n.engine.receive (n.hardware.dump.getD .blank) n.hardware.lossStatus) :
      HandlerStep n (.captured r.1) ⟨n.hardware.released, r.2, n.events⟩
  | tickBlocked (hblocked : n.hardware.isBlocked = true) :
      HandlerStep n (.ticked false) { n with hardware := n.hardware.timerCleared.ended }
  | tickEmpty (hblocked : n.hardware.isBlocked = false) (hempty : n.engine.queue.isEmpty = true) :
      HandlerStep n (.ticked false) { n with hardware := n.hardware.timerCleared.sectioned.ended }
  | tickPending (hblocked : n.hardware.isBlocked = false)
      (hpending : n.engine.queue.isEmpty = false) :
      HandlerStep n (.ticked true) { n with hardware := n.hardware.timerCleared.sectioned.armed.ended }
  | drainBlocked (hblocked : n.hardware.isBlocked = true) :
      HandlerStep n (.drained .blocked) { n with hardware := n.hardware.disarmed.ended }
  | drainIdle (hblocked : n.hardware.isBlocked = false) (hempty : n.engine.queue.toList = []) :
      HandlerStep n (.drained .idle) { n with hardware := n.hardware.sectioned.disarmed.ended }
  /-- The oldest packet goes through the transmitter. -/
  | sent (hblocked : n.hardware.isBlocked = false) {p : DumpedPacket} {ps : List DumpedPacket}
      (hwaiting : n.engine.queue.toList = p :: ps) :
      HandlerStep n (.drained (.sent p))
        ⟨(n.hardware.sectioned.fired n.engine.transmitSource p).ended, n.engine.sent, n.events⟩
  | deferred : HandlerStep n .deferred n

/-- **Every handler does one of these.** -/
theorem handlerStep_dispatch (source : InterruptSource) (n : Node Simulation) :
    HandlerStep n ((dispatch source).run n).1 ((dispatch source).run n).2 := by
  cases source with
  | droppedPacket =>
    simp only [dispatch, run_bind, run_capture_simulation]
    exact .captured rfl
  | timerTick =>
    simp only [dispatch, run_bind]
    cases hblocked : n.hardware.isBlocked with
    | true =>
      rw [run_timerTick_blocked hblocked]
      exact .tickBlocked hblocked
    | false =>
      cases hempty : n.engine.queue.isEmpty with
      | true =>
        rw [run_timerTick_empty hblocked hempty]
        exact .tickEmpty hblocked hempty
      | false =>
        rw [run_timerTick_pending hblocked hempty]
        exact .tickPending hblocked hempty
  | transmitterReady =>
    simp only [dispatch, run_bind]
    cases hblocked : n.hardware.isBlocked with
    | true =>
      rw [run_transmitterReady_blocked hblocked]
      exact .drainBlocked hblocked
    | false =>
      cases hwaiting : n.engine.queue.toList with
      | nil =>
        rw [run_transmitterReady_idle hblocked hwaiting]
        exact .drainIdle hblocked hwaiting
      | cons p ps =>
        rw [run_transmitterReady_sent hblocked hwaiting]
        exact .sent hblocked hwaiting
  | command => exact .deferred

end Simulation

end PacketReinjection
