import Mathlib.Data.List.Induction
import PacketReinjection.Proofs.Masks
import PacketReinjection.Proofs.Simulation.Registers
import PacketReinjection.Proofs.Simulation.Run

/-!
# `Proofs.Simulation.Lines` — which interrupts are enabled, read off the history

The transmitter-ready interrupt is toggled by ticks and drains and cleared by start-up and exit; the
timer and dropped packets are enabled from start-up to exit. Each of these events sets some lines and
leaves the others, so the last event that concerns a line decides about it.

## Contents
- **One event.** `LineEvent.sets`, `LineEvent.getLsbD_line_apply`, `LineEvent.apply_and_not_owned`.
- **Events in a row.** `lineEvents`, `getLsbD_foldl_apply`, `foldl_apply_and_not_owned`.
- **Runs.** `EnabledBy`, `enabled_run`; `Performed.Quiet`, `LinesDecided`, `interrupt_enables`.
-/

namespace PacketReinjection

/-- The lines that re-injection enables and disables. -/
def ownedMask : UInt32 := InterruptSource.standingMask ||| InterruptSource.transmitterReady.mask

/-! ## One event -/

namespace LineEvent

/-- What an event does to a line, if it concerns the line. -/
def sets (source : InterruptSource) : LineEvent → Option Bool
  | armed =>
    match source with
    | .transmitterReady => some true
    | .timerTick | .droppedPacket | .command => none
  | disarmed =>
    match source with
    | .transmitterReady => some false
    | .timerTick | .droppedPacket | .command => none
  | started =>
    match source with
    | .timerTick | .droppedPacket => some true
    | .transmitterReady => some false
    | .command => none
  | exited =>
    match source with
    | .timerTick | .droppedPacket | .transmitterReady => some false
    | .command => none

/-- **An event sets the lines that it concerns** and leaves the others. -/
theorem getLsbD_line_apply (e : LineEvent) (mask : UInt32) (source : InterruptSource) :
    (e.apply mask).toBitVec.getLsbD source.line.toNat
      = (e.sets source).getD (mask.toBitVec.getLsbD source.line.toNat) := by
  cases e <;>
    simp only [apply, withoutOwned, InterruptSource.standingMask, UInt32.toBitVec_and,
      UInt32.toBitVec_or, UInt32.toBitVec_not, BitVec.getLsbD_and, BitVec.getLsbD_or,
      BitVec.getLsbD_not, InterruptSource.getLsbD_mask, source.line_lt] <;>
    cases source <;> simp [sets, InterruptSource.line]

/-- No event touches a line that re-injection does not own. -/
theorem apply_and_not_owned (e : LineEvent) (mask : UInt32) :
    e.apply mask &&& ~~~ownedMask = mask &&& ~~~ownedMask := by
  apply word_eq_of_bits
  intro i hi
  -- Away from the owned lines every mask bit is clear; on them the complement clears the result.
  cases e <;>
    simp only [apply, withoutOwned, ownedMask, InterruptSource.standingMask, UInt32.toBitVec_and,
      UInt32.toBitVec_or, UInt32.toBitVec_not, BitVec.getLsbD_and, BitVec.getLsbD_or,
      BitVec.getLsbD_not, InterruptSource.getLsbD_mask, hi] <;>
    grind

end LineEvent

/-! ## Events in a row -/

/-- The events of a history, in their order. -/
def lineEvents (history : List Performed) : List LineEvent := history.filterMap Performed.lineEvent?

/-- **The last event that concerns a line decides about it.** -/
theorem getLsbD_foldl_apply (events : List LineEvent) (mask : UInt32) (source : InterruptSource) :
    (events.foldl LineEvent.apply mask).toBitVec.getLsbD source.line.toNat
      = (events.filterMap (LineEvent.sets source)).getLast?.getD
        (mask.toBitVec.getLsbD source.line.toNat) := by
  induction events using List.reverseRecOn with
  | nil => rfl
  | append_singleton events e ih =>
    rw [List.foldl_append, List.foldl_cons, List.foldl_nil, e.getLsbD_line_apply, ih,
      List.filterMap_append]
    -- An event that does not concern the line leaves the verdict with the earlier ones.
    cases hsets : e.sets source with
    | none => simp [hsets]
    | some on => simp [hsets]

theorem foldl_apply_and_not_owned (events : List LineEvent) (mask : UInt32) :
    events.foldl LineEvent.apply mask &&& ~~~ownedMask = mask &&& ~~~ownedMask := by
  induction events generalizing mask with
  | nil => rfl
  | cons e events ih => rw [List.foldl_cons, ih, e.apply_and_not_owned]

/-- An event that concerns the lines that stay enabled between start-up and exit. -/
def LineEvent.standing : LineEvent → Bool
  | started | exited => true
  | armed | disarmed => false

theorem filterMap_sets_transmitterReady (events : List LineEvent) :
    events.filterMap (LineEvent.sets .transmitterReady) = events.map fun e => decide (e = .armed) := by
  have hsets : LineEvent.sets .transmitterReady = fun e => some (decide (e = .armed)) := by
    funext e
    cases e <;> rfl
  rw [← List.filterMap_eq_map, hsets]
  rfl

theorem filterMap_sets_standing (events : List LineEvent) {source : InterruptSource}
    (hsource : source = .timerTick ∨ source = .droppedPacket) :
    events.filterMap (LineEvent.sets source)
      = (events.filter LineEvent.standing).map fun e => decide (e = .started) := by
  have hsets : LineEvent.sets source =
      fun e => if e.standing then some (decide (e = .started)) else none := by
    funext e
    rcases hsource with rfl | rfl <;> cases e <;> rfl
  rw [← List.filterMap_eq_map, List.filterMap_filter, hsets]
  rfl

/-! ## Runs -/

namespace Simulation

/-- The enables of a node are what the events of a history make of the enables before it. -/
def EnabledBy (mask : UInt32) (history : List Performed) (n : Node Simulation) : Prop :=
  n.hardware.vicEnabled = (lineEvents history).foldl LineEvent.apply mask

section EnabledBy

variable {mask : UInt32} {history : List Performed} {n : Node Simulation}

theorem EnabledBy.perform (hn : EnabledBy mask history n) (op : Operation) :
    EnabledBy mask (history ++ [(n.perform op).1]) (n.perform op).2 := by
  have hevents : lineEvents (history ++ [(n.perform op).1])
      = lineEvents history ++ (n.perform op).1.lineEvent?.toList := by
    rw [lineEvents, List.filterMap_append, ← lineEvents]
    cases hevent : (n.perform op).1.lineEvent? <;> simp [hevent]
  unfold EnabledBy at hn ⊢
  rw [(registers_perform n op).enabled, Performed.enabledAfter, hevents, List.foldl_append, ← hn]
  cases (n.perform op).1.lineEvent? <;> rfl

theorem EnabledBy.outside (hn : EnabledBy mask history n) {s : Simulation}
    (hs : Outside n.hardware s) : EnabledBy mask history { n with hardware := s } :=
  hs.vicEnabled.trans hn

/-- **The enables after a run** are its events applied to the enables before it. -/
theorem enabled_run (os : List Occurrence) (n : Node Simulation) :
    EnabledBy n.hardware.vicEnabled (run os n).1 (run os n).2 := by
  have hfirst : EnabledBy n.hardware.vicEnabled [] n := rfl
  exact run_preserves (fun _ _ op hn => hn.perform op) (fun _ _ _ hs hn => hn.outside hs) os hfirst

end EnabledBy

end Simulation

/-- A record of a drain that sent a packet, of a capture, or of a message other than an exit. -/
inductive Performed.Quiet (h : Performed) : Prop where
  | sent (p : DumpedPacket) (hsent : h.sent? = some p)
  | captured (o : CaptureOutcome) (hcaptured : h.captured? = some o)
  | frame (bytes : List UInt8) (hop : h.operation = .frame bytes)
      (hexit : ∀ value, frameRequest? bytes ≠ some (.exit, value))
  | command (m : CommandMessage) (hop : h.operation = .command m)
      (hexit : ∀ value, m.request? ≠ some (.exit, value))

namespace Simulation

/-- The enables as a history leaves them. -/
structure LinesDecided (history : List Performed) (before after : Simulation) : Prop where
  /-- Transmitter-ready is enabled if the last event was an arming tick. -/
  transmitterReady : after.interruptEnabled .transmitterReady =
    ((lineEvents history).getLast?.map fun e => decide (e = .armed)).getD
      (before.interruptEnabled .transmitterReady)
  /-- Timer and dropped packets are enabled if the last start-up or exit was a start-up. -/
  standing : ∀ source, source = .timerTick ∨ source = .droppedPacket →
    after.interruptEnabled source =
      (((lineEvents history).filter LineEvent.standing).getLast?.map fun e => decide (e = .started)).getD
        (before.interruptEnabled source)
  others : after.vicEnabled &&& ~~~ownedMask = before.vicEnabled &&& ~~~ownedMask

theorem linesDecided_run (os : List Occurrence) (n : Node Simulation) :
    LinesDecided (run os n).1 n.hardware (run os n).2.hardware := by
  have henabled : (run os n).2.hardware.vicEnabled
      = (lineEvents (run os n).1).foldl LineEvent.apply n.hardware.vicEnabled := enabled_run os n
  refine ⟨?_, fun source hsource => ?_, ?_⟩
  · rw [interruptEnabled_eq, interruptEnabled_eq, henabled, getLsbD_foldl_apply,
      filterMap_sets_transmitterReady, List.getLast?_map]
  · rw [interruptEnabled_eq, interruptEnabled_eq, henabled, getLsbD_foldl_apply,
      filterMap_sets_standing _ hsource, List.getLast?_map]
  · rw [henabled, foldl_apply_and_not_owned]

/-- A message whose request is no exit was not accepted as one. -/
theorem accepted?_ne_exit {h : Performed}
    (hexit : ∀ value, h.operation.request? h.before.running ≠ some (.exit, value)) :
    (h.accepted?.any fun request => request.1 = .exit) = false := by
  rw [Performed.accepted?]
  split
  · cases hrequest : h.operation.request? h.before.running with
    | none => rfl
    | some request =>
      obtain ⟨sub, value⟩ := request
      have hsub : sub ≠ .exit := fun hsame => hexit value (by rw [hrequest, hsame])
      simpa using hsub
  · rfl

theorem lineEvent?_of_quiet {n : Node Simulation} {op : Operation} (h : (n.perform op).1.Quiet) :
    (n.perform op).1.lineEvent? = none := by
  cases h with
  | sent p hsent =>
    rw [Performed.lineEvent?, Performed.outcome_of_sent hsent]
    rfl
  | captured o hcaptured =>
    rw [Performed.lineEvent?, Performed.outcome_of_captured hcaptured]
    rfl
  | frame bytes hop hexit =>
    obtain rfl : op = .frame bytes := hop
    -- A stopped engine does not even look at the frame.
    have hrequest (value : UInt32) :
        (if n.engine.running then frameRequest? bytes else none) ≠ some (.exit, value) := by
      split
      · exact hexit value
      · simp
    have hnever := accepted?_ne_exit (h := (n.perform (.frame bytes)).1) hrequest
    rw [lineEvent?_message rfl rfl, hnever]
    rfl
  | command m hop hexit =>
    obtain rfl : op = .command m := hop
    have hnever := accepted?_ne_exit (h := (n.perform (.command m)).1) hexit
    rw [lineEvent?_message rfl rfl, hnever]
    rfl

/-- **Which interrupts are enabled**, after any run from any node. The last event that concerns a line
    decides about it, no other line is ever touched, and no capture, no drain that sends and no message
    but an exit is such an event. -/
theorem interrupt_enables (os : List Occurrence) (n : Node Simulation) :
    let r := run os n
    LinesDecided r.1 n.hardware r.2.hardware
      ∧ ∀ op, (r.2.perform op).1.Quiet →
        (r.2.perform op).2.hardware.vicEnabled = r.2.hardware.vicEnabled := by
  intro r
  refine ⟨linesDecided_run os n, fun op hquiet => ?_⟩
  rw [(registers_perform r.2 op).enabled, Performed.enabledAfter, lineEvent?_of_quiet hquiet]
  rfl

/-- Start-up, a packet that is captured, and a tick that arms for it; the packet's drain then leaves the
    interrupt armed. -/
theorem interrupt_enables_armed :
    let r := run [.operation .start, .dump ⟨0, 7, 0⟩, .service, .operation .timerTick]
      (Node.fresh fresh EngineConfig.standard)
    r.2.hardware.interruptEnabled .transmitterReady = true
      ∧ r.2.hardware.interruptEnabled .timerTick = true
      ∧ (r.2.perform .transmitterReady).1.sent? = some ⟨0, 7, 0⟩
      ∧ (r.2.perform .transmitterReady).2.hardware.vicEnabled = r.2.hardware.vicEnabled := by
  intro r
  have hdecided : LinesDecided r.1 fresh r.2.hardware := (interrupt_enables _ _).1
  have hquiet : ∀ op, (r.2.perform op).1.Quiet →
      (r.2.perform op).2.hardware.vicEnabled = r.2.hardware.vicEnabled := (interrupt_enables _ _).2
  have hevents : lineEvents r.1 = [.started, .armed] := by decide
  have hsent : (r.2.perform .transmitterReady).1.sent? = some ⟨0, 7, 0⟩ := by decide
  refine ⟨?_, ?_, hsent, hquiet .transmitterReady (.sent _ hsent)⟩
  · rw [hdecided.transmitterReady, hevents]
    rfl
  · rw [hdecided.standing .timerTick (.inl rfl), hevents]
    rfl

end Simulation

end PacketReinjection
