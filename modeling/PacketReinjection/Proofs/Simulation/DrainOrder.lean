import PacketReinjection.Proofs.Masks
import PacketReinjection.Proofs.Simulation.Run
import Mathlib.Logic.Relation

/-!
# `Proofs.Simulation.DrainOrder` — the order of the two drain interrupts does not matter

The timer's handler and the transmitter-ready handler read the same status and the same queue, and they
write the same enable in opposite directions. Still they can be delivered in either order, as long as
transmitter-ready is enabled, which it has to be for its handler to be delivered at all. An enabled line
is not changed by a tick, whatever the tick sees of the queue; so a tick is the same before and after the
packet that a drain sends. A drain that disarms leaves nothing for a tick to arm for.

What a tick reports, whether it armed, does depend on the order: it may see the last packet, or find the
queue empty. All else does not.

## Contents
- **`ticked`**, **`run_timerTick_enabled`** — a tick while transmitter-ready is enabled.
- **`tick_drain_commute`** — the two handlers in either order.
- **`DeliversEnabled`**, **`Reordered`**, **`otherOutcomes`** — schedules, and what can be told of them.
- **`delivery_order_irrelevant`**.
-/

namespace PacketReinjection

namespace Simulation

open Routine

/-! ## A tick while the line is enabled -/

/-- To arm what is armed changes nothing. -/
theorem armed_of_enabled {s : Simulation} (henabled : s.interruptEnabled .transmitterReady = true) :
    s.armed = s := by
  have hbits : s.vicEnabled ||| InterruptSource.transmitterReady.mask = s.vicEnabled := by
    apply UInt32.toBitVec_inj.mp
    apply BitVec.eq_of_getLsbD_eq
    intro i _
    rw [interruptEnabled_eq] at henabled
    rw [UInt32.toBitVec_or, BitVec.getLsbD_or, InterruptSource.getLsbD_mask]
    by_cases hi : InterruptSource.transmitterReady.line.toNat = i
    · subst hi
      rw [henabled, Bool.true_or]
    · rw [decide_eq_false hi, Bool.or_false]
  show { s with vicEnabled := s.vicEnabled ||| InterruptSource.transmitterReady.mask } = s
  rw [hbits]

/-- The hardware after a tick that changes no enable: the queue is looked at only if the router takes
    packets. -/
def ticked (s : Simulation) : Simulation :=
  (if s.isBlocked then s.timerCleared else s.timerCleared.sectioned).ended

theorem ticked_of_blocked {s : Simulation} (h : s.isBlocked = true) :
    s.ticked = s.timerCleared.ended := by
  rw [ticked, if_pos h]

theorem ticked_of_unblocked {s : Simulation} (h : s.isBlocked = false) :
    s.ticked = s.timerCleared.sectioned.ended := by
  rw [ticked, if_neg (by simp [h])]

/-- A tick that finds nothing to arm for changes no enable. -/
theorem run_timerTick_unarmed {n : Node Simulation}
    (hnothing : n.hardware.isBlocked = true ∨ n.engine.queue.isEmpty = true) :
    (timerTick.run n).2 = { n with hardware := n.hardware.ticked } := by
  cases hblocked : n.hardware.isBlocked with
  | true => rw [run_timerTick_blocked hblocked, ticked_of_blocked hblocked]
  | false =>
    have hempty : n.engine.queue.isEmpty = true := hnothing.resolve_left (by simp [hblocked])
    rw [run_timerTick_empty hblocked hempty, ticked_of_unblocked hblocked]

/-- **While transmitter-ready is enabled, a tick does not depend on the queue.** -/
theorem run_timerTick_enabled {n : Node Simulation}
    (henabled : n.hardware.interruptEnabled .transmitterReady = true) :
    (timerTick.run n).2 = { n with hardware := n.hardware.ticked } := by
  by_cases hnothing : n.hardware.isBlocked = true ∨ n.engine.queue.isEmpty = true
  · exact run_timerTick_unarmed hnothing
  · obtain ⟨hblocked, hpending⟩ := not_or.mp hnothing
    have harmed : n.hardware.timerCleared.sectioned.armed = n.hardware.timerCleared.sectioned :=
      armed_of_enabled henabled
    rw [run_timerTick_pending (by simpa using hblocked) (by simpa using hpending), harmed,
      ticked_of_unblocked (by simpa using hblocked)]

/-! ## Both handlers -/

/-- **A tick and a drain commute** while transmitter-ready is enabled: the drain does the same, and the
    node is the same after both. -/
theorem tick_drain_commute {n : Node Simulation}
    (henabled : n.hardware.interruptEnabled .transmitterReady = true) :
    transmitterReady.run (timerTick.run n).2 =
      ((transmitterReady.run n).1, (timerTick.run (transmitterReady.run n).2).2) := by
  rw [run_timerTick_enabled henabled]
  cases hblocked : n.hardware.isBlocked with
  | true =>
    -- The drain disarms, and a tick does not arm for a blocked router.
    have hdisarmed : n.hardware.disarmed.ended.isBlocked = true := hblocked
    have hbefore : transmitterReady.run { n with hardware := n.hardware.timerCleared.ended }
        = (.blocked, { n with hardware := n.hardware.timerCleared.ended.disarmed.ended }) :=
      run_transmitterReady_blocked hblocked
    have hafter : (timerTick.run { n with hardware := n.hardware.disarmed.ended }).2
        = { n with hardware := n.hardware.disarmed.ended.ticked } :=
      run_timerTick_unarmed (.inl hblocked)
    rw [ticked_of_blocked hblocked, hbefore, run_transmitterReady_blocked hblocked, hafter,
      ticked_of_blocked hdisarmed]
    rfl
  | false =>
    rw [ticked_of_unblocked hblocked]
    cases hwaiting : n.engine.queue.toList with
    | nil =>
      -- The drain disarms, and a tick does not arm for an empty queue.
      have hempty : n.engine.queue.isEmpty = true := (RingQueue.isEmpty_iff _).mpr hwaiting
      have hdisarmed : n.hardware.sectioned.disarmed.ended.isBlocked = false := hblocked
      have hbefore : transmitterReady.run { n with hardware := n.hardware.timerCleared.sectioned.ended }
          = (.idle, { n with
              hardware := n.hardware.timerCleared.sectioned.ended.sectioned.disarmed.ended }) :=
        run_transmitterReady_idle hblocked hwaiting
      have hafter : (timerTick.run { n with hardware := n.hardware.sectioned.disarmed.ended }).2
          = { n with hardware := n.hardware.sectioned.disarmed.ended.ticked } :=
        run_timerTick_unarmed (.inr hempty)
      rw [hbefore, run_transmitterReady_idle hblocked hwaiting, hafter, ticked_of_unblocked hdisarmed]
      rfl
    | cons p ps =>
      -- The line stays enabled, so it does not matter whether the tick sees the packet that is sent.
      have hfired : (n.hardware.sectioned.fired n.engine.transmitSource p).ended.isBlocked = false :=
        hblocked
      have hbefore : transmitterReady.run { n with hardware := n.hardware.timerCleared.sectioned.ended }
          = (.sent p,
              ⟨(n.hardware.timerCleared.sectioned.ended.sectioned.fired n.engine.transmitSource p).ended,
                n.engine.sent, n.events⟩) :=
        run_transmitterReady_sent (n := { n with hardware := n.hardware.timerCleared.sectioned.ended })
          hblocked hwaiting
      have hafter : (timerTick.run
            ⟨(n.hardware.sectioned.fired n.engine.transmitSource p).ended, n.engine.sent, n.events⟩).2
          = ⟨(n.hardware.sectioned.fired n.engine.transmitSource p).ended.ticked, n.engine.sent,
              n.events⟩ :=
        run_timerTick_enabled henabled
      rw [hbefore, run_transmitterReady_sent hblocked hwaiting, hafter, ticked_of_unblocked hfired]
      rfl

/-- The same of the operations that run the two handlers. -/
theorem perform_tick_drain_commute {n : Node Simulation} {tick drain : Operation}
    (htick : tick.interrupt? = some .timerTick) (hdrain : drain.interrupt? = some .transmitterReady)
    (henabled : n.hardware.interruptEnabled .transmitterReady = true) :
    ((n.perform tick).2.perform drain).1.outcome = (n.perform drain).1.outcome
      ∧ ((n.perform tick).2.perform drain).2 = ((n.perform drain).2.perform tick).2 := by
  have hcommute := tick_drain_commute henabled
  rw [(perform_interrupt hdrain _).2, (perform_interrupt hdrain _).2, (perform_interrupt hdrain _).1,
    (perform_interrupt htick _).1, (perform_interrupt htick _).1, (perform_interrupt hdrain _).1]
  simp only [dispatch, run_bind, run_pure, hcommute, and_self]

/-! ## Schedules -/

/-- The interrupt line whose handler an occurrence runs, if it is the run of one handler. -/
def Occurrence.interrupt? : Occurrence → Option InterruptSource
  | operation op => op.interrupt?
  | service | tick | poll _ | dump _ | block _ => none

/-- Transmitter-ready is delivered only while it is enabled. Rounds see to that themselves. -/
def DeliversEnabled : List Occurrence → Node Simulation → Prop
  | [], _ => True
  | o :: os, n =>
    (o.interrupt? = some .transmitterReady → n.hardware.interruptEnabled .transmitterReady = true)
      ∧ DeliversEnabled os (o.after n)

instance decidableDeliversEnabled :
    (os : List Occurrence) → (n : Node Simulation) → Decidable (DeliversEnabled os n)
  | [], _ => inferInstanceAs (Decidable True)
  | o :: os, n =>
    have := decidableDeliversEnabled os (o.after n)
    inferInstanceAs (Decidable ((o.interrupt? = some .transmitterReady →
      n.hardware.interruptEnabled .transmitterReady = true) ∧ DeliversEnabled os (o.after n)))

/-- The second schedule delivers a drain, which is right behind a tick in the first, before that tick. -/
inductive Swapped : List Occurrence → List Occurrence → Prop where
  | here {tick drain : Operation} (htick : tick.interrupt? = some .timerTick)
      (hdrain : drain.interrupt? = some .transmitterReady) (later : List Occurrence) :
      Swapped (.operation tick :: .operation drain :: later)
        (.operation drain :: .operation tick :: later)
  | later (o : Occurrence) {os os' : List Occurrence} (h : Swapped os os') :
      Swapped (o :: os) (o :: os')

/-- Schedules that can be had from each other by such swaps, in both directions and one after the other,
    through schedules that deliver transmitter-ready only while it is enabled. -/
def Reordered (n : Node Simulation) : List Occurrence → List Occurrence → Prop :=
  Relation.EqvGen fun os os' => Swapped os os' ∧ DeliversEnabled os n ∧ DeliversEnabled os' n

/-- What operations gave, ticks apart. -/
def otherOutcomes (history : List Performed) : List Outcome :=
  history.filterMap fun h =>
    if h.operation.interrupt? = some .timerTick then none else some h.outcome

theorem otherOutcomes_append (history history' : List Performed) :
    otherOutcomes (history ++ history') = otherOutcomes history ++ otherOutcomes history' :=
  List.filterMap_append

/-- An operation counts unless it is a tick. -/
theorem otherOutcomes_perform (op : Operation) (n : Node Simulation) :
    otherOutcomes [(n.perform op).1] =
      if op.interrupt? = some .timerTick then [] else [(n.perform op).1.outcome] := by
  show [(n.perform op).1].filterMap _ = _
  by_cases htick : op.interrupt? = some .timerTick <;> simp [Node.perform, htick]

/-- One swap. -/
theorem run_of_swapped {n : Node Simulation} {os os' : List Occurrence} (h : Swapped os os')
    (hdelivers : DeliversEnabled os' n) :
    otherOutcomes (run os n).1 = otherOutcomes (run os' n).1 ∧ (run os n).2 = (run os' n).2 := by
  induction h generalizing n with
  | @here tick drain htick hdrain later =>
    -- The drain comes first in the second schedule, so the line is enabled here.
    obtain ⟨houtcome, hnode⟩ := perform_tick_drain_commute htick hdrain (hdelivers.1 hdrain)
    have hdrains : drain.interrupt? ≠ some .timerTick := by simp [hdrain]
    have hfirst (m : Node Simulation) (op : Operation) (os : List Occurrence) :
        run (.operation op :: os) m
          = ([(m.perform op).1] ++ (run os (m.perform op).2).1, (run os (m.perform op).2).2) := rfl
    rw [hfirst, hfirst, hfirst, hfirst, hnode]
    refine ⟨?_, rfl⟩
    simp only [otherOutcomes_append, otherOutcomes_perform, if_pos htick, if_neg hdrains, houtcome]
    rfl
  | later o _ ih =>
    obtain ⟨houtcomes, hnode⟩ := ih hdelivers.2
    exact ⟨by simp only [run, otherOutcomes_append, houtcomes], hnode⟩

/-- **The order in which the two drain interrupts are delivered does not matter**, in any state. While
    transmitter-ready is enabled, a tick and a drain end in the same node in either order, engine,
    hardware and log, and the drain has the same outcome. So schedules that deliver transmitter-ready
    only while it is enabled, and differ only in the order of such neighbours, agree in all outcomes but
    those of ticks, and from then on they are the same. -/
theorem delivery_order_irrelevant (n : Node Simulation) :
    (∀ tick drain : Operation, tick.interrupt? = some .timerTick →
        drain.interrupt? = some .transmitterReady →
        n.hardware.interruptEnabled .transmitterReady = true →
      ((n.perform tick).2.perform drain).1.outcome = (n.perform drain).1.outcome
        ∧ ((n.perform tick).2.perform drain).2 = ((n.perform drain).2.perform tick).2)
      ∧ ∀ os os' : List Occurrence, Reordered n os os' →
        otherOutcomes (run os n).1 = otherOutcomes (run os' n).1
          ∧ (run os n).2 = (run os' n).2
          ∧ ∀ later, run later (run os n).2 = run later (run os' n).2 := by
  refine ⟨fun tick drain htick hdrain henabled => perform_tick_drain_commute htick hdrain henabled, ?_⟩
  intro os os' hreordered
  have hsame : otherOutcomes (run os n).1 = otherOutcomes (run os' n).1
      ∧ (run os n).2 = (run os' n).2 := by
    induction hreordered with
    | rel os os' h => exact run_of_swapped h.1 h.2.2
    | refl os => exact ⟨rfl, rfl⟩
    | symm os os' _ ih => exact ⟨ih.1.symm, ih.2.symm⟩
    | trans os os' os'' _ _ ih ih' => exact ⟨ih.1.trans ih'.1, ih.2.trans ih'.2⟩
  exact ⟨hsame.1, hsame.2, fun later => by rw [hsame.2]⟩

/-- A node with one packet to send and transmitter-ready enabled. -/
def armedNode : Node Simulation :=
  (run [.operation .start, .dump ⟨0, 7, 0⟩, .operation .capture, .operation .timerTick]
    (Node.fresh fresh EngineConfig.standard)).2

/-- The tick sees the last packet, or finds the queue empty, and tells so; of three orders of two ticks and
    a drain this is the only difference. -/
theorem delivery_order_irrelevant_last_packet :
    let ticks : Occurrence := .operation .timerTick
    let drains : Occurrence := .operation (.dispatch .transmitterReady)
    armedNode.hardware.interruptEnabled .transmitterReady = true
      ∧ (timerTick.run armedNode).1 = true
      ∧ (timerTick.run (transmitterReady.run armedNode).2).1 = false
      ∧ ((armedNode.perform .timerTick).2.perform .transmitterReady).2
        = ((armedNode.perform .transmitterReady).2.perform .timerTick).2
      ∧ (run [ticks, ticks, drains] armedNode).2 = (run [drains, ticks, ticks] armedNode).2 := by
  intro ticks drains
  have henabled : armedNode.hardware.interruptEnabled .transmitterReady = true := by decide
  obtain ⟨hone, hall⟩ := delivery_order_irrelevant armedNode
  have hfirst : Swapped [ticks, ticks, drains] [ticks, drains, ticks] := .later ticks (.here rfl rfl [])
  have hsecond : Swapped [ticks, drains, ticks] [drains, ticks, ticks] := .here rfl rfl [ticks]
  have hreordered : Reordered armedNode [ticks, ticks, drains] [drains, ticks, ticks] :=
    (Relation.EqvGen.rel _ _ ⟨hfirst, by decide, by decide⟩).trans _ _ _
      (.rel _ _ ⟨hsecond, by decide, by decide⟩)
  exact ⟨henabled, by decide, by decide, (hone .timerTick .transmitterReady rfl rfl henabled).2,
    (hall _ _ hreordered).2.1⟩

end Simulation

end PacketReinjection
