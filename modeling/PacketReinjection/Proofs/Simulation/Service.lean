import Mathlib.Logic.Function.Iterate
import PacketReinjection.Proofs.Simulation.Handlers
import PacketReinjection.Simulation.Service

/-!
# `Proofs.Simulation.Service` — draining never gets stuck and never stops early

What a simulated node does about its pending interrupts is fixed by the latched dump, two interrupt
enables, the blocked flag and the queue. Nothing here supposes that the node was reached by the engine:
the laws hold of every state of the registers and of every queue, wherever its indices stand.

## Contents
- **What is pending.** `latched?`, `captureOutcome?`, `kept?`, `waiting`, `serviceOutcomes`.
- **The drain.** `Drained`, `drainWhileEnabled_unblocked`.
- **The capture.** `Captured`, `captureLatched_spec`.
- **Servicing.** `servicePending_outcomes`, `servicePending_disarms`; `drain_budget_enough`: the budget
  is never what ends the loop.
- **Ticks.** `tick_armed`, `tick_unarmed`, `tick_blocked`, and `draining_completes`.
-/

namespace PacketReinjection.Simulation

/-! ## What is pending -/

section Pending

variable (n : Node Simulation)

/-- The packet whose capture is pending: latched, with the capture's interrupt enabled. -/
def latched? : Option DumpedPacket :=
  if n.hardware.interruptEnabled .droppedPacket then n.hardware.dump else none

/-- What the pending capture makes of its packet. -/
def captureOutcome? : Option CaptureOutcome :=
  (latched? n).map fun p => (n.engine.receive p n.hardware.lossStatus).1

/-- The packet that the pending capture will queue. -/
def kept? : Option DumpedPacket :=
  if captureOutcome? n = some .queued then latched? n else none

/-- The queue as the pending capture will leave it, oldest packet first. -/
def waiting : List DumpedPacket := n.engine.queue.toList ++ (kept? n).toList

/-- What servicing a node gives: the outcome of the capture if one is pending, and the drains if the
    transmitter-ready interrupt is enabled. -/
def serviceOutcomes : List HandlerOutcome :=
  (captureOutcome? n).toList.map .captured
    ++ if n.hardware.interruptEnabled .transmitterReady then
        if n.hardware.isBlocked then
          [.drained .blocked]
        else
          (waiting n).map (fun p => .drained (.sent p)) ++ [.drained .idle]
      else
        []

end Pending

/-! ## The drain -/

section Drain

variable {n : Node Simulation}

theorem run_dispatch_transmitterReady (n : Node Simulation) :
    (dispatch .transmitterReady).run n =
      (.drained (transmitterReady.run n).1, (transmitterReady.run n).2) := by
  simp only [dispatch, Routine.run_bind]
  rfl

/-- A disarmed node is left alone. -/
theorem drainWhileEnabled_disarmed (hdisarmed : n.hardware.interruptEnabled .transmitterReady = false)
    (budget : Nat) : drainWhileEnabled budget n = ([], n) := by
  cases budget with
  | zero => rfl
  | succ budget => rw [drainWhileEnabled, if_neg (by simp [hdisarmed])]

/-- A blocked node disarms itself at the first call. -/
theorem drainWhileEnabled_blocked (hblocked : n.hardware.isBlocked = true)
    (harmed : n.hardware.interruptEnabled .transmitterReady = true) (budget : Nat) :
    drainWhileEnabled (budget + 1) n =
      ([.drained .blocked], { n with hardware := n.hardware.disarmed.ended }) := by
  have hstopped : drainWhileEnabled budget { n with hardware := n.hardware.disarmed.ended }
      = ([], { n with hardware := n.hardware.disarmed.ended }) := by
    refine drainWhileEnabled_disarmed ?_ budget
    rw [interruptEnabled_ended, interruptEnabled_disarmed]
  rw [drainWhileEnabled, if_pos harmed, run_dispatch_transmitterReady,
    run_transmitterReady_blocked hblocked]
  simp only
  rw [hstopped]

/-- What a drain that is not blocked makes of a node: everything is sent, oldest packet first, and what
    the next tick will look at stays. -/
structure Drained (n n' : Node Simulation) : Prop where
  emptied : n'.engine.queue.toList = []
  transmitted : n'.hardware.transmitted = n.hardware.transmitted
    ++ images n.engine.transmitSource n.hardware.txData n.engine.queue.toList
  disarmed : n'.hardware.interruptEnabled .transmitterReady = false
  blocked : n'.hardware.isBlocked = n.hardware.isBlocked
  dump : n'.hardware.dump = n.hardware.dump
  captureEnabled : n'.hardware.interruptEnabled .droppedPacket
    = n.hardware.interruptEnabled .droppedPacket

/-- The node after sending its oldest packet. -/
def afterSending (p : DumpedPacket) (n : Node Simulation) : Node Simulation :=
  ⟨(n.hardware.sectioned.fired n.engine.transmitSource p).ended, n.engine.sent, n.events⟩

/-- A call with nothing to send ends a drain. -/
theorem drained_idle (hempty : n.engine.queue.toList = []) :
    Drained n { n with hardware := n.hardware.sectioned.disarmed.ended } := by
  have huntouched : Untouched n.hardware n.hardware.sectioned.disarmed.ended :=
    (untouched_sectioned _).trans ((untouched_disarmed _).trans (untouched_ended _))
  refine ⟨hempty, ?_, ?_, huntouched.blocked, huntouched.dump, huntouched.captureEnabled⟩
  · rw [hempty, images, List.append_nil, huntouched.transmitted]
  · rw [interruptEnabled_ended, interruptEnabled_disarmed]

/-- A call that sends the oldest packet goes before the drain of the others. -/
theorem Drained.cons {n' : Node Simulation} {p : DumpedPacket} {ps : List DumpedPacket}
    (hwaiting : n.engine.queue.toList = p :: ps) (hrest : (afterSending p n).engine.queue.toList = ps)
    (h : Drained (afterSending p n) n') : Drained n n' where
  emptied := h.emptied
  transmitted := by
    have hfired : (afterSending p n).hardware.transmitted
        = n.hardware.transmitted ++ [p.image n.engine.transmitSource n.hardware.txData] := rfl
    have hsource : (afterSending p n).engine.transmitSource = n.engine.transmitSource := rfl
    have hleft : (afterSending p n).hardware.txData = none := rfl
    rw [h.transmitted, hfired, hsource, hleft, hrest, hwaiting, images, List.append_assoc,
      List.singleton_append]
  disarmed := h.disarmed
  blocked := h.blocked
  dump := h.dump
  captureEnabled := h.captureEnabled

/-- **The drain.** Any budget above the length of the queue sends every packet and then disarms; what
    is left of the budget is not needed. -/
theorem drainWhileEnabled_unblocked (hblocked : n.hardware.isBlocked = false)
    (harmed : n.hardware.interruptEnabled .transmitterReady = true) :
    ∃ n', Drained n n' ∧ ∀ budget, n.engine.queue.length < budget →
      drainWhileEnabled budget n =
        (n.engine.queue.toList.map (fun p => .drained (.sent p)) ++ [.drained .idle], n') := by
  -- Induction on the packets that wait, for whatever node they wait on.
  induction hwaiting : n.engine.queue.toList generalizing n with
  | nil =>
    have hidle := drained_idle hwaiting
    refine ⟨{ n with hardware := n.hardware.sectioned.disarmed.ended }, hidle, ?_⟩
    intro budget hbudget
    obtain ⟨spare, rfl⟩ : ∃ spare, budget = spare + 1 := ⟨budget - 1, by omega⟩
    rw [drainWhileEnabled, if_pos harmed, run_dispatch_transmitterReady,
      run_transmitterReady_idle hblocked hwaiting]
    simp only
    rw [drainWhileEnabled_disarmed hidle.disarmed]
    rfl
  | cons p ps ih =>
    have hrest : (afterSending p n).engine.queue.toList = ps := by
      show n.engine.queue.dequeue.2.toList = ps
      rw [RingQueue.toList_dequeue, hwaiting, List.tail_cons]
    -- Sending leaves the router unblocked and the interrupt enabled, so the rest drains as well.
    obtain ⟨n', hdrained, hloop⟩ := ih (n := afterSending p n) hblocked harmed hrest
    refine ⟨n', hdrained.cons hwaiting hrest, ?_⟩
    intro budget hbudget
    obtain ⟨spare, rfl⟩ : ∃ spare, budget = spare + 1 := ⟨budget - 1, by omega⟩
    have hroom : (afterSending p n).engine.queue.length < spare := by
      have hlength := congrArg List.length hwaiting
      have hlength' := congrArg List.length hrest
      rw [RingQueue.length_toList] at hlength hlength'
      rw [List.length_cons] at hlength
      omega
    rw [drainWhileEnabled, if_pos harmed, run_dispatch_transmitterReady,
      run_transmitterReady_sent hblocked hwaiting]
    show (_ :: (drainWhileEnabled spare (afterSending p n)).1,
      (drainWhileEnabled spare (afterSending p n)).2) = _
    rw [hloop spare hroom]
    rfl

end Drain

/-! ## The capture -/

section Capture

variable (n : Node Simulation)

/-- A pending capture runs on the latched packet. -/
theorem captureLatched_of_some {p : DumpedPacket} (hlatched : latched? n = some p) :
    captureLatched n =
      ([.captured (n.engine.receive p n.hardware.lossStatus).1],
        ⟨n.hardware.released, (n.engine.receive p n.hardware.lossStatus).2, n.events⟩) := by
  unfold latched? at hlatched
  split at hlatched
  · rename_i henabled
    simp [captureLatched, dispatch, Routine.run_bind, run_capture_simulation, hlatched, henabled]
  · exact absurd hlatched (by simp)

/-- Without a pending capture nothing happens. -/
theorem captureLatched_of_none (hlatched : latched? n = none) : captureLatched n = ([], n) := by
  unfold latched? at hlatched
  split at hlatched
  · simp [captureLatched, hlatched]
  · rename_i hdisabled
    simp [captureLatched, hdisabled]

/-- What servicing finds after the capture: the packet has joined the queue or is gone, and the rest is
    as it was. -/
structure Captured (n' : Node Simulation) : Prop where
  queue : n'.engine.queue.toList = waiting n
  source : n'.engine.transmitSource = n.engine.transmitSource
  nothingLatched : latched? n' = none
  transmitted : n'.hardware.transmitted = n.hardware.transmitted
  txData : n'.hardware.txData = n.hardware.txData
  blocked : n'.hardware.isBlocked = n.hardware.isBlocked
  enabled : ∀ source, n'.hardware.interruptEnabled source = n.hardware.interruptEnabled source

/-- **The capture.** It gives one outcome if it was pending and none otherwise. -/
theorem captureLatched_spec :
    (captureLatched n).1 = (captureOutcome? n).toList.map .captured
      ∧ Captured n (captureLatched n).2 := by
  cases hlatched : latched? n with
  | none =>
    have houtcome : captureOutcome? n = none := by rw [captureOutcome?, hlatched, Option.map_none]
    have hwaiting : waiting n = n.engine.queue.toList := by simp [waiting, kept?, houtcome]
    rw [captureLatched_of_none n hlatched, houtcome]
    exact ⟨rfl, hwaiting.symm, rfl, hlatched, rfl, rfl, rfl, fun _ => rfl⟩
  | some p =>
    have houtcome : captureOutcome? n = some (n.engine.receive p n.hardware.lossStatus).1 := by
      rw [captureOutcome?, hlatched, Option.map_some]
    -- Reading the dump status released the registers, whatever became of the packet.
    have hgone (e : Engine) : latched? ⟨n.hardware.released, e, n.events⟩ = none := by
      unfold latched?
      split <;> rfl
    rw [captureLatched_of_some n hlatched, houtcome]
    refine ⟨rfl, ?_⟩
    obtain ⟨-, hr⟩ | ⟨-, hroom, hr⟩ | ⟨-, -, hr⟩ := n.engine.receive_cases p n.hardware.lossStatus
    · have hwaiting : waiting n = n.engine.queue.toList := by simp [waiting, kept?, houtcome, hr]
      rw [hr]
      exact ⟨hwaiting.symm, rfl, hgone _, rfl, rfl, rfl, fun _ => rfl⟩
    · have hwaiting : waiting n = n.engine.queue.toList ++ [p] := by
        simp [waiting, kept?, houtcome, hr, hlatched]
      rw [hr]
      refine ⟨?_, rfl, hgone _, rfl, rfl, rfl, fun _ => rfl⟩
      rw [hwaiting]
      exact RingQueue.toList_enqueue hroom p
    · have hwaiting : waiting n = n.engine.queue.toList := by simp [waiting, kept?, houtcome, hr]
      rw [hr]
      exact ⟨hwaiting.symm, rfl, hgone _, rfl, rfl, rfl, fun _ => rfl⟩

end Capture

/-! ## Servicing -/

section Service

variable {n : Node Simulation}

/-- A disarmed node only captures. -/
theorem servicePending_disarmed
    (hdisarmed : n.hardware.interruptEnabled .transmitterReady = false) :
    servicePending n = captureLatched n := by
  have hcaptured := (captureLatched_spec n).2
  have hsame : (captureLatched n).2.hardware.interruptEnabled .transmitterReady = false := by
    rw [hcaptured.enabled, hdisarmed]
  rw [servicePending, drainWhileEnabled_disarmed hsame, List.append_nil]

/-- A blocked node captures, then disarms. -/
theorem servicePending_blocked (hblocked : n.hardware.isBlocked = true)
    (harmed : n.hardware.interruptEnabled .transmitterReady = true) :
    servicePending n =
      ((captureLatched n).1 ++ [.drained .blocked],
        { (captureLatched n).2 with hardware := (captureLatched n).2.hardware.disarmed.ended }) := by
  have hcaptured := (captureLatched_spec n).2
  rw [servicePending, drainWhileEnabled_blocked (hcaptured.blocked.trans hblocked)
    ((hcaptured.enabled _).trans harmed)]

/-- A node that is neither captures, then sends all that waits, then disarms. -/
theorem servicePending_unblocked (hblocked : n.hardware.isBlocked = false)
    (harmed : n.hardware.interruptEnabled .transmitterReady = true) :
    Drained (captureLatched n).2 (servicePending n).2
      ∧ (servicePending n).1 =
        (captureLatched n).1
          ++ ((waiting n).map (fun p => .drained (.sent p)) ++ [.drained .idle]) := by
  have hcaptured := (captureLatched_spec n).2
  obtain ⟨n', hdrained, hloop⟩ := drainWhileEnabled_unblocked (hcaptured.blocked.trans hblocked)
    ((hcaptured.enabled _).trans harmed)
  rw [servicePending, hloop _ (Nat.lt_succ_self _), hcaptured.queue]
  exact ⟨hdrained, rfl⟩

theorem servicePending_outcomes (n : Node Simulation) : (servicePending n).1 = serviceOutcomes n := by
  have houtcome := (captureLatched_spec n).1
  unfold serviceOutcomes
  rw [← houtcome]
  cases harmed : n.hardware.interruptEnabled .transmitterReady with
  | false => rw [servicePending_disarmed harmed]; simp
  | true =>
    cases hblocked : n.hardware.isBlocked with
    | true => rw [servicePending_blocked hblocked harmed]; simp
    | false => rw [(servicePending_unblocked hblocked harmed).2]; simp

theorem servicePending_disarms (n : Node Simulation) :
    (servicePending n).2.hardware.interruptEnabled .transmitterReady = false := by
  cases harmed : n.hardware.interruptEnabled .transmitterReady with
  | false => rw [servicePending_disarmed harmed, (captureLatched_spec n).2.enabled, harmed]
  | true =>
    cases hblocked : n.hardware.isBlocked with
    | true =>
      rw [servicePending_blocked hblocked harmed]
      show (captureLatched n).2.hardware.disarmed.ended.interruptEnabled .transmitterReady = false
      rw [interruptEnabled_ended, interruptEnabled_disarmed]
    | false => exact (servicePending_unblocked hblocked harmed).1.disarmed

/-- **The budget never ends the loop**: with any larger one the drain goes the same way. -/
theorem drain_budget_enough (n : Node Simulation) (spare : Nat) :
    drainWhileEnabled (n.engine.queue.length + 1 + spare) n =
      drainWhileEnabled (n.engine.queue.length + 1) n := by
  cases harmed : n.hardware.interruptEnabled .transmitterReady with
  | false => rw [drainWhileEnabled_disarmed harmed, drainWhileEnabled_disarmed harmed]
  | true =>
    cases hblocked : n.hardware.isBlocked with
    | true =>
      rw [Nat.add_right_comm, drainWhileEnabled_blocked hblocked harmed,
        drainWhileEnabled_blocked hblocked harmed]
    | false =>
      obtain ⟨n', -, hloop⟩ := drainWhileEnabled_unblocked hblocked harmed
      rw [hloop _ (by omega), hloop _ (by omega)]

end Service

/-! ## Ticks -/

section Ticks

variable {n : Node Simulation}

/-- What is pending is read off the dump registers, one interrupt line and the memory. -/
theorem waiting_of_untouched {n' : Node Simulation} (hengine : n'.engine = n.engine)
    (h : Untouched n.hardware n'.hardware) : waiting n' = waiting n := by
  have hlatched : latched? n' = latched? n := by
    unfold latched?
    rw [h.captureEnabled, h.dump]
  have hstatus : n'.hardware.lossStatus = n.hardware.lossStatus := by
    unfold lossStatus
    rw [h.dumpOverflow]
  unfold waiting kept? captureOutcome?
  rw [hlatched, hstatus, hengine]

/-- What the timer's handler makes of a node: nothing is sent or captured, and the transmitter-ready
    interrupt is armed if there is something to send and the router takes it. -/
structure Ticked (n n' : Node Simulation) : Prop where
  engine : n'.engine = n.engine
  untouched : Untouched n.hardware n'.hardware
  armed : n'.hardware.interruptEnabled .transmitterReady =
    (n.hardware.interruptEnabled .transmitterReady
      || (!n.hardware.isBlocked && !n.engine.queue.isEmpty))

theorem run_dispatch_timerTick (n : Node Simulation) :
    (dispatch .timerTick).run n = (.ticked (timerTick.run n).1, (timerTick.run n).2) := by
  simp only [dispatch, Routine.run_bind]
  rfl

theorem ticked_timerTick (n : Node Simulation) : Ticked n ((dispatch .timerTick).run n).2 := by
  rw [run_dispatch_timerTick]
  have hcleared := untouched_timerCleared n.hardware
  have hsectioned := hcleared.trans (untouched_sectioned n.hardware.timerCleared)
  cases hblocked : n.hardware.isBlocked with
  | true =>
    rw [run_timerTick_blocked hblocked]
    refine ⟨rfl, hcleared.trans (untouched_ended _), ?_⟩
    rw [hblocked, interruptEnabled_ended, interruptEnabled_timerCleared]
    exact (Bool.or_false _).symm
  | false =>
    cases hempty : n.engine.queue.isEmpty with
    | true =>
      rw [run_timerTick_empty hblocked hempty]
      refine ⟨rfl, hsectioned.trans (untouched_ended _), ?_⟩
      rw [hblocked, hempty, interruptEnabled_ended, interruptEnabled_sectioned,
        interruptEnabled_timerCleared]
      exact (Bool.or_false _).symm
    | false =>
      rw [run_timerTick_pending hblocked hempty]
      refine ⟨rfl, hsectioned.trans ((untouched_armed _).trans (untouched_ended _)), ?_⟩
      rw [hblocked, hempty, interruptEnabled_ended, interruptEnabled_armed]
      exact (Bool.or_true _).symm

/-- A node after a tick: it neither sends nor captures before something happens to it. -/
structure Settled (n : Node Simulation) : Prop where
  disarmed : n.hardware.interruptEnabled .transmitterReady = false
  nothingLatched : latched? n = none

theorem Settled.waiting_eq (h : Settled n) : waiting n = n.engine.queue.toList := by
  simp [waiting, kept?, h.nothingLatched]

theorem tick_snd (n : Node Simulation) :
    (tick n).2 = (servicePending ((dispatch .timerTick).run n).2).2 := rfl

/-- A tick that finds something to send, or the transmitter-ready interrupt enabled from before, sends
    all that waits. -/
theorem tick_armed (hblocked : n.hardware.isBlocked = false)
    (harmed : n.hardware.interruptEnabled .transmitterReady = true ∨ n.engine.queue.toList ≠ []) :
    (tick n).2.engine.queue.toList = [] ∧ (tick n).2.hardware.isBlocked = false
      ∧ (tick n).2.hardware.transmitted = n.hardware.transmitted
        ++ images n.engine.transmitSource n.hardware.txData (waiting n)
      ∧ Settled (tick n).2 := by
  rw [tick_snd]
  have hticked := ticked_timerTick n
  have hready : ((dispatch .timerTick).run n).2.hardware.interruptEnabled .transmitterReady = true := by
    rw [hticked.armed, hblocked]
    rcases harmed with henabled | hpending
    · simp [henabled]
    · have hsome : n.engine.queue.isEmpty = false :=
        Bool.eq_false_iff.mpr fun hempty => hpending (n.engine.queue.isEmpty_iff.mp hempty)
      simp [hsome]
  have hunblocked := hticked.untouched.blocked.trans hblocked
  have hcaptured := (captureLatched_spec ((dispatch .timerTick).run n).2).2
  obtain ⟨hdrained, -⟩ := servicePending_unblocked hunblocked hready
  refine ⟨hdrained.emptied, hdrained.blocked.trans (hcaptured.blocked.trans hunblocked), ?_,
    hdrained.disarmed, ?_⟩
  · rw [hdrained.transmitted, hcaptured.transmitted, hticked.untouched.transmitted, hcaptured.source,
      hticked.engine, hcaptured.txData, hticked.untouched.txData, hcaptured.queue,
      waiting_of_untouched hticked.engine hticked.untouched]
  · have hnothing := hcaptured.nothingLatched
    unfold latched? at hnothing ⊢
    rw [hdrained.captureEnabled, hdrained.dump]
    exact hnothing

/-- A tick that finds nothing to send captures what is latched and leaves it for the next one. -/
theorem tick_unarmed (hblocked : n.hardware.isBlocked = false)
    (hdisarmed : n.hardware.interruptEnabled .transmitterReady = false)
    (hempty : n.engine.queue.toList = []) :
    (tick n).2.engine.queue.toList = waiting n
      ∧ (tick n).2.engine.transmitSource = n.engine.transmitSource
      ∧ (tick n).2.hardware.transmitted = n.hardware.transmitted
      ∧ (tick n).2.hardware.txData = n.hardware.txData
      ∧ (tick n).2.hardware.isBlocked = false ∧ Settled (tick n).2 := by
  rw [tick_snd]
  have hticked := ticked_timerTick n
  have hunready : ((dispatch .timerTick).run n).2.hardware.interruptEnabled .transmitterReady
      = false := by
    rw [hticked.armed, hdisarmed, n.engine.queue.isEmpty_iff.mpr hempty]
    simp
  have hcaptured := (captureLatched_spec ((dispatch .timerTick).run n).2).2
  rw [servicePending_disarmed hunready]
  refine ⟨?_, ?_, hcaptured.transmitted.trans hticked.untouched.transmitted,
    hcaptured.txData.trans hticked.untouched.txData,
    hcaptured.blocked.trans (hticked.untouched.blocked.trans hblocked),
    (hcaptured.enabled _).trans hunready, hcaptured.nothingLatched⟩
  · exact hcaptured.queue.trans (waiting_of_untouched hticked.engine hticked.untouched)
  · rw [hcaptured.source, hticked.engine]

/-- A tick of a blocked node sends nothing and takes nothing off the queue. -/
theorem tick_blocked (hblocked : n.hardware.isBlocked = true) :
    (tick n).2.engine.queue.toList = waiting n
      ∧ (tick n).2.hardware.transmitted = n.hardware.transmitted
      ∧ (tick n).2.hardware.isBlocked = true := by
  rw [tick_snd]
  have hticked := ticked_timerTick n
  have hstill := hticked.untouched.blocked.trans hblocked
  have hcaptured := (captureLatched_spec ((dispatch .timerTick).run n).2).2
  have hqueue := hcaptured.queue.trans (waiting_of_untouched hticked.engine hticked.untouched)
  have htransmitted := hcaptured.transmitted.trans hticked.untouched.transmitted
  have hblocked' := hcaptured.blocked.trans hstill
  cases harmed : ((dispatch .timerTick).run n).2.hardware.interruptEnabled .transmitterReady with
  | false =>
    rw [servicePending_disarmed harmed]
    exact ⟨hqueue, htransmitted, hblocked'⟩
  | true =>
    rw [servicePending_blocked hstill harmed]
    have huntouched := (untouched_disarmed
      (captureLatched ((dispatch .timerTick).run n).2).2.hardware).trans (untouched_ended _)
    exact ⟨hqueue, huntouched.transmitted.trans htransmitted, huntouched.blocked.trans hblocked'⟩

/-- **Two ticks empty an unblocked node.** The second one is for a packet that was latched while there
    was nothing else to send: the tick armed before it was captured. -/
theorem two_ticks (hblocked : n.hardware.isBlocked = false) :
    (tick (tick n).2).2.engine.queue.toList = []
      ∧ (tick (tick n).2).2.hardware.transmitted = n.hardware.transmitted
        ++ images n.engine.transmitSource n.hardware.txData (waiting n) := by
  by_cases harmed : n.hardware.interruptEnabled .transmitterReady = true ∨ n.engine.queue.toList ≠ []
  · -- The first tick sends everything, and the second finds nothing.
    obtain ⟨hemptied, hblocked', htransmitted, hsettled⟩ := tick_armed hblocked harmed
    obtain ⟨hqueue, -, htransmitted', -, -, -⟩ := tick_unarmed hblocked' hsettled.disarmed hemptied
    exact ⟨hqueue.trans (hsettled.waiting_eq.trans hemptied), htransmitted'.trans htransmitted⟩
  · -- The first tick can only capture; what it queued is there for the second to arm.
    obtain ⟨hdisarmed, hempty⟩ := not_or.mp harmed
    obtain ⟨hqueue, hsource, htransmitted, htxData, hblocked', hsettled⟩ :=
      tick_unarmed hblocked (Bool.eq_false_iff.mpr hdisarmed) (Decidable.not_not.mp hempty)
    by_cases hkept : waiting n = []
    · obtain ⟨hqueue', -, htransmitted', -, -, -⟩ :=
        tick_unarmed hblocked' hsettled.disarmed (hqueue.trans hkept)
      refine ⟨hqueue'.trans (hsettled.waiting_eq.trans (hqueue.trans hkept)), ?_⟩
      rw [htransmitted', htransmitted, hkept, images, List.append_nil]
    · obtain ⟨hemptied, -, htransmitted', -⟩ :=
        tick_armed hblocked' (Or.inr fun hempty' => hkept (hqueue.symm.trans hempty'))
      refine ⟨hemptied, ?_⟩
      rw [htransmitted', htransmitted, hsource, htxData, hsettled.waiting_eq, hqueue]

/-- **A blocked node keeps what it has**, however often its timer ticks. -/
theorem blocked_ticks (hblocked : n.hardware.isBlocked = true) (count : Nat) :
    let n' := (fun m => (tick m).2)^[count] n
    n'.hardware.transmitted = n.hardware.transmitted
      ∧ n.engine.queue.toList <+: n'.engine.queue.toList := by
  induction count generalizing n with
  | zero => exact ⟨rfl, List.prefix_refl _⟩
  | succ count ih =>
    obtain ⟨hqueue, htransmitted, hblocked'⟩ := tick_blocked hblocked
    obtain ⟨htransmitted', hkept⟩ := ih hblocked'
    have hpre : n.engine.queue.toList <+: (tick n).2.engine.queue.toList :=
      hqueue ▸ List.prefix_append _ _
    exact ⟨htransmitted'.trans htransmitted, hpre.trans hkept⟩

end Ticks

/-- **Draining never gets stuck and never stops early**, whatever the registers hold and wherever the
    indices of the queue stand. Servicing gives exactly the outcomes of what is pending and leaves the
    transmitter-ready interrupt disabled, which is what ends its loop; two ticks send all that waits on
    an unblocked node; and no number of ticks sends or loses a packet of a blocked one. -/
theorem draining_completes (n : Node Simulation) :
    ((servicePending n).1 = serviceOutcomes n
        ∧ (servicePending n).2.hardware.interruptEnabled .transmitterReady = false
        ∧ ∀ spare, drainWhileEnabled ((captureLatched n).2.engine.queue.length + 1 + spare)
              (captureLatched n).2
            = drainWhileEnabled ((captureLatched n).2.engine.queue.length + 1) (captureLatched n).2)
      ∧ (n.hardware.isBlocked = false →
        (tick (tick n).2).2.engine.queue.toList = []
          ∧ (tick (tick n).2).2.hardware.transmitted = n.hardware.transmitted
            ++ images n.engine.transmitSource n.hardware.txData (waiting n))
      ∧ (n.hardware.isBlocked = true → ∀ count : Nat,
        let n' := (fun m => (tick m).2)^[count] n
        n'.hardware.transmitted = n.hardware.transmitted
          ∧ n.engine.queue.toList <+: n'.engine.queue.toList) :=
  ⟨⟨servicePending_outcomes n, servicePending_disarms n, drain_budget_enough _⟩, two_ticks,
    blocked_ticks⟩

/-- A packet latched while nothing else waits: the first tick captures it, the second sends it. -/
theorem draining_completes_after_unarmed_tick :
    let n : Node Simulation := Node.fresh
      { fresh with dump := some ⟨0x052b0000, 7, 9⟩, vicEnabled := InterruptSource.droppedPacket.mask }
      EngineConfig.standard
    n.hardware.isBlocked = false ∧ (tick n).2.hardware.transmitted = []
      ∧ (tick (tick n).2).2.engine.queue.toList = []
      ∧ (tick (tick n).2).2.hardware.transmitted = [⟨0x002b0000, 0x05000000, some 9, 7⟩] := by
  intro n
  have hblocked : n.hardware.isBlocked = false := by decide
  obtain ⟨hemptied, htransmitted⟩ := (draining_completes n).2.1 hblocked
  exact ⟨hblocked, by decide, hemptied, htransmitted.trans (by decide)⟩

end PacketReinjection.Simulation
