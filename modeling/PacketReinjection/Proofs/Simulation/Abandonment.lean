import PacketReinjection.Proofs.Finality
import PacketReinjection.Proofs.Simulation.Lines

/-!
# `Proofs.Simulation.Abandonment` — what becomes of the queue after an exit

An exit disables the three lines that re-injection owns and leaves the queue as it stands. From then on
the node is reached by rounds of interrupts, by frames and by the outside world only. None of them
enables a line, sends a packet or touches the memory, with one exception: a tick runs the timer's
handler whether its line is enabled or not, and that handler arms the transmitter for what is queued. So
the packets are abandoned for good exactly if none is left, or if every tick finds the router blocked.

## Contents
- **`Occurrence.isDelivered`** — what still reaches a node; `TicksBlocked`, a condition on it.
- **`Retired`** — a node after an exit; `retired_perform`.
- **One occurrence.** `Unmoved`; `Retired.unmoved_frame`, `Retired.tick_unarmed`, and from these
  `unmoved_of_delivered`; `Retired.tick`.
- **Runs.** `Abandoned` and `abandoned_of_blocked`; `SentAnyway` and `sent_of_unblocked`;
  **`queue_after_exit`**.
-/

namespace PacketReinjection

/-- A handler changes the transmitter-ready line only. -/
theorem HandlerOutcome.standing_of_lineEvent {o : HandlerOutcome} {e : LineEvent}
    (h : o.lineEvent? = some e) : e.standing = false := by
  unfold HandlerOutcome.lineEvent? at h
  split at h
  · cases h
    rfl
  all_goals first | contradiction | (cases h; rfl)

namespace Simulation

/-! ## Occurrences after an exit -/

/-- Whether an occurrence reaches the node on its own: a round of interrupts, a frame, a poll, or the
    outside world. Start-up, handlers and messages without a frame have to be called. -/
def Occurrence.isDelivered : Occurrence → Bool
  | .service | .tick | .poll _ | .dump _ | .block _ => true
  | .operation op =>
    match op with
    | .frame _ => true
    | .start | .capture | .timerTick | .transmitterReady | .dispatch _ | .command _ => false

/-- Whether the router is blocked after an occurrence, of those that reach the node on their own. -/
def Occurrence.blockedAfter (blocked : Bool) : Occurrence → Bool
  | .block blocked' => blocked'
  | .operation _ | .service | .tick | .poll _ | .dump _ => blocked

/-- Every tick of the sequence finds the router blocked, given whether it is blocked at first. -/
def TicksBlocked : Bool → List Occurrence → Prop
  | _, [] => True
  | blocked, o :: os => (o = .tick → blocked = true) ∧ TicksBlocked (o.blockedAfter blocked) os

theorem isBlocked_setBlocked (s : Simulation) (blocked : Bool) :
    (s.setBlocked blocked).isBlocked = blocked := by
  have hset : ¬Router.blockedMask = 0 := by decide
  have hcleared : ~~~Router.blockedMask &&& Router.blockedMask = 0 := by decide
  cases blocked <;> simp [setBlocked, isBlocked, bits_or_and, UInt32.and_assoc, hset, hcleared]

/-! ## Retired nodes -/

/-- A node after an exit. -/
structure Retired (n : Node Simulation) : Prop where
  stopped : n.engine.running = false
  /-- The three lines that re-injection owns are disabled. -/
  disabled : ∀ source, source ≠ .command → n.hardware.interruptEnabled source = false

theorem lineEvent?_of_exits {n : Node Simulation} {op : Operation}
    (hexit : (n.perform op).1.exits = true) : (n.perform op).1.lineEvent? = some .exited := by
  have hasked := (exits_perform n op).symm.trans hexit
  cases op with
  | frame bytes => exact (lineEvent?_message rfl rfl n).trans (if_pos hexit)
  | command m => exact (lineEvent?_message rfl rfl n).trans (if_pos hexit)
  | _ => exact absurd hasked (by simp [Operation.asksExit])

/-- **An exit retires the node.** -/
theorem retired_perform {n : Node Simulation} {op : Operation}
    (hexit : (n.perform op).1.exits = true) : Retired (n.perform op).2 where
  stopped := by rw [running_perform, ← exits_perform, hexit, Bool.not_true, Bool.and_false]
  disabled source hsource := by
    rw [interruptEnabled_eq, (registers_perform n op).enabled, Performed.enabledAfter,
      lineEvent?_of_exits hexit]
    show (LineEvent.exited.apply n.hardware.vicEnabled).toBitVec.getLsbD source.line.toNat = false
    rw [LineEvent.getLsbD_line_apply]
    cases source with
    | command => exact absurd rfl hsource
    | _ => rfl

/-- Nothing is delivered to a retired node. -/
theorem Retired.servicePending {n : Node Simulation} (hn : Retired n) : servicePending n = ([], n) := by
  have hnothing : latched? n = none := by
    unfold latched?
    rw [hn.disabled .droppedPacket (by decide)]
    rfl
  rw [servicePending_disarmed (hn.disabled .transmitterReady (by decide)),
    captureLatched_of_none n hnothing]

/-! ## One occurrence -/

/-- The line events of a round are those of its outcomes. -/
theorem Replays.lineEvents {n : Node Simulation} {round : List HandlerOutcome × Node Simulation}
    (h : Replays n round) :
    PacketReinjection.lineEvents (n.performAll (round.1.map HandlerOutcome.operation)).1
      = round.1.filterMap HandlerOutcome.lineEvent? := by
  have houtcomes := h.outcomes
  generalize (n.performAll (round.1.map HandlerOutcome.operation)).1 = history at houtcomes ⊢
  generalize round.1 = outcomes at houtcomes
  -- Record by record: what a handler did to the lines is in its outcome.
  induction history generalizing outcomes with
  | nil =>
    cases outcomes with
    | nil => rfl
    | cons o outcomes => exact absurd houtcomes (by simp)
  | cons record history ih =>
    cases outcomes with
    | nil => exact absurd houtcomes (by simp)
    | cons o outcomes =>
      rw [List.map_cons, List.map_cons, List.cons.injEq] at houtcomes
      have hevent : record.lineEvent? = o.lineEvent? := by
        rw [Performed.lineEvent?, houtcomes.1]
      have hlater := ih outcomes houtcomes.2
      simp only [PacketReinjection.lineEvents, List.filterMap_cons, hevent] at hlater ⊢
      rw [hlater]

/-- What an occurrence leaves as it was when it moves nothing: the memory, the enables, and what the
    transmitter holds and has sent. -/
structure Unmoved (n n' : Node Simulation) : Prop where
  engine : n'.engine = n.engine
  enabled : n'.hardware.vicEnabled = n.hardware.vicEnabled
  txData : n'.hardware.txData = n.hardware.txData
  transmitted : n'.hardware.transmitted = n.hardware.transmitted

theorem Unmoved.refl (n : Node Simulation) : Unmoved n n := ⟨rfl, rfl, rfl, rfl⟩

theorem Unmoved.retired {n n' : Node Simulation} (h : Unmoved n n') (hn : Retired n) : Retired n' where
  stopped := by rw [h.engine, hn.stopped]
  disabled source hsource := by
    rw [interruptEnabled_eq, h.enabled, ← interruptEnabled_eq, hn.disabled source hsource]

section OneOccurrence

variable {n : Node Simulation} (hn : Retired n)

include hn

/-- A tick that has nothing to arm for. -/
theorem Retired.tick_unarmed (hidle : n.hardware.isBlocked = true ∨ n.engine.queue.toList = []) :
    (tick n).1 = [.ticked false] ∧ Unmoved n (tick n).2
      ∧ (tick n).2.hardware.isBlocked = n.hardware.isBlocked := by
  have hticked : ∃ s, (dispatch .timerTick).run n = (.ticked false, { n with hardware := s })
      ∧ Unmoved n { n with hardware := s } ∧ s.isBlocked = n.hardware.isBlocked := by
    rw [run_dispatch_timerTick]
    cases hblocked : n.hardware.isBlocked with
    | true =>
      rw [run_timerTick_blocked hblocked]
      exact ⟨_, rfl, ⟨rfl, rfl, rfl, rfl⟩, hblocked⟩
    | false =>
      have hempty : n.engine.queue.isEmpty = true := by
        rw [RingQueue.isEmpty_iff]
        exact hidle.resolve_left (by simp [hblocked])
      rw [run_timerTick_empty hblocked hempty]
      exact ⟨_, rfl, ⟨rfl, rfl, rfl, rfl⟩, hblocked⟩
  obtain ⟨s, hrun, hunmoved, hblocked⟩ := hticked
  have hround : tick n = ([.ticked false], { n with hardware := s }) := by
    rw [Simulation.tick, hrun]
    simp only
    rw [(hunmoved.retired hn).servicePending]
  rw [hround]
  exact ⟨rfl, hunmoved, hblocked⟩

/-- A frame is dropped before it is looked at. -/
theorem Retired.unmoved_frame (bytes : List UInt8) :
    Unmoved n (n.perform (.frame bytes)).2 ∧ (n.perform (.frame bytes)).1.lineEvent? = none
      ∧ (n.perform (.frame bytes)).2.hardware = n.hardware := by
  obtain ⟨-, hcalls, hengine⟩ := (stopped_of_not_running hn.stopped).frame bytes
  have hhardware : ((handleFrame bytes).run n).2.hardware = n.hardware := by
    rw [run_hardware, hcalls]
    rfl
  have hnoexit : (n.perform (.frame bytes)).1.exits = false := by
    rw [exits_perform, hn.stopped]
    rfl
  have hsilent : (n.perform (.frame bytes)).1.lineEvent? = none := by
    rw [lineEvent?_message rfl rfl]
    exact if_neg (Bool.eq_false_iff.mp hnoexit)
  rw [(perform_frame n bytes).2]
  exact ⟨⟨hengine, by rw [hhardware], by rw [hhardware], by rw [hhardware]⟩, hsilent, hhardware⟩

/-- **What reaches a retired node moves nothing**, unless it is a tick that finds packets and an
    unblocked router. -/
theorem unmoved_of_delivered {o : Occurrence} (ho : o.isDelivered = true)
    (hidle : o = .tick → n.hardware.isBlocked = true ∨ n.engine.queue.toList = []) :
    Unmoved n (o.after n) ∧ lineEvents (o.records n) = []
      ∧ (o.after n).hardware.isBlocked = o.blockedAfter n.hardware.isBlocked := by
  cases o with
  | operation op =>
    cases op with
    | frame bytes =>
      obtain ⟨hunmoved, hsilent, hhardware⟩ := hn.unmoved_frame bytes
      refine ⟨hunmoved, ?_, congrArg isBlocked hhardware⟩
      simp [lineEvents, Occurrence.records, Occurrence.operations, Node.performAll, hsilent]
    | _ => exact absurd ho (by simp [Occurrence.isDelivered])
  | service =>
    have hround := hn.servicePending
    have hafter : Occurrence.after n .service = n := congrArg Prod.snd hround
    rw [hafter]
    refine ⟨.refl n, ?_, rfl⟩
    simp [lineEvents, Occurrence.records, Occurrence.operations, hround, Node.performAll]
  | tick =>
    obtain ⟨hround, hunmoved, hblocked⟩ := hn.tick_unarmed (hidle rfl)
    refine ⟨hunmoved, ?_, hblocked⟩
    have hevents := (replays_tick n).lineEvents
    rw [hround] at hevents
    show lineEvents (n.performAll ((Simulation.tick n).1.map HandlerOutcome.operation)).1 = []
    rw [hround]
    exact hevents
  | poll mailbox =>
    have hpoll := (stopped_of_not_running hn.stopped).poll mailbox
    have hafter : Occurrence.after n (.poll mailbox) = n := congrArg Prod.snd hpoll
    rw [hafter]
    refine ⟨.refl n, ?_, rfl⟩
    simp [lineEvents, Occurrence.records, Occurrence.operations, hpoll, Node.performAll]
  | dump p =>
    have hsame : Unmoved n { n with hardware := (n.hardware.injectDump p).2 }
        ∧ (n.hardware.injectDump p).2.isBlocked = n.hardware.isBlocked := by
      unfold injectDump
      split <;> exact ⟨⟨rfl, rfl, rfl, rfl⟩, rfl⟩
    exact ⟨hsame.1, rfl, hsame.2⟩
  | block blocked =>
    exact ⟨⟨rfl, rfl, rfl, rfl⟩, rfl, isBlocked_setBlocked _ blocked⟩

/-- A tick leaves a retired node retired, whatever it sends. -/
theorem Retired.tick : Retired (tick n).2 where
  stopped := by
    have hflag := flagTold_performAll ((Simulation.tick n).1.map HandlerOutcome.operation) n
    unfold FlagTold at hflag
    rw [(replays_tick n).node, hn.stopped] at hflag
    exact hflag
  disabled source hsource := by
    -- A round arms and disarms the transmitter; it ends disarmed, and touches no other line.
    have hlines := linesDecided_run [.tick] n
    have hstanding : (lineEvents (run [.tick] n).1).filter LineEvent.standing = [] := by
      have hevents := (replays_tick n).lineEvents
      have hrecords : (run [.tick] n).1
          = (n.performAll ((Simulation.tick n).1.map HandlerOutcome.operation)).1 :=
        List.append_nil _
      rw [hrecords, hevents, List.filter_eq_nil_iff]
      intro e he
      obtain ⟨o, -, ho⟩ := List.mem_filterMap.mp he
      simp [HandlerOutcome.standing_of_lineEvent ho]
    have hkept (hstand : source = .timerTick ∨ source = .droppedPacket) :
        (Simulation.tick n).2.hardware.interruptEnabled source = false := by
      have hsame := hlines.standing source hstand
      rw [hstanding] at hsame
      exact hsame.trans (hn.disabled source hsource)
    cases source with
    | droppedPacket => exact hkept (.inr rfl)
    | timerTick => exact hkept (.inl rfl)
    | transmitterReady =>
      rw [tick_snd]
      exact servicePending_disarms _
    | command => exact absurd rfl hsource

end OneOccurrence

/-! ## Runs -/

/-- Over a run from `n`, the queued packets are abandoned: the three lines are never enabled, nothing is
    sent, and the queue and the counters stay as they are. -/
structure Abandoned (n : Node Simulation) (done : List Performed × Node Simulation) : Prop where
  disabled : ∀ source, source ≠ .command → done.2.hardware.interruptEnabled source = false
  /-- Not even between two steps of a round. -/
  quiet : lineEvents done.1 = []
  unsent : done.2.hardware.transmitted = n.hardware.transmitted
  queue : done.2.engine.queue = n.engine.queue
  statistics : done.2.engine.statistics = n.engine.statistics

/-- If no tick finds packets and an unblocked router, nothing ever moves. -/
theorem abandoned_of_blocked {n : Node Simulation} (hn : Retired n) (os : List Occurrence)
    (hos : ∀ o ∈ os, o.isDelivered = true)
    (hidle : n.engine.queue.toList = [] ∨ TicksBlocked n.hardware.isBlocked os) :
    Abandoned n (run os n) := by
  induction os generalizing n with
  | nil => exact ⟨hn.disabled, rfl, rfl, rfl, rfl⟩
  | cons o os ih =>
    have hfirst : o = .tick → n.hardware.isBlocked = true ∨ n.engine.queue.toList = [] := fun htick =>
      hidle.symm.imp (fun hblocked => hblocked.1 htick) id
    obtain ⟨hunmoved, hsilent, hblocked⟩ :=
      unmoved_of_delivered hn (hos o List.mem_cons_self) hfirst
    have hlater := ih (hunmoved.retired hn) (fun o' ho' => hos o' (List.mem_cons_of_mem _ ho')) (by
      rw [hunmoved.engine, hblocked]
      exact hidle.imp_right And.right)
    refine ⟨hlater.disabled, ?_, hlater.unsent.trans hunmoved.transmitted, ?_, ?_⟩
    · have hquiet := hlater.quiet
      simp only [lineEvents] at hsilent hquiet
      simp only [run, lineEvents, List.filterMap_append, hsilent, hquiet, List.append_nil]
    · rw [run, hlater.queue, hunmoved.engine]
    · rw [run, hlater.statistics, hunmoved.engine]

/-- Nothing is latched for a retired node to capture, so what waits is what is queued. -/
theorem Retired.waiting_eq {n : Node Simulation} (hn : Retired n) : waiting n = n.engine.queue.toList := by
  simp [waiting, kept?, latched?, hn.disabled .droppedPacket (by decide)]

/-- The packets queued on `n` were sent over a run from it, all of them and nothing else. -/
structure SentAnyway (n : Node Simulation) (done : List Performed × Node Simulation) : Prop where
  emptied : done.2.engine.queue.toList = []
  transmitted : done.2.hardware.transmitted = n.hardware.transmitted
    ++ images n.engine.transmitSource n.hardware.txData n.engine.queue.toList

/-- One tick that finds packets and an unblocked router sends them all, and nothing is queued after it. -/
theorem sent_of_unblocked {n : Node Simulation} (hn : Retired n) (os : List Occurrence)
    (hos : ∀ o ∈ os, o.isDelivered = true) (hqueued : n.engine.queue.toList ≠ [])
    (hsome : ¬TicksBlocked n.hardware.isBlocked os) : SentAnyway n (run os n) := by
  induction os generalizing n with
  | nil => exact absurd trivial hsome
  | cons o os ih =>
    have hlater : ∀ o' ∈ os, o'.isDelivered = true := fun o' ho' => hos o' (List.mem_cons_of_mem _ ho')
    by_cases htick : o = .tick ∧ n.hardware.isBlocked = false
    · obtain ⟨rfl, hblocked⟩ := htick
      obtain ⟨hemptied, -, hsent, -⟩ := tick_armed hblocked (.inr hqueued)
      have hkept := abandoned_of_blocked hn.tick os hlater (.inl hemptied)
      refine ⟨?_, hkept.unsent.trans ?_⟩
      · rw [run, Occurrence.after, hkept.queue, hemptied]
      · rw [hsent, hn.waiting_eq]
    · have hfirst : o = .tick → n.hardware.isBlocked = true := fun ho => by
        simpa [ho] using htick
      obtain ⟨hunmoved, -, hblocked⟩ :=
        unmoved_of_delivered hn (hos o List.mem_cons_self) fun ho => .inl (hfirst ho)
      have hrest : SentAnyway (o.after n) (run os (o.after n)) := by
        refine ih (hunmoved.retired hn) hlater (by rwa [hunmoved.engine]) fun hrest => hsome ⟨hfirst, ?_⟩
        rwa [hblocked] at hrest
      refine ⟨hrest.emptied, hrest.transmitted.trans ?_⟩
      rw [hunmoved.engine, hunmoved.txData, hunmoved.transmitted]

/-- **What becomes of the queue after an exit.** Over any sequence of rounds, ticks, frames, polls, dumps
    and changes of the router, the packets queued at the exit are abandoned exactly if there are none or
    every tick finds the router blocked; there is no third possibility, as otherwise they are all sent:
    a tick runs the timer's handler though the line is disabled. -/
theorem queue_after_exit (n : Node Simulation) (op : Operation)
    (hexit : (n.perform op).1.exits = true) (os : List Occurrence)
    (hos : ∀ o ∈ os, o.isDelivered = true) :
    let exited := (n.perform op).2
    let inert := exited.engine.queue.toList = [] ∨ TicksBlocked exited.hardware.isBlocked os
    (Abandoned exited (run os exited) ↔ inert) ∧ (¬inert → SentAnyway exited (run os exited)) := by
  intro exited inert
  have hretired : Retired exited := retired_perform hexit
  have hsent (hnot : ¬inert) : SentAnyway exited (run os exited) :=
    sent_of_unblocked hretired os hos (not_or.mp hnot).1 (not_or.mp hnot).2
  refine ⟨⟨fun habandoned => ?_, abandoned_of_blocked hretired os hos⟩, hsent⟩
  by_contra hnot
  refine (not_or.mp hnot).1 ?_
  rw [← habandoned.queue]
  exact (hsent hnot).emptied

/-- A node that was started and has captured a packet for a blocked router. -/
def queuedOne : Node Simulation :=
  (run [.operation .start, .block true, .dump ⟨0, 1, 0⟩, .service]
    (Node.fresh fresh EngineConfig.standard)).2

/-- The only tick finds the router blocked, so the packet is abandoned for all that comes after. -/
theorem queue_after_exit_blocked :
    let exited := (queuedOne.perform (.frame CommandMessage.exit.toBytes)).2
    exited.engine.queue.toList = [⟨0, 1, 0⟩]
      ∧ Abandoned exited (run [.tick, .block false, .dump ⟨0, 2, 0⟩, .service, .poll .empty] exited) := by
  intro exited
  have hexit : (queuedOne.perform (.frame CommandMessage.exit.toBytes)).1.exits = true := by decide
  obtain ⟨habandoned, -⟩ := queue_after_exit queuedOne (.frame CommandMessage.exit.toBytes) hexit
    [.tick, .block false, .dump ⟨0, 2, 0⟩, .service, .poll .empty] (by decide)
  refine ⟨by decide, habandoned.mpr (.inr ?_)⟩
  have hblocked : exited.hardware.isBlocked = true := by decide
  simpa [TicksBlocked, Occurrence.blockedAfter] using hblocked

/-- The packet is sent, and counted, by a tick after the exit that finds the router unblocked. -/
theorem not_abandoned_after_unblocked_tick :
    let exited := (queuedOne.perform (.frame CommandMessage.exit.toBytes)).2
    let done := run [.block false, .tick] exited
    (queuedOne.perform (.frame CommandMessage.exit.toBytes)).1.exits = true
      ∧ done.2.hardware.transmitted = [⟨0, 0, none, 1⟩] ∧ done.2.engine.statistics.reinjected = 1
      ∧ ¬Abandoned exited done := by
  refine ⟨by decide, by decide, by decide, fun habandoned => ?_⟩
  exact absurd habandoned.unsent (by decide)

end Simulation

end PacketReinjection
