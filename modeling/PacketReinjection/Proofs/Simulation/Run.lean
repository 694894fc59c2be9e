import PacketReinjection.Proofs.Command.Polling
import PacketReinjection.Proofs.Simulation.Service

/-!
# `Proofs.Simulation.Run` — runs of a simulated node, outside world included

On a simulated node more can happen than operations of the engine: whole rounds of interrupts, polls of
a mailbox, and what comes from outside. A round or a poll is nothing but operations one after the other,
which ones can be read off what it gives, so a run still has a history of operations. An invariant of
all runs needs to be looked at for single operations and for the outside world only (`run_preserves`).

## Contents
- **`Occurrence`** with `operations`, `after` and `records`; **`Outside`**, the part of the world.
- **Rounds and polls as operations.** `Replays`, `replays_tick`, `performAll_poll`, `after_eq`.
- **`run`** and **`run_preserves`**.
-/

namespace PacketReinjection

/-- The operation that a handler's outcome comes from. -/
def HandlerOutcome.operation : HandlerOutcome → Operation
  | .captured _ => .dispatch .droppedPacket
  | .ticked _ => .dispatch .timerTick
  | .drained _ => .dispatch .transmitterReady
  | .deferred => .dispatch .command

namespace Simulation

/-! ## Occurrences -/

/-- What can happen on a simulated node. -/
inductive Occurrence where
  | operation (op : Operation)
  /-- Whatever the hardware has raised is delivered. -/
  | service
  /-- A timer tick and everything it unblocks. -/
  | tick
  /-- The frames of a mailbox are handled while the engine runs. -/
  | poll (mailbox : Mailbox)
  /-- The router dumps a packet. -/
  | dump (p : DumpedPacket)
  /-- The router starts or stops taking packets. -/
  | block (blocked : Bool)

namespace Occurrence

/-- The operations that an occurrence is made of, read off what it gives: one for each outcome of a
    round, and one for each frame that a poll took. -/
def operations (n : Node Simulation) : Occurrence → List Operation
  | operation op => [op]
  | service => (servicePending n).1.map HandlerOutcome.operation
  | tick => (Simulation.tick n).1.map HandlerOutcome.operation
  | poll mailbox =>
    (mailbox.inbox.take ((pollCommands mailbox).run n).1.1).map fun frame => .frame frame.bytes
  | dump _ | block _ => []

/-- The node after an occurrence. -/
def after (n : Node Simulation) : Occurrence → Node Simulation
  | operation op => (n.perform op).2
  | service => (servicePending n).2
  | tick => (Simulation.tick n).2
  | poll mailbox => ((pollCommands mailbox).run n).2
  | dump p => { n with hardware := (n.hardware.injectDump p).2 }
  | block blocked => { n with hardware := n.hardware.setBlocked blocked }

/-- The records of an occurrence's operations. -/
def records (n : Node Simulation) (o : Occurrence) : List Performed :=
  (n.performAll (o.operations n)).1

end Occurrence

/-- What the outside world does to the hardware. -/
inductive Outside (s : Simulation) : Simulation → Prop where
  | dump (p : DumpedPacket) : Outside s (s.injectDump p).2
  | block (blocked : Bool) : Outside s (s.setBlocked blocked)

/-! The outside world latches packets and blocks the router; the registers that the engine sets are not
its business. -/

section Outside

variable {s s' : Simulation} (hs : Outside s s')

include hs

theorem Outside.routerControl : s'.routerControl = s.routerControl := by
  cases hs with
  | dump p =>
    unfold injectDump
    split <;> rfl
  | block blocked => rfl

theorem Outside.vicEnabled : s'.vicEnabled = s.vicEnabled := by
  cases hs with
  | dump p =>
    unfold injectDump
    split <;> rfl
  | block blocked => rfl

end Outside

/-! ## Rounds and polls as operations -/

section Rounds

open Routine

/-- Operations whose outcomes are those of a round, and which end where the round ends. -/
structure Replays (n : Node Simulation) (round : List HandlerOutcome × Node Simulation) : Prop where
  node : (n.performAll (round.1.map HandlerOutcome.operation)).2 = round.2
  outcomes : (n.performAll (round.1.map HandlerOutcome.operation)).1.map Performed.outcome
    = round.1.map Outcome.handled

theorem Replays.nil (n : Node Simulation) : Replays n ([], n) := ⟨rfl, rfl⟩

/-- The handler of a line goes before a round. -/
theorem Replays.cons {n : Node Simulation} {source : InterruptSource}
    {round : List HandlerOutcome × Node Simulation}
    (hsource : ((dispatch source).run n).1.operation = .dispatch source)
    (h : Replays ((dispatch source).run n).2 round) :
    Replays n (((dispatch source).run n).1 :: round.1, round.2) := by
  have hop : (Operation.dispatch source).interrupt? = some source := rfl
  obtain ⟨hnode, houtcome⟩ := perform_interrupt hop n
  constructor
  · simp only [List.map_cons, hsource, Node.performAll, hnode, h.node]
  · simp only [List.map_cons, hsource, Node.performAll, hnode, houtcome, h.outcomes]

/-- One round after the other. -/
theorem Replays.append {n : Node Simulation} {first second : List HandlerOutcome × Node Simulation}
    (hfirst : Replays n first) (hsecond : Replays first.2 second) :
    Replays n (first.1 ++ second.1, second.2) := by
  constructor
  · rw [List.map_append, Node.performAll_append, hfirst.node, hsecond.node]
  · rw [List.map_append, Node.performAll_append, List.map_append, hfirst.outcomes, hfirst.node,
      hsecond.outcomes, List.map_append]

theorem replays_drainWhileEnabled (budget : Nat) (n : Node Simulation) :
    Replays n (drainWhileEnabled budget n) := by
  induction budget generalizing n with
  | zero => exact .nil n
  | succ budget ih =>
    rw [drainWhileEnabled]
    split
    · refine Replays.cons ?_ (ih _)
      rw [run_dispatch_transmitterReady]
      rfl
    · exact .nil n

theorem replays_captureLatched (n : Node Simulation) : Replays n (captureLatched n) := by
  unfold captureLatched
  split
  · have hsource : ((dispatch .droppedPacket).run n).1.operation = .dispatch .droppedPacket := by
      simp only [dispatch, run_bind]
      rfl
    exact Replays.cons hsource (.nil _)
  · exact .nil n

/-- **Delivering interrupts is running their handlers**, in the order of the outcomes. -/
theorem replays_servicePending (n : Node Simulation) : Replays n (servicePending n) :=
  (replays_captureLatched n).append (replays_drainWhileEnabled _ _)

theorem replays_tick (n : Node Simulation) : Replays n (tick n) := by
  refine Replays.cons ?_ (replays_servicePending _)
  rw [run_dispatch_timerTick]
  rfl

/-- **Polling a mailbox is handling the frames that were taken.** -/
theorem performAll_poll (mailbox : Mailbox) (n : Node Simulation) :
    (n.performAll ((mailbox.inbox.take ((pollCommands mailbox).run n).1.1).map fun frame =>
      .frame frame.bytes)).2 = ((pollCommands mailbox).run n).2 := by
  have htaken : mailbox.inbox.take (n.framesTaken mailbox.inbox).length
      = n.framesTaken mailbox.inbox :=
    (List.prefix_iff_eq_take.mp (n.framesTaken_prefix mailbox.inbox)).symm
  rw [run_pollCommands, run_pollFrames]
  simp only
  rw [htaken]
  rfl

/-- **An occurrence is its operations**, unless it comes from outside. -/
theorem after_eq (n : Node Simulation) (o : Occurrence) :
    o.after n = (n.performAll (o.operations n)).2
      ∨ o.operations n = [] ∧ ∃ s, Outside n.hardware s ∧ o.after n = { n with hardware := s } := by
  cases o with
  | operation op => exact .inl rfl
  | service => exact .inl (replays_servicePending n).node.symm
  | tick => exact .inl (replays_tick n).node.symm
  | poll mailbox => exact .inl (performAll_poll mailbox n).symm
  | dump p => exact .inr ⟨rfl, _, .dump p, rfl⟩
  | block blocked => exact .inr ⟨rfl, _, .block blocked, rfl⟩

end Rounds

/-! ## Runs -/

/-- What happens on a node, one occurrence after the other: the history of operations, and the node
    afterwards. -/
def run : List Occurrence → Node Simulation → List Performed × Node Simulation
  | [], n => ([], n)
  | o :: os, n =>
    let later := run os (o.after n)
    (o.records n ++ later.1, later.2)

section Preserves

variable {I : List Performed → Node Simulation → Prop}

theorem performAll_preserves
    (hperform : ∀ history n op, I history n → I (history ++ [(n.perform op).1]) (n.perform op).2)
    (ops : List Operation) {history : List Performed} {n : Node Simulation} (h : I history n) :
    I (history ++ (n.performAll ops).1) (n.performAll ops).2 := by
  induction ops generalizing history n with
  | nil => rwa [Node.performAll, List.append_nil]
  | cons op ops ih =>
    have hlater := ih (hperform history n op h)
    rwa [List.append_assoc, List.singleton_append] at hlater

/-- **What operations and the outside world preserve, every run preserves.** -/
theorem run_preserves
    (hperform : ∀ history n op, I history n → I (history ++ [(n.perform op).1]) (n.perform op).2)
    (houtside : ∀ history n s, Outside n.hardware s → I history n →
      I history { n with hardware := s })
    (os : List Occurrence) {history : List Performed} {n : Node Simulation} (h : I history n) :
    I (history ++ (run os n).1) (run os n).2 := by
  induction os generalizing history n with
  | nil => rwa [run, List.append_nil]
  | cons o os ih =>
    have hafter : I (history ++ o.records n) (o.after n) := by
      obtain hperformed | ⟨hnone, s, hs, houter⟩ := after_eq n o
      · have hall := performAll_preserves hperform (o.operations n) h
        rwa [← hperformed] at hall
      · rw [Occurrence.records, hnone, houter, Node.performAll, List.append_nil]
        exact houtside history n s hs h
    have hlater := ih hafter
    rwa [List.append_assoc] at hlater

end Preserves

end Simulation

end PacketReinjection
