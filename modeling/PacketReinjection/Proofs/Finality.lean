import PacketReinjection.Idle
import PacketReinjection.Proofs.Command.Polling

/-!
# `Proofs.Finality` — exit is final

The running flag has one writer, the exit command, and that one clears it. So whether an engine runs can
be told from its history: it ran at first, and no exit was executed since. Start-up does not set the
flag again, and no interrupt, no frame in a bad form or for another port and no refused message clears
it.

A stopped engine does not serve its control plane any more: frames are dropped before they are looked
at, polls take nothing, and the idle loop is left without a sleep.

## Contents
- **`Turn`** — what can happen to an engine on any hardware; `Turn.records`, `Turn.after`, `Node.turns`.
- **The flag.** `FlagTold`, `Turn.flagTold`, `flagTold_turns`.
- **`Stopped`** and **`exit_final`**.
-/

namespace PacketReinjection

open Routine

/-! ## Turns -/

/-- What can happen to an engine on its hardware. A round of interrupts is one operation after the
    other, and has no constructor of its own. -/
inductive Turn (S : Type) where
  | operation (op : Operation)
  /-- The frames of a mailbox are handled while the engine runs. -/
  | poll (mailbox : Mailbox)
  /-- The idle loop, woken for one operation after the other, and for an exit when there are no more. -/
  | idle (wakes : List Operation)
  /-- The hardware changes for reasons of its own. -/
  | hardware (s : S)

section Turns

variable {S : Type} [Platform S]

/-- The idle loop with the records of what its wakes did. -/
def Node.idlePerforming (wakes : List Operation) (n : Node S) : List Performed × Node S :=
  n.idle (fun m => m.perform (.frame CommandMessage.exit.toBytes))
    (wakes.map fun op m => m.perform op)

namespace Turn

/-- The records of the operations in a turn. -/
def records (n : Node S) : Turn S → List Performed
  | operation op => [(n.perform op).1]
  | poll mailbox => (n.performAll ((n.framesTaken mailbox.inbox).map CommandFrame.operation)).1
  | idle wakes => (n.idlePerforming wakes).1
  | hardware _ => []

/-- The node after a turn. -/
def after (n : Node S) : Turn S → Node S
  | operation op => (n.perform op).2
  | poll mailbox => ((pollCommands mailbox).run n).2
  | idle wakes => (n.idlePerforming wakes).2
  | hardware s => { n with hardware := s }

end Turn

/-- One turn after the other: the history of operations, and the node afterwards. -/
def Node.turns : List (Turn S) → Node S → List Performed × Node S
  | [], n => ([], n)
  | t :: ts, n =>
    let later := Node.turns ts (t.after n)
    (t.records n ++ later.1, later.2)

/-! ## The flag -/

/-- What was done, read off its records, tells what became of the running flag. -/
def FlagTold (n : Node S) (done : List Performed × Node S) : Prop :=
  done.2.engine.running = (n.engine.running && !done.1.any Performed.exits)

omit [Platform S] in
theorem FlagTold.none {n n' : Node S} (h : n'.engine = n.engine) : FlagTold n ([], n') := by
  simp [FlagTold, h]

omit [Platform S] in
/-- One part after the other. -/
theorem FlagTold.append {n : Node S} {first second : List Performed × Node S} (h : FlagTold n first)
    (h' : FlagTold first.2 second) : FlagTold n (first.1 ++ second.1, second.2) := by
  unfold FlagTold at *
  rw [h', h, List.any_append, Bool.not_or, Bool.and_assoc]

theorem flagTold_perform (n : Node S) (op : Operation) :
    FlagTold n ([(n.perform op).1], (n.perform op).2) := by
  unfold FlagTold
  rw [running_perform, List.any_cons, List.any_nil, Bool.or_false, exits_perform]

theorem flagTold_performAll (ops : List Operation) (n : Node S) : FlagTold n (n.performAll ops) := by
  induction ops generalizing n with
  | nil => exact .none rfl
  | cons op ops ih => exact (flagTold_perform n op).append (ih _)

/-- A poll is the frames that it takes. -/
theorem flagTold_poll (mailbox : Mailbox) (n : Node S) :
    FlagTold n ((Turn.poll mailbox).records n, (Turn.poll mailbox).after n) := by
  have hpolled : (Turn.poll mailbox).after n
      = (n.performAll ((n.framesTaken mailbox.inbox).map CommandFrame.operation)).2 := by
    simp only [Turn.after, run_pollCommands, run_pollFrames]
  rw [hpolled]
  exact flagTold_performAll _ n

/-- A stopped engine leaves the idle loop at once, whatever would have woken it. -/
theorem idle_of_stopped {α : Type} {n : Node S} (hstopped : n.engine.running = false)
    (last : Node S → α × Node S) (wakes : List (Node S → α × Node S)) :
    n.idle last wakes = ([], n) := by
  cases wakes <;> simp [Node.idle, idleLoop, hstopped]

/-- Sleeping does not touch the memory, so the wakes alone tell what became of the flag, whatever they
    do. -/
theorem flagTold_idleLoop {α : Type} (records : α → List Performed) {last : Node S → α × Node S}
    {wakes : List (Node S → α × Node S)} (hlast : ∀ m, FlagTold m (records (last m).1, (last m).2))
    (hwakes : ∀ wake ∈ wakes, ∀ m, FlagTold m (records (wake m).1, (wake m).2)) (n : Node S) :
    FlagTold n ((n.idle last wakes).1.flatMap records, (n.idle last wakes).2) := by
  have hslept (n : Node S) : FlagTold n ([], (waitForInterrupt.run n).2) := .none rfl
  induction wakes generalizing n with
  | nil =>
    cases hrunning : n.engine.running with
    | false =>
      rw [idle_of_stopped hrunning]
      exact .none rfl
    | true =>
      have hwoken := (hslept n).append (hlast _)
      simpa [Node.idle, idleLoop, hrunning] using hwoken
  | cons wake wakes ih =>
    obtain ⟨hwake, hlater⟩ := List.forall_mem_cons.mp hwakes
    cases hrunning : n.engine.running with
    | false =>
      rw [idle_of_stopped hrunning]
      exact .none rfl
    | true =>
      have hwoken := ((hslept n).append (hwake _)).append (ih hlater _)
      simpa [Node.idle, idleLoop, hrunning] using hwoken

theorem flagTold_idle (wakes : List Operation) (n : Node S) :
    FlagTold n (n.idlePerforming wakes) := by
  have hwakes : ∀ wake ∈ wakes.map fun op (m : Node S) => m.perform op,
      ∀ m, FlagTold m ([(wake m).1], (wake m).2) := by
    intro wake hwake
    obtain ⟨op, -, rfl⟩ := List.mem_map.mp hwake
    exact fun m => flagTold_perform m op
  have htold := flagTold_idleLoop (fun h => [h])
    (fun m => flagTold_perform m (.frame CommandMessage.exit.toBytes)) hwakes n
  rwa [List.flatMap_singleton'] at htold

theorem Turn.flagTold (t : Turn S) (n : Node S) : FlagTold n (t.records n, t.after n) := by
  cases t with
  | operation op => exact flagTold_perform n op
  | poll mailbox => exact flagTold_poll mailbox n
  | idle wakes => exact flagTold_idle wakes n
  | hardware s => exact .none rfl

/-- **The history tells whether the engine runs.** -/
theorem flagTold_turns (ts : List (Turn S)) (n : Node S) : FlagTold n (n.turns ts) := by
  induction ts generalizing n with
  | nil => exact .none rfl
  | cons t ts ih => exact (t.flagTold n).append (ih _)

/-! ## Stopped engines -/

/-- An engine that does not serve its control plane. -/
structure Stopped (n : Node S) : Prop where
  /-- A frame gets no reply; the hardware is not called and the memory not changed. -/
  frame : ∀ bytes, ((handleFrame bytes).run n).1 = none
    ∧ callsOf ((handleFrame bytes).trace n) = []
    ∧ ((handleFrame bytes).run n).2.engine = n.engine
  /-- A poll takes nothing, replies nothing and does nothing. -/
  poll : ∀ mailbox, (pollCommands mailbox).run n = ((0, mailbox), n)
  /-- The idle loop is left before the first sleep, so that nothing can wake it. -/
  idle : ∀ {α : Type} (last : Node S → α × Node S) (wakes : List (Node S → α × Node S)),
    n.idle last wakes = ([], n)

theorem stopped_of_not_running {n : Node S} (hstopped : n.engine.running = false) : Stopped n where
  frame bytes := by
    obtain ⟨-, hreply, hcalls, hengine⟩ | ⟨envelope, hrunning, -⟩ := handleFrame_cases bytes n
    · exact ⟨hreply, hcalls, hengine⟩
    · exact absurd hrunning (by simp [hstopped])
  poll mailbox := by
    rw [run_pollCommands, run_pollFrames_stopped hstopped]
    simp
  idle := idle_of_stopped hstopped

/-- **Exit is final**, on any hardware and whatever happens before and after it, start-up included. The
    engine runs exactly as long as it ran at first and no exit was executed; once it does not, it drops
    every frame, polls nothing and does not idle; and an exit is executed for an exit command in numbers
    and for nothing else. -/
theorem exit_final (n : Node S) (ts : List (Turn S)) :
    let r := n.turns ts
    r.2.engine.running = (n.engine.running && !r.1.any Performed.exits)
      ∧ (r.2.engine.running = false → Stopped r.2)
      ∧ ∀ op, (r.2.perform op).1.exits = op.asksExit r.2.engine.running :=
  ⟨flagTold_turns ts n, stopped_of_not_running, exits_perform _⟩

end Turns

/-- A poll finds an exit, and the node is started again: a request for the status gets no reply. -/
theorem exit_final_despite_restart :
    let ts : List (Turn Simulation) :=
      [.operation .start, .poll (Mailbox.empty.push [CommandMessage.exit.encode]), .operation .start]
    let r := (Node.fresh Simulation.fresh EngineConfig.standard).turns ts
    r.2.engine.running = false
      ∧ ((handleFrame CommandMessage.getStatus.toBytes).run r.2).1 = none := by
  intro ts r
  obtain ⟨hflag, hstopped, -⟩ := exit_final (Node.fresh Simulation.fresh EngineConfig.standard) ts
  have hexited : r.1.any Performed.exits = true := by decide
  have hnot : r.2.engine.running = false := hflag.trans (by rw [hexited]; rfl)
  exact ⟨hnot, ((hstopped hnot).frame _).1⟩

end PacketReinjection
