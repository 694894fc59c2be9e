import PacketReinjection.Proofs.Memory

/-!
# `Proofs.History` — sequences of operations and what they leave behind

Everything that can be asked of an engine is one `Operation`. Performing one leaves a record: the
memory before and after, every step with what it gave, and the outcome. A history is the list of the
records of a sequence of operations, on hardware of any kind.

`perform_explained` is the inversion lemma of the whole engine: whatever the operation and whatever the
hardware answers, the record is one of four.

## Contents
- **`Operation`**, **`Outcome`**, **`Operation.routine`**.
- **`Performed`**, **`Node.perform`**, **`Node.performAll`** — records and histories; `perform_start`,
  `perform_interrupt`.
- **Reading a history.** `queuedPackets`, `sentPackets`, `Performed.resets`.
- **`Performed.Explained`** and **`perform_explained`**.
-/

namespace PacketReinjection

/-! ## Operations -/

/-- What can be asked of an engine. -/
inductive Operation where
  | start
  | capture
  | timerTick
  | transmitterReady
  | dispatch (source : InterruptSource)
  | frame (bytes : List UInt8)
  | command (m : CommandMessage)

/-- What an operation gives. -/
inductive Outcome where
  | started
  | handled (o : HandlerOutcome)
  | replied (reply : Option ReplyFrame)
  | answered (reply : CommandReply)

/-- The packet that was sent. -/
@[simp]
def Outcome.sent? : Outcome → Option DumpedPacket
  | .handled (.drained (.sent p)) => some p
  | _ => none

namespace Operation

/-- The routine that carries an operation out. -/
def routine : Operation → Routine Outcome
  | .start => do
    PacketReinjection.start
    return .started
  | .capture => return .handled (.captured (← PacketReinjection.capture))
  | .timerTick => return .handled (.ticked (← PacketReinjection.timerTick))
  | .transmitterReady => return .handled (.drained (← PacketReinjection.transmitterReady))
  | .dispatch source => return .handled (← PacketReinjection.dispatch source)
  | .frame bytes => return .replied (← handleFrame bytes)
  | .command m => return .answered (← handleCommand m)

/-- The interrupt line whose handler an operation runs, if it runs one. -/
def interrupt? : Operation → Option InterruptSource
  | .capture => some .droppedPacket
  | .timerTick => some .timerTick
  | .transmitterReady => some .transmitterReady
  | .dispatch source => some source
  | .start | .frame _ | .command _ => none

/-- The request that an operation executes, with its value. Frames are looked at only while the engine
    runs. -/
def request? (running : Bool) : Operation → Option (SubCommand × UInt32)
  | .frame bytes => if running then frameRequest? bytes else none
  | .command m => m.request?
  | .start | .capture | .timerTick | .transmitterReady | .dispatch _ => none

/-- Whether an operation is a start-up. -/
def isStart : Operation → Bool
  | .start => true
  | .capture | .timerTick | .transmitterReady | .dispatch _ | .frame _ | .command _ => false

/-- A handler's operation is no start-up. -/
theorem isStart_of_interrupt {op : Operation} (h : op.interrupt?.isSome = true) :
    op.isStart = false := by
  cases op with
  | start => exact absurd h (by decide)
  | _ => rfl

/-- A handler's operation carries no request. -/
theorem request?_of_interrupt {op : Operation} {running : Bool}
    (h : op.interrupt?.isSome = true) : op.request? running = none := by
  cases op with
  | frame bytes => exact absurd h (by simp [interrupt?])
  | command m => exact absurd h (by simp [interrupt?])
  | _ => rfl

end Operation

/-! ## Records and histories -/

/-- The record of one operation. -/
structure Performed where
  operation : Operation
  before : Engine
  trace : List Taken
  outcome : Outcome
  after : Engine

namespace Node

variable {S : Type} [Platform S]

/-- Perform one operation and keep its record. -/
def perform (op : Operation) (n : Node S) : Performed × Node S :=
  let r := op.routine.run n
  (⟨op, n.engine, op.routine.trace n, r.1, r.2.engine⟩, r.2)

/-- Perform operations one after the other; the records are in the order of the operations. -/
def performAll : List Operation → Node S → List Performed × Node S
  | [], n => ([], n)
  | op :: ops, n =>
    let first := n.perform op
    let later := performAll ops first.2
    (first.1 :: later.1, later.2)

theorem performAll_append (ops ops' : List Operation) (n : Node S) :
    n.performAll (ops ++ ops') =
      ((n.performAll ops).1 ++ ((n.performAll ops).2.performAll ops').1,
        ((n.performAll ops).2.performAll ops').2) := by
  induction ops generalizing n with
  | nil => rfl
  | cons op ops ih => simp only [List.cons_append, performAll, ih]

/-- One more operation at the end of a history. -/
theorem performAll_concat (ops : List Operation) (op : Operation) (n : Node S) :
    n.performAll (ops ++ [op]) =
      ((n.performAll ops).1 ++ [((n.performAll ops).2.perform op).1],
        ((n.performAll ops).2.perform op).2) :=
  performAll_append ops [op] n

/-- What holds of every record of one operation holds of every record of a history. -/
theorem forall_performAll {P : Performed → Prop} (hperform : ∀ (n : Node S) op, P (n.perform op).1)
    (ops : List Operation) (n : Node S) : ∀ h ∈ (n.performAll ops).1, P h := by
  induction ops generalizing n with
  | nil => exact fun _ hh => absurd hh List.not_mem_nil
  | cons op ops ih => exact List.forall_mem_cons.mpr ⟨hperform n op, ih _⟩

end Node

section Perform

variable {S : Type} [Platform S]

open Routine

theorem perform_start (n : Node S) : (n.perform .start).2 = (start.run n).2 := by
  simp only [Node.perform, Operation.routine, run_bind]
  rfl

/-- A handler's operation is the dispatch of its line. -/
theorem perform_interrupt {op : Operation} {source : InterruptSource}
    (h : op.interrupt? = some source) (n : Node S) :
    (n.perform op).2 = ((dispatch source).run n).2
      ∧ (n.perform op).1.outcome = .handled ((dispatch source).run n).1 := by
  cases op with
  | start => exact absurd h (by simp [Operation.interrupt?])
  | frame bytes => exact absurd h (by simp [Operation.interrupt?])
  | command m => exact absurd h (by simp [Operation.interrupt?])
  | _ =>
    obtain rfl := Option.some.inj h
    simp [Node.perform, Operation.routine, dispatch, run_bind]

/-- A handler's operation takes the steps of the dispatch of its line. -/
theorem trace_interrupt {op : Operation} {source : InterruptSource}
    (h : op.interrupt? = some source) (n : Node S) :
    (n.perform op).1.trace = (dispatch source).trace n := by
  cases op with
  | start => exact absurd h (by simp [Operation.interrupt?])
  | frame bytes => exact absurd h (by simp [Operation.interrupt?])
  | command m => exact absurd h (by simp [Operation.interrupt?])
  | _ =>
    obtain rfl := Option.some.inj h
    simp [Node.perform, Operation.routine, dispatch, trace_bind]

end Perform

/-! ## Reading a history -/

namespace Performed

/-- What became of the packet that the operation captured, if it captured one. -/
def captured? (h : Performed) : Option CaptureOutcome :=
  match h.outcome with
  | .handled (.captured o) => some o
  | _ => none

/-- The packet that the operation queued, as its own reads of the dump registers spell it. -/
def queued? (h : Performed) : Option DumpedPacket :=
  if h.captured? = some .queued then dumpedPacket h.trace else none

/-- The packet that the operation sent. -/
def sent? (h : Performed) : Option DumpedPacket := h.outcome.sent?

theorem outcome_of_sent {h : Performed} {p : DumpedPacket} (hp : h.sent? = some p) :
    h.outcome = .handled (.drained (.sent p)) := by
  unfold sent? Outcome.sent? at hp
  split at hp
  · rename_i q houtcome
    rw [houtcome, Option.some.inj hp]
  · exact absurd hp (by simp)

theorem outcome_of_captured {h : Performed} {o : CaptureOutcome} (ho : h.captured? = some o) :
    h.outcome = .handled (.captured o) := by
  unfold captured? at ho
  split at ho
  · rename_i q houtcome
    rw [houtcome, Option.some.inj ho]
  · exact absurd ho (by simp)

/-- An operation that sent a packet captured none. -/
theorem captured?_of_sent {h : Performed} {p : DumpedPacket} (hp : h.sent? = some p) :
    h.captured? = none := by
  rw [captured?, outcome_of_sent hp]

/-- Whether the operation reset the counters: a start-up, or an executed reset-counters command. -/
def resets (h : Performed) : Bool :=
  h.operation.isStart
    || (h.operation.request? h.before.running).any fun request => request.1 = .resetCounters

end Performed

/-- The packets queued in a history, in the order of their captures. -/
def queuedPackets (history : List Performed) : List DumpedPacket :=
  history.filterMap Performed.queued?

/-- The packets sent in a history, in the order of their sending. -/
def sentPackets (history : List Performed) : List DumpedPacket :=
  history.filterMap Performed.sent?

/-- An operation that runs no handler sends no packet. -/
theorem sent?_of_no_interrupt {S : Type} [Platform S] {op : Operation} (h : op.interrupt? = none)
    (n : Node S) : (n.perform op).1.sent? = none := by
  cases op with
  | start | frame bytes | command m =>
    simp [Performed.sent?, Node.perform, Operation.routine, Routine.run_bind]
  | _ => exact absurd h (by simp [Operation.interrupt?])

/-- Only the handler of the dropped-packet line captures. -/
theorem captured?_eq_none {S : Type} [Platform S] {op : Operation}
    (h : op.interrupt? ≠ some .droppedPacket) (n : Node S) : (n.perform op).1.captured? = none := by
  cases op with
  | capture => exact absurd rfl h
  | dispatch source =>
    cases source with
    | droppedPacket => exact absurd rfl h
    | _ => simp [Performed.captured?, Node.perform, Operation.routine, dispatch, Routine.run_bind]
  | _ => simp [Performed.captured?, Node.perform, Operation.routine, Routine.run_bind]

theorem queuedPackets_cons (h : Performed) (history : List Performed) :
    queuedPackets (h :: history) = h.queued?.toList ++ queuedPackets history :=
  filterMap_cons_toList _ h history

theorem sentPackets_cons (h : Performed) (history : List Performed) :
    sentPackets (h :: history) = h.sent?.toList ++ sentPackets history :=
  filterMap_cons_toList _ h history

/-! ## Explained records -/

/-- **The four kinds of records.** What an operation tells fixes what it did to the memory. -/
inductive Performed.Explained : Performed → Prop where
  /-- A start-up. -/
  | started {e : Engine} {trace : List Taken} (source : UInt32) :
      Explained ⟨.start, e, trace, .started, e.restarted source⟩
  /-- A capture: the packet and the status that it read arrived in the memory. -/
  | captured {op : Operation} {e : Engine} {trace : List Taken} {p : DumpedPacket} {status : UInt32}
      (hop : op.interrupt?.isSome = true) (hp : dumpedPacket trace = some p)
      (hs : dumpStatus trace = some status) :
      Explained ⟨op, e, trace, .handled (.captured (e.receive p status).1), (e.receive p status).2⟩
  /-- A drain that sent the oldest packet. -/
  | sent {op : Operation} {e : Engine} {trace : List Taken} {p : DumpedPacket}
      (hop : op.interrupt?.isSome = true) (hp : e.queue.dequeue.1 = some p) :
      Explained ⟨op, e, trace, .handled (.drained (.sent p)), e.sent⟩
  /-- Anything else: the request in it was executed, if there is one. -/
  | requested {h : Performed} (hop : h.operation.isStart = false) (hcaptured : h.captured? = none)
      (hsent : h.sent? = none)
      (hafter : h.after = h.before.afterRequest (h.operation.request? h.before.running)) :
      Explained h

section Explained

variable {S : Type} [Platform S]

open Routine Performed

theorem explained_capture {op : Operation} (hop : op.interrupt?.isSome = true)
    (hroutine : op.routine = do return .handled (.captured (← capture))) (n : Node S) :
    (n.perform op).1.Explained := by
  have hrecord : (n.perform op).1 =
      ⟨op, n.engine, capture.trace n,
        .handled (.captured (n.engine.receive (readDump n.hardware).1 (readDump n.hardware).2.1).1),
        (n.engine.receive (readDump n.hardware).1 (readDump n.hardware).2.1).2⟩ := by
    simp [Node.perform, hroutine, run_bind, trace_bind, run_capture]
  rw [hrecord]
  exact .captured hop (dumpedPacket_trace_capture n) (dumpStatus_trace_capture n)

theorem explained_timerTick {op : Operation} (hop : op.interrupt?.isSome = true)
    (hroutine : op.routine = do return .handled (.ticked (← timerTick))) (n : Node S) :
    (n.perform op).1.Explained := by
  have hrecord : (n.perform op).1 =
      ⟨op, n.engine, timerTick.trace n, .handled (.ticked (timerTick.run n).1), n.engine⟩ := by
    simp [Node.perform, hroutine, run_bind, trace_bind, memory_timerTick]
  rw [hrecord]
  exact .requested (Operation.isStart_of_interrupt hop) rfl rfl
    (by rw [Operation.request?_of_interrupt hop]; rfl)

theorem explained_transmitterReady {op : Operation} (hop : op.interrupt?.isSome = true)
    (hroutine : op.routine = do return .handled (.drained (← transmitterReady))) (n : Node S) :
    (n.perform op).1.Explained := by
  have hrecord : (n.perform op).1 =
      ⟨op, n.engine, transmitterReady.trace n, .handled (.drained (transmitterReady.run n).1),
        (transmitterReady.run n).2.engine⟩ := by
    simp [Node.perform, hroutine, run_bind, trace_bind]
  rw [hrecord]
  -- Either the oldest packet left, or the record is one of an operation without a request.
  obtain ⟨p, houtcome, hp, hafter⟩ | ⟨hunsent, hafter⟩ := memory_transmitterReady n
  · rw [houtcome, hafter]
    exact .sent hop hp
  · refine .requested (Operation.isStart_of_interrupt hop) rfl ?_ ?_
    · cases houtcome : (transmitterReady.run n).1 with
      | blocked => rfl
      | idle => rfl
      | sent p => exact absurd houtcome (hunsent p)
    · rw [Operation.request?_of_interrupt hop]
      exact hafter

/-- **Every record is explained**, whatever the operation and whatever the hardware answers. -/
theorem perform_explained (op : Operation) (n : Node S) : (n.perform op).1.Explained := by
  cases op with
  | start =>
    obtain ⟨source, hafter⟩ := memory_start n
    have hrecord : (n.perform .start).1 =
        ⟨.start, n.engine, (Operation.routine .start).trace n, .started, n.engine.restarted source⟩ := by
      simp only [Node.perform, Operation.routine, run_bind, ← hafter]
      rfl
    rw [hrecord]
    exact .started source
  | capture => exact explained_capture rfl rfl n
  | timerTick => exact explained_timerTick rfl rfl n
  | transmitterReady => exact explained_transmitterReady rfl rfl n
  | dispatch source =>
    -- A dispatch is the handler of its line; the command line has none that does anything.
    cases source with
    | droppedPacket => exact explained_capture rfl (by simp [Operation.routine, dispatch]) n
    | timerTick => exact explained_timerTick rfl (by simp [Operation.routine, dispatch]) n
    | transmitterReady =>
      exact explained_transmitterReady rfl (by simp [Operation.routine, dispatch]) n
    | command => exact .requested rfl rfl rfl rfl
  | frame bytes =>
    have hrecord : (n.perform (.frame bytes)).1 =
        ⟨.frame bytes, n.engine, (handleFrame bytes).trace n, .replied ((handleFrame bytes).run n).1,
          n.engine.afterRequest ((Operation.frame bytes).request? n.engine.running)⟩ := by
      simp [Node.perform, Operation.routine, run_bind, trace_bind, memory_handleFrame,
        Operation.request?]
    rw [hrecord]
    exact .requested rfl rfl rfl rfl
  | command m =>
    have hrecord : (n.perform (.command m)).1 =
        ⟨.command m, n.engine, (handleCommand m).trace n, .answered ((handleCommand m).run n).1,
          n.engine.afterRequest ((Operation.command m).request? n.engine.running)⟩ := by
      simp [Node.perform, Operation.routine, run_bind, trace_bind, memory_handleCommand,
        Operation.request?]
    rw [hrecord]
    exact .requested rfl rfl rfl rfl

end Explained

end PacketReinjection
