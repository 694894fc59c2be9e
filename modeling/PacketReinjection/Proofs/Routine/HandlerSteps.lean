import PacketReinjection.Proofs.History
import PacketReinjection.Proofs.Routine.Path

/-!
# `Proofs.Routine.HandlerSteps` — which steps a handler can take

What no handler does, whatever the hardware answers and the memory holds: a message moves no packet and
counts nothing, and apart from start-up nothing installs a handler, programs the timer or writes a router
register other than the control register. Both are statements about the kinds of steps in the trees of the
handlers.

## Contents
- **`Step.isMessage`** — the steps of messages: `only_handleCommand`, `only_handleFrame`.
- **`Step.isHandling`**, **`Step.isServing`** — the steps of everything but start-up: `only_capture`,
  `only_timerTick`, `only_transmitterReady`, `only_operation`, `only_pollFrames`.
- **`Step.isStarting`** — the steps of start-up: `only_start`.
- **`Step.isAwake`** — the steps of all of them: `only_awake`.
-/

namespace PacketReinjection

open Routine

/-! ## Messages -/

/-- Whether handling a message can make a call: on the router's control register, and to disable and
    deselect interrupts. -/
def Call.isMessage : Call → Bool
  | .readRouter r | .writeRouter r _ => r = .control
  | .writeVic r _ => r = .disable ∨ r = .select
  | .readComms _ | .writeComms _ _ | .writeTimer _ _ => false
  | .maskFast | .restoreFast _ | .readClock | .bind _ | .wait => false

/-- Whether handling a message can make an access: no packet is moved and nothing is counted. -/
def Access.isMessage : Access → Bool
  | .isRunning | .classMask | .setClassMask _ | .statistics | .resetStatistics | .queueLength
  | .stop => true
  | .config | .isEnabled _ | .count _ | .enqueue _ | .dequeue | .queueIsEmpty | .transmitSource
  | .setTransmitSource _ => false

/-- Whether handling a message can take a step. -/
def Step.isMessage : Step → Bool
  | .call c => c.isMessage
  | .access a => a.isMessage
  | .log _ => true

theorem only_setWait (f : Router.WaitField) (value : UInt32) :
    (Router.Monitor.setWait f value).Only Step.isMessage := by
  unfold Router.Monitor.setWait
  split <;> simp [Step.isMessage, Call.isMessage]

theorem only_perform (value : UInt32) (sub : SubCommand) :
    (perform value sub).Only Step.isMessage := by
  cases sub with
  | setTimeout => exact only_bind (only_setWait _ _) fun _ => trivial
  | setEmergencyTimeout => exact only_bind (only_setWait _ _) fun _ => trivial
  | setPacketClasses => simp [perform, Step.isMessage, Access.isMessage]
  | getStatus =>
    simp [perform, reportStatus, Router.Monitor.waitOf, Step.isMessage, Call.isMessage, Access.isMessage]
  | resetCounters => simp [perform, Step.isMessage, Access.isMessage]
  | exit => simp [perform, shutdown, disableInterrupts, Step.isMessage, Call.isMessage, Access.isMessage]

theorem only_execute (m : CommandMessage) : (execute m).Only Step.isMessage := by
  unfold execute
  split
  · exact trivial
  · split
    · exact trivial
    · exact only_bind ⟨rfl, fun _ => trivial⟩ fun _ => only_perform _ _

theorem only_handleCommand (m : CommandMessage) : (handleCommand m).Only Step.isMessage := by
  refine only_bind (only_execute m) fun verdict => ?_
  cases verdict with
  | ok reply => exact trivial
  | error error => exact ⟨rfl, fun _ => trivial⟩

theorem only_handleAddressed (envelope : Envelope) (bytes : List UInt8) :
    (handleAddressed envelope bytes).Only Step.isMessage := by
  unfold handleAddressed
  split
  · exact only_handleCommand _
  · exact ⟨rfl, fun _ => trivial⟩

theorem only_handleFrame (bytes : List UInt8) : (handleFrame bytes).Only Step.isMessage := by
  refine only_bind ⟨rfl, fun _ => trivial⟩ fun running => ?_
  split
  · split
    · exact ⟨rfl, fun _ => trivial⟩
    · exact only_bind (only_handleAddressed _ _) fun _ => trivial
  · exact ⟨rfl, fun _ => trivial⟩

/-! ## Everything but start-up -/

/-- Whether a handler other than start-up can make a call: no handler is installed, of the timer only its
    interrupt is cleared, and of the router only the control register is written. -/
def Call.isHandling : Call → Bool
  | .writeRouter r _ => r = .control
  | .writeTimer r _ => r = .interruptClear
  | .readRouter _ | .writeComms _ _ | .writeVic _ _ | .maskFast | .restoreFast _ | .wait => true
  | .readComms _ | .readClock | .bind _ => false

/-- Whether a handler other than start-up can take a step. -/
def Step.isHandling : Step → Bool
  | .call c => c.isHandling
  | .access _ | .log _ => true

theorem Step.isHandling_of_isMessage {s : Step} (h : s.isMessage = true) : s.isHandling = true := by
  cases s with
  | call c => cases c <;> first | rfl | exact h | exact Bool.noConfusion h
  | access a => rfl
  | log e => rfl

/-- Whether a step leaves the processor awake. -/
def Step.isAwake : Step → Bool
  | .call .wait => false
  | .call _ | .access _ | .log _ => true

/-- Whether the handler of an interrupt line can take a step. -/
def Step.isServing (s : Step) : Bool := s.isHandling && s.isAwake

theorem only_capture : capture.Only Step.isServing := by
  have hkeep (p : DumpedPacket) (status : UInt32) : (keep p status).Only Step.isServing := by
    simp [keep, Step.isServing, Step.isHandling, Step.isAwake]
  exact ⟨rfl, fun _ => ⟨rfl, fun _ => ⟨rfl, fun _ => ⟨rfl, fun _ => hkeep _ _⟩⟩⟩⟩

theorem only_timerTick : timerTick.Only Step.isServing := by
  simp [timerTick, armIfPending, Router.Monitor.isBlocked, withFastMasked, setTransmitterReady,
    Step.isServing, Step.isHandling, Step.isAwake, Call.isHandling]

theorem only_transmit (p : DumpedPacket) : (transmit p).Only Step.isServing := by
  simp [transmit, Step.isServing, Step.isHandling, Step.isAwake, Call.isHandling]

theorem only_transmitterReady : transmitterReady.Only Step.isServing := by
  have hdrain : drainOne.Only Step.isServing := by
    refine only_bind ⟨rfl, fun _ => trivial⟩ fun blocked => ?_
    split
    · exact ⟨rfl, fun _ => trivial⟩
    · refine only_bind ⟨rfl, fun _ => ⟨rfl, fun _ => ⟨rfl, fun _ => trivial⟩⟩⟩ fun next => ?_
      cases next with
      | none => exact ⟨rfl, fun _ => trivial⟩
      | some p => exact only_bind (only_transmit p) fun _ => ⟨rfl, fun _ => trivial⟩
  exact only_bind hdrain fun _ => ⟨rfl, fun _ => trivial⟩

theorem only_dispatch (source : InterruptSource) : (dispatch source).Only Step.isServing := by
  cases source with
  | droppedPacket => exact only_bind only_capture fun _ => trivial
  | timerTick => exact only_bind only_timerTick fun _ => trivial
  | transmitterReady => exact only_bind only_transmitterReady fun _ => trivial
  | command => exact trivial

/-- A routine for messages takes no other steps than handlers do. -/
theorem isHandling_of_message {α : Type} {x : Routine α} (hx : x.Only Step.isMessage) :
    x.Only Step.isHandling :=
  hx.mono fun _ => Step.isHandling_of_isMessage

/-- The operation of an interrupt line takes the steps of its handler. -/
theorem only_interrupt {op : Operation} (hop : op.interrupt?.isSome = true) :
    op.routine.Only Step.isServing := by
  cases op with
  | capture => exact only_bind only_capture fun _ => trivial
  | timerTick => exact only_bind only_timerTick fun _ => trivial
  | transmitterReady => exact only_bind only_transmitterReady fun _ => trivial
  | dispatch source => exact only_bind (only_dispatch source) fun _ => trivial
  | _ => exact Bool.noConfusion hop

/-- **Every operation but start-up** takes the steps of handlers only. -/
theorem only_operation {op : Operation} (hop : op.isStart = false) :
    op.routine.Only Step.isHandling := by
  have hserving (s : Step) (hs : s.isServing = true) : s.isHandling = true :=
    (Bool.and_eq_true_iff.mp hs).1
  cases op with
  | start => exact Bool.noConfusion hop
  | frame bytes => exact only_bind (isHandling_of_message (only_handleFrame bytes)) fun _ => trivial
  | command m => exact only_bind (isHandling_of_message (only_handleCommand m)) fun _ => trivial
  | _ => exact (only_interrupt rfl).mono hserving

/-- A poll takes the steps of the frames it handles. -/
theorem only_pollFrames (frames : List CommandFrame) :
    (pollFrames frames).Only Step.isMessage := by
  induction frames with
  | nil => exact trivial
  | cons frame rest ih =>
    refine only_bind ⟨rfl, fun _ => trivial⟩ fun running => ?_
    split
    · exact only_bind (only_handleFrame _) fun _ => only_bind ih fun _ => trivial
    · exact trivial

/-! ## Start-up -/

/-- Whether start-up can make a call: it writes nothing to the transmitter and selects no interrupt but
    by installing handlers. -/
def Call.isStarting : Call → Bool
  | .writeRouter r _ => r = .control
  | .writeVic r _ => r = .enable ∨ r = .disable
  | .readRouter _ | .readComms _ | .writeTimer _ _ | .readClock | .bind _ => true
  | .writeComms _ _ | .maskFast | .restoreFast _ | .wait => false

/-- Whether start-up can make an access. -/
def Access.isStarting : Access → Bool
  | .config | .setTransmitSource _ | .resetStatistics | .setClassMask _ => true
  | .isEnabled _ | .classMask | .count _ | .statistics | .enqueue _ | .dequeue | .queueIsEmpty
  | .queueLength | .transmitSource | .isRunning | .stop => false

/-- Whether start-up can take a step. -/
def Step.isStarting : Step → Bool
  | .call c => c.isStarting
  | .access a => a.isStarting
  | .log _ => true

theorem only_start : start.Only Step.isStarting := by
  simp [start, configureTimer, configureTransmitter, Router.Monitor.configure, disableInterrupts,
    Step.isStarting, Call.isStarting, Access.isStarting]

/-! ## All of them -/

/-- **No operation puts the processor to sleep.** -/
theorem only_awake (op : Operation) : op.routine.Only Step.isAwake := by
  have hmessage (s : Step) (hs : s.isMessage = true) : s.isAwake = true := by
    cases s with
    | call c => cases c <;> first | rfl | exact hs
    | access a => rfl
    | log e => rfl
  have hstarting (s : Step) (hs : s.isStarting = true) : s.isAwake = true := by
    cases s with
    | call c => cases c <;> first | rfl | exact hs
    | access a => rfl
    | log e => rfl
  have hserving (s : Step) (hs : s.isServing = true) : s.isAwake = true :=
    (Bool.and_eq_true_iff.mp hs).2
  cases op with
  | start => exact only_bind (only_start.mono hstarting) fun _ => trivial
  | frame bytes => exact only_bind ((only_handleFrame bytes).mono hmessage) fun _ => trivial
  | command m => exact only_bind ((only_handleCommand m).mono hmessage) fun _ => trivial
  | _ => exact (only_interrupt rfl).mono hserving

end PacketReinjection
