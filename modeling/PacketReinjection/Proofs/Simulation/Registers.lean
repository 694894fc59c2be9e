import PacketReinjection.Proofs.Command.Acceptance
import PacketReinjection.Proofs.Router.WaitField
import PacketReinjection.Proofs.Simulation.Service

/-!
# `Proofs.Simulation.Registers` — two registers after every operation

Two registers of a simulated node outlive the operation that wrote them and are written from several
places: the router's control register and the enables of the interrupt controller. What an operation
does to them is a function of its record. `registers_perform` says so for every operation; later proofs
look at records only.

## Contents
- **`LineEvent`** with `apply`, and **`Performed.lineEvent?`** — what a record does to the enables.
- **`Performed.controlAfter`**, **`Performed.enabledAfter`**.
- **`registers_perform`** — from one lemma for the handlers, for start-up (`run_start`), and for messages.
-/

namespace PacketReinjection

open Router (WaitField)

/-! ## The enables -/

/-- What can happen to the interrupt enables. -/
inductive LineEvent where
  /-- A tick that armed the transmitter-ready interrupt. -/
  | armed
  /-- A drain that found the router blocked or nothing to send. -/
  | disarmed
  /-- A start-up. -/
  | started
  /-- An exit that was carried out. -/
  | exited
  deriving DecidableEq

/-- The enables without the lines that re-injection owns. -/
def withoutOwned (mask : UInt32) : UInt32 :=
  (mask &&& ~~~InterruptSource.standingMask) &&& ~~~InterruptSource.transmitterReady.mask

/-- The enables after an event. -/
def LineEvent.apply (mask : UInt32) : LineEvent → UInt32
  | .armed => mask ||| InterruptSource.transmitterReady.mask
  | .disarmed => mask &&& ~~~InterruptSource.transmitterReady.mask
  | .started => withoutOwned mask ||| InterruptSource.standingMask
  | .exited => withoutOwned mask

/-- What a handler did to the enables. -/
def HandlerOutcome.lineEvent? : HandlerOutcome → Option LineEvent
  | .ticked true => some .armed
  | .drained .blocked | .drained .idle => some .disarmed
  | .captured _ | .ticked false | .drained (.sent _) | .deferred => none

namespace Performed

/-- The event in a record, read off its outcome and, for messages, off the request that was accepted. -/
def lineEvent? (h : Performed) : Option LineEvent :=
  match h.outcome with
  | .started => some .started
  | .handled o => o.lineEvent?
  | .replied _ | .answered _ =>
    if h.accepted?.any fun request => request.1 = .exit then some .exited else none

/-- The enables after an operation. -/
def enabledAfter (h : Performed) (mask : UInt32) : UInt32 :=
  h.lineEvent?.elim mask (LineEvent.apply mask)

/-- The router's control register after an operation. -/
def controlAfter (h : Performed) (control : UInt32) : UInt32 :=
  if h.operation.isStart then
    Router.configured control h.before.config.primaryWait h.before.config.emergencyWait
  else
    match h.accepted? with
    | some (.setTimeout, value) => WaitField.primary.replace control value
    | some (.setEmergencyTimeout, value) => WaitField.emergency.replace control value
    | _ => control

/-- An interrupt handler accepts nothing. -/
theorem accepted?_of_handled {h : Performed} {o : HandlerOutcome} (houtcome : h.outcome = .handled o) :
    h.accepted? = none := by
  rw [accepted?, houtcome]
  rfl

end Performed

/-! ## Operations -/

namespace Simulation

/-- The two registers are what the record of the operation makes of them. -/
structure Registered (n : Node Simulation) (op : Operation) : Prop where
  control : (n.perform op).2.hardware.routerControl
    = (n.perform op).1.controlAfter n.hardware.routerControl
  enabled : (n.perform op).2.hardware.vicEnabled = (n.perform op).1.enabledAfter n.hardware.vicEnabled

section Operations

open Routine Performed

variable {n : Node Simulation} {op : Operation}

/-- A handler leaves the control register alone, and the enables as its outcome tells. -/
theorem HandlerStep.registers {o : HandlerOutcome} {n' : Node Simulation} (h : HandlerStep n o n') :
    n'.hardware.routerControl = n.hardware.routerControl
      ∧ n'.hardware.vicEnabled
        = o.lineEvent?.elim n.hardware.vicEnabled (LineEvent.apply n.hardware.vicEnabled) := by
  cases h <;> exact ⟨rfl, rfl⟩

theorem registered_interrupt {source : InterruptSource} (hop : op.interrupt? = some source) :
    Registered n op := by
  obtain ⟨hnode, houtcome⟩ := perform_interrupt hop n
  have hkind : (n.perform op).1.operation.isStart = false :=
    Operation.isStart_of_interrupt (Option.isSome_of_eq_some hop)
  obtain ⟨hcontrol, henabled⟩ := (handlerStep_dispatch source n).registers
  constructor
  · rw [hnode, hcontrol, controlAfter, hkind, accepted?_of_handled houtcome]
    rfl
  · rw [hnode, henabled, enabledAfter, lineEvent?, houtcome]

/-- Start-up ran with the given configuration. It writes several registers more than once; this is what
    is left. -/
def started (s : Simulation) (config : EngineConfig) : Simulation :=
  let load := saturatingMul s.clockMegahertz config.tickMicroseconds
  { s.released with
    routerControl := Router.configured s.routerControl config.primaryWait config.emergencyWait
    timer := ⟨load, TimerRegister.ticking, 1, load⟩
    vicEnabled := withoutOwned s.vicEnabled ||| InterruptSource.standingMask
    vicSelect := s.vicSelect ||| InterruptSource.droppedPacket.mask
    bindings := s.bindings ++ [.command, .transmitterReady, .timerTick, .droppedPacket].map
      fun source => (source, source.priority) }

/-- **Start-up, whole.** -/
theorem run_start (n : Node Simulation) :
    start.run n =
      ((), { hardware := n.hardware.started n.engine.config
             engine := n.engine.restarted (n.hardware.sourceAddress &&& sourceIdMask)
             events := n.events ++ [.started n.engine.config] }) := by
  simp [start, configureTimer, configureTransmitter, Router.Monitor.configure, disableInterrupts,
    Platform.call, answer, readRouter, writeRouter, readComms, writeVic, bindInterrupt,
    Router.configured, withoutOwned, started, released, SimulatedTimer.set, InterruptSource.priority,
    Engine.restarted]

/-- The hardware after a start-up. -/
theorem perform_start_hardware (n : Node Simulation) :
    (n.perform .start).2.hardware = n.hardware.started n.engine.config := by
  rw [perform_start, run_start]

theorem registered_start (n : Node Simulation) : Registered n .start := by
  constructor
  · rw [perform_start_hardware]
    rfl
  · rw [perform_start_hardware]
    rfl

/-- The hardware after an operation is the hardware after its calls. -/
theorem perform_hardware (n : Node Simulation) (op : Operation) :
    (n.perform op).2.hardware = replay (callsOf (n.perform op).1.trace) n.hardware :=
  run_hardware op.routine n

/-- A message that is accepted as an exit is an event for the enables, and no other message is. -/
theorem lineEvent?_message (hop : op.interrupt? = none) (hkind : op.isStart = false)
    (n : Node Simulation) :
    (n.perform op).1.lineEvent? =
      if (n.perform op).1.accepted?.any fun request => request.1 = .exit then
        some .exited
      else
        none := by
  cases op with
  | frame bytes => simp [lineEvent?, Node.perform, Operation.routine, run_bind]
  | command m => simp [lineEvent?, Node.perform, Operation.routine, run_bind]
  | start => exact Bool.noConfusion hkind
  | _ => exact absurd hop (by simp [Operation.interrupt?])

/-- A message that did what was decided. -/
theorem registered_of_decided {d : Decision} (hop : op.interrupt? = none) (hkind : op.isStart = false)
    (hd : (n.perform op).1.Decided n.hardware d) : Registered n op := by
  have hrecord : (n.perform op).1.operation.isStart = false := hkind
  constructor
  · rw [perform_hardware, hd.calls, controlAfter, hrecord, hd.accepted?_eq]
    cases d with
    | carryOut sub value => cases sub <;> rfl
    | refuse error => rfl
  · rw [perform_hardware, hd.calls, enabledAfter, lineEvent?_message hop hkind, hd.accepted?_eq]
    cases d with
    | carryOut sub value => cases sub <;> rfl
    | refuse error => rfl

/-- **The two registers after every operation** are what its record makes of them. -/
theorem registers_perform (n : Node Simulation) (op : Operation) : Registered n op := by
  obtain rfl | ⟨source, hop⟩ | ⟨hop, hkind, d, hd⟩ := perform_kinds n op
  · exact registered_start n
  · exact registered_interrupt hop
  · exact registered_of_decided hop hkind hd

end Operations

end Simulation

end PacketReinjection
