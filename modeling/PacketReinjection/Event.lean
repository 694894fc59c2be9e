import PacketReinjection.Command.SubCommand
import PacketReinjection.ControlError
import PacketReinjection.Engine

/-!
# `Event` — what the engine logs

Only start-up, exit and the handling of commands are logged; interrupt handlers never are.

## Contents
- **`Event`** — the events with their data.
- **Log record.** `Event.level`, `Event.message` and `Event.fields`, the parts of a log line.
-/

namespace PacketReinjection

/-- One event of the log. -/
inductive Event where
  /-- Start-up finished with this configuration. -/
  | started (config : EngineConfig)
  /-- The exit command stopped the engine with so many packets in the queue. -/
  | exiting (queued : Nat)
  /-- A known command is about to be carried out. -/
  | received (command : SubCommand) (sequence : UInt16)
  /-- The class mask is about to change. -/
  | settingClasses (mask : UInt32)
  /-- A complete command was refused. -/
  | rejected (sequence : UInt16) (error : ControlError)
  /-- A frame was too short to be a command. -/
  | malformed (sequence : UInt16) (error : ControlError)
  /-- A frame gets no reply. -/
  | discarding (error : ControlError)
  /-- A frame arrived after exit. -/
  | ignoring
  deriving DecidableEq

/-- How serious an event is. -/
inductive Level where
  | debug
  | info
  | warning
  deriving DecidableEq

/-- The value of a field of a log record. -/
inductive FieldValue where
  | number (n : Nat)
  | text (s : String)
  deriving DecidableEq

namespace Event

/-- How serious the event is. -/
def level : Event → Level
  | started _ | exiting _ | settingClasses _ => .info
  | received _ _ | ignoring => .debug
  | rejected _ _ | malformed _ _ | discarding _ => .warning

/-- The words of the log record. -/
def message : Event → String
  | started _ => "reinjector started"
  | exiting _ => "reinjector exiting"
  | received _ _ => "received command"
  | settingClasses _ => "setting packet types"
  | rejected _ _ => "command rejected"
  | malformed _ _ => "malformed command"
  | discarding _ => "discarding frame"
  | ignoring => "engine stopped, dropping command"

/-- The named values of the log record. -/
def fields : Event → List (String × FieldValue)
  | started c =>
    [("tick_us", .number c.tickMicroseconds.toNat), ("wait1", .number c.primaryWait.toNat),
      ("wait2", .number c.emergencyWait.toNat), ("packet_types", .number c.classMask.toNat)]
  | exiting queued => [("queued", .number queued)]
  | received command sequence =>
    [("command", .text command.name), ("seq", .number sequence.toNat)]
  | settingClasses mask => [("mask", .number mask.toNat)]
  | rejected sequence error | malformed sequence error =>
    [("seq", .number sequence.toNat), ("error", .text error.message)]
  | discarding error => [("error", .text error.message)]
  | ignoring => []

end Event

end PacketReinjection
