import PacketReinjection.Command.Reply
import PacketReinjection.Engine

/-!
# `Description` — values as one line of text for people

A value with named parts is written as its name and the parts in braces, a list in brackets.

## Contents
- **Shapes.** `record` and `list`.
- **Values.** `EngineConfig.describe`, `RingQueue.describe`, `Statistics.describe`, `Engine.describe`,
  `CommandFrame.describe`, `ReplyFrame.describe`.
-/

namespace PacketReinjection

/-! ## Shapes -/

namespace Description

/-- A name and named parts: `Name` with `part: text` for each part, in braces. -/
def record (name : String) (parts : List (String × String)) : String :=
  name ++ " \x7b " ++ ", ".intercalate (parts.map fun (part, text) => part ++ ": " ++ text) ++ " \x7d"

/-- Texts in brackets. -/
def list (texts : List String) : String :=
  "[" ++ ", ".intercalate texts ++ "]"

/-- A truth value. -/
def bool (b : Bool) : String :=
  if b then "true" else "false"

end Description

/-! ## Values -/

open Description

/-- The configuration in one line. -/
def EngineConfig.describe (c : EngineConfig) : String :=
  record "EngineConfig"
    [("initial_timeout", toString c.primaryWait.toNat),
      ("initial_emergency_timeout", toString c.emergencyWait.toNat),
      ("initial_packet_types", toString c.classMask.toNat),
      ("tick_period_us", toString c.tickMicroseconds.toNat)]

/-- The indices and the filling of a queue in one line. -/
def RingQueue.describe {α : Type} {n : Nat} (q : RingQueue α n) : String :=
  record "PacketQueue"
    [("head", toString q.head), ("tail", toString q.tail), ("len", toString q.length),
      ("capacity", toString q.capacity)]

/-- The counters in one line. -/
def Statistics.describe (s : Statistics) : String :=
  record "StatsSnapshot"
    [("dropped", toString s.dropped.toNat), ("missed_dropped", toString s.missedDropped.toNat),
      ("queue_overflows", toString s.queueOverflows.toNat),
      ("reinjected", toString s.reinjected.toNat)]

/-- The engine's memory in one line. -/
def Engine.describe (e : Engine) : String :=
  record "Engine"
    [("cfg", e.config.describe), ("queue", e.queue.describe), ("stats", e.statistics.describe),
      ("filter_mask", toString e.filter.mask.toNat), ("running", bool e.running)]

/-- A frame in one line, every byte in decimal. -/
def CommandFrame.describe (f : CommandFrame) : String :=
  record "CommandFrame"
    [("len", toString f.bytes.length),
      ("bytes", list (f.bytes.map fun b => toString b.toNat))]

/-- The name of a result code in a description. -/
def ResultCode.describe : ResultCode → String
  | .ok => "Ok"
  | .length => "Len"
  | .command => "Cmd"
  | .argument => "Arg"

/-- A reply in one line. -/
def ReplyFrame.describe (r : ReplyFrame) : String :=
  record "ReplyFrame"
    [("result", (r.resultCode.map fun code => "Some(" ++ code.describe ++ ")").getD "None"),
      ("seq", toString r.sequence.toNat), ("payload_len", toString r.payload.length)]

end PacketReinjection
