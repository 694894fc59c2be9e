/-!
# `Command.SubCommand` — what a control message can ask for

## Contents
- **`SubCommand`** — the six requests with their `code` in a message and their `name` in the log.
-/

namespace PacketReinjection

/-- The requests that a control message can make. -/
inductive SubCommand where
  | setTimeout
  | setEmergencyTimeout
  | setPacketClasses
  | getStatus
  | resetCounters
  | exit
  deriving DecidableEq, Inhabited

namespace SubCommand

/-- The requests in the order of their codes. -/
def all : List SubCommand :=
  [setTimeout, setEmergencyTimeout, setPacketClasses, getStatus, resetCounters, exit]

/-- The code of a request in the first argument of a message. -/
def code : SubCommand → UInt32
  | setTimeout => 0
  | setEmergencyTimeout => 1
  | setPacketClasses => 2
  | getStatus => 3
  | resetCounters => 4
  | exit => 5

/-- The largest code of a request. -/
def maxCode : UInt32 := 5

/-- The request with a given code; codes above `maxCode` name none. -/
def ofCode? : UInt32 → Option SubCommand
  | 0 => some setTimeout
  | 1 => some setEmergencyTimeout
  | 2 => some setPacketClasses
  | 3 => some getStatus
  | 4 => some resetCounters
  | 5 => some exit
  | _ => none

/-- The name under which a request is logged. -/
def name : SubCommand → String
  | setTimeout => "SET_ROUTER_TIMEOUT"
  | setEmergencyTimeout => "SET_ROUTER_EMERGENCY_TIMEOUT"
  | setPacketClasses => "SET_PACKET_TYPES"
  | getStatus => "GET_STATUS"
  | resetCounters => "RESET_COUNTERS"
  | exit => "EXIT"

theorem ofCode?_code (s : SubCommand) : ofCode? s.code = some s := by
  cases s <;> rfl

end SubCommand

end PacketReinjection
