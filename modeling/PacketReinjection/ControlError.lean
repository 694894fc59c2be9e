/-!
# `ControlError` — why a control request is refused

Only the control plane produces errors; interrupt handlers turn their failures into statistics.

## Contents
- **`ResultCode`** — the code that a reply carries, as a 16-bit word and as text.
- **`ControlError`** — the causes, with their wording (`message`) and the code they are answered with
  (`resultCode`).
-/

namespace PacketReinjection

/-! ## Result codes -/

/-- The result code of a reply. -/
inductive ResultCode where
  | ok
  | length
  | command
  | argument
  deriving DecidableEq, Inhabited

namespace ResultCode

/-- The code as it stands in a reply. -/
def word : ResultCode → UInt16
  | ok => 0x80
  | length => 0x81
  | command => 0x83
  | argument => 0x84

/-- The result code of a word; words between and beyond the four codes are none. -/
def ofWord? : UInt16 → Option ResultCode
  | 0x80 => some ok
  | 0x81 => some length
  | 0x83 => some command
  | 0x84 => some argument
  | _ => none

/-- The code as text for people. -/
def text : ResultCode → String
  | ok => "\x7bOK\x7d"
  | length => "\x7bLength Error\x7d"
  | command => "\x7bInvalid Command\x7d"
  | argument => "\x7bInvalid Argument\x7d"

theorem ofWord?_word (c : ResultCode) : ofWord? c.word = some c := by
  cases c <;> rfl

end ResultCode

/-! ## Errors -/

/-- Why a control request is refused. -/
inductive ControlError where
  /-- Too short for a message header. -/
  | truncated (got : Nat)
  /-- Shorter than the message or payload has to be. -/
  | tooShort (expected got : Nat)
  /-- Not the command that controls re-injection. -/
  | unknownCommand (command : UInt16)
  /-- A sub-command that does not exist. -/
  | unknownSubCommand (code : UInt32)
  | argumentOutOfRange (value max : UInt32)
  /-- Addressed to a port other than the control port. -/
  | otherPort (port : UInt8)
  | bufferTooSmall (needed got : Nat)
  deriving DecidableEq

namespace ControlError

/-- The code with which a request that failed this way is answered. -/
def resultCode : ControlError → ResultCode
  | truncated _ => .length
  | tooShort _ _ => .length
  | unknownCommand _ => .command
  | unknownSubCommand _ => .argument
  | argumentOutOfRange _ _ => .argument
  | otherPort _ => .command
  | bufferTooSmall _ _ => .length

/-- The error as text for people. -/
def message : ControlError → String
  | truncated got => s!"message truncated ({got} bytes)"
  | tooShort expected got => s!"message too short: expected {expected} bytes, got {got}"
  | unknownCommand command => s!"invalid command {command}"
  | unknownSubCommand code => s!"invalid sub-command {code}"
  | argumentOutOfRange value max => s!"argument {value} out of range (max {max})"
  | otherPort port => s!"message for port {port} is not SCP"
  | bufferTooSmall needed got => s!"buffer too small: need {needed} bytes, got {got}"

end ControlError

end PacketReinjection
