import PacketReinjection.Command.Reply
import PacketReinjection.Startup

/-!
# `Command.Handler` — carrying out control messages

Every failure becomes a result code and leaves the engine and the hardware as they were.

## Contents
- **`reportStatus`** — wait fields, counters and class mask as they are.
- **`execute`**, **`handleCommand`** — one complete message.
- **`handleFrame`** — one frame of any bytes, and the reply to it if it gets one; `handleAddressed` is
  the part that the reply's verdict comes from.
- **`Mailbox`**, **`pollCommands`** — every frame that is waiting, up to an exit.
-/

namespace PacketReinjection

open Routine

/-- The present status. -/
def reportStatus : Routine StatusReport := do
  let primary ← Router.Monitor.waitOf .primary
  let emergency ← Router.Monitor.waitOf .emergency
  let statistics ← access .statistics
  let classMask ← access .classMask
  return .ofReadings primary emergency statistics classMask

/-- Carry out a request with its value. -/
def perform (value : UInt32) : SubCommand → Routine (Except ControlError CommandReply)
  | .setTimeout => return (← Router.Monitor.setWait .primary value).map fun _ => .accepted
  | .setEmergencyTimeout =>
    return (← Router.Monitor.setWait .emergency value).map fun _ => .accepted
  | .setPacketClasses => do
    log (.settingClasses value)
    access (.setClassMask value)
    return .ok .accepted
  | .getStatus => return .ok (.status (← reportStatus))
  | .resetCounters => do
    access .resetStatistics
    return .ok .accepted
  | .exit => do
    shutdown
    return .ok .accepted

/-- Check the command and the request of a message, then carry it out. -/
def execute (m : CommandMessage) : Routine (Except ControlError CommandReply) :=
  if m.envelope.command ≠ reinjectionCommand then
    return .error (.unknownCommand m.envelope.command)
  else
    match SubCommand.ofCode? m.argument₁ with
    | none => return .error (.unknownSubCommand m.argument₁)
    | some sub => do
      log (.received sub m.envelope.sequence)
      perform m.argument₂ sub

/-- The verdict on a complete message. -/
def handleCommand (m : CommandMessage) : Routine CommandReply := do
  match ← execute m with
  | .ok reply => return reply
  | .error error =>
    log (.rejected m.envelope.sequence error)
    return .refused error

/-- The verdict on a frame that a reply can be addressed for. -/
def handleAddressed (envelope : Envelope) (bytes : List UInt8) : Routine CommandReply :=
  match CommandMessage.decode bytes with
  | .ok message => handleCommand message
  | .error error => do
    log (.malformed envelope.sequence error)
    return .refused error

/-- Handle one frame. There is no reply after exit, to a frame without a full header, and to a frame
    for another port; any other frame that is no complete message is answered with an error. -/
def handleFrame (bytes : List UInt8) : Routine (Option ReplyFrame) := do
  if ← access .isRunning then
    match Envelope.peek bytes with
    | .error error =>
      log (.discarding error)
      return none
    | .ok envelope =>
      let verdict ← handleAddressed envelope bytes
      return some (ReplyFrame.ofVerdict envelope verdict)
  else
    log .ignoring
    return none

/-! ## Mailboxes -/

/-- Frames that wait, oldest first, and the replies sent so far. -/
structure Mailbox where
  inbox : List CommandFrame
  outbox : List ReplyFrame
  deriving DecidableEq

/-- No frame and no reply. -/
def Mailbox.empty : Mailbox := ⟨[], []⟩

/-- The mailbox with further frames behind those that wait. -/
def Mailbox.push (mailbox : Mailbox) (frames : List CommandFrame) : Mailbox :=
  { mailbox with inbox := mailbox.inbox ++ frames }

/-- What one poll did. -/
structure Poll where
  /-- The number of frames taken from the inbox. -/
  handled : Nat
  /-- The frames left in the inbox. -/
  remaining : List CommandFrame
  /-- The replies, in the order of their frames. -/
  replies : List ReplyFrame

/-- Handle the frames of an inbox in order while the engine runs. -/
def pollFrames : List CommandFrame → Routine Poll
  | [] => return ⟨0, [], []⟩
  | frame :: rest => do
    if ← access .isRunning then
      let reply ← handleFrame frame.bytes
      let later ← pollFrames rest
      return ⟨later.handled + 1, later.remaining, reply.toList ++ later.replies⟩
    else
      return ⟨0, frame :: rest, []⟩

/-- Service every waiting frame, stopping once exit has been answered. Gives the number of frames
    taken and the mailbox afterwards. -/
def pollCommands (mailbox : Mailbox) : Routine (Nat × Mailbox) := do
  let poll ← pollFrames mailbox.inbox
  return (poll.handled, ⟨poll.remaining, mailbox.outbox ++ poll.replies⟩)

end PacketReinjection
