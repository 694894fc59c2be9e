import PacketReinjection.Command.Message
import PacketReinjection.Command.Status

/-!
# `Command.Reply` — replies to control messages

A reply takes the request's header with source and destination exchanged, puts the result code in the
place of the command, keeps the sequence number, and goes on with its payload. Only get-status has a
payload.

## Contents
- **`CommandReply`** — the verdict on one message.
- **`ReplyFrame`** — an encoded reply: `build` makes one, `header`, `resultCode`, `sequence`,
  `payload` and `status` read it back from its bytes, `writeTo` copies it into a buffer.
-/

namespace PacketReinjection

/-- The verdict on one message. -/
inductive CommandReply where
  | accepted
  | status (report : StatusReport)
  | refused (error : ControlError)
  deriving DecidableEq

/-- The result code that a verdict is answered with. -/
def CommandReply.resultCode : CommandReply → ResultCode
  | accepted | status _ => .ok
  | refused error => error.resultCode

/-- The longest reply: an envelope and a status report. -/
def maxReplyLength : Nat := envelopeLength + statusWords * 4

/-- An encoded reply. -/
structure ReplyFrame where
  bytes : List UInt8
  envelope_le : envelopeLength ≤ bytes.length
  deriving DecidableEq

namespace ReplyFrame

/-- The reply to a request, with a result code and a payload. -/
def build (request : Envelope) (code : ResultCode) (payload : List UInt32) : ReplyFrame where
  bytes :=
    Envelope.encode ⟨request.header.swapped, code.word, request.sequence⟩
      ++ payload.flatMap LittleEndian.bytes32
  envelope_le := by rw [List.length_append, Envelope.length_encode]; exact Nat.le_add_right _ _

/-- The reply that a verdict is sent as. -/
def ofVerdict (request : Envelope) : CommandReply → ReplyFrame
  | .status report => build request .ok report.words
  | verdict => build request verdict.resultCode []

/-- The header of the reply. -/
def header (r : ReplyFrame) : MessageHeader where
  flags := r.bytes.getD 0 0
  tag := r.bytes.getD 1 0
  destinationPortCore := r.bytes.getD 2 0
  sourcePortCore := r.bytes.getD 3 0
  destinationChip := LittleEndian.word16At r.bytes 4
  sourceChip := LittleEndian.word16At r.bytes 6

/-- The result code of the reply, if its word is one. -/
def resultCode (r : ReplyFrame) : Option ResultCode :=
  ResultCode.ofWord? (LittleEndian.word16At r.bytes 8)

/-- The sequence number of the request. -/
def sequence (r : ReplyFrame) : UInt16 := LittleEndian.word16At r.bytes 10

/-- What follows the envelope. -/
def payload (r : ReplyFrame) : List UInt8 := r.bytes.drop envelopeLength

/-- The payload as a status report. -/
def status (r : ReplyFrame) : Except ControlError StatusReport := StatusReport.decode r.payload

/-- Copy the reply to the front of a buffer, keeping the rest of it. Gives the number of bytes copied
    and the buffer. -/
def writeTo (r : ReplyFrame) (buffer : List UInt8) : Except ControlError (Nat × List UInt8) :=
  if buffer.length < r.bytes.length then
    .error (.bufferTooSmall r.bytes.length buffer.length)
  else
    .ok (r.bytes.length, r.bytes ++ buffer.drop r.bytes.length)

end ReplyFrame

end PacketReinjection
