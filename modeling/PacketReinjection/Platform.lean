import PacketReinjection.Interrupt
import PacketReinjection.Register

/-!
# `Platform` — the hardware boundary

Re-injection reaches the hardware through single word-sized accesses and a few processor operations
only. A call names one of them; a platform says how it is answered and what it does to the platform's
own state.

## Contents
- **`Call`** and **`Call.Answer`** — the calls and the type of their answers.
- **`Platform`** — a state that answers every call.
- **`nextAnswer`** — the next of a list of values, from which hardware that is not there answers its reads.
-/

namespace PacketReinjection

/-- One access to the hardware. -/
inductive Call where
  | readRouter (r : RouterRegister)
  | writeRouter (r : RouterRegister) (value : UInt32)
  | readComms (r : CommsRegister)
  | writeComms (r : CommsRegister) (value : UInt32)
  | writeTimer (r : TimerRegister) (value : UInt32)
  | writeVic (r : VicRegister) (value : UInt32)
  /-- Mask the fast interrupt; the answer is the state to restore. -/
  | maskFast
  /-- Restore what `maskFast` answered. -/
  | restoreFast (saved : UInt32)
  /-- The processor clock in megahertz, that is, timer ticks per microsecond. -/
  | readClock
  /-- Route a line to its handler at its priority. -/
  | bind (source : InterruptSource)
  /-- Sleep until an interrupt has been serviced. -/
  | wait
  deriving DecidableEq

/-- The type of a call's answer: a word for what is read, nothing for what is written. -/
@[reducible]
def Call.Answer : Call → Type
  | .readRouter _ | .readComms _ | .maskFast | .readClock => UInt32
  | .writeRouter _ _ | .writeComms _ _ | .writeTimer _ _ | .writeVic _ _ => Unit
  | .restoreFast _ | .bind _ | .wait => Unit

/-- Hardware, or something in its place: a state that answers every call. -/
class Platform (S : Type) where
  /-- The answer to a call and the state after it. -/
  call : (c : Call) → S → c.Answer × S

/-- The next value of a list and the list after it: the last value stays, no value reads as zero. -/
def nextAnswer : List UInt32 → UInt32 × List UInt32
  | [] => (0, [])
  | [v] => (v, [v])
  | v :: rest => (v, rest)

end PacketReinjection
