import PacketReinjection.Platform

/-!
# `Scripted` — a platform with scripted answers that records every call

## Contents
- **`ReadSource`**, **`Script`** — what answers a call that reads: per source a list of values, used up
  from the front, its last value staying.
- **`Scripted`** — the platform: script, clock, and the calls so far with their answers.
-/

namespace PacketReinjection

/-- What a scripted answer is read from. -/
inductive ReadSource where
  | router (r : RouterRegister)
  | comms (r : CommsRegister)
  /-- The answers to masking the fast interrupt. -/
  | fastMask
  deriving DecidableEq

/-- The values to come, per source. -/
abbrev Script := List (ReadSource × List UInt32)

namespace Script

/-- The values to come from a source. -/
def values (script : Script) (source : ReadSource) : List UInt32 :=
  (script.find? fun entry => entry.1 = source).elim [] (·.2)

/-- The script with other values to come from a source. -/
def replace (script : Script) (source : ReadSource) (values : List UInt32) : Script :=
  (source, values) :: script.filter fun entry => entry.1 ≠ source

/-- The next value from a source and the script after it. -/
def next (script : Script) (source : ReadSource) : UInt32 × Script :=
  let answer := nextAnswer (script.values source)
  (answer.1, script.replace source answer.2)

end Script

/-- A call with the answer it got. -/
structure RecordedCall where
  call : Call
  answer : call.Answer

/-- A platform that answers from a script and records every call. -/
structure Scripted where
  script : Script
  clockMegahertz : UInt32
  /-- The calls so far, oldest first. -/
  trace : List RecordedCall

namespace Scripted

/-- Record a call. -/
def record (s : Scripted) (call : Call) (answer : call.Answer) : Scripted :=
  { s with trace := s.trace ++ [⟨call, answer⟩] }

/-- Answer a call that reads from a source. -/
def read (s : Scripted) (source : ReadSource) : UInt32 × Scripted :=
  let answer := s.script.next source
  (answer.1, { s with script := answer.2 })

/-- The answer to a call and the state after it. What is written does not change what is read. -/
def answer : (c : Call) → Scripted → c.Answer × Scripted
  | .readRouter r, s => let a := s.read (.router r); (a.1, a.2.record (.readRouter r) a.1)
  | .readComms r, s => let a := s.read (.comms r); (a.1, a.2.record (.readComms r) a.1)
  | .maskFast, s => let a := s.read .fastMask; (a.1, a.2.record .maskFast a.1)
  | .readClock, s => (s.clockMegahertz, s.record .readClock s.clockMegahertz)
  | .writeRouter r value, s => ((), s.record (.writeRouter r value) ())
  | .writeComms r value, s => ((), s.record (.writeComms r value) ())
  | .writeTimer r value, s => ((), s.record (.writeTimer r value) ())
  | .writeVic r value, s => ((), s.record (.writeVic r value) ())
  | .restoreFast saved, s => ((), s.record (.restoreFast saved) ())
  | .bind source, s => ((), s.record (.bind source) ())
  | .wait, s => ((), s.record .wait ())

instance : Platform Scripted := ⟨answer⟩

end Scripted

end PacketReinjection
