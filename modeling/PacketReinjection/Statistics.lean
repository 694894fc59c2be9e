/-!
# `Statistics` — the four event counters

Each counter is bumped by one handler only and stops at its largest value instead of wrapping.

## Contents
- **`Counter`** — the names of the counters.
- **`Statistics`** — their values, with `get`, `count` (one more event) and `reset` (one or all).
-/

namespace PacketReinjection

/-- The names of the counters. -/
inductive Counter where
  /-- Dumped packets of an enabled class. -/
  | dropped
  /-- Packets that the router lost before they could be captured. -/
  | missedDropped
  /-- Captured packets for which the queue had no room. -/
  | queueOverflows
  /-- Packets handed back to the transmitter. -/
  | reinjected
  deriving DecidableEq, Inhabited

/-- The value after one more event: the largest value stays. -/
def saturatingSucc (v : UInt32) : UInt32 :=
  if v = 0xffffffff then v else v + 1

/-- The values of the counters. -/
structure Statistics where
  dropped : UInt32
  missedDropped : UInt32
  queueOverflows : UInt32
  reinjected : UInt32
  deriving DecidableEq, Inhabited

namespace Statistics

/-- No event yet. -/
def zero : Statistics := ⟨0, 0, 0, 0⟩

/-- The value of one counter. -/
def get (s : Statistics) : Counter → UInt32
  | .dropped => s.dropped
  | .missedDropped => s.missedDropped
  | .queueOverflows => s.queueOverflows
  | .reinjected => s.reinjected

/-- Put a value into one counter. -/
def set (s : Statistics) (c : Counter) (v : UInt32) : Statistics :=
  match c with
  | .dropped => { s with dropped := v }
  | .missedDropped => { s with missedDropped := v }
  | .queueOverflows => { s with queueOverflows := v }
  | .reinjected => { s with reinjected := v }

/-- Count one more event. -/
def count (s : Statistics) (c : Counter) : Statistics :=
  s.set c (saturatingSucc (s.get c))

/-- Put one counter back to zero. -/
def reset (s : Statistics) (c : Counter) : Statistics :=
  s.set c 0

theorem get_set_self (s : Statistics) (c : Counter) (v : UInt32) : (s.set c v).get c = v := by
  cases c <;> rfl

theorem get_set_of_ne (s : Statistics) {c d : Counter} (v : UInt32) (h : d ≠ c) :
    (s.set c v).get d = s.get d := by
  cases c <;> cases d <;> first | rfl | exact absurd rfl h

end Statistics

end PacketReinjection
