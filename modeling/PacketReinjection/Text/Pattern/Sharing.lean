import PacketReinjection.Text.Pattern.ByteRun
import Std.Data.HashMap

/-!
# `Text.Pattern.Sharing` — the states of a set of characters

A set beyond ASCII is laid out by the runs of bytes of its characters. To be followed forwards the runs share
their ends, and to be followed backwards their beginnings: a state that would lead where an earlier one leads is
not laid out again, as long as the earlier one is remembered. It is remembered in a table with a limited number of
places, and forgotten when another state falls on the same place.

## Contents
- **`Room`** — states, and the bytes that they take.
- **`Sharing`** — the room taken so far and the states remembered; `share` gives the state of a key.
- **`forwardRuns`**, **`backwardRuns`** — the room after the runs of a set.
-/

namespace PacketReinjection.Text

/-! ## Room -/

/-- The room of a layout. -/
structure Room where
  states : Nat
  /-- The bytes beyond those that every state takes. -/
  beyond : Nat
  deriving DecidableEq

namespace Room

/-- The bytes that states take. -/
def bytes (r : Room) : Nat := 32 * r.states + r.beyond

instance : Add Room := ⟨fun a b => ⟨a.states + b.states, a.beyond + b.beyond⟩⟩

end Room

/-! ## States that are remembered -/

/-- The room taken so far, and the states remembered by their places, each with its key and its number. -/
structure Sharing where
  room : Room
  table : Std.HashMap Nat (List Nat × Nat)

namespace Sharing

/-- The place of a key among `places`, by a checksum of its numbers. -/
def place (places : Nat) (key : List Nat) : Nat :=
  let sum : UInt64 :=
    key.foldl (fun h n => (h ^^^ UInt64.ofNat n) * 1099511628211) 14695981039346656037
  sum.toNat % places

/-- The number of the state with a key. If no such state is remembered, it is laid out, with some bytes beyond
    those that every state takes. -/
def share (places : Nat) (key : List Nat) (beyond : Nat) (s : Sharing) : Nat × Sharing :=
  let here := place places key
  match s.table[here]? with
  | some (known, n) =>
    if known = key then (n, s) else laidOut here
  | none => laidOut here
where
  /-- The number of a new state, which takes a place in the table. -/
  laidOut (here : Nat) : Nat × Sharing :=
    (s.room.states, ⟨s.room + ⟨1, beyond⟩, s.table.insert here (key, s.room.states)⟩)

end Sharing

/-! ## Forwards -/

/-- The number of the state that the ranges and their following states make up, each range with its own. -/
def forwardState (links : List ((Nat × Nat) × Nat)) : StateM Sharing Nat := fun s =>
  s.share 10000 (links.flatMap fun l => [l.1.1, l.1.2, l.2]) (8 * links.length)

/-- The number of the state from which runs of `depth` ranges at most lead to the state `goal`. The states
    behind a range are laid out before those behind the next. -/
def forwardFrom (goal : Nat) : Nat → List ByteRun → StateM Sharing Nat
  | 0, _ => pure goal
  | depth + 1, runs =>
    if runs = [[]] then pure goal
    else do
      let links ← (groupRuns runs).mapM fun g => do return (g.1, ← forwardFrom goal depth g.2)
      forwardState links

/-- The room after the runs of a set that is followed forwards. Their common end comes first. -/
def forwardRuns (runs : List ByteRun) (r : Room) : Room :=
  ((forwardFrom r.states 4 runs).run ⟨r + ⟨1, 0⟩, ∅⟩).2.room

/-! ## Backwards -/

/-- The number of the state from which a run, read backwards, leads to the state `goal`. -/
def backwardRun (goal : Nat) : ByteRun → StateM Sharing Nat
  | [] => pure goal
  | (first, last) :: rest => do
    let next ← fun s => s.share 1000 [goal, first, last] 0
    backwardRun next rest

/-- The room after the runs of a set that is followed backwards: a state from which all of them start, their common
    end, and the states between. -/
def backwardRuns (runs : List ByteRun) (r : Room) : Room :=
  ((runs.mapM (backwardRun (r.states + 1))).run ⟨r + ⟨2, 4 * runs.length⟩, ∅⟩).2.room

end PacketReinjection.Text
