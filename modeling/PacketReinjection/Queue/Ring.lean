/-!
# `Queue.Ring` — a ring buffer with one producer and one consumer

`n` slots and two indices. `head` is the next slot to read and only the consumer writes it; `tail` is
the next slot to fill and only the producer writes it. One slot always stays free, so that
`head = tail` means empty and `tail + 1 = head` (round the ring) means full, and no count is shared.

## Contents
- **`RingQueue`** — slots and indices; that both indices stay inside the ring is part of the type.
- **Observers.** `length`, `isEmpty`, `isFull`, and the view `toList`, oldest element first.
- **Operations.** `enqueue`, `dequeue`, `clear`.
-/

namespace PacketReinjection

/-- A ring of `n` slots. -/
structure RingQueue (α : Type) (n : Nat) where
  slots : Vector α n
  /-- The next slot to read. -/
  head : Nat
  /-- The next slot to fill. -/
  tail : Nat
  head_lt : head < n
  tail_lt : tail < n
  deriving DecidableEq

namespace RingQueue

variable {α : Type} {n : Nat}

/-- The empty ring, every slot holding `blank`. -/
def empty (blank : α) (n : Nat) (pos : 0 < n) : RingQueue α n :=
  ⟨Vector.replicate n blank, 0, 0, pos, pos⟩

/-- How many elements a ring of `n` slots can hold. -/
def capacity (_ : RingQueue α n) : Nat := n - 1

/-- The slot after slot `i`, round the ring. -/
def next (n i : Nat) : Nat := (i + 1) % n

/-- The next slot lies inside the ring again. -/
theorem next_lt {i : Nat} (h : i < n) : next n i < n :=
  Nat.mod_lt _ (Nat.zero_lt_of_lt h)

/-! ## Observers -/

/-- The number of elements held. -/
def length (q : RingQueue α n) : Nat := (q.tail + n - q.head) % n

/-- Whether nothing is held. -/
def isEmpty (q : RingQueue α n) : Bool := q.head == q.tail

/-- Whether one more element would catch up with the head. -/
def isFull (q : RingQueue α n) : Bool := next n q.tail == q.head

/-- The element in slot `i`, counted round the ring. -/
def slot (q : RingQueue α n) (i : Nat) : α :=
  q.slots.get ⟨i % n, Nat.mod_lt _ (Nat.zero_lt_of_lt q.head_lt)⟩

/-- The elements held, oldest first. -/
def toList (q : RingQueue α n) : List α :=
  (List.range q.length).map fun i => q.slot (q.head + i)

/-! ## Operations -/

/-- Append an element unless the ring is full; a full ring is left as it is. -/
def enqueue (q : RingQueue α n) (a : α) : Bool × RingQueue α n :=
  if next n q.tail = q.head then
    (false, q)
  else
    (true, { q with slots := q.slots.set q.tail a q.tail_lt, tail := next n q.tail,
                    tail_lt := next_lt q.tail_lt })

/-- Remove the oldest element, if there is one. -/
def dequeue (q : RingQueue α n) : Option α × RingQueue α n :=
  if q.head = q.tail then
    (none, q)
  else
    (some (q.slots.get ⟨q.head, q.head_lt⟩),
      { q with head := next n q.head, head_lt := next_lt q.head_lt })

/-- Drop every element. The slots keep their contents. -/
def clear (q : RingQueue α n) : RingQueue α n :=
  { q with head := q.tail, head_lt := q.tail_lt }

end RingQueue

end PacketReinjection
