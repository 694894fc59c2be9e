import PacketReinjection.Proofs.Queue.Fifo

/-!
# `Proofs.Queue.Bounded` — the ring refines a bounded list

Two machines take the same operations: the ring of `n` slots, and a plain list that has room for `n - 1`
elements. They give the same answers for ever, and at every moment the list is what one finds in the slots
of the ring by walking from `head` until `tail` is reached.

## Contents
- **`QueueOperation`**, **`QueueAnswer`** — what a queue is asked, and what it gives back.
- **The two machines.** `RingQueue.operate`, `BoundedList.operate`, and `operateAll` for a sequence.
- **The walk.** `contents` collects slots from `head` up to `tail`; `contents_eq_toList`.
- **`RingQueue.Shows`** — a ring that stands for a list; `Shows.operate` is the step.
- **`ring_refines_bounded_list`**.
-/

namespace PacketReinjection

/-! ## Operations -/

/-- What a queue is asked to do. -/
inductive QueueOperation (α : Type) where
  | enqueue (a : α)
  | dequeue
  | clear

/-- What a queue gives back. -/
inductive QueueAnswer (α : Type) where
  | accepted (whether : Bool)
  | taken (a : Option α)
  | cleared
  deriving DecidableEq

/-- A sequence of operations: the answers in their order, and the state at the end. -/
def operateAll {S α : Type} (operate : S → QueueOperation α → QueueAnswer α × S) :
    List (QueueOperation α) → S → List (QueueAnswer α) × S
  | [], s => ([], s)
  | op :: ops, s =>
    let first := operate s op
    let rest := operateAll operate ops first.2
    (first.1 :: rest.1, rest.2)

namespace BoundedList

variable {α : Type}

/-- One operation on a list with room for so many elements. -/
def operate (room : Nat) (held : List α) : QueueOperation α → QueueAnswer α × List α
  | .enqueue a =>
    if held.length < room then (.accepted true, held ++ [a]) else (.accepted false, held)
  | .dequeue => (.taken held.head?, held.tail)
  | .clear => (.cleared, [])

/-- An operation that finds no room, or nothing to take. -/
def Refuses (room : Nat) (held : List α) : QueueOperation α → Prop
  | .enqueue _ => ¬held.length < room
  | .dequeue => held = []
  | .clear => False

end BoundedList

namespace RingQueue

variable {α : Type} {n : Nat}

/-- One operation on a ring. -/
def operate (q : RingQueue α n) : QueueOperation α → QueueAnswer α × RingQueue α n
  | .enqueue a => (q.enqueue a).map .accepted id
  | .dequeue => q.dequeue.map .taken id
  | .clear => (.cleared, q.clear)

/-! ## The walk from head to tail -/

/-- The slots from slot `i` on until `tail` is reached, after so many steps at the latest. -/
def walk (q : RingQueue α n) : Nat → Nat → List α
  | 0, _ => []
  | steps + 1, i => if i = q.tail then [] else q.slot i :: q.walk steps (next n i)

/-- The slots from `head` up to `tail`, round the ring. -/
def contents (q : RingQueue α n) : List α := q.walk n q.head

theorem slot_mod (q : RingQueue α n) (i : Nat) : q.slot (i % n) = q.slot i := by
  simp only [slot, Nat.mod_mod]

/-- With `left` elements still ahead, the walk gives just these. -/
theorem walk_eq (q : RingQueue α n) {left steps : Nat} (hsteps : left ≤ steps) :
    ∀ done, done + left = q.length →
      q.walk steps ((q.head + done) % n) = (List.range' done left).map fun i => q.slot (q.head + i) := by
  induction left generalizing steps with
  | zero =>
    intro done hdone
    have htail : (q.head + done) % n = q.tail := by
      rw [show done = q.length from hdone, head_add_length_mod]
    cases steps with
    | zero => rfl
    | succ steps => rw [walk, if_pos htail]; rfl
  | succ left ih =>
    intro done hdone
    obtain ⟨steps, rfl⟩ := Nat.exists_eq_succ_of_ne_zero (Nat.ne_zero_of_lt hsteps)
    have hahead : (q.head + done) % n ≠ q.tail := head_add_mod_ne_tail (by omega)
    have hnext : next n ((q.head + done) % n) = (q.head + (done + 1)) % n := by
      rw [next, Nat.mod_add_mod, Nat.add_assoc]
    rw [walk, if_neg hahead, hnext, ih (Nat.le_of_succ_le_succ hsteps) (done + 1) (by omega), slot_mod,
      List.range'_succ, List.map_cons]

/-- The walk and the view by number of elements agree. -/
theorem contents_eq_toList (q : RingQueue α n) : q.contents = q.toList := by
  have hwalk := q.walk_eq (Nat.le_of_lt q.length_lt) 0 (Nat.zero_add _)
  rwa [Nat.add_zero, Nat.mod_eq_of_lt q.head_lt, ← List.range_eq_range'] at hwalk

/-! ## Standing for a list -/

/-- **A ring that stands for a list**: the list is what lies between its indices, and its observers tell the
    truth about it. -/
structure Shows (q : RingQueue α n) (held : List α) : Prop where
  head_lt : q.head < n
  tail_lt : q.tail < n
  contents : q.contents = held
  length : q.length = held.length
  isEmpty : q.isEmpty = true ↔ held = []
  isFull : q.isFull = true ↔ held.length = n - 1

/-- Every ring stands for the list of its elements. -/
theorem shows_toList (q : RingQueue α n) : q.Shows q.toList where
  head_lt := q.head_lt
  tail_lt := q.tail_lt
  contents := q.contents_eq_toList
  length := q.length_toList.symm
  isEmpty := q.isEmpty_iff
  isFull := by rw [isFull_iff, length_toList]

/-- There is room in the list exactly where there is a free slot besides the one that stays free. -/
theorem length_toList_lt_iff (q : RingQueue α n) : q.toList.length < n - 1 ↔ q.length ≠ n - 1 := by
  have hlt := q.length_lt
  rw [length_toList]
  omega

/-- One operation gives the list's answer and leads to the list's next state. -/
theorem operate_toList (q : RingQueue α n) (op : QueueOperation α) :
    ((q.operate op).1, (q.operate op).2.toList) = BoundedList.operate (n - 1) q.toList op := by
  cases op with
  | enqueue a =>
    rw [BoundedList.operate]
    by_cases hroom : q.length ≠ n - 1
    · rw [if_pos (q.length_toList_lt_iff.mpr hroom), ← toList_enqueue hroom a,
        ← enqueue_fst_of_room hroom a]
      rfl
    · rw [if_neg (mt q.length_toList_lt_iff.mp hroom)]
      simp only [operate, enqueue_of_full (Decidable.not_not.mp hroom), Prod.map_apply, id_eq]
  | dequeue =>
    rw [BoundedList.operate, ← dequeue_fst, ← toList_dequeue]
    rfl
  | clear =>
    rw [BoundedList.operate, ← q.toList_clear]
    rfl

/-- An operation that the list refuses leaves indices and slots of the ring as they are. -/
theorem operate_of_refuses {q : RingQueue α n} {op : QueueOperation α}
    (h : BoundedList.Refuses (n - 1) q.toList op) : (q.operate op).2 = q := by
  cases op with
  | enqueue a =>
    have hfull : q.length = n - 1 := Decidable.not_not.mp (mt q.length_toList_lt_iff.mpr h)
    simp only [operate, enqueue_of_full hfull, Prod.map_apply, id_eq]
  | dequeue =>
    have hempty : q.length = 0 := q.toList_eq_nil_iff.mp h
    simp only [operate, dequeue_of_empty hempty, Prod.map_apply, id_eq]
  | clear => exact h.elim

/-- The two machines stay together. -/
theorem operateAll_toList (ops : List (QueueOperation α)) (q : RingQueue α n) :
    ((operateAll operate ops q).1, (operateAll operate ops q).2.toList)
      = operateAll (BoundedList.operate (n - 1)) ops q.toList := by
  induction ops generalizing q with
  | nil => rfl
  | cons op ops ih =>
    have hstep := q.operate_toList op
    have hrest := ih (q.operate op).2
    simp only [operateAll]
    rw [← hstep, ← hrest]

end RingQueue

open RingQueue in
/-- **The ring refines a list with room for one element less than it has slots.** After any operations on a
    new ring the answers have been the list's, the list is what lies from `head` up to `tail`, the observers
    tell its length and whether it is empty or full, and what the list refuses would change nothing in the
    ring. -/
theorem ring_refines_bounded_list {α : Type} {n : Nat} (blank : α) (pos : 0 < n)
    (ops : List (QueueOperation α)) :
    let ring := operateAll operate ops (empty blank n pos)
    let list := operateAll (BoundedList.operate (n - 1)) ops []
    ring.1 = list.1 ∧ ring.2.Shows list.2
      ∧ ∀ op, BoundedList.Refuses (n - 1) list.2 op → (ring.2.operate op).2 = ring.2 := by
  intro ring list
  have htogether : (ring.1, ring.2.toList) = list := by
    rw [operateAll_toList, toList_empty]
  have hanswers : ring.1 = list.1 := congrArg Prod.fst htogether
  have hheld : ring.2.toList = list.2 := congrArg Prod.snd htogether
  refine ⟨hanswers, ?_, ?_⟩
  · rw [← hheld]
    exact ring.2.shows_toList
  · intro op hrefuses
    rw [← hheld] at hrefuses
    exact operate_of_refuses hrefuses

open RingQueue in
/-- Three slots, wrapped round and full: the third of three elements in a row is refused, and so is one
    more. -/
theorem ring_refines_bounded_list_wrapped :
    let ops : List (QueueOperation Nat) :=
      [.enqueue 1, .dequeue, .enqueue 2, .enqueue 3, .enqueue 4]
    let ring := operateAll operate ops (empty 0 3 (by decide))
    ring.1 = [.accepted true, .taken (some 1), .accepted true, .accepted true, .accepted false]
      ∧ (ring.2.head, ring.2.tail) = (1, 0) ∧ ring.2.Shows [2, 3]
      ∧ (ring.2.operate (.enqueue 5)).2 = ring.2 := by
  intro ops ring
  obtain ⟨hanswers, hshows, hrefused⟩ := ring_refines_bounded_list 0 (by decide : 0 < 3) ops
  exact ⟨hanswers, by decide, hshows, hrefused (.enqueue 5) (Nat.lt_irrefl 2)⟩

end PacketReinjection
