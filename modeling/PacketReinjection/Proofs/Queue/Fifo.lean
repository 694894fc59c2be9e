import PacketReinjection.Queue.Ring

/-!
# `Proofs.Queue.Fifo` — the ring behaves as a bounded first-in first-out list

`RingQueue.toList` reads the slots from `head` up to `tail`, round the ring. Every operation is one
equation about that list, for every number of slots and every position of the indices; callers never
look at slots or indices again.

## Contents
- **Index arithmetic.** An index is never more than one turn ahead, so a remainder is one comparison
  and one subtraction at most.
- **Observers.** `length_toList`, `length_lt`, `isEmpty_iff`, `isFull_iff`.
- **Operations.** `toList_empty`, `enqueue_of_full`, `toList_enqueue`, `dequeue_fst`,
  `toList_dequeue`, `toList_clear`.
- **Moves.** `moves_append`: how the moves of several operations add up.
-/

namespace PacketReinjection.RingQueue

variable {α : Type} {n : Nat}

/-! ## Index arithmetic -/

/-- Less than two turns round the ring, a remainder is one subtraction at most. -/
theorem mod_eq_wrap {i : Nat} (h : i < 2 * n) : i % n = if i < n then i else i - n := by
  split
  · rename_i hlt
    exact Nat.mod_eq_of_lt hlt
  · rw [Nat.mod_eq_sub_mod (by omega), Nat.mod_eq_of_lt (by omega)]

theorem next_eq {i : Nat} (h : i < n) : next n i = if i + 1 < n then i + 1 else 0 := by
  unfold next
  rw [mod_eq_wrap (by omega)]
  split <;> omega

theorem length_eq (q : RingQueue α n) :
    q.length = if q.head ≤ q.tail then q.tail - q.head else q.tail + n - q.head := by
  have hh := q.head_lt
  have ht := q.tail_lt
  unfold length
  rw [mod_eq_wrap (by omega)]
  split <;> split <;> omega

/-- One slot always stays free. -/
theorem length_lt (q : RingQueue α n) : q.length < n :=
  Nat.mod_lt _ (Nat.zero_lt_of_lt q.head_lt)

/-- The slot that the next element goes to is `length` places after the head. -/
theorem head_add_length_mod (q : RingQueue α n) : (q.head + q.length) % n = q.tail := by
  have hh := q.head_lt
  have ht := q.tail_lt
  rw [length_eq]
  split
  · rw [mod_eq_wrap (by omega)]
    split <;> omega
  · rw [mod_eq_wrap (by omega)]
    split <;> omega

/-- No held element lies in the slot that is filled next. -/
theorem head_add_mod_ne_tail {q : RingQueue α n} {i : Nat} (hi : i < q.length) :
    (q.head + i) % n ≠ q.tail := by
  have hh := q.head_lt
  have ht := q.tail_lt
  have hlt := q.length_lt
  rw [length_eq] at hi hlt
  rw [mod_eq_wrap (by omega)]
  split at hi <;> split <;> omega

theorem next_tail_eq_head_iff (q : RingQueue α n) : next n q.tail = q.head ↔ q.length = n - 1 := by
  have hh := q.head_lt
  have ht := q.tail_lt
  rw [next_eq ht, length_eq]
  split <;> split <;> omega

theorem head_eq_tail_iff (q : RingQueue α n) : q.head = q.tail ↔ q.length = 0 := by
  have hh := q.head_lt
  have ht := q.tail_lt
  rw [length_eq]
  split <;> omega

/-! ## Observers -/

@[simp]
theorem length_toList (q : RingQueue α n) : q.toList.length = q.length := by
  simp [toList]

theorem toList_eq_nil_iff (q : RingQueue α n) : q.toList = [] ↔ q.length = 0 := by
  rw [← List.length_eq_zero_iff, length_toList]

theorem isEmpty_iff (q : RingQueue α n) : q.isEmpty = true ↔ q.toList = [] := by
  rw [toList_eq_nil_iff, ← head_eq_tail_iff]
  simp [isEmpty]

theorem isFull_iff (q : RingQueue α n) : q.isFull = true ↔ q.length = n - 1 := by
  rw [← next_tail_eq_head_iff]
  simp [isFull]

/-! ## Operations -/

@[simp]
theorem toList_empty (blank : α) (pos : 0 < n) : (empty blank n pos).toList = [] := by
  rw [toList_eq_nil_iff, ← head_eq_tail_iff]
  rfl

@[simp]
theorem toList_clear (q : RingQueue α n) : q.clear.toList = [] := by
  rw [toList_eq_nil_iff, ← head_eq_tail_iff]
  rfl

/-- A full ring refuses and stays as it is, slots and indices included. -/
theorem enqueue_of_full {q : RingQueue α n} (h : q.length = n - 1) (a : α) :
    q.enqueue a = (false, q) := by
  unfold enqueue
  rw [if_pos (q.next_tail_eq_head_iff.mpr h)]

/-- A ring with room accepts. -/
theorem enqueue_fst_of_room {q : RingQueue α n} (h : q.length ≠ n - 1) (a : α) :
    (q.enqueue a).1 = true := by
  unfold enqueue
  rw [if_neg (fun hnext => h (q.next_tail_eq_head_iff.mp hnext))]

theorem enqueue_fst_iff (q : RingQueue α n) (a : α) :
    (q.enqueue a).1 = true ↔ q.length ≠ n - 1 := by
  constructor
  · intro htrue hfull
    rw [enqueue_of_full hfull] at htrue
    exact Bool.noConfusion htrue
  · intro hroom
    exact enqueue_fst_of_room hroom a

/-- What was refused changed nothing. -/
theorem enqueue_snd_of_refused {q : RingQueue α n} {a : α} (h : ¬(q.enqueue a).1 = true) :
    (q.enqueue a).2 = q := by
  have hfull : q.length = n - 1 := Decidable.not_not.mp fun hroom => h (q.enqueue_fst_iff a |>.mpr hroom)
  rw [enqueue_of_full hfull]

/-- A slot after one slot was written. -/
theorem get_set (slots : Vector α n) {i : Nat} (hi : i < n) (a : α) (j : Fin n) :
    (slots.set i a hi).get j = if i = j then a else slots.get j :=
  Vector.getElem_set hi j.isLt

theorem enqueue_head (q : RingQueue α n) (a : α) : (q.enqueue a).2.head = q.head := by
  unfold enqueue
  split <;> rfl

theorem enqueue_tail {q : RingQueue α n} (h : q.length ≠ n - 1) (a : α) :
    (q.enqueue a).2.tail = next n q.tail := by
  unfold enqueue
  rw [if_neg (fun hnext => h (q.next_tail_eq_head_iff.mp hnext))]

theorem enqueue_slots {q : RingQueue α n} (h : q.length ≠ n - 1) (a : α) :
    (q.enqueue a).2.slots = q.slots.set q.tail a q.tail_lt := by
  unfold enqueue
  rw [if_neg (fun hnext => h (q.next_tail_eq_head_iff.mp hnext))]

theorem length_enqueue {q : RingQueue α n} (h : q.length ≠ n - 1) (a : α) :
    (q.enqueue a).2.length = q.length + 1 := by
  have hh := q.head_lt
  have ht := q.tail_lt
  have hnext : next n q.tail ≠ q.head := fun hnext => h (q.next_tail_eq_head_iff.mp hnext)
  rw [length_eq, length_eq, enqueue_head, enqueue_tail h]
  by_cases hwrap : q.tail + 1 < n
  · rw [next_eq ht, if_pos hwrap] at hnext ⊢
    split <;> split <;> omega
  · rw [next_eq ht, if_neg hwrap] at hnext ⊢
    split <;> split <;> omega

/-- What is accepted becomes the youngest element. -/
theorem toList_enqueue {q : RingQueue α n} (h : q.length ≠ n - 1) (a : α) :
    (q.enqueue a).2.toList = q.toList ++ [a] := by
  unfold toList
  rw [length_enqueue h, List.range_succ, List.map_append, List.map_singleton]
  congr 1
  · refine List.map_congr_left fun i hi => ?_
    have hne := head_add_mod_ne_tail (List.mem_range.mp hi)
    simp only [slot, enqueue_slots h, enqueue_head, get_set]
    exact if_neg (Ne.symm hne)
  · simp only [slot, enqueue_slots h, enqueue_head, get_set, head_add_length_mod, if_true]

/-- What is taken out is the oldest element, if there is one. -/
theorem dequeue_fst (q : RingQueue α n) : q.dequeue.1 = q.toList.head? := by
  unfold dequeue
  by_cases hempty : q.head = q.tail
  · rw [if_pos hempty, q.toList_eq_nil_iff.mpr (q.head_eq_tail_iff.mp hempty)]
    rfl
  · rw [if_neg hempty]
    obtain ⟨k, hk⟩ := Nat.exists_eq_succ_of_ne_zero fun hzero => hempty (q.head_eq_tail_iff.mpr hzero)
    unfold toList
    rw [hk, List.range_succ_eq_map]
    simp [slot, Nat.mod_eq_of_lt q.head_lt]

theorem dequeue_slots (q : RingQueue α n) : q.dequeue.2.slots = q.slots := by
  unfold dequeue
  split <;> rfl

theorem dequeue_tail (q : RingQueue α n) : q.dequeue.2.tail = q.tail := by
  unfold dequeue
  split <;> rfl

theorem dequeue_head {q : RingQueue α n} (h : q.length ≠ 0) : q.dequeue.2.head = next n q.head := by
  unfold dequeue
  rw [if_neg (fun hempty => h (q.head_eq_tail_iff.mp hempty))]

theorem length_dequeue {q : RingQueue α n} (h : q.length ≠ 0) :
    q.length = q.dequeue.2.length + 1 := by
  have hh := q.head_lt
  have ht := q.tail_lt
  have hne : q.head ≠ q.tail := fun hempty => h (q.head_eq_tail_iff.mp hempty)
  rw [length_eq, length_eq, dequeue_tail, dequeue_head h, next_eq hh]
  by_cases hwrap : q.head + 1 < n
  · rw [if_pos hwrap]
    split <;> split <;> omega
  · rw [if_neg hwrap]
    split <;> split <;> omega

/-- An empty ring gives nothing and stays as it is, slots and indices included. -/
theorem dequeue_of_empty {q : RingQueue α n} (h : q.length = 0) : q.dequeue = (none, q) := by
  unfold dequeue
  rw [if_pos (q.head_eq_tail_iff.mpr h)]

/-- Taking out leaves the younger elements in their order. -/
theorem toList_dequeue (q : RingQueue α n) : q.dequeue.2.toList = q.toList.tail := by
  by_cases hempty : q.length = 0
  · rw [dequeue_of_empty hempty, q.toList_eq_nil_iff.mpr hempty]
    rfl
  · unfold toList
    rw [length_dequeue hempty, List.range_succ_eq_map, List.map_cons, List.tail_cons, List.map_map]
    refine List.map_congr_left fun i _ => ?_
    have hidx : (next n q.head + i) % n = (q.head + (i + 1)) % n := by
      rw [next, Nat.mod_add_mod, Nat.add_assoc, Nat.add_comm 1 i]
    simp only [slot, dequeue_slots, dequeue_head hempty, Function.comp_apply, Nat.succ_eq_add_one, hidx]

/-- Where nothing was taken out, nothing changed. -/
theorem dequeue_snd_of_none {q : RingQueue α n} (h : q.dequeue.1 = none) : q.dequeue.2 = q := by
  rw [dequeue_fst, List.head?_eq_none_iff, toList_eq_nil_iff] at h
  rw [dequeue_of_empty h]

/-- The queue as it was, from what a removal gave and left. -/
theorem toList_eq_of_dequeue {q : RingQueue α n} {a : α} (h : q.dequeue.1 = some a) :
    q.toList = a :: q.dequeue.2.toList := by
  rw [dequeue_fst] at h
  rw [toList_dequeue]
  cases hl : q.toList with
  | nil => rw [hl] at h; exact absurd h (by simp)
  | cons b rest => rw [hl] at h; rw [Option.some.inj h, List.tail_cons]

end PacketReinjection.RingQueue

namespace PacketReinjection

/-! ## Moves -/

/-- Moves through a queue add up: what waits at first and what enters is what leaves and what waits at
    last. -/
theorem moves_append {α : Type} {first middle last entered left entered' left' : List α}
    (h : first ++ entered = left ++ middle) (h' : middle ++ entered' = left' ++ last) :
    first ++ (entered ++ entered') = (left ++ left') ++ last := by
  rw [← List.append_assoc, h, List.append_assoc, h', List.append_assoc]

/-- The first of several records tells of one packet at most. -/
theorem filterMap_cons_toList {α β : Type} (f : α → Option β) (a : α) (as : List α) :
    (a :: as).filterMap f = (f a).toList ++ as.filterMap f := by
  rw [List.filterMap_cons]
  cases f a <;> rfl

end PacketReinjection
