import PacketReinjection.Proofs.Queue.Bounded

/-!
# `Proofs.Queue.Removal` — a removal with a producer coming in between

A removal touches the shared memory four times: it loads `head`, loads `tail`, reads the slot at `head` and
stores the new `head`. Between any two of these a producer may append elements, any number of them. The
`head` that was loaded stays the right one, since nobody else moves it, and the slot that is due keeps its
element, since a producer never fills the last free slot.

## Contents
- **`Removal`** — how far a removal has come; `Removal.step` is its next access to memory. Four steps in a row
  are `RingQueue.dequeue` (`run_alone`).
- **Taking turns.** `Turn`, `Happening`, `run` — removal and producer taking turns, and what can be seen of it.
- **`Consistent`** — what holds between any two turns; `Consistent.turn` is the step, `Consistent.run` the run.
- **`producer_tolerated`**.
-/

namespace PacketReinjection

/-! ## A removal in steps -/

/-- How far a removal has come. -/
inductive Removal (α : Type) (n : Nat) where
  | begun
  /-- `head` has been loaded. -/
  | headLoaded (head : Fin n)
  /-- `tail` has been loaded and was not `head`. -/
  | slotDue (head : Fin n)
  /-- The slot has been read. -/
  | storeDue (head : Fin n) (a : α)
  | finished (result : Option α)
  deriving DecidableEq

namespace Removal

variable {α : Type} {n : Nat}

/-- The next access of a removal to the ring. -/
def step (q : RingQueue α n) : Removal α n → Removal α n × RingQueue α n
  | begun => (headLoaded ⟨q.head, q.head_lt⟩, q)
  | headLoaded head => if head = q.tail then (finished none, q) else (slotDue head, q)
  | slotDue head => (storeDue head (q.slots.get head), q)
  | storeDue head a =>
    (finished (some a),
      { q with head := RingQueue.next n head, head_lt := RingQueue.next_lt head.isLt })
  | finished result => (finished result, q)

/-- How many accesses a removal still needs at most. -/
def remaining : Removal α n → Nat
  | begun => 4
  | headLoaded _ => 3
  | slotDue _ => 2
  | storeDue _ _ => 1
  | finished _ => 0

theorem remaining_step (r : Removal α n) (q : RingQueue α n) :
    (r.step q).1.remaining ≤ r.remaining - 1 := by
  cases r with
  | headLoaded head =>
    rw [step]
    split <;> simp [remaining]
  | _ => exact Nat.le_refl _

theorem finished_of_remaining {r : Removal α n} (h : r.remaining = 0) :
    ∃ result, r = finished result := by
  cases r with
  | finished result => exact ⟨result, rfl⟩
  | _ => exact absurd h (by simp [remaining])

/-- What the removal has taken out of the ring: an element counts as present until `head` is stored. -/
def taken : Removal α n → List α
  | finished result => result.toList
  | _ => []

end Removal

namespace RingQueue

variable {α : Type} {n : Nat}

/-- A removal from a ring that holds something, written out. -/
theorem dequeue_of_ne {q : RingQueue α n} (h : q.head ≠ q.tail) :
    q.dequeue = (some (q.slots.get ⟨q.head, q.head_lt⟩),
      { q with head := next n q.head, head_lt := next_lt q.head_lt }) := by
  rw [dequeue, if_neg h]

/-- The slot at `head` holds the oldest element. -/
theorem head?_toList {q : RingQueue α n} (h : q.toList ≠ []) :
    q.toList.head? = some (q.slots.get ⟨q.head, q.head_lt⟩) := by
  have hne : q.head ≠ q.tail := mt (fun he => q.toList_eq_nil_iff.mpr (q.head_eq_tail_iff.mp he)) h
  rw [← dequeue_fst, dequeue_of_ne hne]

/-- An element that is appended changes nothing about the oldest one. -/
theorem head?_toList_enqueue {q : RingQueue α n} (h : q.toList ≠ []) (a : α) :
    (q.enqueue a).2.toList.head? = q.toList.head? := by
  by_cases hroom : q.length ≠ n - 1
  · rw [toList_enqueue hroom, List.head?_append, head?_toList h, Option.some_or]
  · rw [enqueue_of_full (Decidable.not_not.mp hroom)]

end RingQueue

/-! ## Taking turns -/

namespace Removal

/-- Whose turn it is. -/
inductive Turn (α : Type) where
  /-- The removal makes one access. -/
  | step
  /-- The producer appends an element, from its first access to its last. -/
  | produce (a : α)

/-- What can be seen of a turn; `present` are the elements in the ring as the turn begins. -/
inductive Happening (α : Type) where
  | produced (a : α) (accepted : Bool) (present : List α)
  /-- The removal loaded `tail`. -/
  | tailLoaded (present : List α)
  /-- The removal did something else. -/
  | stepped

namespace Happening

variable {α : Type}

/-- The element that entered the ring. -/
def entered? : Happening α → Option α
  | produced a true _ => some a
  | _ => none

/-- What was present when `tail` was loaded. -/
def loaded? : Happening α → Option (List α)
  | tailLoaded present => some present
  | _ => none

/-- A producer is told the truth: its element is accepted if there is room besides the slot that stays
    free. -/
def Truthful (n : Nat) : Happening α → Prop
  | produced _ accepted present => accepted = true ↔ present.length < n - 1
  | _ => True

end Happening

variable {α : Type} {n : Nat}

/-- What can be seen of the removal's next access. -/
def sight (q : RingQueue α n) : Removal α n → Happening α
  | headLoaded _ => .tailLoaded q.contents
  | _ => .stepped

/-- One turn: what can be seen of it, and removal and ring after it. -/
def turn (r : Removal α n) (q : RingQueue α n) : Turn α → Happening α × Removal α n × RingQueue α n
  | .step => (r.sight q, r.step q)
  | .produce a => (.produced a (q.enqueue a).1 q.contents, r, (q.enqueue a).2)

/-- Turns in their order. -/
def run : List (Turn α) → Removal α n → RingQueue α n → List (Happening α) × Removal α n × RingQueue α n
  | [], r, q => ([], r, q)
  | t :: ts, r, q =>
    let first := r.turn q t
    let rest := run ts first.2.1 first.2.2
    (first.1 :: rest.1, rest.2)

/-- Four steps in a row remove the oldest element. -/
theorem run_alone (q : RingQueue α n) :
    (run [.step, .step, .step, .step] .begun q).2 = (.finished q.dequeue.1, q.dequeue.2) := by
  by_cases hempty : q.head = q.tail
  · simp [run, turn, step, RingQueue.dequeue, hempty]
  · simp [run, turn, step, RingQueue.dequeue, hempty]

/-- Four steps are enough, whatever comes in between. -/
theorem remaining_run (ts : List (Turn α)) (r : Removal α n) (q : RingQueue α n) :
    (run ts r q).2.1.remaining ≤ r.remaining - ts.countP (fun t => t matches .step) := by
  induction ts generalizing r q with
  | nil => exact Nat.le_refl _
  | cons t ts ih =>
    have hrest := ih (r.turn q t).2.1 (r.turn q t).2.2
    cases t with
    | step =>
      have hstep := r.remaining_step q
      rw [List.countP_cons_of_pos (by rfl)]
      exact Nat.le_trans hrest (by simp only [turn]; omega)
    | produce a => exact hrest

/-! ## What holds between two turns -/

/-- What a removal knows, with the contents of the ring at the load of `tail`, if that is over. -/
def Knows (q : RingQueue α n) (loads : List (List α)) : Removal α n → Prop
  | begun => loads = []
  | headLoaded head => loads = [] ∧ head = q.head
  | slotDue head =>
    ∃ present, loads = [present] ∧ head = q.head ∧ q.toList ≠ [] ∧ present.head? = q.toList.head?
  | storeDue head a =>
    ∃ present, loads = [present] ∧ head = q.head ∧ q.toList.head? = some a ∧ present.head? = some a
  | finished result => ∃ present, loads = [present] ∧ result = present.head?

/-- **What holds between any two turns**, `held` having been in the ring at first: no element is lost or
    out of order, every producer was told the truth, and the removal knows what it needs. -/
structure Consistent (held : List α) (seen : List (Happening α)) (r : Removal α n) (q : RingQueue α n) :
    Prop where
  conserved : held ++ seen.filterMap Happening.entered? = r.taken ++ q.toList
  truthful : ∀ h ∈ seen, h.Truthful n
  knows : r.Knows q (seen.filterMap Happening.loaded?)

theorem consistent_begun (q : RingQueue α n) : Consistent q.toList [] .begun q where
  conserved := by simp [taken]
  truthful := by simp
  knows := rfl

/-- What a removal knows stays right when an element is appended. -/
theorem Knows.enqueue {q : RingQueue α n} {loads : List (List α)} {r : Removal α n}
    (h : r.Knows q loads) (a : α) : r.Knows (q.enqueue a).2 loads := by
  have hne (hq : q.toList ≠ []) : (q.enqueue a).2.toList ≠ [] := by
    intro hnil
    have hhead := RingQueue.head?_toList_enqueue hq a
    rw [hnil, RingQueue.head?_toList hq] at hhead
    exact absurd hhead (by simp)
  cases r with
  | begun => exact h
  | headLoaded head => exact ⟨h.1, by rw [h.2, q.enqueue_head a]⟩
  | slotDue head =>
    obtain ⟨present, hloads, hhead, hq, holdest⟩ := h
    refine ⟨present, hloads, by rw [hhead, q.enqueue_head a], hne hq, ?_⟩
    rw [holdest, RingQueue.head?_toList_enqueue hq]
  | storeDue head b =>
    obtain ⟨present, hloads, hhead, holdest, hpresent⟩ := h
    have hq : q.toList ≠ [] := fun hnil => by simp [hnil] at holdest
    refine ⟨present, hloads, by rw [hhead, q.enqueue_head a], ?_, hpresent⟩
    rw [RingQueue.head?_toList_enqueue hq, holdest]
  | finished result => exact h

variable {held : List α} {seen : List (Happening α)} {r : Removal α n} {q : RingQueue α n}

/-- A producer's turn. -/
theorem Consistent.produce (h : Consistent held seen r q) (a : α) :
    Consistent held (seen ++ [.produced a (q.enqueue a).1 q.contents]) r (q.enqueue a).2 where
  conserved := by
    by_cases hroom : q.length ≠ n - 1
    · rw [RingQueue.enqueue_fst_of_room hroom, RingQueue.toList_enqueue hroom, List.filterMap_append,
        ← List.append_assoc, h.conserved, List.append_assoc]
      rfl
    · rw [RingQueue.enqueue_of_full (Decidable.not_not.mp hroom), List.filterMap_append,
        ← List.append_assoc, h.conserved]
      exact List.append_nil _
  truthful := by
    refine List.forall_mem_append.mpr ⟨h.truthful, List.forall_mem_singleton.mpr ?_⟩
    rw [Happening.Truthful, q.enqueue_fst_iff a, q.contents_eq_toList, q.length_toList_lt_iff]
  knows := by
    rw [List.filterMap_append]
    exact (List.append_nil (seen.filterMap Happening.loaded?)).symm ▸ h.knows.enqueue a

/-- A step that only looks: nothing leaves the ring, and what was seen is not about elements. -/
theorem Consistent.look (h : Consistent held seen r q) {r' : Removal α n} {sight : Happening α}
    (hentered : sight.entered? = none) (htruthful : sight.Truthful n) (htaken : r'.taken = r.taken)
    (hknows : r'.Knows q ((seen ++ [sight]).filterMap Happening.loaded?)) :
    Consistent held (seen ++ [sight]) r' q where
  conserved := by
    rw [List.filterMap_append, htaken, ← List.append_assoc, h.conserved]
    simp [hentered]
  truthful := List.forall_mem_append.mpr ⟨h.truthful, List.forall_mem_singleton.mpr htruthful⟩
  knows := hknows

/-- The removal's turn. -/
theorem Consistent.step (h : Consistent held seen r q) :
    Consistent held (seen ++ [r.sight q]) (r.step q).1 (r.step q).2 := by
  have hknows := h.knows
  cases r with
  | begun =>
    refine h.look rfl trivial rfl ⟨?_, rfl⟩
    rw [List.filterMap_append, show seen.filterMap Happening.loaded? = [] from hknows]
    rfl
  | headLoaded head =>
    obtain ⟨hloads, hhead⟩ := hknows
    have hload : (seen ++ [Happening.tailLoaded q.contents]).filterMap Happening.loaded? = [q.toList] := by
      rw [List.filterMap_append, hloads, q.contents_eq_toList]
      rfl
    have hempty : (head : Nat) = q.tail ↔ q.toList = [] := by
      rw [hhead, q.head_eq_tail_iff, q.toList_eq_nil_iff]
    rw [Removal.step]
    split
    · rename_i htail
      refine h.look rfl trivial rfl ⟨q.toList, hload, ?_⟩
      rw [hempty.mp htail]
      rfl
    · rename_i htail
      exact h.look rfl trivial rfl ⟨q.toList, hload, hhead, mt hempty.mpr htail, rfl⟩
  | slotDue head =>
    obtain ⟨present, hloads, hhead, hq, holdest⟩ := hknows
    -- The slot that is read is the one at the ring's own `head`, however often the producer came in.
    have hslot : q.toList.head? = some (q.slots.get head) := by
      rw [RingQueue.head?_toList hq]
      exact congrArg (fun i => some (q.slots.get i)) (Fin.ext hhead.symm)
    refine h.look rfl trivial rfl ⟨present, ?_, hhead, hslot, holdest.trans hslot⟩
    rw [List.filterMap_append, hloads]
    rfl
  | storeDue head a =>
    obtain ⟨present, hloads, hhead, holdest, hpresent⟩ := hknows
    have hq : q.toList ≠ [] := fun hnil => by simp [hnil] at holdest
    have hne : q.head ≠ q.tail :=
      mt (fun he => q.toList_eq_nil_iff.mpr (q.head_eq_tail_iff.mp he)) hq
    have hstore : (Removal.step q (storeDue head a)).2 = q.dequeue.2 := by
      rw [RingQueue.dequeue_of_ne hne]
      simp only [Removal.step, hhead]
    have hdequeued : q.toList = a :: q.dequeue.2.toList :=
      RingQueue.toList_eq_of_dequeue (q.dequeue_fst.trans holdest)
    rw [hstore]
    refine ⟨?_, List.forall_mem_append.mpr ⟨h.truthful, List.forall_mem_singleton.mpr trivial⟩, present, ?_,
      hpresent.symm⟩
    · rw [List.filterMap_append, ← List.append_assoc, h.conserved, hdequeued]
      exact List.append_nil _
    · rw [List.filterMap_append, hloads]
      rfl
  | finished result =>
    obtain ⟨present, hloads, hresult⟩ := hknows
    refine h.look rfl trivial rfl ⟨present, ?_, hresult⟩
    rw [List.filterMap_append, hloads]
    rfl

/-- Any turn. -/
theorem Consistent.turn (h : Consistent held seen r q) (t : Turn α) :
    Consistent held (seen ++ [(r.turn q t).1]) (r.turn q t).2.1 (r.turn q t).2.2 := by
  cases t with
  | step => exact h.step
  | produce a => exact h.produce a

/-- Any turns. -/
theorem Consistent.run (h : Consistent held seen r q) (ts : List (Turn α)) :
    Consistent held (seen ++ (run ts r q).1) (run ts r q).2.1 (run ts r q).2.2 := by
  induction ts generalizing seen r q with
  | nil => rwa [Removal.run, List.append_nil]
  | cons t ts ih =>
    have hrest := ih (h.turn t)
    rwa [List.append_assoc, List.singleton_append] at hrest

/-- **A removal tolerates a producer between any two of its accesses.** It comes to its end within four
    accesses, with the element that was the oldest when it loaded `tail`, or with none if there was none;
    every element offered meanwhile was accepted exactly if there was room for it, the one being removed still
    counted; and the ring holds what it held, followed by what was accepted, without what was removed. -/
theorem producer_tolerated {α : Type} {n : Nat} (q : RingQueue α n) (ts : List (Turn α))
    (hsteps : 4 ≤ ts.countP fun t => t matches .step) :
    let r := run ts .begun q
    ∃ result present, r.2.1 = .finished result
      ∧ r.1.filterMap Happening.loaded? = [present] ∧ result = present.head?
      ∧ (∀ a accepted before, Happening.produced a accepted before ∈ r.1 →
        (accepted = true ↔ before.length < n - 1))
      ∧ q.contents ++ r.1.filterMap Happening.entered? = result.toList ++ r.2.2.contents := by
  intro r
  have hconsistent := (consistent_begun q).run ts
  obtain ⟨result, hfinished⟩ : ∃ result, r.2.1 = .finished result := by
    refine finished_of_remaining (Nat.le_zero.mp ?_)
    exact Nat.le_trans (remaining_run ts .begun q) (by simp only [remaining]; omega)
  obtain ⟨hconserved, htruthful, hknows⟩ := hconsistent
  rw [List.nil_append] at hconserved htruthful hknows
  rw [show (run ts .begun q).2.1 = .finished result from hfinished] at hconserved hknows
  obtain ⟨present, hloads, hresult⟩ := hknows
  refine ⟨result, present, hfinished, hloads, hresult, ?_, ?_⟩
  · intro a accepted before hmem
    exact htruthful _ hmem
  · rw [q.contents_eq_toList, RingQueue.contents_eq_toList]
    exact hconserved

/-- A ring of three slots that holds one element: while the removal is under way the producer fills the ring,
    is refused, and is accepted again in the end. -/
theorem producer_tolerated_filling :
    let q : RingQueue Nat 3 := ((RingQueue.empty 0 3 (by decide)).enqueue 7).2
    let ts : List (Turn Nat) := [.step, .step, .produce 8, .step, .produce 9, .step, .produce 10]
    let r := run ts .begun q
    4 ≤ ts.countP (fun t => t matches .step)
      ∧ r.1.filterMap Happening.entered? = [8, 10] ∧ r.2.1 = .finished (some 7)
      ∧ [7] ++ [8, 10] = [7] ++ r.2.2.contents := by
  intro q ts r
  have hsteps : 4 ≤ ts.countP (fun t => t matches .step) := by decide
  obtain ⟨result, present, hfinished, -, -, -, hcontents⟩ := producer_tolerated q ts hsteps
  have hend : r.2.1 = .finished (some 7) := by decide
  have hentered : r.1.filterMap Happening.entered? = [8, 10] := by decide
  obtain rfl : result = some 7 := by injection hfinished.symm.trans hend
  exact ⟨hsteps, hentered, hend, hentered ▸ hcontents⟩

end Removal

end PacketReinjection
