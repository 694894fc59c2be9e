import Mathlib.Data.List.DropRight
import PacketReinjection.Proofs.Statistics

/-!
# `Proofs.Ledger` — counters against the queue, resets included

A reset puts the counters to zero while packets wait in the queue, so the plain balance of the counters
fails after it. The right baseline is the length of the queue at the reset: what was there then leaves
later without having been counted as dropped.

The account does not depend on what is recorded, as long as each record says whether it reset the
counters, what it counts as, and whether a packet left the queue. A `Ledger` says so for one kind of
records; `Ledger.Entry` is what one record has to satisfy.

## Contents
- **`Ledger`** with `sinceReset`, `lengthAtReset`, `events` and `removals`.
- **`Ledger.Entry`** and **`Ledger.Accounts`** — the step and what it keeps.
-/

namespace PacketReinjection

/-- How records of one kind enter the account of counters and queue. -/
structure Ledger (α : Type) where
  before : α → Engine
  after : α → Engine
  /-- Whether the record resets the counters. -/
  resets : α → Bool
  /-- Whether the record is an event of a counter. -/
  isEvent : α → Counter → Bool
  /-- Whether the record takes a packet off the queue. -/
  removes : α → Bool

namespace Ledger

variable {α : Type} (L : Ledger α)

/-! ## Since the last reset -/

/-- The records after the last reset of the counters; all of them, if there was none. -/
def sinceReset (history : List α) : List α :=
  history.rtakeWhile fun a => !L.resets a

/-- The length of the queue at the last reset of the counters; zero, if there was none. -/
def lengthAtReset (history : List α) : Nat :=
  match history.reverse.find? L.resets with
  | some a => (L.after a).queue.length
  | none => 0

/-- The number of events of a counter since its last reset. -/
def events (history : List α) (c : Counter) : Nat :=
  (L.sinceReset history).countP fun a => L.isEvent a c

/-- The number of packets that left the queue since the last reset. -/
def removals (history : List α) : Nat := (L.sinceReset history).countP L.removes

section SinceReset

variable {L} {history : List α} {a : α}

theorem sinceReset_concat_reset (hr : L.resets a = true) : L.sinceReset (history ++ [a]) = [] :=
  List.rtakeWhile_concat_neg _ _ _ (by simp [hr])

theorem sinceReset_concat (hr : L.resets a = false) :
    L.sinceReset (history ++ [a]) = L.sinceReset history ++ [a] :=
  List.rtakeWhile_concat_pos _ _ _ (by simp [hr])

theorem sinceReset_append {later : List α} (hr : ∀ a ∈ later, L.resets a = false) :
    L.sinceReset (history ++ later) = L.sinceReset history ++ later := by
  induction later using List.reverseRecOn with
  | nil => simp
  | append_singleton later a ih =>
    have hlast : L.resets a = false := hr a (by simp)
    have hearlier : ∀ b ∈ later, L.resets b = false := fun b hb => hr b (by simp [hb])
    rw [← List.append_assoc, sinceReset_concat hlast, ih hearlier, List.append_assoc]

theorem lengthAtReset_concat_reset (hr : L.resets a = true) :
    L.lengthAtReset (history ++ [a]) = (L.after a).queue.length := by
  simp [lengthAtReset, hr]

theorem lengthAtReset_concat (hr : L.resets a = false) :
    L.lengthAtReset (history ++ [a]) = L.lengthAtReset history := by
  simp [lengthAtReset, hr]

theorem events_concat_reset (hr : L.resets a = true) (c : Counter) :
    L.events (history ++ [a]) c = 0 := by
  rw [events, sinceReset_concat_reset hr, List.countP_nil]

theorem events_concat (hr : L.resets a = false) (c : Counter) :
    L.events (history ++ [a]) c = L.events history c + if L.isEvent a c then 1 else 0 := by
  rw [events, sinceReset_concat hr, List.countP_append, List.countP_singleton, events]

theorem removals_concat_reset (hr : L.resets a = true) : L.removals (history ++ [a]) = 0 := by
  rw [removals, sinceReset_concat_reset hr, List.countP_nil]

theorem removals_concat (hr : L.resets a = false) :
    L.removals (history ++ [a]) = L.removals history + if L.removes a then 1 else 0 := by
  rw [removals, sinceReset_concat hr, List.countP_append, List.countP_singleton, removals]

/-- A record that re-injects what it removes keeps the two numbers equal, whether it resets or not. -/
theorem removals_eq_concat (ha : L.removes a = L.isEvent a .reinjected)
    (h : L.removals history = L.events history .reinjected) :
    L.removals (history ++ [a]) = L.events (history ++ [a]) .reinjected := by
  cases hr : L.resets a with
  | true => rw [removals_concat_reset hr, events_concat_reset hr]
  | false => rw [removals_concat hr, events_concat hr, h, ha]

theorem removals_eq_append_of_forall {later : List α}
    (hlater : ∀ a ∈ later, L.removes a = L.isEvent a .reinjected)
    (h : L.removals history = L.events history .reinjected) :
    L.removals (history ++ later) = L.events (history ++ later) .reinjected := by
  induction later generalizing history with
  | nil => rwa [List.append_nil]
  | cons a later ih =>
    have hfirst := removals_eq_concat (hlater a (by simp)) h
    have hrest := ih (fun b hb => hlater b (by simp [hb])) hfirst
    rwa [List.append_assoc, List.singleton_append] at hrest

/-- Records without a reset that re-inject as often as they remove keep the two numbers equal. -/
theorem removals_eq_append {later : List α} (hr : ∀ a ∈ later, L.resets a = false)
    (hlater : later.countP L.removes = later.countP fun a => L.isEvent a .reinjected)
    (h : L.removals history = L.events history .reinjected) :
    L.removals (history ++ later) = L.events (history ++ later) .reinjected := by
  unfold removals events at h ⊢
  rw [sinceReset_append hr, List.countP_append, List.countP_append, h, hlater]

/-- Every event of a counter that counts some of the events of another is one of the other. -/
theorem events_le {c d : Counter} (hcd : ∀ a, L.isEvent a c = true → L.isEvent a d = true) :
    L.events history c ≤ L.events history d :=
  List.countP_mono_left fun a _ => hcd a

end SinceReset

/-! ## The account -/

/-- What a record has to satisfy to keep the account. -/
structure Entry (a : α) : Prop where
  /-- A reset leaves every counter at zero. -/
  cleared : L.resets a = true → (L.after a).statistics = Statistics.zero
  /-- Without a reset, every counter goes up by its event in the record. -/
  counts : L.resets a = false → ∀ n, (L.before a).statistics.Counts n →
    (L.after a).statistics.Counts fun c => n c + if L.isEvent a c then 1 else 0
  /-- What came was refused, left, or waits. -/
  balance : (L.before a).queue.length + (if L.isEvent a .dropped then 1 else 0)
    = (L.after a).queue.length + (if L.removes a then 1 else 0)
      + if L.isEvent a .queueOverflows then 1 else 0

/-- A record that leaves counters and queue alone and is no event keeps the account. -/
theorem Entry.of_same {L : Ledger α} {a : α} (hr : L.resets a = false)
    (hevent : ∀ c, L.isEvent a c = false) (hremoves : L.removes a = false)
    (hstatistics : (L.after a).statistics = (L.before a).statistics)
    (hqueue : (L.after a).queue = (L.before a).queue) : L.Entry a where
  cleared hreset := absurd hreset (by simp [hr])
  counts _ n hn := by
    rw [hstatistics]
    exact hn.congr fun c => by simp [hevent]
  balance := by simp [hevent, hremoves, hqueue]

/-- What a history says of the counters and the queue that it leaves behind. -/
structure Accounts (history : List α) (e : Engine) : Prop where
  /-- Every counter shows its events since the last reset. -/
  counts : e.statistics.Counts (L.events history)
  /-- What came since, on top of what waited at the reset, left, was refused, or still waits. -/
  balance : L.events history .dropped + L.lengthAtReset history
    = L.removals history + L.events history .queueOverflows + e.queue.length

namespace Accounts

variable {L}

/-- A fresh engine owes nothing. -/
theorem fresh (config : EngineConfig) : L.Accounts [] (Engine.fresh config) where
  counts := Statistics.counts_zero
  balance := by
    have hempty : (Engine.fresh config).queue.length = 0 := by
      rw [← RingQueue.length_toList]
      exact congrArg List.length (RingQueue.toList_empty _ _)
    rw [hempty]
    rfl

/-- **One more record keeps the account.** A reset closes it and opens a new one with the queue as it
    stands. -/
theorem step {history : List α} {a : α} (ha : L.Accounts history (L.before a)) (hx : L.Entry a) :
    L.Accounts (history ++ [a]) (L.after a) := by
  cases hr : L.resets a with
  | true =>
    -- No event is left to account for; the queue as it stands is the new baseline.
    refine ⟨?_, ?_⟩
    · rw [hx.cleared hr]
      exact Statistics.counts_zero.congr fun c => events_concat_reset hr c
    · simp only [events_concat_reset hr, removals_concat_reset hr, lengthAtReset_concat_reset hr]
  | false =>
    refine ⟨(hx.counts hr _ ha.counts).congr fun c => events_concat hr c, ?_⟩
    -- The record's own balance comes on top of the account so far.
    have hone := hx.balance
    have hall := ha.balance
    simp only [events_concat hr, removals_concat hr, lengthAtReset_concat hr]
    omega

/-- A counter of some of the events of another never shows more than that. -/
theorem get_le {history : List α} {e : Engine} (ha : L.Accounts history e) {c d : Counter}
    (hcd : ∀ a, L.isEvent a c = true → L.isEvent a d = true) :
    e.statistics.get c ≤ e.statistics.get d :=
  ha.counts.get_le (events_le hcd)

/-- **The balance of the counters themselves**, where none has stopped at its largest value and every
    packet that left the queue was counted as re-injected. -/
theorem statistics_balance {history : List α} {e : Engine} (ha : L.Accounts history e)
    (hs : e.statistics.Unsaturated) (hleft : L.removals history = L.events history .reinjected) :
    e.statistics.dropped.toNat + L.lengthAtReset history
      = e.statistics.reinjected.toNat + e.statistics.queueOverflows.toNat + e.queue.length := by
  have hshown := ha.counts.get_eq hs
  have hdropped : e.statistics.dropped.toNat = L.events history .dropped := hshown .dropped
  have hreinjected : e.statistics.reinjected.toNat = L.events history .reinjected :=
    hshown .reinjected
  have hrefused : e.statistics.queueOverflows.toNat = L.events history .queueOverflows :=
    hshown .queueOverflows
  have hbalance := ha.balance
  omega

end Accounts

end Ledger

end PacketReinjection
