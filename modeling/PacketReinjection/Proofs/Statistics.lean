import PacketReinjection.Proofs.Memory

/-!
# `Proofs.Statistics` — counters as numbers of events

A counter shows the number of its events for as long as that number fits, and its largest value
afterwards. `Statistics.Counts` says this of all four counters at once; counting one more event keeps
it, whichever counter the event belongs to.

## Contents
- **`counterLimit`**, **`Statistics.Counts`**, **`Statistics.Unsaturated`**.
- **Events.** `counts_zero`, `Counts.count`, `Counts.received`.
- **Reading.** `Counts.get_eq`, `Counts.get_le`.
-/

namespace PacketReinjection

/-- The largest value of a counter. -/
def counterLimit : Nat := UInt32.size - 1

namespace Statistics

/-- Every counter shows its number of events, or its largest value where there are more. -/
def Counts (s : Statistics) (events : Counter → Nat) : Prop :=
  ∀ c, (s.get c).toNat = min (events c) counterLimit

/-- No counter stands at its largest value. -/
def Unsaturated (s : Statistics) : Prop :=
  ∀ c, (s.get c).toNat < counterLimit

variable {s : Statistics} {events : Counter → Nat}

/-! ## Events -/

theorem Counts.congr {events' : Counter → Nat} (h : s.Counts events)
    (heq : ∀ c, events' c = events c) : s.Counts events' := by
  intro c
  rw [heq c]
  exact h c

theorem counts_zero : zero.Counts fun _ => 0 := by
  intro c
  cases c <;> rfl

theorem toNat_saturatingSucc (v : UInt32) :
    (saturatingSucc v).toNat = min (v.toNat + 1) counterLimit := by
  have hlt := v.toNat_lt
  unfold saturatingSucc counterLimit UInt32.size
  by_cases hmax : v = 0xffffffff
  · rw [if_pos hmax, hmax]
    rfl
  · have hne : v.toNat ≠ 4294967295 := fun heq => hmax (UInt32.toNat_inj.mp heq)
    rw [if_neg hmax, UInt32.toNat_add, UInt32.toNat_one]
    omega

/-- One more event of one counter. -/
theorem Counts.count (h : s.Counts events) (c : Counter) :
    (s.count c).Counts fun d => events d + if d = c then 1 else 0 := by
  intro d
  show ((s.set c (saturatingSucc (s.get c))).get d).toNat
    = min (events d + if d = c then 1 else 0) counterLimit
  by_cases hd : d = c
  · rw [if_pos hd, hd, get_set_self, toNat_saturatingSucc, h c]
    omega
  · rw [if_neg hd, get_set_of_ne s _ hd, h d]
    rfl

/-- A dumped packet of an enabled class is an event of `dropped`, and of `missedDropped` too when the
    status flags a loss. -/
theorem Counts.received (h : s.Counts events) (status : UInt32) :
    (s.received status).Counts fun d =>
      events d + (if d = .missedDropped ∧ status &&& Router.dumpOverflowMask ≠ 0 then 1 else 0)
        + if d = .dropped then 1 else 0 := by
  unfold Statistics.received
  by_cases hflag : status &&& Router.dumpOverflowMask = 0
  · simpa [hflag] using h.count .dropped
  · simpa [hflag] using (h.count .missedDropped).count .dropped

/-! ## Reading -/

theorem Counts.get_eq (h : s.Counts events) (hs : s.Unsaturated) (c : Counter) :
    (s.get c).toNat = events c := by
  have hc := h c
  have hlt := hs c
  omega

theorem Counts.get_le (h : s.Counts events) {c d : Counter} (hle : events c ≤ events d) :
    s.get c ≤ s.get d := by
  rw [UInt32.le_iff_toNat_le, h c, h d]
  omega

end Statistics

end PacketReinjection
