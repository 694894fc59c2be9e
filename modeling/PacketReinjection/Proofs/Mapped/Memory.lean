import PacketReinjection.Mapped.Memory

/-!
# `Proofs.Mapped.Memory` — reading what was written

A write changes its own word and no other. Memory has no words outside its blocks, so a write beyond the
end of a block changes nothing at all.

## Contents
- **`read_write`** — a read after a write; `read_write_self`, `read_write_of_ne`.
-/

namespace PacketReinjection.Mapped.Memory

/-- A word of a run of words after one of them was written. -/
theorem getD_setIfInBounds {n : Nat} (words : Vector UInt32 n) (o o' : Nat) (value : UInt32) :
    (words.setIfInBounds o value)[o']?.getD 0 =
      if o' = o ∧ o < n then value else words[o']?.getD 0 := by
  rw [Vector.getElem?_setIfInBounds]
  by_cases ho : o = o'
  · subst ho
    by_cases hn : o < n
    · simp [hn]
    · simp [hn]
  · rw [if_neg ho, if_neg fun h => ho h.1.symm]

/-- **A read after a write.** -/
theorem read_write (m : Memory) (b b' : Block) (o o' : Nat) (value : UInt32) :
    (m.write b o value).read b' o' =
      if b' = b ∧ o' = o ∧ o < b.size then value else m.read b' o' := by
  by_cases hb : b' = b
  · subst hb
    simp only [true_and]
    cases b' <;> exact getD_setIfInBounds _ o o' value
  · rw [if_neg fun h => hb h.1]
    cases b <;> cases b' <;> first | rfl | exact absurd rfl hb

theorem read_write_self {b : Block} {o : Nat} (h : o < b.size) (m : Memory) (value : UInt32) :
    (m.write b o value).read b o = value := by
  rw [read_write, if_pos ⟨rfl, rfl, h⟩]

theorem read_write_of_ne {b b' : Block} {o o' : Nat} (h : ¬(b' = b ∧ o' = o)) (m : Memory)
    (value : UInt32) : (m.write b o value).read b' o' = m.read b' o' := by
  rw [read_write, if_neg fun hsame => h ⟨hsame.1, hsame.2.1⟩]

end PacketReinjection.Mapped.Memory
