import PacketReinjection.Proofs.Text.Preferred

/-!
# `Proofs.Text.Matched` — what a pattern can match at all

Which match is preferred does not matter to a place that has none. To see that it has none, it is enough to know
what every match would consist of.

## Contents
- **`Pattern.Admits`** — every match of a pattern is of some kind; a rule for each construct that names and numbers
  are made of.
- **`exists_of_mem_sequence`** — a match of a sequence, taken apart.
-/

namespace PacketReinjection.Text.Pattern

/-- Whatever the pattern matches is of this kind. -/
def Admits (p : Pattern) (kind : List Char → Prop) : Prop :=
  ∀ ⦃s t : Spot⦄, t ∈ p.results s → ∃ run, s.after = run ++ t.after ∧ kind run

variable {p q : Pattern} {set : CharSet} {s t : Spot}

theorem admits_one : (one set).Admits fun run => ∃ c, run = [c] ∧ set.contains c := by
  intro s t ht
  simp only [results] at ht
  split at ht
  · simp at ht
  · rename_i c rest hafter
    split at ht
    · rename_i hc
      obtain rfl := List.mem_singleton.mp ht
      exact ⟨[c], hafter, c, rfl, hc⟩
    · simp at ht

theorem Admits.seq {kind kind' : List Char → Prop} (hp : p.Admits kind) (hq : q.Admits kind') :
    (seq p q).Admits fun run => ∃ first second, run = first ++ second ∧ kind first ∧ kind' second := by
  intro s t ht
  obtain ⟨u, hu, ht⟩ := List.mem_flatMap.mp ht
  obtain ⟨first, hfirst, hkind⟩ := hp hu
  obtain ⟨second, hsecond, hkind'⟩ := hq ht
  exact ⟨first ++ second, by rw [hfirst, hsecond, List.append_assoc], first, second, rfl, hkind, hkind'⟩

theorem Admits.mono {kind kind' : List Char → Prop} (h : p.Admits kind) (himp : ∀ run, kind run → kind' run) :
    p.Admits kind' := by
  intro s t ht
  obtain ⟨run, hafter, hkind⟩ := h ht
  exact ⟨run, hafter, himp run hkind⟩

theorem Admits.group {kind : List Char → Prop} {index : Nat} (h : p.Admits kind) :
    (group index p).Admits kind := by
  intro s t ht
  obtain ⟨u, hu, rfl⟩ := List.mem_map.mp ht
  obtain ⟨run, hafter, hkind⟩ := h hu
  exact ⟨run, hafter, hkind⟩

/-- Characters that stand for themselves. -/
theorem admits_chars (cs : List Char) : (sequence (cs.map fun c => .one (.char c))).Admits (· = cs) := by
  induction cs with
  | nil =>
    intro s t ht
    obtain rfl := List.mem_singleton.mp ht
    exact ⟨[], rfl, rfl⟩
  | cons c cs ih =>
    refine (admits_one.seq ih).mono ?_
    rintro run ⟨first, second, rfl, ⟨d, rfl, hd⟩, rfl⟩
    rw [of_decide_eq_true hd]
    rfl

theorem admits_literal (w : String) : (literal w).Admits (· = w.toList) := admits_chars w.toList

/-- Characters of the set, however often they come. -/
theorem admits_onward {greedy : Bool} {n : Nat} (ht : t ∈ onward (one set).results greedy n s) :
    ∃ run, s.after = run ++ t.after ∧ ∀ c ∈ run, set.contains c := by
  induction n generalizing s with
  | zero =>
    obtain rfl := List.mem_singleton.mp ht
    exact ⟨[], rfl, by simp⟩
  | succ n ih =>
    rcases mem_inOrder.mp ht with ht | rfl
    · obtain ⟨u, hu, ht⟩ := List.mem_flatMap.mp ht
      split at ht
      · obtain ⟨first, hfirst, c, rfl, hc⟩ := admits_one hu
        obtain ⟨run, hafter, hrun⟩ := ih ht
        exact ⟨c :: run, by rw [hfirst, hafter]; rfl, List.forall_mem_cons.mpr ⟨hc, hrun⟩⟩
      · simp at ht
    · exact ⟨[], rfl, by simp⟩

theorem admits_many : (many set).Admits fun run => ∀ c ∈ run, set.contains c := by
  intro s t ht
  rw [results_many] at ht
  exact admits_onward ht

theorem admits_many1 : (many1 set).Admits fun run => run ≠ [] ∧ ∀ c ∈ run, set.contains c := by
  intro s t ht
  obtain ⟨u, hu, ht⟩ := List.mem_flatMap.mp ht
  obtain ⟨v, hv, hvu⟩ := List.mem_flatMap.mp hu
  obtain rfl := List.mem_singleton.mp hvu
  obtain ⟨first, hfirst, c, rfl, hc⟩ := admits_one hv
  obtain ⟨run, hafter, hrun⟩ := admits_onward ht
  exact ⟨c :: run, by rw [hfirst, hafter]; rfl, List.cons_ne_nil c run, List.forall_mem_cons.mpr ⟨hc, hrun⟩⟩

/-- A match of a sequence is one of its first pattern and then one of the others. -/
theorem exists_of_mem_sequence {kind : List Char → Prop} {ps : List Pattern} (hp : p.Admits kind)
    (ht : t ∈ (sequence (p :: ps)).results s) :
    ∃ run u, s.after = run ++ u.after ∧ kind run ∧ t ∈ (sequence ps).results u := by
  obtain ⟨u, hu, ht⟩ := List.mem_flatMap.mp ht
  obtain ⟨run, hafter, hkind⟩ := hp hu
  exact ⟨run, u, hafter, hkind, ht⟩

/-- A match of a sequence that begins with a condition on the place. -/
theorem satisfies_of_mem_sequence {a : Anchor} {ps : List Pattern}
    (ht : t ∈ (sequence (.anchor a :: ps)).results s) :
    s.satisfies a = true ∧ t ∈ (sequence ps).results s := by
  obtain ⟨u, hu, hrest⟩ := List.mem_flatMap.mp ht
  simp only [results] at hu
  split at hu
  · rename_i hholds
    obtain rfl := List.mem_singleton.mp hu
    exact ⟨hholds, hrest⟩
  · simp at hu

/-- A match of a pattern for whole texts can begin at the start only. -/
theorem leftmost?_eq_none_of_start {ps : List Pattern} {text : List Char}
    (hnone : ∀ s t : Spot, s.after = text → t ∉ (sequence (.anchor .textStart :: ps)).results s) :
    (sequence (.anchor .textStart :: ps)).leftmost? (.start text) = none := by
  rw [leftmost?, List.head?_eq_none_iff, List.flatMap_eq_nil_iff]
  intro s hs
  refine List.eq_nil_iff_forall_not_mem.mpr fun t ht => hnone s t ?_ ht
  obtain ⟨⟨passed, hafter, hbefore, -⟩, -⟩ := spotsFrom_onward hs
  have hstart : s.before = [] := List.isEmpty_iff.mp (satisfies_of_mem_sequence ht).1
  rw [hstart] at hbefore
  obtain rfl : passed = [] := by simpa using (List.append_eq_nil_iff.mp hbefore.symm).1
  exact hafter.symm

end PacketReinjection.Text.Pattern
