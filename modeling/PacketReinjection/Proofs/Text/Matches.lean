import Mathlib.Data.List.Basic
import PacketReinjection.Text.Pattern.Basic

/-!
# `Proofs.Text.Matches` — where the matches of a pattern end, and what they pass

## Contents
- **`Spot.Onward`** — a spot further on in the same text.
- **`Along`** — what every move on a way through a text keeps holds between a spot and the ends of its matches:
  `results_onward`, `origin_eq_of_mem_results`.
- **`takes`** — whether the form of a pattern makes every match pass a character of some kind;
  `takes_of_mem_results`, `results_eq_nil`.
- **`Shortens`** — steps that take a character, and the turns of which there may be any number: `further_eq`.
- **`spotsFrom_onward`**, **`leftmost?_onward`** — the spots that a search looks at, and where it comes to.
-/

namespace PacketReinjection.Text

/-! ## Spots further on -/

namespace Spot

/-- Whether `t` stands in the same text as `s`, at the same place or further on. -/
def Onward (s t : Spot) : Prop :=
  ∃ passed, s.after = passed ++ t.after ∧ t.before = passed.reverse ++ s.before ∧
    t.offset = s.offset + passed.length

namespace Onward

theorem refl (s : Spot) : s.Onward s := ⟨[], by simp⟩

theorem trans {s t u : Spot} (h : s.Onward t) (h' : t.Onward u) : s.Onward u := by
  obtain ⟨a, ha, hb, ho⟩ := h
  obtain ⟨a', ha', hb', ho'⟩ := h'
  refine ⟨a ++ a', ?_, ?_, ?_⟩
  · rw [ha, ha', List.append_assoc]
  · rw [hb', hb, List.reverse_append, List.append_assoc]
  · rw [ho', ho, List.length_append, Nat.add_assoc]

theorem advance {s : Spot} {c : Char} {rest : List Char} (h : s.after = c :: rest) :
    s.Onward (s.advance c rest) :=
  ⟨[c], by simp [h, Spot.advance]⟩

theorem offset_add_length {s t : Spot} (h : s.Onward t) :
    t.offset + t.after.length = s.offset + s.after.length := by
  obtain ⟨a, ha, -, ho⟩ := h
  rw [ha, ho, List.length_append]
  omega

end Onward

end Spot

namespace Pattern

/-! ## Matches are further on -/

variable {step : Spot → List Spot} {s t : Spot}

theorem mem_inOrder {greedy : Bool} {further : List Spot} :
    t ∈ inOrder greedy further s ↔ t ∈ further ∨ t = s := by
  cases greedy <;> simp [inOrder, or_comm]

/-- The last turn may be split off as well as the first. -/
theorem exactly_succ_last (step : Spot → List Spot) (n : Nat) (s : Spot) :
    exactly step (n + 1) s = (exactly step n s).flatMap step := by
  induction n generalizing s with
  | zero => simp [exactly]
  | succ n ih =>
    calc exactly step (n + 2) s = (step s).flatMap (exactly step (n + 1)) := rfl
      _ = (step s).flatMap fun t => (exactly step n t).flatMap step :=
        List.flatMap_congr fun t _ => ih t
      _ = (exactly step (n + 1) s).flatMap step := List.flatMap_assoc.symm

/-- A relation between spots that every move on a way through a text keeps. -/
structure Along (R : Spot → Spot → Prop) : Prop where
  refl : ∀ s, R s s
  trans : ∀ {s t u}, R s t → R t u → R s u
  advance : ∀ {s c rest}, s.after = c :: rest → R s (s.advance c rest)
  openGroup : ∀ s index, R s (s.openGroup index)
  closeGroup : ∀ s index, R s (s.closeGroup index)

namespace Along

variable {R : Spot → Spot → Prop}

theorem exactly (along : Along R) (h : ∀ {s t}, t ∈ step s → R s t) {n : Nat} (ht : t ∈ exactly step n s) :
    R s t := by
  induction n generalizing s with
  | zero =>
    obtain rfl := List.mem_singleton.mp ht
    exact along.refl t
  | succ n ih =>
    obtain ⟨u, hu, ht⟩ := List.mem_flatMap.mp ht
    exact along.trans (h hu) (ih ht)

theorem atMost (along : Along R) (h : ∀ {s t}, t ∈ step s → R s t) {greedy : Bool} {n : Nat}
    (ht : t ∈ atMost step greedy n s) : R s t := by
  induction n generalizing s with
  | zero =>
    obtain rfl := List.mem_singleton.mp ht
    exact along.refl t
  | succ n ih =>
    rcases mem_inOrder.mp ht with ht | rfl
    · obtain ⟨u, hu, ht⟩ := List.mem_flatMap.mp ht
      exact along.trans (h hu) (ih ht)
    · exact along.refl t

theorem onward (along : Along R) (h : ∀ {s t}, t ∈ step s → R s t) {greedy : Bool} {n : Nat}
    (ht : t ∈ onward step greedy n s) : R s t := by
  induction n generalizing s with
  | zero =>
    obtain rfl := List.mem_singleton.mp ht
    exact along.refl t
  | succ n ih =>
    rcases mem_inOrder.mp ht with ht | rfl
    · obtain ⟨u, hu, ht⟩ := List.mem_flatMap.mp ht
      split at ht
      · exact along.trans (h hu) (ih ht)
      · simp at ht
    · exact along.refl t

/-- A spot and the ends of the matches from it. -/
theorem results (along : Along R) {p : Pattern} (ht : t ∈ p.results s) : R s t := by
  induction p generalizing s t with
  | empty =>
    obtain rfl := List.mem_singleton.mp ht
    exact along.refl t
  | one set =>
    simp only [Pattern.results] at ht
    split at ht
    · simp at ht
    · rename_i c rest hafter
      split at ht
      · obtain rfl := List.mem_singleton.mp ht
        exact along.advance hafter
      · simp at ht
  | anchor a =>
    simp only [Pattern.results] at ht
    split at ht
    · obtain rfl := List.mem_singleton.mp ht
      exact along.refl t
    · simp at ht
  | seq p q ihp ihq =>
    obtain ⟨u, hu, ht⟩ := List.mem_flatMap.mp ht
    exact along.trans (ihp hu) (ihq ht)
  | alt p q ihp ihq =>
    rcases List.mem_append.mp ht with ht | ht
    · exact ihp ht
    · exact ihq ht
  | repeated p least most greedy ih =>
    -- Of turns without bound, the first may stay where it is if none has to be made, and later ones move on.
    match least, most with
    | least, some most =>
      obtain ⟨u, hu, ht⟩ := List.mem_flatMap.mp (by simpa only [Pattern.results] using ht)
      exact along.trans (along.exactly ih hu) (along.atMost ih ht)
    | 0, none =>
      rcases mem_inOrder.mp (by simpa only [Pattern.results] using ht) with ht | rfl
      · obtain ⟨u, hu, ht⟩ := List.mem_flatMap.mp ht
        exact along.trans (ih hu) (along.onward ih ht)
      · exact along.refl t
    | least + 1, none =>
      obtain ⟨u, hu, ht⟩ := List.mem_flatMap.mp (by simpa only [Pattern.results] using ht)
      exact along.trans (along.exactly ih hu) (along.onward ih ht)
  | group index p ih =>
    obtain ⟨u, hu, rfl⟩ := List.mem_map.mp ht
    exact along.trans (along.openGroup s index) (along.trans (ih hu) (along.closeGroup u index))

end Along

theorem along_onward : Along Spot.Onward where
  refl := .refl
  trans := .trans
  advance := .advance
  openGroup _ _ := ⟨[], rfl, rfl, rfl⟩
  closeGroup _ _ := ⟨[], rfl, rfl, rfl⟩

/-- Every match of a pattern ends at the spot where it begins or further on. -/
theorem results_onward {p : Pattern} (ht : t ∈ p.results s) : s.Onward t := along_onward.results ht

/-- A match remembers where it began. -/
theorem origin_eq_of_mem_results {p : Pattern} (ht : t ∈ p.results s) : t.origin = s.origin := by
  have along : Along fun s t => t.origin = s.origin :=
    { refl := fun _ => rfl
      trans := fun h h' => h'.trans h
      advance := fun _ => rfl
      openGroup := fun _ _ => rfl
      closeGroup := fun _ _ => rfl }
  exact along.results ht

/-! ## Patterns that take a character -/

/-- Whether every match takes a character by one of the wanted sets, as far as the form of the pattern tells. -/
def takes (wanted : CharSet → Bool) : Pattern → Bool
  | empty | anchor _ => false
  | one set => wanted set
  | seq p q => p.takes wanted || q.takes wanted
  | alt p q => p.takes wanted && q.takes wanted
  | repeated p least _ _ => 0 < least && p.takes wanted
  | group _ p => p.takes wanted

/-- A match passes a character of one of the wanted sets. -/
def Takes (wanted : CharSet → Bool) (s t : Spot) : Prop :=
  ∃ set c, wanted set ∧ set.contains c ∧ ∃ passed, s.after = passed ++ t.after ∧ c ∈ passed

theorem Takes.trans_onward {wanted : CharSet → Bool} {s t u : Spot} (h : Takes wanted s t) (h' : t.Onward u) :
    Takes wanted s u := by
  obtain ⟨set, c, hwanted, hset, a, ha, hc⟩ := h
  obtain ⟨a', ha', -, -⟩ := h'
  refine ⟨set, c, hwanted, hset, a ++ a', ?_, List.mem_append_left a' hc⟩
  rw [ha, ha', List.append_assoc]

theorem Takes.onward_trans {wanted : CharSet → Bool} {s t u : Spot} (h : s.Onward t) (h' : Takes wanted t u) :
    Takes wanted s u := by
  obtain ⟨a, ha, -, -⟩ := h
  obtain ⟨set, c, hwanted, hset, a', ha', hc⟩ := h'
  refine ⟨set, c, hwanted, hset, a ++ a', ?_, List.mem_append_right a hc⟩
  rw [ha, ha', List.append_assoc]

theorem Takes.length_lt {wanted : CharSet → Bool} (h : Takes wanted s t) :
    t.after.length < s.after.length := by
  obtain ⟨-, c, -, -, a, ha, hc⟩ := h
  have hpos := List.length_pos_of_mem hc
  rw [ha, List.length_append]
  omega

/-- A repetition that is made at least once begins with a turn. -/
theorem exists_first_turn {p : Pattern} {least : Nat} {most : Option Nat} {greedy : Bool}
    (ht : t ∈ (repeated p (least + 1) most greedy).results s) : ∃ u ∈ p.results s, u.Onward t := by
  match most with
  | some most =>
    obtain ⟨v, hv, ht⟩ := List.mem_flatMap.mp (by simpa only [results] using ht)
    obtain ⟨u, hu, hv⟩ := List.mem_flatMap.mp hv
    exact ⟨u, hu, (along_onward.exactly results_onward hv).trans (along_onward.atMost results_onward ht)⟩
  | none =>
    obtain ⟨v, hv, ht⟩ := List.mem_flatMap.mp (by simpa only [results] using ht)
    obtain ⟨u, hu, hv⟩ := List.mem_flatMap.mp hv
    exact ⟨u, hu, (along_onward.exactly results_onward hv).trans (along_onward.onward results_onward ht)⟩

theorem takes_of_mem_results {wanted : CharSet → Bool} {p : Pattern} (h : p.takes wanted)
    (ht : t ∈ p.results s) : Takes wanted s t := by
  induction p generalizing s t with
  | empty | anchor a => exact absurd h Bool.false_ne_true
  | one set =>
    simp only [results] at ht
    split at ht
    · simp at ht
    · rename_i c rest hafter
      split at ht
      · rename_i hset
        obtain rfl := List.mem_singleton.mp ht
        exact ⟨set, c, h, hset, [c], hafter, List.mem_singleton.mpr rfl⟩
      · simp at ht
  | seq p q ihp ihq =>
    obtain ⟨u, hu, ht⟩ := List.mem_flatMap.mp ht
    rcases Bool.or_eq_true_iff.mp h with h | h
    · exact (ihp h hu).trans_onward (results_onward ht)
    · exact (ihq h ht).onward_trans (results_onward hu)
  | alt p q ihp ihq =>
    obtain ⟨hp, hq⟩ := Bool.and_eq_true_iff.mp h
    rcases List.mem_append.mp ht with ht | ht
    · exact ihp hp ht
    · exact ihq hq ht
  | repeated p least most greedy ih =>
    obtain ⟨hleast, hp⟩ := Bool.and_eq_true_iff.mp h
    obtain ⟨least, rfl⟩ : ∃ n, least = n + 1 := ⟨least - 1, by have := of_decide_eq_true hleast; omega⟩
    obtain ⟨u, hu, hut⟩ := exists_first_turn ht
    exact (ih hp hu).trans_onward hut
  | group index p ih =>
    obtain ⟨u, hu, rfl⟩ := List.mem_map.mp ht
    have htakes := ih h hu
    exact htakes

/-- Where a character is missing that every match takes, there is no match. -/
theorem results_eq_nil {p : Pattern} {c : Char} (h : p.takes (· = .char c)) (hc : c ∉ s.after) :
    p.results s = [] := by
  refine List.eq_nil_iff_forall_not_mem.mpr fun t ht => hc ?_
  obtain ⟨set, d, hset, hd, a, ha, hmem⟩ := takes_of_mem_results h ht
  obtain rfl := of_decide_eq_true hset
  obtain rfl : d = c := of_decide_eq_true hd
  rw [ha]
  exact List.mem_append_left _ hmem

/-! ## Turns without bound -/

/-- A step that takes a character at every turn. -/
def Shortens (step : Spot → List Spot) : Prop :=
  ∀ ⦃s t⦄, t ∈ step s → s.Onward t ∧ t.after.length < s.after.length

theorem Shortens.of_takes {wanted : CharSet → Bool} {p : Pattern} (h : p.takes wanted) :
    Shortens p.results :=
  fun _ _ ht => ⟨results_onward ht, (takes_of_mem_results h ht).length_lt⟩

/-- Where nothing is left, there is no turn. -/
theorem Shortens.eq_nil (h : Shortens step) (hs : s.after.length = 0) : step s = [] := by
  refine List.eq_nil_iff_forall_not_mem.mpr fun t ht => ?_
  have hlt := (h ht).2
  omega

theorem Shortens.onward_eq (h : Shortens step) {greedy : Bool} {n m : Nat} (hn : s.after.length ≤ n)
    (hm : s.after.length ≤ m) : onward step greedy n s = onward step greedy m s := by
  induction n generalizing s m with
  | zero =>
    match m with
    | 0 => rfl
    | m + 1 => cases greedy <;> simp [onward, inOrder, h.eq_nil (Nat.le_zero.mp hn)]
  | succ n ih =>
    match m with
    | 0 => cases greedy <;> simp [onward, inOrder, h.eq_nil (Nat.le_zero.mp hm)]
    | m + 1 =>
      simp only [onward]
      congr 1
      refine List.flatMap_congr fun t ht => ?_
      have hlt := (h ht).2
      rw [ih (m := m) (by omega) (by omega)]

/-- What comes of any number of turns: of one turn and any number of others, or of none. -/
theorem Shortens.further_eq (h : Shortens step) (greedy : Bool) (s : Spot) :
    further step greedy s = inOrder greedy ((step s).flatMap (further step greedy)) s := by
  have hmore : further step greedy s = onward step greedy (s.after.length + 1) s :=
    h.onward_eq (Nat.le_refl _) (Nat.le_succ _)
  rw [hmore]
  simp only [onward]
  congr 1
  refine List.flatMap_congr fun t ht => ?_
  obtain ⟨hon, hlt⟩ := h ht
  have hoffset : s.offset < t.offset := by
    have := hon.offset_add_length
    omega
  rw [if_pos hoffset]
  exact h.onward_eq (by omega) (Nat.le_refl _)

/-! ## The spots of a search -/

/-- A search looks at places further on, each as the beginning of a match. -/
theorem spotsFrom_onward (ht : t ∈ spotsFrom s.offset s.before s.after) : s.Onward t ∧ t.origin = t.offset := by
  generalize hafter : s.after = after at ht
  induction after generalizing s with
  | nil =>
    obtain rfl := List.mem_singleton.mp ht
    exact ⟨⟨[], hafter, rfl, rfl⟩, rfl⟩
  | cons c rest ih =>
    rcases List.mem_cons.mp ht with rfl | ht
    · exact ⟨⟨[], hafter, rfl, rfl⟩, rfl⟩
    · have hnext : t ∈ spotsFrom (s.advance c rest).offset (s.advance c rest).before rest := ht
      obtain ⟨honward, horigin⟩ := ih rfl hnext
      exact ⟨(Spot.Onward.advance hafter).trans honward, horigin⟩

/-- A match that a search comes to begins at the place of the search or further on. -/
theorem leftmost?_onward {p : Pattern} (h : p.leftmost? s = some t) : s.Onward t ∧ s.offset ≤ t.origin := by
  obtain ⟨u, hu, ht⟩ := List.mem_flatMap.mp (List.mem_of_head? h)
  obtain ⟨honward, horigin⟩ := spotsFrom_onward hu
  refine ⟨honward.trans (results_onward ht), ?_⟩
  obtain ⟨passed, -, -, hoffset⟩ := honward
  rw [origin_eq_of_mem_results ht, horigin, hoffset]
  exact Nat.le_add_right _ _

end Pattern

end PacketReinjection.Text
