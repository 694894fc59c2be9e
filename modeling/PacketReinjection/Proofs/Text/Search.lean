import Mathlib.Algebra.Order.Group.Nat
import Mathlib.Data.Finset.Card
import Mathlib.Order.Interval.Finset.Nat
import PacketReinjection.Proofs.Text.Matches
import PacketReinjection.Text.Pattern.Search

/-!
# `Proofs.Text.Search` — giving up known ways loses no match

A search never looks at an instruction twice at one place. What comes of a way depends on its instruction and its
place alone, not on the marks it has left, so a way that is given up would have ended like the earlier one. The
earlier one has come to nothing, or is still being followed: then the way would lead into itself.

## Contents
- **`Leads`** — what following ways to all their ends meets, nothing being remembered.
- **`Spot.place`** — a place alone, and `Spot.Onward.place_eq`: it is known by its offset.
- **`Known`** — what a search may have seen: ways that come to nothing and ways that are being followed.
- **`run_eq_head?`** — the search finds the first of all matches.
-/

namespace PacketReinjection.Text

/-! ## Places -/

namespace Spot

/-- The place alone. -/
def place (s : Spot) : Spot := { s with origin := 0, marks := [] }

namespace Onward

/-- A place is known by its offset. -/
theorem place_eq {s t u : Spot} (ht : s.Onward t) (hu : s.Onward u) (h : t.offset = u.offset) :
    t.place = u.place := by
  obtain ⟨a, ha, hb, ho⟩ := ht
  obtain ⟨a', ha', hb', ho'⟩ := hu
  have hlength : a.length = a'.length := by omega
  obtain ⟨rfl, hafter⟩ := List.append_inj (ha.symm.trans ha') hlength
  simp only [place, h, hb, hb', hafter]

end Onward

end Spot

namespace Pattern

variable {program : Program}

/-! ## Following ways to their ends -/

/-- Where a way leads next. -/
def onwards (program : Program) (w : Nat × Spot) : List (Nat × Spot) :=
  program[w.1]?.elim [] (·.successors w.2)

/-- The match that a way completes, if it does. -/
def completed (program : Program) (w : Nat × Spot) : List Spot :=
  if program[w.1]? = some .accept then [w.2] else []

/-- Following ways to all their ends takes `k` looks and completes the matches `ts`, in this order. -/
inductive Leads (program : Program) : List (Nat × Spot) → Nat → List Spot → Prop
  | done : Leads program [] 0 []
  | look {w ways k ts} : Leads program (onwards program w ++ ways) k ts →
      Leads program (w :: ways) (k + 1) (completed program w ++ ts)

namespace Leads

theorem unique {ways : List (Nat × Spot)} {k l : Nat} {ts us : List Spot}
    (h : Leads program ways k ts) (h' : Leads program ways l us) : k = l ∧ ts = us := by
  induction h generalizing l us with
  | done => cases h'; exact ⟨rfl, rfl⟩
  | look _ ih =>
    cases h' with
    | look h' =>
      obtain ⟨rfl, rfl⟩ := ih h'
      exact ⟨rfl, rfl⟩

theorem append {ways ways' : List (Nat × Spot)} {k l : Nat} {ts us : List Spot}
    (h : Leads program ways k ts) (h' : Leads program ways' l us) :
    Leads program (ways ++ ways') (k + l) (ts ++ us) := by
  induction h with
  | done => simpa using h'
  | look _ ih =>
    rw [List.append_assoc, Nat.add_right_comm]
    rw [List.append_assoc] at ih
    exact .look ih

theorem split {ways ways' : List (Nat × Spot)} {k : Nat} {ts : List Spot}
    (h : Leads program (ways ++ ways') k ts) :
    ∃ k₁ k₂ ts₁ ts₂, Leads program ways k₁ ts₁ ∧ Leads program ways' k₂ ts₂ ∧
      k = k₁ + k₂ ∧ ts = ts₁ ++ ts₂ := by
  generalize hall : ways ++ ways' = all at h
  induction h generalizing ways with
  | done =>
    obtain ⟨rfl, rfl⟩ := List.append_eq_nil_iff.mp hall
    exact ⟨0, 0, [], [], .done, .done, rfl, rfl⟩
  | @look w rest k ts hrest ih =>
    match ways with
    | [] =>
      obtain rfl : ways' = w :: rest := hall
      exact ⟨0, k + 1, [], _, .done, .look hrest, by omega, rfl⟩
    | v :: ways =>
      obtain ⟨rfl, rfl⟩ := List.cons.inj hall
      obtain ⟨k₁, k₂, ts₁, ts₂, h₁, h₂, rfl, rfl⟩ := ih (List.append_assoc _ _ _)
      exact ⟨k₁ + 1, k₂, _, ts₂, .look h₁, h₂, by omega, (List.append_assoc _ _ _).symm⟩

/-- A single way and the ways that follow it. -/
theorem split_cons {w : Nat × Spot} {ways : List (Nat × Spot)} {k : Nat} {ts : List Spot}
    (h : Leads program (w :: ways) k ts) :
    ∃ k₁ k₂ ts₁ ts₂, Leads program (onwards program w) k₁ ts₁ ∧ Leads program ways k₂ ts₂ ∧
      k = k₁ + 1 + k₂ ∧ ts = (completed program w ++ ts₁) ++ ts₂ := by
  cases h with
  | look h =>
    obtain ⟨k₁, k₂, ts₁, ts₂, h₁, h₂, rfl, rfl⟩ := h.split
    exact ⟨k₁, k₂, ts₁, ts₂, h₁, h₂, by omega, (List.append_assoc _ _ _).symm⟩

theorem single {w : Nat × Spot} {k : Nat} {ts : List Spot} (h : Leads program (onwards program w) k ts) :
    Leads program [w] (k + 1) (completed program w ++ ts) :=
  .look (by simpa using h)

end Leads

/-! ## Marks do not matter -/

/-- A way without its marks. -/
def unmarked (w : Nat × Spot) : Nat × Spot := (w.1, w.2.place)

theorem successors_unmarked (i : Instruction) {s t : Spot} (h : s.place = t.place) :
    (i.successors s).map unmarked = (i.successors t).map unmarked := by
  simp only [Spot.place, Spot.mk.injEq] at h
  obtain ⟨hoffset, hbefore, hafter, -, -⟩ := h
  cases i with
  | accept => rfl
  | one set next =>
    simp only [Instruction.successors, hafter]
    split
    · rfl
    · split
      · simp [unmarked, Spot.place, Spot.advance, hoffset, hbefore]
      · rfl
  | anchor a next =>
    simp only [Instruction.successors, Spot.satisfies, hbefore, hafter]
    by_cases hholds : a.holds t.before t.after
    · simp [hholds, unmarked, Spot.place, hoffset, hbefore, hafter]
    · simp [hholds]
  | fork first second =>
    simp [Instruction.successors, unmarked, Spot.place, hoffset, hbefore, hafter]
  | openGroup index next =>
    simp [Instruction.successors, unmarked, Spot.place, Spot.openGroup, hoffset, hbefore, hafter]
  | closeGroup index next =>
    simp [Instruction.successors, unmarked, Spot.place, Spot.closeGroup, hoffset, hbefore, hafter]

theorem onwards_unmarked {v w : Nat × Spot} (h : unmarked v = unmarked w) :
    (onwards program v).map unmarked = (onwards program w).map unmarked := by
  obtain ⟨hn, hplace⟩ := Prod.mk.inj h
  unfold onwards
  rw [hn]
  cases program[w.1]? with
  | none => rfl
  | some i => exact successors_unmarked i hplace

theorem completed_place {v w : Nat × Spot} (h : unmarked v = unmarked w) :
    (completed program v).map Spot.place = (completed program w).map Spot.place := by
  obtain ⟨hn, hplace⟩ := Prod.mk.inj h
  unfold completed
  rw [hn]
  split
  · exact congrArg ([·]) hplace
  · rfl

/-- Ways that differ in their marks complete the same matches, apart from the marks. -/
theorem Leads.of_unmarked {ways ways' : List (Nat × Spot)} {k : Nat} {ts : List Spot}
    (h : Leads program ways k ts) (heq : ways.map unmarked = ways'.map unmarked) :
    ∃ us, Leads program ways' k us ∧ ts.map Spot.place = us.map Spot.place := by
  induction h generalizing ways' with
  | done =>
    obtain rfl := List.map_eq_nil_iff.mp heq.symm
    exact ⟨[], .done, rfl⟩
  | @look w ways _ _ _ ih =>
    obtain ⟨v, rest, rfl, hv, hrest⟩ := List.map_eq_cons_iff.mp heq.symm
    have hways : (onwards program w ++ ways).map unmarked = (onwards program v ++ rest).map unmarked := by
      rw [List.map_append, List.map_append, onwards_unmarked hv, hrest]
    obtain ⟨us, hlead, hus⟩ := ih hways
    refine ⟨completed program v ++ us, .look hlead, ?_⟩
    rw [List.map_append, List.map_append, hus, completed_place hv]

/-! ## What has been seen -/

theorem successors_onward {i : Instruction} {s : Spot} {w : Nat × Spot} (h : w ∈ i.successors s) :
    s.Onward w.2 := by
  cases i with
  | accept => simp [Instruction.successors] at h
  | one set next =>
    simp only [Instruction.successors] at h
    split at h
    · simp at h
    · rename_i c rest hafter
      split at h
      · obtain rfl := List.mem_singleton.mp h
        exact .advance hafter
      · simp at h
  | anchor a next =>
    simp only [Instruction.successors] at h
    split at h
    · obtain rfl := List.mem_singleton.mp h
      exact .refl s
    · simp at h
  | fork first second =>
    simp only [Instruction.successors, List.mem_cons, List.not_mem_nil, or_false] at h
    obtain rfl | rfl := h <;> exact .refl s
  | openGroup index next | closeGroup index next =>
    obtain rfl := List.mem_singleton.mp h
    exact ⟨[], rfl, rfl, rfl⟩

theorem length_successors_le (i : Instruction) (s : Spot) : (i.successors s).length ≤ 2 := by
  cases i <;> simp only [Instruction.successors] <;> (repeat' split) <;> simp

/-- The key of an instruction at a place. -/
def keyOf (program : Program) (w : Nat × Spot) : Nat := w.2.offset * program.size + w.1

theorem keyOf_injective {v w : Nat × Spot} (hv : v.1 < program.size) (hw : w.1 < program.size)
    (h : keyOf program v = keyOf program w) : v.1 = w.1 ∧ v.2.offset = w.2.offset := by
  unfold keyOf at h
  have hdiv := congrArg (· / program.size) h
  have hmod := congrArg (· % program.size) h
  have hpos : 0 < program.size := Nat.lt_of_le_of_lt (Nat.zero_le _) hv
  simp only [Nat.mul_comm _ program.size, Nat.mul_add_div hpos, Nat.div_eq_of_lt hv,
    Nat.div_eq_of_lt hw, Nat.add_zero] at hdiv
  simp only [Nat.mul_add_mod_self_right, Nat.mod_eq_of_lt hv, Nat.mod_eq_of_lt hw] at hmod
  exact ⟨hmod, hdiv⟩

/-- What a search from `base` may have seen while it follows a way that takes `k` looks at most: ways that come to
    nothing, and ways that take more looks. -/
def Known (program : Program) (base : Spot) (k : Nat) (seen : Std.HashSet Nat) : Prop :=
  ∀ w : Nat × Spot, w.1 < program.size → base.Onward w.2 → seen.contains (keyOf program w) →
    ∃ l ts, Leads program [w] l ts ∧ (ts = [] ∨ k < l)

namespace Known

variable {base : Spot} {k : Nat} {seen : Std.HashSet Nat}

theorem empty : Known program base k ∅ := by
  intro w _ _ h
  simp at h

theorem mono {l : Nat} (h : Known program base k seen) (hl : l ≤ k) : Known program base l seen := by
  intro w hw hon hmem
  obtain ⟨m, ts, hlead, hor⟩ := h w hw hon hmem
  exact ⟨m, ts, hlead, hor.imp_right (Nat.lt_of_le_of_lt hl)⟩

/-- What is still to be followed has not been seen. -/
theorem not_contains {w : Nat × Spot} {l : Nat} {ts : List Spot} (h : Known program base k seen)
    (hw : w.1 < program.size) (hon : base.Onward w.2) (hlead : Leads program [w] l ts) (hts : ts ≠ [])
    (hl : l ≤ k) : seen.contains (keyOf program w) = false := by
  by_contra hmem
  obtain ⟨m, us, hlead', hor⟩ := h w hw hon (by simpa using hmem)
  obtain ⟨rfl, rfl⟩ := hlead.unique hlead'
  rcases hor with hnil | hlt
  · exact hts hnil
  · omega

theorem insert {w : Nat × Spot} {l : Nat} {ts : List Spot} (h : Known program base k seen)
    (hw : w.1 < program.size) (hon : base.Onward w.2) (hlead : Leads program [w] l ts)
    (hor : ts = [] ∨ k < l) : Known program base k (seen.insert (keyOf program w)) := by
  intro v hv hvon hmem
  rw [Std.HashSet.contains_insert, Bool.or_eq_true, beq_iff_eq] at hmem
  rcases hmem with heq | hmem
  · obtain ⟨hn, ho⟩ := keyOf_injective hw hv heq
    -- The same instruction at the same place: what is known of `w` holds of `v`.
    have hmarks : [w].map unmarked = [v].map unmarked := by
      simp [unmarked, hn, hon.place_eq hvon ho]
    obtain ⟨us, hlead', hus⟩ := hlead.of_unmarked hmarks
    refine ⟨l, us, hlead', hor.imp_left ?_⟩
    rintro rfl
    exact List.map_eq_nil_iff.mp hus.symm
  · exact h v hv hvon hmem

end Known

/-! ## Looks that are left -/

/-- How many keys of the text behind `base` have not been seen. -/
def unseen (program : Program) (base : Spot) (seen : Std.HashSet Nat) : Nat :=
  ((Finset.Ico (base.offset * program.size)
    ((base.offset + base.after.length + 1) * program.size)).filter (¬ seen.contains ·)).card

/-- How many steps a search takes at most. -/
def stepsLeft (program : Program) (base : Spot) (ways : List (Nat × Spot)) (seen : Std.HashSet Nat) : Nat :=
  ways.length + 2 * unseen program base seen

theorem unseen_insert_lt {base : Spot} {seen : Std.HashSet Nat} {w : Nat × Spot} (hw : w.1 < program.size)
    (hon : base.Onward w.2) (h : seen.contains (keyOf program w) = false) :
    unseen program base (seen.insert (keyOf program w)) < unseen program base seen := by
  refine Finset.card_lt_card (Finset.ssubset_iff_of_subset ?_ |>.mpr ⟨keyOf program w, ?_, ?_⟩)
  · intro key hkey
    simp only [Finset.mem_filter, Std.HashSet.contains_insert, Bool.or_eq_true, not_or] at hkey ⊢
    exact ⟨hkey.1, hkey.2.2⟩
  · have hlow : base.offset ≤ w.2.offset := by
      obtain ⟨a, -, -, ho⟩ := hon
      omega
    have hhigh : w.2.offset ≤ base.offset + base.after.length := by
      have := hon.offset_add_length
      omega
    have hstart := Nat.mul_le_mul_right program.size hlow
    have hend := Nat.mul_le_mul_right program.size hhigh
    rw [Finset.mem_filter, Finset.mem_Ico, h]
    simp only [keyOf, Nat.add_mul, Nat.one_mul] at hend ⊢
    refine ⟨⟨?_, ?_⟩, by simp⟩ <;> omega
  · simp

theorem unseen_empty (base : Spot) :
    unseen program base ∅ = program.size * (base.after.length + 1) := by
  simp only [unseen, Std.HashSet.contains_empty, Bool.false_eq_true, not_false_eq_true, Finset.filter_true,
    Nat.card_Ico]
  rw [← Nat.sub_mul, Nat.mul_comm]
  congr 1
  omega

/-! ## The search -/

variable {base : Spot} {seen : Std.HashSet Nat} {fuel : Nat}

theorem run_seen {w : Nat × Spot} {rest : List (Nat × Spot)}
    (hseen : seen.contains (keyOf program w) = true) :
    run program (fuel + 1) (w :: rest) seen = run program fuel rest seen := by
  simp only [keyOf] at hseen
  simp [run, hseen]

theorem run_astray {w : Nat × Spot} {rest : List (Nat × Spot)} (hi : program[w.1]? = none) :
    run program (fuel + 1) (w :: rest) seen = run program fuel rest seen := by
  simp [run, hi]

theorem run_accept {w : Nat × Spot} {rest : List (Nat × Spot)}
    (hseen : seen.contains (keyOf program w) = false) (hi : program[w.1]? = some .accept) :
    run program (fuel + 1) (w :: rest) seen = some w.2 := by
  simp only [keyOf] at hseen
  simp only [run, hseen, hi, Bool.false_eq_true, if_false]

theorem run_look {w : Nat × Spot} {rest : List (Nat × Spot)} {i : Instruction}
    (hseen : seen.contains (keyOf program w) = false) (hi : program[w.1]? = some i) (hne : i ≠ .accept) :
    run program (fuel + 1) (w :: rest) seen =
      run program fuel (onwards program w ++ rest) (seen.insert (keyOf program w)) := by
  have honwards : onwards program w = i.successors w.2 := by simp [onwards, hi]
  rw [honwards]
  simp only [keyOf] at hseen
  simp only [run, hseen, hi, keyOf, Bool.false_eq_true, if_false]

/-- The steps that a look at a way leaves. -/
theorem stepsLeft_onwards {w : Nat × Spot} {i : Instruction} (rest : List (Nat × Spot))
    (hon : base.Onward w.2) (hseen : seen.contains (keyOf program w) = false)
    (hi : program[w.1]? = some i) :
    stepsLeft program base (onwards program w ++ rest) (seen.insert (keyOf program w)) <
      stepsLeft program base (w :: rest) seen := by
  obtain ⟨hw, -⟩ := Array.getElem?_eq_some_iff.mp hi
  have hless := unseen_insert_lt hw hon hseen
  have hlength : (onwards program w).length ≤ 2 := by
    simpa [onwards, hi] using length_successors_le i w.2
  simp only [stepsLeft, List.length_append, List.length_cons]
  omega

theorem onwards_onward {w v : Nat × Spot} (h : v ∈ onwards program w) : w.2.Onward v.2 := by
  unfold onwards at h
  cases hi : program[w.1]? with
  | none => simp [hi] at h
  | some i => exact successors_onward (by simpa [hi] using h)

/-- The ways behind a way of a text are in the text as well. -/
theorem onward_onwards {w : Nat × Spot} {ways : List (Nat × Spot)} (h : ∀ v ∈ w :: ways, base.Onward v.2) :
    ∀ v ∈ onwards program w ++ ways, base.Onward v.2 := by
  intro v hv
  rcases List.mem_append.mp hv with hv | hv
  · exact (h w List.mem_cons_self).trans (onwards_onward hv)
  · exact h v (List.mem_cons_of_mem w hv)

/-- Ways that come to nothing are passed, and what they add to what has been seen comes to nothing. -/
theorem run_barren {k bound : Nat} {ways : List (Nat × Spot)} (rest : List (Nat × Spot)) (hlead : Leads program ways k [])
    (hon : ∀ w ∈ ways, base.Onward w.2) (hknown : Known program base bound seen)
    (hfuel : stepsLeft program base (ways ++ rest) seen < fuel) :
    ∃ fuel' seen', run program fuel (ways ++ rest) seen = run program fuel' rest seen' ∧
      Known program base bound seen' ∧ stepsLeft program base rest seen' < fuel' := by
  induction k using Nat.strong_induction_on generalizing ways seen fuel with
  | _ k ih =>
  match ways with
  | [] => exact ⟨fuel, seen, rfl, hknown, hfuel⟩
  | w :: ways =>
    obtain ⟨k₁, k₂, ts₁, ts₂, h₁, h₂, rfl, hnil⟩ := hlead.split_cons
    simp only [List.nil_eq, List.append_eq_nil_iff] at hnil
    obtain ⟨⟨hcompleted, rfl⟩, rfl⟩ := hnil
    obtain ⟨fuel, rfl⟩ : ∃ f, fuel = f + 1 := ⟨fuel - 1, by omega⟩
    have hways : ∀ v ∈ ways, base.Onward v.2 := fun v hv => hon v (List.mem_cons_of_mem w hv)
    have hshort : stepsLeft program base (ways ++ rest) seen < fuel := by
      simp only [stepsLeft, List.cons_append, List.length_cons] at hfuel ⊢
      omega
    rw [List.cons_append] at hfuel ⊢
    by_cases hseen : seen.contains (keyOf program w)
    · rw [run_seen hseen]
      exact ih k₂ (by omega) h₂ hways hknown hshort
    · rw [Bool.not_eq_true] at hseen
      cases hi : program[w.1]? with
      | none =>
        rw [run_astray hi]
        exact ih k₂ (by omega) h₂ hways hknown hshort
      | some i =>
        have hne : i ≠ .accept := by
          rintro rfl
          simp [completed, hi] at hcompleted
        obtain ⟨hw, -⟩ := Array.getElem?_eq_some_iff.mp hi
        have hon_w := hon w List.mem_cons_self
        have hsingle := h₁.single
        rw [hcompleted] at hsingle
        have hless := stepsLeft_onwards (ways ++ rest) hon_w hseen hi
        rw [run_look hseen hi hne, ← List.append_assoc]
        refine ih (k₁ + k₂) (by omega) (h₁.append h₂) (onward_onwards hon)
          (hknown.insert hw hon_w hsingle (.inl rfl)) ?_
        rw [List.append_assoc]
        omega

/-- The first match of ways that come to one is found. -/
theorem run_live {k : Nat} {ways rest : List (Nat × Spot)} {t : Spot} {ts : List Spot}
    (hlead : Leads program ways k (t :: ts)) (hon : ∀ w ∈ ways, base.Onward w.2)
    (hknown : Known program base k seen) (hfuel : stepsLeft program base (ways ++ rest) seen < fuel) :
    run program fuel (ways ++ rest) seen = some t := by
  induction k using Nat.strong_induction_on generalizing ways rest seen fuel ts with
  | _ k ih =>
  match ways with
  | [] => cases hlead
  | w :: ways =>
    obtain ⟨k₁, k₂, ts₁, ts₂, h₁, h₂, rfl, hts⟩ := hlead.split_cons
    have hon_w := hon w List.mem_cons_self
    have hways : ∀ v ∈ ways, base.Onward v.2 := fun v hv => hon v (List.mem_cons_of_mem w hv)
    rw [List.cons_append] at hfuel ⊢
    cases hfirst : completed program w ++ ts₁ with
    | nil =>
      -- Nothing comes of the first way, and the match is one of the others.
      have hbarren := h₁.single
      rw [hfirst] at hbarren hts
      obtain ⟨fuel', seen', hrun, hknown', hfuel'⟩ :=
        run_barren (ways ++ rest) hbarren (by simpa using hon_w) hknown hfuel
      rw [List.singleton_append] at hrun
      rw [hrun]
      rw [List.nil_append] at hts
      subst hts
      exact ih k₂ (by omega) h₂ hways (hknown'.mono (by omega)) hfuel'
    | cons u us =>
      have hlive := h₁.single
      rw [hfirst] at hlive hts
      obtain ⟨rfl, rfl⟩ := List.cons.inj hts
      obtain ⟨fuel, rfl⟩ : ∃ f, fuel = f + 1 := ⟨fuel - 1, by omega⟩
      cases hi : program[w.1]? with
      | none =>
        -- A way without an instruction completes nothing.
        have honwards : onwards program w = [] := by simp [onwards, hi]
        rw [honwards] at h₁
        cases h₁
        simp [completed, hi] at hfirst
      | some i =>
        obtain ⟨hw, -⟩ := Array.getElem?_eq_some_iff.mp hi
        have hseen := hknown.not_contains hw hon_w hlive (List.cons_ne_nil _ _) (by omega)
        by_cases haccept : i = .accept
        · subst haccept
          simp only [completed, hi, if_true, List.singleton_append, List.cons.injEq] at hfirst
          rw [run_accept hseen hi, hfirst.1]
        · have hcompleted : completed program w = [] := by simp [completed, hi, haccept]
          rw [hcompleted, List.nil_append] at hfirst
          subst hfirst
          have hless := stepsLeft_onwards (ways ++ rest) hon_w hseen hi
          rw [run_look hseen hi haccept]
          refine ih k₁ (by omega) h₁ (fun v hv => hon_w.trans (onwards_onward hv)) ?_ (by omega)
          exact (hknown.mono (by omega)).insert hw hon_w hlive (.inr (by omega))

/-- A search finds the first of the matches that following its ways to all their ends completes. -/
theorem run_eq_head? (base : Spot) {k : Nat} {ways : List (Nat × Spot)} {ts : List Spot}
    (hlead : Leads program ways k ts)
    (hon : ∀ w ∈ ways, base.Onward w.2)
    (hfuel : ways.length + 2 * (program.size * (base.after.length + 1)) < fuel) :
    run program fuel ways ∅ = ts.head? := by
  have hsteps : stepsLeft program base (ways ++ []) ∅ < fuel := by
    simpa [stepsLeft, unseen_empty] using hfuel
  rw [← List.append_nil ways]
  cases ts with
  | nil =>
    obtain ⟨fuel', seen', hrun, -, hfuel'⟩ := run_barren [] hlead hon (.empty (k := 0)) hsteps
    rw [hrun]
    cases fuel' <;> simp [run]
  | cons t ts => exact run_live hlead hon .empty hsteps

end Pattern

end PacketReinjection.Text
