import PacketReinjection.Proofs.Text.Search

/-!
# `Proofs.Text.Compile` — the program of a pattern finds what the pattern means

A pattern's instructions, wherever they stand in a program, lead from a spot to the pattern's matches there, in order
of preference, and go on from each of them. What the compiler writes for one construct is put together from what it
writes for the parts, so each construct has one lemma about any parts. A loop is the only construct that leads
back to itself; its turns come to an end because every turn takes a character.

## Contents
- **`Pattern.steady`** — the patterns that have this form: what is repeated without bound takes a character.
- **`Writes`** — a compiler writes instructions for a step; one lemma for each construct.
- **`findFrom_eq`** — a search finds the preferred match at the leftmost place that has one.
-/

namespace PacketReinjection.Text.Pattern

variable {step : Spot → List Spot} {s t : Spot}

/-! ## Patterns that can be compiled -/

/-- Whether whatever is repeated without bound takes a character. -/
def steady : Pattern → Bool
  | empty | one _ | anchor _ => true
  | seq p q | alt p q => p.steady && q.steady
  | repeated p _ most _ => p.steady && (most.isSome || p.takes fun _ => true)
  | group _ p => p.steady

/-! ## Leading to matches -/

variable {program : Program}

/-- Whether a way leads to the matches `ts`, in this order, and to no others. -/
def LeadsTo (program : Program) (w : Nat × Spot) (ts : List Spot) : Prop :=
  ∃ k, Leads program [w] k ts

theorem LeadsTo.accept {n : Nat} (hi : program[n]? = some .accept) : LeadsTo program (n, s) [s] := by
  have hlook : Leads program [(n, s)] 1 (completed program (n, s) ++ []) :=
    .single (by simpa [onwards, hi, Instruction.successors] using Leads.done)
  exact ⟨1, by simpa [completed, hi] using hlook⟩

theorem LeadsTo.of_successors {n : Nat} {i : Instruction} {k : Nat} {ts : List Spot}
    (hi : program[n]? = some i) (hne : i ≠ .accept) (h : Leads program (i.successors s) k ts) :
    LeadsTo program (n, s) ts := by
  have hlook : Leads program [(n, s)] (k + 1) (completed program (n, s) ++ ts) :=
    .single (by simpa [onwards, hi] using h)
  exact ⟨k + 1, by simpa [completed, hi, hne] using hlook⟩

/-- Instructions with a single next one, which go on from some spots. -/
theorem LeadsTo.all {next : Nat} {us : List Spot} {f : Spot → List Spot}
    (h : ∀ u ∈ us, LeadsTo program (next, u) (f u)) :
    ∃ k, Leads program (us.map fun u => (next, u)) k (us.flatMap f) := by
  induction us with
  | nil => exact ⟨0, .done⟩
  | cons u us ih =>
    obtain ⟨k, hk⟩ := h u List.mem_cons_self
    obtain ⟨l, hl⟩ := ih fun v hv => h v (List.mem_cons_of_mem u hv)
    exact ⟨k + l, hk.append hl⟩

theorem LeadsTo.fork {n first second : Nat} {ts us : List Spot}
    (hi : program[n]? = some (.fork first second)) (hfirst : LeadsTo program (first, s) ts)
    (hsecond : LeadsTo program (second, s) us) : LeadsTo program (n, s) (ts ++ us) := by
  obtain ⟨k, hk⟩ := hfirst
  obtain ⟨l, hl⟩ := hsecond
  exact .of_successors hi Instruction.noConfusion (hk.append hl)

/-- A turn leads to what comes of its body and to what comes after it, in the order of the quantifier. -/
theorem LeadsTo.turn {n body next : Nat} {greedy : Bool} {us : List Spot} {f : Spot → List Spot}
    (hi : program[n]? = some (.turn greedy body next))
    (hbody : LeadsTo program (body, s) (us.flatMap f)) (hnext : LeadsTo program (next, s) (f s)) :
    LeadsTo program (n, s) ((inOrder greedy us s).flatMap f) := by
  cases greedy with
  | true => simpa [inOrder] using LeadsTo.fork hi hbody hnext
  | false => simpa [inOrder] using LeadsTo.fork hi hnext hbody

/-! ## Programs that grow -/

/-- Whether a program goes on like another one. -/
def Extends (program longer : Program) : Prop :=
  program.size ≤ longer.size ∧ ∀ i, i < program.size → longer[i]? = program[i]?

theorem Extends.refl (program : Program) : Extends program program := ⟨Nat.le_refl _, fun _ _ => rfl⟩

theorem Extends.trans {p q r : Program} (h : Extends p q) (h' : Extends q r) : Extends p r :=
  ⟨Nat.le_trans h.1 h'.1, fun i hi => (h'.2 i (Nat.lt_of_lt_of_le hi h.1)).trans (h.2 i hi)⟩

theorem Extends.push (program : Program) (i : Instruction) : Extends program (program.push i) := by
  refine ⟨by simp, fun j hj => ?_⟩
  rw [Array.getElem?_push, if_neg (by omega)]

/-- Whether a program has the instructions of another one from a place on. -/
def Holds (program part : Program) (start : Nat) : Prop :=
  ∀ i, start ≤ i → i < part.size → program[i]? = part[i]?

theorem Holds.of_extends {part longer : Program} {start : Nat} (h : Holds program longer start)
    (hext : Extends part longer) : Holds program part start :=
  fun i hstart hi => (h i hstart (Nat.lt_of_lt_of_le hi hext.1)).trans (hext.2 i hi)

theorem Holds.mono {part : Program} {start later : Nat} (h : Holds program part start)
    (hle : start ≤ later) : Holds program part later :=
  fun i hi hsize => h i (Nat.le_trans hle hi) hsize

theorem Holds.pushed {part : Program} {start : Nat} {i : Instruction}
    (h : Holds program (part.push i) start) (hle : start ≤ part.size) : program[part.size]? = some i := by
  rw [h part.size hle (by simp)]
  simp

/-! ## Writing the instructions of a step -/

/-- A compiler writes instructions for a step: it leaves what there is, and what it writes leads to the matches of
    the step, in order, and from each of them on to what the next instruction leads to. -/
structure Writes (c : Compiler) (step : Spot → List Spot) : Prop where
  appends : ∀ next program, Extends program (c next program).2
  leads : ∀ {next : Nat} {part program : Program}, Holds program (c next part).2 part.size →
    ∀ {s : Spot} {f : Spot → List Spot}, (∀ u ∈ step s, LeadsTo program (next, u) (f u)) →
      LeadsTo program ((c next part).1, s) ((step s).flatMap f)

namespace Writes

variable {c d : Compiler} {step step' : Spot → List Spot}

theorem nothing : Writes (fun next program => (next, program)) fun s => [s] where
  appends _ program := .refl program
  leads _ s f h := by simpa using h s (List.mem_singleton.mpr rfl)

/-- A single instruction that goes on from some spots with the next one. -/
theorem instruction {i : Nat → Instruction} (hne : ∀ next, i next ≠ .accept)
    (hstep : ∀ next s, (i next).successors s = (step s).map fun u => (next, u)) :
    Writes (fun next program => program.emit (i next)) step where
  appends next program := .push program (i next)
  leads hholds s f h := by
    obtain ⟨k, hk⟩ := LeadsTo.all h
    rw [← hstep] at hk
    exact .of_successors (hholds.pushed (Nat.le_refl _)) (hne _) hk

theorem seq (hc : Writes c step) (hd : Writes d step') :
    Writes (fun next program => c (d next program).1 (d next program).2)
      fun s => (step s).flatMap step' where
  appends next program := (hd.appends next program).trans (hc.appends _ _)
  leads {next part program} hholds s f h := by
    have hext := hd.appends next part
    have hsecond := hholds.of_extends (hc.appends _ _)
    have hfirst := hholds.mono hext.1
    rw [List.flatMap_assoc]
    refine hc.leads hfirst fun u hu => hd.leads hsecond fun v hv => ?_
    exact h v (List.mem_flatMap.mpr ⟨u, hu, hv⟩)

theorem alt (hc : Writes c step) (hd : Writes d step') :
    Writes (fun next program =>
        (c next (d next program).2).2.emit
          (.fork (c next (d next program).2).1 (d next program).1))
      fun s => step s ++ step' s where
  appends next program := ((hd.appends next program).trans (hc.appends _ _)).trans (.push _ _)
  leads {next part program} hholds s f h := by
    have hd_ext := hd.appends next part
    have hc_ext := hc.appends next (d next part).2
    have hparts := hholds.of_extends (.push _ _)
    have hfork := hholds.pushed (hd_ext.trans hc_ext).1
    rw [List.flatMap_append]
    refine .fork hfork (hc.leads (hparts.mono hd_ext.1) fun u hu => ?_)
      (hd.leads (hparts.of_extends hc_ext) fun u hu => ?_)
    · exact h u (List.mem_append_left _ hu)
    · exact h u (List.mem_append_right _ hu)

theorem exactly (hc : Writes c step) (n : Nat) : Writes (compileExactly c n) (Pattern.exactly step n) := by
  induction n with
  | zero => exact .nothing
  | succ n ih => exact hc.seq ih

theorem upTo (hc : Writes c step) (greedy : Bool) (n : Nat) :
    Writes (compileUpTo c greedy n) (atMost step greedy n) := by
  induction n with
  | zero => exact .nothing
  | succ n ih =>
    have hturns := hc.seq ih
    refine ⟨fun next program => (hturns.appends next program).trans (.push _ _), ?_⟩
    intro next part program hholds s f h
    have hturn := hholds.pushed (hturns.appends next part).1
    refine .turn hturn (hturns.leads (hholds.of_extends (.push _ _)) fun u hu => ?_) (h s ?_)
    · exact h u (mem_inOrder.mpr (.inl hu))
    · exact mem_inOrder.mpr (.inr rfl)

theorem optional (hc : Writes c step) (greedy : Bool) :
    Writes (fun next program => (c next program).2.emit (.turn greedy (c next program).1 next))
      fun s => inOrder greedy (step s) s where
  appends next program := (hc.appends next program).trans (.push _ _)
  leads {next part program} hholds s f h := by
    have hturn := hholds.pushed (hc.appends next part).1
    refine .turn hturn (hc.leads (hholds.of_extends (.push _ _)) fun u hu => ?_) (h s ?_)
    · exact h u (mem_inOrder.mpr (.inl hu))
    · exact mem_inOrder.mpr (.inr rfl)

/-- One turn or more, each of which takes a character. -/
theorem loop (hc : Writes c step) (hshort : Shortens step) (greedy : Bool) :
    Writes (compileLoop c greedy) fun s => (step s).flatMap (further step greedy) where
  appends next program := by
    have hext := (Extends.push program (.fork next next)).trans (hc.appends program.size _)
    refine ⟨by simpa [compileLoop, Program.emit] using hext.1, fun i hi => ?_⟩
    simp only [compileLoop, Program.emit]
    rw [Array.getElem?_setIfInBounds_ne (by omega)]
    exact hext.2 i hi
  leads {next part program} hholds s f h := by
    have hext := hc.appends part.size (part.push (.fork next next))
    set body := c part.size (part.push (.fork next next)) with hbody
    have hsize : part.size < body.2.size := by
      have := hext.1
      simp only [Array.size_push] at this
      omega
    have hagain : program[part.size]? = some (.turn greedy body.1 next) := by
      rw [hholds part.size (Nat.le_refl _) (by simpa [compileLoop, Program.emit] using hsize)]
      simp [compileLoop, Program.emit, ← hbody, hsize]
    have hrest : Holds program body.2 (part.push (.fork next next)).size := by
      intro i hi hlt
      simp only [Array.size_push] at hi
      rw [hholds i (by omega) (by simpa [compileLoop, Program.emit] using hlt)]
      simp only [compileLoop, Program.emit]
      rw [Array.getElem?_setIfInBounds_ne (by omega)]
    -- What the loop leads to from a spot, by induction on the text that is left.
    have hloop : ∀ n, ∀ u : Spot, u.after.length = n →
        (∀ v ∈ further step greedy u, LeadsTo program (next, v) (f v)) →
        LeadsTo program (part.size, u) ((further step greedy u).flatMap f) := by
      intro n
      induction n using Nat.strong_induction_on with
      | _ n ih =>
        intro u hu hv
        rw [hshort.further_eq] at hv ⊢
        refine .turn hagain ?_ (hv u (mem_inOrder.mpr (.inr rfl)))
        rw [List.flatMap_assoc]
        refine hc.leads hrest fun v hmem => ih v.after.length (hu ▸ (hshort hmem).2) v rfl fun w hw => ?_
        exact hv w (mem_inOrder.mpr (.inl (List.mem_flatMap.mpr ⟨v, hmem, hw⟩)))
    rw [List.flatMap_assoc]
    refine hc.leads hrest fun u hu => hloop _ u rfl fun v hv => ?_
    exact h v (List.mem_flatMap.mpr ⟨u, hu, hv⟩)

theorem group (hc : Writes c step) (index : Nat) :
    Writes (fun next program =>
        (c (program.emit (.closeGroup index next)).1 (program.emit (.closeGroup index next)).2).2.emit
          (.openGroup index (c (program.emit (.closeGroup index next)).1
            (program.emit (.closeGroup index next)).2).1))
      fun s => (step (s.openGroup index)).map (·.closeGroup index) := by
  have hclose : Writes (fun next program => program.emit (.closeGroup index next)) fun s =>
      [s.closeGroup index] := .instruction (fun _ => Instruction.noConfusion) fun _ _ => rfl
  have hinner := hc.seq hclose
  refine ⟨fun next program => (hinner.appends next program).trans (.push _ _), ?_⟩
  intro next part program hholds s f h
  have hopen := hholds.pushed (hinner.appends next part).1
  have hsteps : (step (s.openGroup index)).map (·.closeGroup index) =
      (step (s.openGroup index)).flatMap fun u => [u.closeGroup index] := List.map_eq_flatMap
  rw [hsteps] at h ⊢
  obtain ⟨k, hk⟩ := hinner.leads (hholds.of_extends (.push _ _)) h
  exact .of_successors hopen Instruction.noConfusion hk

end Writes

/-- What is written for a steady pattern leads to its matches. -/
theorem writes_compile {p : Pattern} (h : p.steady) : Writes p.compile p.results := by
  induction p with
  | empty => exact .nothing
  | one set =>
    refine .instruction (fun _ => Instruction.noConfusion) fun next s => ?_
    cases hafter : s.after with
    | nil => simp [Instruction.successors, results, hafter]
    | cons c rest =>
      simp only [Instruction.successors, results, hafter]
      split <;> rfl
  | anchor a =>
    refine .instruction (fun _ => Instruction.noConfusion) fun next s => ?_
    simp only [Instruction.successors, results]
    split <;> rfl
  | seq p q ihp ihq =>
    obtain ⟨hp, hq⟩ := Bool.and_eq_true_iff.mp h
    exact (ihp hp).seq (ihq hq)
  | alt p q ihp ihq =>
    obtain ⟨hp, hq⟩ := Bool.and_eq_true_iff.mp h
    exact (ihp hp).alt (ihq hq)
  | repeated p least most greedy ih =>
    obtain ⟨hp, htakes⟩ := Bool.and_eq_true_iff.mp h
    have hturn := ih hp
    cases most with
    | some most =>
      have hwrites := (hturn.exactly least).seq (hturn.upTo greedy (most - least))
      simpa only [compile, results] using hwrites
    | none =>
      have hshort := Shortens.of_takes (by simpa using htakes : p.takes fun _ => true)
      cases least with
      | zero => exact (hturn.loop hshort greedy).optional greedy
      | succ least =>
        have hwrites := (hturn.exactly least).seq (hturn.loop hshort greedy)
        simpa only [compile, results, exactly_succ_last, List.flatMap_assoc] using hwrites
  | group index p ih => exact (ih h).group index

/-! ## Searching a text -/

theorem leadsTo_toProgram {p : Pattern} (h : p.steady) (s : Spot) :
    LeadsTo p.toProgram.2 (p.toProgram.1, s) (p.results s) := by
  have hwrites := writes_compile h
  have haccept : p.toProgram.2[0]? = some .accept :=
    (hwrites.appends 0 #[.accept]).2 0 (Nat.zero_lt_one)
  have hends : ∀ u ∈ p.results s, LeadsTo p.toProgram.2 (0, u) [u] := fun u _ => .accept haccept
  have hwhole : Holds p.toProgram.2 (p.compile 0 #[.accept]).2 1 := fun _ _ _ => rfl
  have hleads := hwrites.leads hwhole hends
  rwa [List.flatMap_singleton'] at hleads

theorem length_spotsFrom (offset : Nat) (before after : List Char) :
    (spotsFrom offset before after).length = after.length + 1 := by
  induction after generalizing offset before with
  | nil => rfl
  | cons c rest ih => simp [spotsFrom, ih]

/-- Every way is followed to its end within the steps that a search may take. -/
theorem steps_lt_stepLimit (program : Program) (length : Nat) :
    length + 1 + 2 * (program.size * (length + 1)) < stepLimit program length := by
  simp only [stepLimit, Nat.add_mul, Nat.one_mul, Nat.mul_assoc]
  omega

/-- The preferred match is found at the leftmost place that has one. -/
theorem findFrom_eq {p : Pattern} (h : p.steady) (s : Spot) :
    findFrom p.toProgram s = p.leftmost? s := by
  have hleads : ∀ t ∈ spotsFrom s.offset s.before s.after,
      LeadsTo p.toProgram.2 (p.toProgram.1, t) (p.results t) := fun t _ => leadsTo_toProgram h t
  obtain ⟨k, hk⟩ := LeadsTo.all hleads
  refine run_eq_head? s hk (fun w hw => ?_) ?_
  · obtain ⟨t, ht, rfl⟩ := List.mem_map.mp hw
    exact (spotsFrom_onward ht).1
  · rw [List.length_map, length_spotsFrom]
    exact steps_lt_stepLimit p.toProgram.2 s.after.length

end PacketReinjection.Text.Pattern
