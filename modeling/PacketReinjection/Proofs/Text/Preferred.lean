import PacketReinjection.Proofs.Text.Matches

/-!
# `Proofs.Text.Preferred` — the preferred match, piece by piece

The preferred match of a sequence is found piece by piece: a greedy repetition takes the longest run, and when the
rest of the sequence matches behind it, no shorter run is tried. A repetition that is not greedy takes the shortest run
that the rest matches behind. What a pattern passes and what its groups hold is then read off the spot it ends at.

## Contents
- **`Spot.skip`**, **`Spot.capture`** — a spot further on, a stretch being passed, or passed as a group.
- **`Pattern.Prefers`**, **`Pattern.Passes`** — where the preferred match ends, and what it passes wherever it stands;
  a rule for each construct.
- **`leftmost?_of_prefers`**, **`leftmost?_eq_none`** — what a search comes to then, and when it comes to nothing;
  `leftmost?_behind`: what it comes to behind a text where no match begins.
-/

namespace PacketReinjection.Text

/-! ## Stretches of text -/

namespace Spot

/-- The spot behind `run`, where `rest` is left. -/
def skip (s : Spot) (run rest : List Char) : Spot :=
  { s with offset := s.offset + run.length, before := run.reverse ++ s.before, after := rest }

/-- The spot behind `run`, which is marked as a group. -/
def capture (s : Spot) (index : Nat) (run rest : List Char) : Spot :=
  ((s.openGroup index).skip run rest).closeGroup index

variable {s : Spot} {run rest : List Char} {i j : Nat}

@[simp] theorem skip_after : (s.skip run rest).after = rest := rfl
@[simp] theorem skip_origin : (s.skip run rest).origin = s.origin := rfl
@[simp] theorem skip_offset : (s.skip run rest).offset = s.offset + run.length := rfl
@[simp] theorem skip_group? : (s.skip run rest).group? i = s.group? i := rfl

@[simp] theorem capture_after : (s.capture i run rest).after = rest := rfl
@[simp] theorem capture_origin : (s.capture i run rest).origin = s.origin := rfl
@[simp] theorem capture_offset : (s.capture i run rest).offset = s.offset + run.length := rfl

/-- A group holds the stretch that it was marked for. -/
theorem capture_group?_self (h : s.after = run ++ rest) : (s.capture i run rest).group? i = some run := by
  simp [capture, group?, groupStart?, groupEnd?, openGroup, closeGroup, skip, h]

@[simp] theorem capture_group?_of_ne (h : j ≠ i) : (s.capture j run rest).group? i = s.group? i := by
  simp [capture, group?, groupStart?, groupEnd?, openGroup, closeGroup, skip, h]

theorem skip_skip {run' rest' : List Char} : (s.skip run rest).skip run' rest' = s.skip (run ++ run') rest' := by
  simp [skip, Nat.add_assoc]

theorem skip_nil : s.skip [] s.after = s := by
  simp [skip]

/-- One character further. -/
theorem advance_eq_skip (s : Spot) (c : Char) (rest : List Char) : s.advance c rest = s.skip [c] rest := rfl

end Spot

namespace Pattern

/-! ## Preferred matches -/

variable {p q : Pattern} {s t u : Spot} {set : CharSet} {run rest : List Char}

/-- The preferred match of `p` from `s` ends at `t`. -/
def Prefers (p : Pattern) (s t : Spot) : Prop := (p.results s).head? = some t

/-- The boundary of a longest run: what follows does not start with a character of the set. -/
def Stops (set : CharSet) (rest : List Char) : Prop := ∀ c, rest.head? = some c → set.contains c = false

theorem Stops.nil : Stops set [] := by
  intro c h
  simp at h

theorem Stops.cons {c : Char} (h : set.contains c = false) : Stops set (c :: rest) := by
  intro d hd
  obtain rfl := Option.some.inj hd
  exact h

theorem head?_flatMap_of_head? {α β : Type} {l : List α} {a : α} {f : α → List β} {b : β}
    (ha : l.head? = some a) (hb : (f a).head? = some b) : (l.flatMap f).head? = some b := by
  obtain ⟨tail, rfl⟩ := List.head?_eq_some_iff.mp ha
  rw [List.flatMap_cons, List.head?_append, hb]
  rfl

namespace Prefers

theorem empty : empty.Prefers s s := rfl

theorem seq (hp : p.Prefers s t) (hq : q.Prefers t u) : (seq p q).Prefers s u :=
  head?_flatMap_of_head? hp hq

theorem one {c : Char} (hafter : s.after = c :: rest) (hc : set.contains c) :
    (one set).Prefers s (s.skip [c] rest) := by
  simp [Prefers, results, hafter, hc, Spot.advance_eq_skip]

theorem group {index : Nat} (h : p.Prefers (s.openGroup index) ((s.openGroup index).skip run rest)) :
    (group index p).Prefers s (s.capture index run rest) := by
  simp only [Prefers, results, List.head?_map]
  rw [h]
  rfl

/-- Rather a match than nothing. -/
theorem optional (h : p.Prefers s t) : (optional p).Prefers s t := by
  unfold Prefers at h ⊢
  obtain ⟨tail, htail⟩ := List.head?_eq_some_iff.mp h
  simp [Pattern.optional, results, exactly, atMost, inOrder, htail]

theorem anchor {a : Anchor} (h : s.satisfies a = true) : (anchor a).Prefers s s := by
  simp [Prefers, results, h]

/-- The right alternative where the left one has no match. -/
theorem alt_right (hp : p.results s = []) (hq : q.Prefers s t) : (alt p q).Prefers s t := by
  rw [Prefers, results, hp]
  exact hq

/-- The left alternative where it has a match. -/
theorem alt_left (hp : p.Prefers s t) : (alt p q).Prefers s t := by
  unfold Prefers at hp ⊢
  rw [results, List.head?_append, hp]
  rfl

/-- Nothing where there is no match. -/
theorem optional_of_none (h : p.results s = []) : (Pattern.optional p).Prefers s s := by
  simp [Prefers, Pattern.optional, results, exactly, atMost, inOrder, h]

end Prefers

/-! ## Longest runs -/

theorem shortens_one (set : CharSet) : Shortens (one set).results := by
  have htakes : (one set).takes (fun _ => true) := rfl
  exact .of_takes htakes

/-- Where no character of the set follows, no further turn is made. -/
theorem results_one_of_stops (hstop : Stops set s.after) : (one set).results s = [] := by
  simp only [results]
  split
  · rfl
  · rename_i c tail hcons
    have hc := hstop c (by rw [hcons]; rfl)
    simp [hc]

theorem further_one (hafter : s.after = run ++ rest) (hrun : ∀ c ∈ run, set.contains c)
    (hstop : Stops set rest) : (further (one set).results true s).head? = some (s.skip run rest) := by
  induction run generalizing s with
  | nil =>
    obtain rfl : s.after = rest := hafter
    rw [(shortens_one set).further_eq, results_one_of_stops hstop, Spot.skip_nil]
    rfl
  | cons c run ih =>
    have hstep : (one set).results s = [s.skip [c] (run ++ rest)] := by
      simp [results, hafter, hrun c List.mem_cons_self, Spot.advance_eq_skip]
    have hmore := ih (s := s.skip [c] (run ++ rest)) rfl fun d hd => hrun d (List.mem_cons_of_mem c hd)
    rw [Spot.skip_skip] at hmore
    rw [(shortens_one set).further_eq, hstep]
    simp only [inOrder, List.flatMap_cons, List.flatMap_nil, List.append_nil, if_true, List.head?_append]
    rw [hmore]
    rfl

theorem results_many (set : CharSet) (s : Spot) : (many set).results s = further (one set).results true s := by
  rw [(shortens_one set).further_eq]
  simp only [many, results]

/-! ## Shortest runs -/

theorem results_few (set : CharSet) (s : Spot) : (few set).results s = further (one set).results false s := by
  rw [(shortens_one set).further_eq]
  simp only [few, results]

/-- Where nothing comes of a shorter run, the whole run is passed. -/
theorem head?_few {f : Spot → List Spot} (hafter : s.after = run ++ rest) (hrun : ∀ c ∈ run, set.contains c)
    (hshorter : ∀ front back, run = front ++ back → back ≠ [] → f (s.skip front (back ++ rest)) = [])
    (hf : (f (s.skip run rest)).head? = some t) : (((few set).results s).flatMap f).head? = some t := by
  rw [results_few]
  induction run generalizing s with
  | nil =>
    obtain rfl : s.after = rest := hafter
    rw [Spot.skip_nil] at hf
    rw [(shortens_one set).further_eq]
    simp only [inOrder, Bool.false_eq_true, if_false, List.flatMap_cons, List.head?_append, hf]
    rfl
  | cons c run ih =>
    have hhere : f s = [] := by
      have hnone := hshorter [] (c :: run) rfl (List.cons_ne_nil c run)
      rwa [← hafter, Spot.skip_nil] at hnone
    have hstep : (one set).results s = [s.skip [c] (run ++ rest)] := by
      simp [results, hafter, hrun c List.mem_cons_self, Spot.advance_eq_skip]
    rw [(shortens_one set).further_eq, hstep]
    simp only [inOrder, Bool.false_eq_true, if_false, List.flatMap_cons, hhere, List.nil_append,
      List.flatMap_nil, List.append_nil]
    refine ih rfl (fun d hd => hrun d (List.mem_cons_of_mem c hd)) (fun front back hsplit hback => ?_) ?_
    · rw [Spot.skip_skip]
      exact hshorter (c :: front) back (congrArg (c :: ·) hsplit) hback
    · rw [Spot.skip_skip]
      exact hf

/-! ## Passing a stretch -/

/-- Wherever `run` stands in front of `rest`, the preferred match passes it. -/
def Passes (p : Pattern) (run rest : List Char) : Prop :=
  ∀ s : Spot, s.after = run ++ rest → p.Prefers s (s.skip run rest)

namespace Passes

variable {run' : List Char}

theorem nothing : (sequence []).Passes [] rest := by
  intro s hafter
  obtain rfl : s.after = rest := hafter
  rw [Spot.skip_nil]
  exact .empty

theorem seq (hp : p.Passes run (run' ++ rest)) (hq : q.Passes run' rest) :
    (seq p q).Passes (run ++ run') rest := by
  intro s hafter
  have hfirst := hp s (by rw [hafter, List.append_assoc])
  have hsecond := hq (s.skip run (run' ++ rest)) rfl
  rw [Spot.skip_skip] at hsecond
  exact hfirst.seq hsecond

/-- Characters that stand for themselves. -/
theorem chars (cs : List Char) : (sequence (cs.map fun c => .one (.char c))).Passes cs rest := by
  induction cs with
  | nil => exact .nothing
  | cons c cs ih =>
    have hfirst : (Pattern.one (.char c)).Passes [c] (cs ++ rest) := fun s hafter =>
      .one hafter (decide_eq_true rfl)
    exact hfirst.seq ih

/-- A text stands for itself. -/
theorem literal (w : String) : (literal w).Passes w.toList rest := chars w.toList

/-- As many characters as there are. -/
theorem many (hrun : ∀ c ∈ run, set.contains c) (hstop : Stops set rest) : (many set).Passes run rest := by
  intro s hafter
  rw [Prefers, results_many]
  exact further_one hafter hrun hstop

/-- As many characters as there are, of which there is at least one. -/
theorem many1 (hne : run ≠ []) (hrun : ∀ c ∈ run, set.contains c) (hstop : Stops set rest) :
    (many1 set).Passes run rest := by
  intro s hafter
  match run with
  | [] => exact absurd rfl hne
  | c :: run =>
    have hstep : (one set).Prefers s (s.skip [c] (run ++ rest)) := .one hafter (hrun c List.mem_cons_self)
    have hmore := further_one (s := s.skip [c] (run ++ rest)) rfl
      (fun d hd => hrun d (List.mem_cons_of_mem c hd)) hstop
    rw [Spot.skip_skip] at hmore
    have hfirst : (exactly (one set).results 1 s).head? = some (s.skip [c] (run ++ rest)) := by
      simpa [exactly, Prefers] using hstep
    simp only [Prefers, Pattern.many1, results]
    exact head?_flatMap_of_head? hfirst hmore

/-- One character. -/
theorem one {c : Char} (hc : set.contains c) : (one set).Passes [c] rest :=
  fun _ hafter => .one hafter hc

theorem optional (hp : p.Passes run rest) : (Pattern.optional p).Passes run rest :=
  fun s hafter => (hp s hafter).optional

/-- Nothing in front of a rest that the pattern does not match. -/
theorem optional_of_none (hp : ∀ s : Spot, s.after = rest → p.results s = []) :
    (Pattern.optional p).Passes [] rest := by
  intro s hafter
  obtain rfl : s.after = rest := hafter
  rw [Spot.skip_nil]
  exact .optional_of_none (hp s rfl)

theorem alt_left (hp : p.Passes run rest) : (alt p q).Passes run rest :=
  fun s hafter => (hp s hafter).alt_left

theorem alt_right (hp : ∀ s : Spot, s.after = run ++ rest → p.results s = []) (hq : q.Passes run rest) :
    (alt p q).Passes run rest :=
  fun s hafter => .alt_right (hp s hafter) (hq s hafter)

end Passes

namespace Prefers

variable {ps : List Pattern}

/-- A sequence whose first pattern passes a stretch. -/
theorem pass (hp : p.Passes run rest) (hafter : s.after = run ++ rest)
    (hrest : (sequence ps).Prefers (s.skip run rest) t) : (sequence (p :: ps)).Prefers s t :=
  (hp s hafter).seq hrest

/-- A sequence that begins with a group. -/
theorem capture {index : Nat} (hp : p.Passes run rest) (hafter : s.after = run ++ rest)
    (hrest : (sequence ps).Prefers (s.capture index run rest) t) :
    (sequence (.group index p :: ps)).Prefers s t :=
  (Prefers.group (hp (s.openGroup index) hafter)).seq hrest

/-- A sequence that begins with a group of as few characters as possible, up to the first of a kind. -/
theorem captureUntil {index : Nat} {c : Char} (hafter : s.after = run ++ c :: rest)
    (hrun : ∀ d ∈ run, set.contains d) (hfirst : c ∉ run)
    (hrest : (sequence (.one (.char c) :: ps)).Prefers (s.capture index run (c :: rest)) t) :
    (sequence (.group index (few set) :: .one (.char c) :: ps)).Prefers s t := by
  have hbody : (((few set).results (s.openGroup index)).flatMap fun u =>
      (sequence (.one (.char c) :: ps)).results (u.closeGroup index)).head? = some t := by
    refine head?_few hafter hrun (fun front back hsplit hback => ?_) hrest
    -- Within the run there is no such character to go on with.
    match back with
    | [] => exact absurd rfl hback
    | d :: back =>
      have hne : d ≠ c := by
        rintro rfl
        exact hfirst (hsplit ▸ List.mem_append_right front List.mem_cons_self)
      have hnone : (Pattern.one (.char c)).results
          (((s.openGroup index).skip front (d :: back ++ c :: rest)).closeGroup index) = [] := by
        simp [results, Spot.closeGroup, CharSet.contains, hne]
      show (List.flatMap _ _) = []
      rw [hnone]
      rfl
  show ((((few set).results (s.openGroup index)).map (·.closeGroup index)).flatMap _).head? = _
  rw [List.flatMap_map]
  exact hbody

end Prefers

/-! ## What a search comes to -/

/-- The first spot of a search is the one where it starts. -/
theorem head?_spotsFrom (offset : Nat) (before after : List Char) :
    (spotsFrom offset before after).head? = some ⟨offset, before, after, offset, []⟩ := by
  cases after <;> rfl

/-- A search comes to the preferred match from the spot where it starts, if there is one. -/
theorem leftmost?_of_prefers (h : p.Prefers ⟨s.offset, s.before, s.after, s.offset, []⟩ t) :
    p.leftmost? s = some t :=
  head?_flatMap_of_head? (head?_spotsFrom _ _ _) h

/-- Spots with nothing in front of a place come to nothing. -/
theorem flatMap_spotsFrom_append {f : Spot → List Spot} (pre : List Char) (offset : Nat) (before : List Char)
    (hnone : ∀ front back, pre = front ++ back → back ≠ [] →
      f ⟨offset + front.length, front.reverse ++ before, back ++ rest, offset + front.length, []⟩ = []) :
    (spotsFrom offset before (pre ++ rest)).flatMap f =
      (spotsFrom (offset + pre.length) (pre.reverse ++ before) rest).flatMap f := by
  induction pre generalizing offset before with
  | nil => rfl
  | cons c pre ih =>
    have hhere : f ⟨offset, before, c :: (pre ++ rest), offset, []⟩ = [] :=
      hnone [] (c :: pre) rfl (List.cons_ne_nil c pre)
    have hlater := ih (offset + 1) (c :: before) fun front back hsplit hback => by
      have hnext := hnone (c :: front) back (congrArg (c :: ·) hsplit) hback
      simpa [Nat.add_assoc, Nat.add_comm 1] using hnext
    rw [List.cons_append, spotsFrom, List.flatMap_cons, hhere, List.nil_append, hlater]
    simp [Nat.add_assoc, Nat.add_comm 1]

/-- A search comes to what matches behind a text where no match begins. -/
theorem leftmost?_behind {pre : List Char}
    (hnone : ∀ front back, pre = front ++ back → back ≠ [] →
      p.results ⟨front.length, front.reverse, back ++ rest, front.length, []⟩ = [])
    (h : p.Prefers ⟨pre.length, pre.reverse, rest, pre.length, []⟩ t) :
    p.leftmost? (.start (pre ++ rest)) = some t := by
  have hskip : (spotsFrom 0 [] (pre ++ rest)).flatMap p.results =
      (spotsFrom (0 + pre.length) (pre.reverse ++ []) rest).flatMap p.results :=
    flatMap_spotsFrom_append pre 0 [] fun front back hsplit hback => by
      simpa using hnone front back hsplit hback
  rw [Nat.zero_add, List.append_nil] at hskip
  show ((spotsFrom 0 [] (pre ++ rest)).flatMap p.results).head? = _
  rw [hskip]
  exact head?_flatMap_of_head? (head?_spotsFrom _ _ _) h

/-- A character that every match takes is missing in the text that is left: the search comes to nothing. -/
theorem leftmost?_eq_none {c : Char} (htakes : p.takes (· = .char c)) (hc : c ∉ s.after) : p.leftmost? s = none := by
  rw [leftmost?, List.head?_eq_none_iff, List.flatMap_eq_nil_iff]
  intro t ht
  refine results_eq_nil htakes fun hmem => hc ?_
  obtain ⟨⟨a, ha, -, -⟩, -⟩ := spotsFrom_onward ht
  rw [ha]
  exact List.mem_append_right a hmem

end Pattern

end PacketReinjection.Text
