import PacketReinjection.Proofs.Routine.Trace

/-!
# `Proofs.Routine.Path` — what a routine can do, whatever its steps give

Between two steps of a handler another handler may change everything that the next step looks at. What
holds of a handler even then is a statement about the tree alone: about each of its paths, with any
results for its steps.

## Contents
- **`Routine.Path`** — the paths, with their steps and their end.
- **`Routine.Only`** — every step of every path is of one kind.
- **`Step.guard`** and **`Routine.Disciplined`** — masked sections hold accesses only and end with the
  restoring call; the queue is touched nowhere else.
-/

namespace PacketReinjection

namespace Routine

variable {α β : Type}

/-! ## Paths -/

/-- The routine can take these steps, with these results, and end with this value. -/
def Path : Routine α → List Taken → α → Prop
  | done a, steps, b => steps = [] ∧ b = a
  | step s next, steps, b => ∃ r rest, steps = ⟨s, r⟩ :: rest ∧ (next r).Path rest b

@[simp]
theorem path_done (a b : α) (steps : List Taken) :
    (done a).Path steps b ↔ steps = [] ∧ b = a := Iff.rfl

@[simp]
theorem path_step (s : Step) (next : s.Result → Routine α) (steps : List Taken) (b : α) :
    (step s next).Path steps b ↔ ∃ r rest, steps = ⟨s, r⟩ :: rest ∧ (next r).Path rest b := Iff.rfl

/-- A path of two routines in a row is a path of each. -/
theorem path_bind (x : Routine α) (f : α → Routine β) (steps : List Taken) (b : β) :
    (x >>= f).Path steps b ↔
      ∃ a first second, steps = first ++ second ∧ x.Path first a ∧ (f a).Path second b := by
  rw [bind_eq]
  -- Induction on the first routine, whose steps stand at the front of either reading.
  induction x generalizing steps with
  | done a =>
    constructor
    · intro hpath
      exact ⟨a, [], steps, rfl, ⟨rfl, rfl⟩, hpath⟩
    · rintro ⟨a', first, second, rfl, ⟨rfl, rfl⟩, hpath⟩
      exact hpath
  | step s next ih =>
    constructor
    · rintro ⟨r, rest, rfl, hrest⟩
      obtain ⟨a, first, second, rfl, hfirst, hsecond⟩ := (ih r rest).mp hrest
      exact ⟨a, ⟨s, r⟩ :: first, second, rfl, ⟨r, first, rfl, hfirst⟩, hsecond⟩
    · rintro ⟨a, first, second, rfl, ⟨r, rest, rfl, hrest⟩, hsecond⟩
      exact ⟨r, rest ++ second, rfl, (ih r _).mpr ⟨a, rest, second, rfl, hrest, hsecond⟩⟩

/-- What a routine's end is turned into adds no step to its paths. -/
theorem path_bind_pure (x : Routine α) (f : α → β) (steps : List Taken) (b : β) :
    (x >>= fun a => pure (f a)).Path steps b ↔ ∃ a, x.Path steps a ∧ b = f a := by
  rw [path_bind]
  constructor
  · rintro ⟨a, first, second, rfl, hpath, rfl, rfl⟩
    exact ⟨a, by rwa [List.append_nil], rfl⟩
  · rintro ⟨a, hpath, rfl⟩
    exact ⟨a, steps, [], (List.append_nil _).symm, hpath, rfl, rfl⟩

/-- The steps of a run are a path to its result. -/
theorem path_trace {S : Type} [Platform S] (x : Routine α) (n : Node S) :
    x.Path (x.trace n) (x.run n).1 := by
  induction x generalizing n with
  | done a => exact ⟨rfl, rfl⟩
  | step s next ih => exact ⟨(n.take s).1, _, rfl, ih _ _⟩

/-! ## Kinds of steps -/

/-- Every step that the routine can take is of one kind. -/
def Only (kind : Step → Bool) : Routine α → Prop
  | done _ => True
  | step s next => kind s = true ∧ ∀ r, (next r).Only kind

section Only

variable {kind : Step → Bool}

@[simp]
theorem only_done (a : α) : (done a).Only kind := trivial

@[simp]
theorem only_step (s : Step) (next : s.Result → Routine α) :
    (step s next).Only kind ↔ kind s = true ∧ ∀ r, (next r).Only kind := Iff.rfl

@[simp]
theorem only_ite (c : Prop) [Decidable c] (x y : Routine α) :
    (if c then x else y).Only kind ↔ (c → x.Only kind) ∧ (¬c → y.Only kind) := by
  split <;> simp [*]

theorem only_bind {x : Routine α} {f : α → Routine β} (hx : x.Only kind) (hf : ∀ a, (f a).Only kind) :
    (x >>= f).Only kind := by
  rw [bind_eq]
  induction x with
  | done a => exact hf a
  | step s next ih => exact ⟨hx.1, fun r => ih r (hx.2 r)⟩

theorem Only.of_path {x : Routine α} (hx : x.Only kind) {steps : List Taken} {a : α}
    (hpath : x.Path steps a) : ∀ taken ∈ steps, kind taken.step = true := by
  induction x generalizing steps with
  | done b =>
    rw [hpath.1]
    exact fun _ h => absurd h List.not_mem_nil
  | step s next ih =>
    obtain ⟨r, rest, rfl, hrest⟩ := hpath
    intro taken htaken
    rcases List.mem_cons.mp htaken with rfl | htaken
    · exact hx.1
    · exact ih r (hx.2 r) hrest taken htaken

theorem Only.mono {kind' : Step → Bool} (hmono : ∀ s, kind s = true → kind' s = true) {x : Routine α}
    (hx : x.Only kind) : x.Only kind' := by
  induction x with
  | done a => exact trivial
  | step s next ih => exact ⟨hmono s hx.1, fun r => ih r (hx.2 r)⟩

end Only

end Routine

/-! ## Masked sections -/

/-- Whether an access checks or moves the ends of the queue. -/
def Access.touchesQueue : Access → Bool
  | .enqueue _ | .dequeue | .queueIsEmpty => true
  | .config | .isEnabled _ | .classMask | .setClassMask _ | .count _ | .statistics
  | .resetStatistics | .queueLength | .transmitSource | .setTransmitSource _ | .isRunning
  | .stop => false

/-- Where a step leads with respect to masked sections: `none` is outside, `some saved` is inside a
    section that has to restore `saved`. Steps that break the discipline lead nowhere. -/
def Step.guard : Option UInt32 → (s : Step) → s.Result → Option (Option UInt32)
  | none, .call .maskFast, saved => some (some saved)
  | none, .call (.restoreFast _), _ => none
  | none, .call _, _ => some none
  | none, .access a, _ => if a.touchesQueue then none else some none
  | none, .log _, _ => some none
  | some saved, .call (.restoreFast v), _ => if v = saved then some none else none
  | some _, .call _, _ => none
  | some saved, .access _, _ => some (some saved)
  | some _, .log _, _ => none

/-- Whether a step neither masks nor restores, nor touches the queue. -/
def Step.isOpen : Step → Bool
  | .call .maskFast | .call (.restoreFast _) => false
  | .call _ | .log _ => true
  | .access a => !a.touchesQueue

theorem Step.guard_of_isOpen {s : Step} (h : s.isOpen = true) (r : s.Result) :
    s.guard none r = some none := by
  cases s with
  | call c => cases c <;> first | rfl | exact absurd h (by simp [isOpen])
  | access a => rw [guard, if_neg (by simpa [isOpen] using h)]
  | log e => rfl

namespace Routine

variable {α β : Type}

/-- From inside or outside a masked section, every path keeps the discipline and ends outside. -/
def Disciplined : Option UInt32 → Routine α → Prop
  | g, done _ => g = none
  | g, step s next => ∀ r, ∃ g', s.guard g r = some g' ∧ (next r).Disciplined g'

theorem Disciplined.bind {x : Routine α} {f : α → Routine β} {g : Option UInt32}
    (hx : x.Disciplined g) (hf : ∀ a, (f a).Disciplined none) : (x >>= f).Disciplined g := by
  rw [bind_eq]
  induction x generalizing g with
  | done a =>
    rw [show g = none from hx]
    exact hf a
  | step s next ih =>
    intro r
    obtain ⟨g', hg', hnext⟩ := hx r
    exact ⟨g', hg', ih r hnext⟩

/-- A routine that leaves mask and queue alone is disciplined. -/
theorem Only.disciplined {x : Routine α} (hx : x.Only Step.isOpen) : x.Disciplined none := by
  induction x with
  | done a => exact rfl
  | step s next ih => exact fun r => ⟨none, Step.guard_of_isOpen hx.1 r, ih r (hx.2 r)⟩

/-- An access with the fast interrupt masked around it is disciplined. -/
theorem disciplined_withFastMasked_access (a : Access) :
    (withFastMasked (access a)).Disciplined none := by
  simp [withFastMasked, Disciplined, Step.guard]

end Routine

end PacketReinjection
