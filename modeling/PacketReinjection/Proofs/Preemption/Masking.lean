import PacketReinjection.Proofs.Preemption.Moments

/-!
# `Proofs.Preemption.Masking` — when the fast interrupt is masked

A disciplined handler masks the fast interrupt exactly around its accesses to the queue. So the queue's
ends are never checked or moved with the capture able to come in, and no access to the hardware is made
with the capture kept out, but for the call that lets it in again.

## Contents
- **`Moment.MaskLaw`** — the law of one moment.
- **`Step.guard_masks`** — one step takes mask and nesting where the discipline says.
- **`Routine.Disciplined.masks`** — a whole handler under any schedule.
-/

namespace PacketReinjection.Preemption

/-- When the fast interrupt may be masked, and when it has to be. -/
def Moment.MaskLaw (m : Moment) : Prop :=
  match m.happening with
  | .own ⟨.call (.restoreFast _), _⟩ => m.before.hardware.fastMasked = true
  | .own ⟨.call _, _⟩ | .own ⟨.log _, _⟩ => m.before.hardware.fastMasked = false
  | .own ⟨.access a, _⟩ => a.touchesQueue = true → m.before.hardware.fastMasked = true
  | .dumped _ | .blocked _ | .captured _ => m.before.hardware.fastMasked = false

/-- A burst leaves the mask as it is and keeps its law where the fast interrupt is not masked. -/
theorem masks_interfere (burst : Burst) {n : Node Simulation} (hn : n.hardware.fastMasked = false) :
    (∀ m ∈ (interfere burst n).1, m.MaskLaw)
      ∧ (interfere burst n).2.hardware.fastMasked = false := by
  induction burst generalizing n with
  | nil => exact ⟨fun _ h => absurd h List.not_mem_nil, hn⟩
  | cons i is ih =>
    have hafter : (i.moment n).after.hardware.fastMasked = false := by
      cases i with
      | dump p =>
        show (n.hardware.injectDump p).2.fastMasked = false
        unfold Simulation.injectDump
        split <;> exact hn
      | block blocked => exact hn
      | capture =>
        show (n.perform .capture).2.hardware.fastMasked = false
        rw [perform_capture_snd]
        exact hn
    have hlaw : (i.moment n).MaskLaw := by cases i <;> exact hn
    obtain ⟨hlater, hlast⟩ := ih hafter
    refine ⟨fun m hm => ?_, hlast⟩
    rcases List.mem_cons.mp hm with rfl | hm
    · exact hlaw
    · exact hlater m hm

end PacketReinjection.Preemption

namespace PacketReinjection

open Preemption

/-- What the discipline says of a node: the mask is on inside a masked section only, and a section
    restores an unmasked fast interrupt. -/
structure Guarded (g : Option UInt32) (depth : Nat) (n : Node Simulation) : Prop where
  masked : n.hardware.fastMasked = g.isSome
  depth_eq : depth = if g.isSome then 1 else 0
  saved : ∀ v, g = some v → v = 0

/-- A call that neither masks nor restores leaves the mask as it is. -/
theorem fastMasked_of_isOpen {c : Call} (hc : (Step.call c).isOpen = true) (s : Simulation) :
    (Platform.call c s).2.fastMasked = s.fastMasked := by
  cases c with
  | maskFast => exact Bool.noConfusion hc
  | restoreFast saved => exact Bool.noConfusion hc
  | readRouter r => cases r <;> rfl
  | writeRouter r value => cases r <;> rfl
  | writeComms r value => cases r <;> rfl
  | writeVic r value => cases r <;> rfl
  | _ => rfl

/-- **One step of a disciplined handler.** It obeys the law of the mask and leads where the discipline
    says. -/
theorem Step.guard_masks {s : Step} {g g' : Option UInt32} {depth : Nat} {n : Node Simulation}
    (hn : Guarded g depth n) (hg : s.guard g (n.take s).1 = some g') :
    (ownMoment s n).MaskLaw ∧ Guarded g' (s.depthAfter depth) (ownMoment s n).after := by
  obtain ⟨hmasked, hdepth, hsaved⟩ := hn
  cases g with
  | none =>
    -- Outside of sections: only the masking call leads inside, and the queue is out of bounds.
    cases s with
    | call c =>
      by_cases hopen : (Step.call c).isOpen = true
      · have hg' : g' = none := by
          rw [Step.guard_of_isOpen hopen] at hg
          exact (Option.some.inj hg).symm
        have hdepth' : (Step.call c).depthAfter depth = depth := by
          cases c <;> first | rfl | exact Bool.noConfusion hopen
        have hlaw : (ownMoment (.call c) n).MaskLaw := by
          cases c <;> first | exact hmasked | exact Bool.noConfusion hopen
        refine ⟨hlaw, ?_⟩
        rw [hg', hdepth']
        exact ⟨(fastMasked_of_isOpen hopen n.hardware).trans hmasked, hdepth, hsaved⟩
      · cases c with
        | maskFast =>
          have hzero : (n.take (.call .maskFast)).1 = (0 : UInt32) := by
            show (if n.hardware.fastMasked then 1 else 0 : UInt32) = 0
            rw [hmasked]
            rfl
          rw [hzero] at hg
          obtain rfl : some 0 = g' := Option.some.inj hg
          refine ⟨hmasked, rfl, ?_, fun v hv => (Option.some.inj hv).symm⟩
          rw [hdepth]
          rfl
        | restoreFast saved => exact absurd hg (by simp [Step.guard])
        | _ => exact absurd rfl hopen
    | access a =>
      simp only [Step.guard] at hg
      split at hg
      · exact absurd hg (by simp)
      · rename_i hkept
        obtain rfl : none = g' := Option.some.inj hg
        exact ⟨fun htouch => absurd htouch hkept, hmasked, hdepth, hsaved⟩
    | log e =>
      obtain rfl : none = g' := Option.some.inj hg
      exact ⟨hmasked, hmasked, hdepth, hsaved⟩
  | some saved =>
    -- Inside a section: accesses stay inside, and the restoring call is the only way out.
    cases s with
    | call c =>
      cases c with
      | restoreFast v =>
        simp only [Step.guard] at hg
        split at hg
        · rename_i hv
          obtain rfl : none = g' := Option.some.inj hg
          refine ⟨hmasked, ?_, ?_, fun _ h => absurd h (by simp)⟩
          · show (v != 0) = false
            rw [hv, hsaved saved rfl]
            rfl
          · rw [hdepth]
            rfl
        · exact absurd hg (by simp)
      | _ => exact absurd hg (by simp [Step.guard])
    | access a =>
      obtain rfl : some saved = g' := Option.some.inj hg
      exact ⟨fun _ => hmasked, hmasked, hdepth, hsaved⟩
    | log e => exact absurd hg (by simp [Step.guard])

namespace Routine

variable {α : Type}

/-- **A disciplined handler under any schedule.** Every moment obeys the law of the mask, and the fast
    interrupt is unmasked at the end. -/
theorem Disciplined.masks {x : Routine α} {g : Option UInt32} (hx : x.Disciplined g) {depth : Nat}
    {n : Node Simulation} (hn : Guarded g depth n) (bursts : List Burst) :
    (∀ m ∈ (x.runPreempted depth bursts n).1, m.MaskLaw)
      ∧ (x.runPreempted depth bursts n).2.2.hardware.fastMasked = false := by
  induction x generalizing g depth n bursts with
  | done a =>
    refine ⟨fun _ h => absurd h List.not_mem_nil, ?_⟩
    rw [show g = none from hx] at hn
    exact hn.masked
  | step s next ih =>
    obtain ⟨burst, later, hquiet, hrun⟩ := runPreempted_step s next depth bursts n
    -- What comes in before the step comes in outside of every masked section.
    have hburst : (∀ m ∈ (interfere burst n).1, m.MaskLaw) ∧ Guarded g depth (interfere burst n).2 := by
      cases g with
      | none =>
        obtain ⟨hlaws, hmasked⟩ := masks_interfere burst hn.masked
        exact ⟨hlaws, hmasked, hn.depth_eq, hn.saved⟩
      | some saved =>
        have hdeep : s.preemptible depth = false := by
          rw [hn.depth_eq]
          cases s <;> rfl
        rw [hquiet hdeep]
        exact ⟨fun _ h => absurd h List.not_mem_nil, hn⟩
    obtain ⟨g', hg', hnext⟩ := hx ((interfere burst n).2.take s).1
    obtain ⟨hlaw, hn'⟩ := Step.guard_masks hburst.2 hg'
    obtain ⟨hlater, hlast⟩ := ih _ hnext hn' later
    rw [hrun]
    refine ⟨fun m hm => ?_, hlast⟩
    rcases List.mem_append.mp hm with hm | hm
    · exact hburst.1 m hm
    · rcases List.mem_cons.mp hm with rfl | hm
      · exact hlaw
      · exact hlater m hm

end Routine

end PacketReinjection
