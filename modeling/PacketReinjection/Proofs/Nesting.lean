import PacketReinjection.Proofs.CallDiscipline

/-!
# `Proofs.Nesting` — masked sections nest

A section keeps what the masking call answered and gives it back at its end. So sections that stand one
in the other give back their answers in reverse, whatever these are, and what runs inside them is what
runs on the node that was masked so often.

On simulated hardware the answer tells whether the fast interrupt was masked before. A handler makes each
of its masking calls right before the call that restores its answer (`Sectioned`), and no other call of a
handler changes the mask. A handler that begins masked is therefore masked throughout, its own sections
included, and every handler leaves the mask as it found it.

## Contents
- **Holding.** `Node.hold` and `Node.release`; `nestFastMasked_spec` for any routine on any hardware.
- **Answers.** `Answered`: what a run has on record is what the hardware answered.
- **The mask.** `Sectioned.fastMasked_replay` and `fastMasked_nestFastMasked`.
- **`masked_sections_nest`**.
-/

namespace PacketReinjection

open Routine

/-! ## Holding -/

/-- The step of a masking call. -/
def maskStep (saved : UInt32) : Taken := ⟨.call .maskFast, saved⟩

/-- The step of a restoring call. -/
def restoreStep (saved : UInt32) : Taken := ⟨.call (.restoreFast saved), ()⟩

section Holding

variable {S : Type} [Platform S]

/-- Mask the fast interrupt so many times. Gives what the calls answered, the first one first. -/
def Node.hold : Nat → Node S → List UInt32 × Node S
  | 0, n => ([], n)
  | depth + 1, n =>
    let first := n.take (.call .maskFast)
    let later := Node.hold depth first.2
    (first.1 :: later.1, later.2)

/-- Restore one state of the fast interrupt after the other. -/
def Node.release : List UInt32 → Node S → Node S
  | [], n => n
  | saved :: rest, n => Node.release rest (n.take (.call (.restoreFast saved))).2

theorem Node.release_concat (saved : List UInt32) (last : UInt32) (n : Node S) :
    n.release (saved ++ [last]) = ((n.release saved).take (.call (.restoreFast last))).2 := by
  induction saved generalizing n with
  | nil => rfl
  | cons v saved ih => exact ih _

theorem Node.length_hold (depth : Nat) (n : Node S) : (n.hold depth).1.length = depth := by
  induction depth generalizing n with
  | zero => rfl
  | succ depth ih => exact congrArg (· + 1) (ih _)

/-- To mask the fast interrupt touches nothing but the hardware. -/
theorem Node.hold_memory (depth : Nat) (n : Node S) :
    (n.hold depth).2.engine = n.engine ∧ (n.hold depth).2.events = n.events := by
  induction depth generalizing n with
  | zero => exact ⟨rfl, rfl⟩
  | succ depth ih => exact ih _

variable {α : Type}

theorem trace_withFastMasked (x : Routine α) (n : Node S) :
    let masked := n.take (.call .maskFast)
    (withFastMasked x).trace n = maskStep masked.1 :: x.trace masked.2 ++ [restoreStep masked.1] := by
  intro masked
  show maskStep masked.1 :: (x >>= fun a => restoreFast masked.1 >>= fun _ => pure a).trace masked.2 = _
  rw [trace_bind]
  rfl

theorem run_withFastMasked (x : Routine α) (n : Node S) :
    let masked := n.take (.call .maskFast)
    (withFastMasked x).run n =
      ((x.run masked.2).1, ((x.run masked.2).2.take (.call (.restoreFast masked.1))).2) := by
  intro masked
  show (x >>= fun a => restoreFast masked.1 >>= fun _ => pure a).run masked.2 = _
  rw [run_bind]
  rfl

/-- **Sections one in the other**: so many masking calls, the routine, and the restoring calls with the
    answers in reverse. -/
theorem nestFastMasked_spec (x : Routine α) (depth : Nat) (n : Node S) :
    let held := n.hold depth
    (x.nestFastMasked depth).trace n =
        held.1.map maskStep ++ x.trace held.2 ++ held.1.reverse.map restoreStep
      ∧ (x.nestFastMasked depth).run n = ((x.run held.2).1, (x.run held.2).2.release held.1.reverse) := by
  induction depth generalizing n with
  | zero => exact ⟨by simp [Node.hold, nestFastMasked], rfl⟩
  | succ depth ih =>
    obtain ⟨htrace, hrun⟩ := ih (n.take (.call .maskFast)).2
    refine ⟨?_, ?_⟩
    · rw [nestFastMasked, trace_withFastMasked, htrace]
      simp [Node.hold]
    · rw [nestFastMasked, run_withFastMasked, hrun]
      simp only [Node.hold, List.reverse_cons, Node.release_concat]

end Holding

/-! ## Answers -/

section Answers

variable {S : Type} [Platform S]

/-- The answers on record are those that the hardware gives to the calls, made one after the other. -/
def Answered : List RecordedCall → S → Prop
  | [], _ => True
  | c :: calls, s => c.answer = (Platform.call c.call s).1 ∧ Answered calls (Platform.call c.call s).2

theorem answered_trace {α : Type} (x : Routine α) (n : Node S) :
    Answered (callsOf (x.trace n)) n.hardware := by
  induction x generalizing n with
  | done a => trivial
  | step s next ih =>
    cases s with
    | call c => exact ⟨rfl, ih _ _⟩
    | access a => exact ih _ _
    | log e => exact ih _ _

end Answers

/-! ## The mask -/

/-- A call that neither masks nor restores leaves the mask as it is. -/
theorem fastMasked_of_switchesMask {c : Call} (hc : c.switchesMask = false) (s : Simulation) :
    (Platform.call c s).2.fastMasked = s.fastMasked :=
  fastMasked_of_isOpen (by cases c <;> first | rfl | exact Bool.noConfusion hc) s

/-- A masked section gives back the mask that it found. -/
theorem fastMasked_maskedSection {saved : UInt32} {s : Simulation}
    (hsaved : saved = (Platform.call .maskFast s).1) :
    (replay (maskedSection saved) s).fastMasked = s.fastMasked := by
  subst hsaved
  show ((if s.fastMasked then 1 else 0 : UInt32) != 0) = s.fastMasked
  cases s.fastMasked <;> rfl

/-- **Calls in sections leave the mask as they find it**, and a mask that was there before stays on during
    all of them. -/
theorem Sectioned.fastMasked_replay {calls : List RecordedCall} (h : Sectioned calls) {s : Simulation}
    (hanswered : Answered calls s) :
    (replay calls s).fastMasked = s.fastMasked
      ∧ (s.fastMasked = true → ∀ before, before <+: calls → (replay before s).fastMasked = true) := by
  induction h generalizing s with
  | nil =>
    refine ⟨rfl, fun hmasked before hbefore => ?_⟩
    rw [List.prefix_nil.mp hbefore]
    exact hmasked
  | @plain c calls hc _ ih =>
    obtain ⟨hlast, hthroughout⟩ := ih hanswered.2
    have hkept := fastMasked_of_switchesMask hc s
    refine ⟨hlast.trans hkept, fun hmasked before hbefore => ?_⟩
    obtain rfl | ⟨rest, rfl, hrest⟩ := List.prefix_cons_iff.mp hbefore
    · exact hmasked
    · exact hthroughout (hkept.trans hmasked) rest hrest
  | @masked saved calls _ ih =>
    obtain ⟨hsaved, -, hlater⟩ := hanswered
    obtain ⟨hlast, hthroughout⟩ := ih hlater
    have hkept := fastMasked_maskedSection hsaved
    refine ⟨hlast.trans hkept, fun hmasked before hbefore => ?_⟩
    -- Before the section, inside it, or behind it.
    obtain rfl | ⟨inside, rfl, hinside⟩ := List.prefix_cons_iff.mp hbefore
    · exact hmasked
    · obtain rfl | ⟨behind, rfl, hbehind⟩ := List.prefix_cons_iff.mp hinside
      · rfl
      · exact hthroughout (hkept.trans hmasked) behind hbehind

theorem sectioned_operation {S : Type} [Platform S] (op : Operation) (n : Node S) :
    Sectioned (callsOf (op.routine.trace n)) :=
  (callLaw_perform n op).sectioned

theorem fastMasked_hold (depth : Nat) (n : Node Simulation) :
    (n.hold depth).2.hardware.fastMasked = (n.hardware.fastMasked || decide (0 < depth)) := by
  induction depth generalizing n with
  | zero => simp [Node.hold]
  | succ depth ih =>
    show ((n.take (.call .maskFast)).2.hold depth).2.hardware.fastMasked = _
    rw [ih]
    simp [Node.take, Platform.call, Simulation.answer]

/-- **The mask is as before all of the sections.** Of the answers given back the last one decides, and that
    is the answer to the first masking call. -/
theorem fastMasked_nestFastMasked (op : Operation) (depth : Nat) (n : Node Simulation) :
    ((op.routine.nestFastMasked depth).run n).2.hardware.fastMasked = n.hardware.fastMasked := by
  cases depth with
  | zero =>
    show (op.routine.run n).2.hardware.fastMasked = _
    rw [run_hardware]
    exact ((sectioned_operation op n).fastMasked_replay (answered_trace _ n)).1
  | succ depth =>
    rw [nestFastMasked, run_withFastMasked]
    show ((if n.hardware.fastMasked then 1 else 0 : UInt32) != 0) = _
    cases n.hardware.fastMasked <;> rfl

/-- **Masked sections nest.** However deep in masked sections an operation is carried out, and on any
    hardware: there are so many masking calls, then the steps of the operation, then as many restoring calls
    with the answers in reverse, and what the operation gives is what it gives on the node masked so often.
    On simulated hardware the fast interrupt is masked before and after each call that the operation makes
    inside a section, and when all sections have ended it is masked exactly if it was to begin with. An
    operation that begins with the fast interrupt masked never unmasks it. -/
theorem masked_sections_nest (op : Operation) (depth : Nat) :
    (∀ {S : Type} [Platform S] (n : Node S),
      let held := n.hold depth
      held.1.length = depth ∧ held.2.engine = n.engine ∧ held.2.events = n.events
        ∧ (op.routine.nestFastMasked depth).trace n =
          held.1.map maskStep ++ op.routine.trace held.2 ++ held.1.reverse.map restoreStep
        ∧ (op.routine.nestFastMasked depth).run n =
          ((op.routine.run held.2).1, (op.routine.run held.2).2.release held.1.reverse))
    ∧ (∀ n : Node Simulation,
      (0 < depth → ∀ before, before <+: callsOf (op.routine.trace (n.hold depth).2) →
        (replay before (n.hold depth).2.hardware).fastMasked = true)
      ∧ ((op.routine.nestFastMasked depth).run n).2.hardware.fastMasked = n.hardware.fastMasked)
    ∧ ∀ n : Node Simulation, n.hardware.fastMasked = true →
      ∀ before, before <+: callsOf (op.routine.trace n) → (replay before n.hardware).fastMasked = true := by
  have hmasked (n : Node Simulation) (hn : n.hardware.fastMasked = true) :=
    ((sectioned_operation op n).fastMasked_replay (answered_trace op.routine n)).2 hn
  refine ⟨fun n => ?_, fun n => ⟨fun hdepth => ?_, fastMasked_nestFastMasked op depth n⟩, hmasked⟩
  · exact ⟨n.length_hold depth, (n.hold_memory depth).1, (n.hold_memory depth).2,
      nestFastMasked_spec op.routine depth n⟩
  · exact hmasked _ (by rw [fastMasked_hold, decide_eq_true hdepth, Bool.or_true])

/-- A node with one packet in its queue. -/
def loadedNode : Node Simulation :=
  ((Node.fresh { Simulation.fresh with dump := some ⟨0, 7, 0⟩ } EngineConfig.standard).perform .capture).2

/-- A packet is sent inside two sections, and again with the fast interrupt masked from the start: the
    handler's own section has ended after three calls, and the mask is still on. -/
theorem masked_sections_nest_sending :
    let op := Operation.transmitterReady
    let calls := [routerRead .status 0] ++ maskedSection 1
    loadedNode.hardware.fastMasked = false ∧ (loadedNode.hold 1).2.hardware.fastMasked = true
    ∧ (op.routine.nestFastMasked 2).trace loadedNode =
      [maskStep 0, maskStep 1] ++ op.routine.trace (loadedNode.hold 2).2 ++ [restoreStep 1, restoreStep 0]
    ∧ calls <+: callsOf (op.routine.trace (loadedNode.hold 2).2)
    ∧ (replay calls (loadedNode.hold 2).2.hardware).fastMasked = true
    ∧ ((op.routine.nestFastMasked 2).run loadedNode).2.hardware.fastMasked = false
    ∧ (replay calls (loadedNode.hold 1).2.hardware).fastMasked = true := by
  intro op calls
  obtain ⟨hany, hsimulated, hmasked⟩ := masked_sections_nest op 2
  have hnested : calls <+: callsOf (op.routine.trace (loadedNode.hold 2).2) :=
    ⟨preparingCalls 0 ⟨0, 7, 0⟩ ++ [commsWritten .txKey 7, acknowledged], rfl⟩
  have halone : calls <+: callsOf (op.routine.trace (loadedNode.hold 1).2) :=
    ⟨preparingCalls 0 ⟨0, 7, 0⟩ ++ [commsWritten .txKey 7, acknowledged], rfl⟩
  exact ⟨rfl, rfl, (hany loadedNode).2.2.2.1, hnested, (hsimulated loadedNode).1 (by decide) calls hnested,
    (hsimulated loadedNode).2, hmasked _ rfl calls halone⟩

end PacketReinjection
