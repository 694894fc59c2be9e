import PacketReinjection.Routine

/-!
# `Proofs.Routine.Trace` — running a routine step by step

`Routine.run` gives how a run ends. `Routine.trace` gives what happened on the way: every step in its
order, beside what it gave. Statements about a handler's own register reads are statements about its
trace.

The simp lemmas of this module unroll a routine into its steps and run them one after the other; with
the conditions of its branches at hand, `simp` then computes where a handler ends.

## Contents
- **Unrolling.** Single steps, `bind` of a step, and `run` of each kind of step.
- **`Taken`** and **`Routine.trace`** — the steps of a run together with what they gave.
- **Reading a trace.** `dumpedPacket`, `dumpStatus`, `flaggedLoss`: what a capture read.
-/

namespace PacketReinjection

namespace Routine

variable {S : Type} [Platform S] {α β : Type}

/-! ## Unrolling -/

attribute [simp] take access log readRouter writeRouter readComms writeComms writeTimer writeVic
  maskFast restoreFast readClock bindInterrupt waitForInterrupt acknowledge pure_eq_done Access.apply

@[simp]
theorem step_bind (s : Step) (next : s.Result → Routine α) (f : α → Routine β) :
    (step s next >>= f) = step s fun r => next r >>= f := rfl

@[simp]
theorem done_bind (a : α) (f : α → Routine β) : (done a >>= f) = f a := rfl

@[simp]
theorem run_done (a : α) (n : Node S) : (done a).run n = (a, n) := rfl

@[simp]
theorem run_call (c : Call) (next : c.Answer → Routine α) (n : Node S) :
    (step (.call c) next).run n =
      (next (Platform.call c n.hardware).1).run
        { n with hardware := (Platform.call c n.hardware).2 } := rfl

@[simp]
theorem run_access (a : Access) (next : a.Result → Routine α) (n : Node S) :
    (step (.access a) next).run n =
      (next (a.apply n.engine).1).run { n with engine := (a.apply n.engine).2 } := rfl

@[simp]
theorem run_log (e : Event) (next : Unit → Routine α) (n : Node S) :
    (step (.log e) next).run n = (next ()).run { n with events := n.events ++ [e] } := rfl

@[simp]
theorem ite_bind (c : Prop) [Decidable c] (x y : Routine α) (f : α → Routine β) :
    (if c then x else y) >>= f = if c then x >>= f else y >>= f := by
  split <;> rfl

@[simp]
theorem run_ite (c : Prop) [Decidable c] (x y : Routine α) (n : Node S) :
    (if c then x else y).run n = if c then x.run n else y.run n := by
  split <;> rfl

end Routine

/-! ## Traces -/

/-- A step together with what it gave. -/
structure Taken where
  step : Step
  result : step.Result

namespace Routine

variable {S : Type} [Platform S] {α β : Type}

/-- The steps of a run, in their order. -/
def trace : Routine α → Node S → List Taken
  | done _, _ => []
  | step s next, n => let r := n.take s; ⟨s, r.1⟩ :: (next r.1).trace r.2

@[simp]
theorem trace_done (a : α) (n : Node S) : (done a).trace n = [] := rfl

@[simp]
theorem trace_step (s : Step) (next : s.Result → Routine α) (n : Node S) :
    (step s next).trace n = ⟨s, (n.take s).1⟩ :: (next (n.take s).1).trace (n.take s).2 := rfl

theorem trace_bind (x : Routine α) (f : α → Routine β) (n : Node S) :
    (x >>= f).trace n = x.trace n ++ (f (x.run n).1).trace (x.run n).2 := by
  rw [bind_eq]
  induction x generalizing n with
  | done a => rfl
  | step s next ih => exact congrArg (_ :: ·) (ih _ _)

end Routine

/-! ## Reading a trace -/

/-- What the first read of a router register gave, if there was one. -/
def readOf (r : RouterRegister) (trace : List Taken) : Option UInt32 :=
  trace.findSome? fun
    | ⟨.call (.readRouter r'), value⟩ => if r' = r then some value else none
    | _ => none

/-- The packet that the reads of the dump registers spell. -/
def dumpedPacket (trace : List Taken) : Option DumpedPacket := do
  let header ← readOf .dumpHeader trace
  let key ← readOf .dumpKey trace
  let payload ← readOf .dumpData trace
  return ⟨header, key, payload⟩

/-- The word that the read of the dump status gave. -/
def dumpStatus (trace : List Taken) : Option UInt32 := readOf .dumpStatus trace

/-- Whether the dump status flagged a further packet as lost, by its bit 30. -/
def flaggedLoss (trace : List Taken) : Bool :=
  (dumpStatus trace).any fun status => status &&& 0x40000000 != 0

end PacketReinjection
