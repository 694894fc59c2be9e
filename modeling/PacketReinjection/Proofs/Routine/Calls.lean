import PacketReinjection.Proofs.Routine.Trace
import PacketReinjection.Scripted

/-!
# `Proofs.Routine.Calls` — what a routine asks of the hardware

Of the steps of a run only the calls reach the hardware. What a run did to the hardware is therefore
said by its calls with the answers they got, whatever else happened between them.

## Contents
- **`callsOf`** — the calls of a trace, in their order.
- **Unrolling.** The calls of a step, and of two routines in a row.
- **`replay`** and **`run_hardware`** — the hardware after a run is the hardware after its calls.
-/

namespace PacketReinjection

/-- The call of a step, with its answer. -/
def Taken.call? : Taken → Option RecordedCall
  | ⟨.call c, answer⟩ => some ⟨c, answer⟩
  | ⟨.access _, _⟩ | ⟨.log _, _⟩ => none

/-- The calls of a trace, with their answers. -/
def callsOf (trace : List Taken) : List RecordedCall := trace.filterMap Taken.call?

/-! ## Unrolling -/

@[simp]
theorem callsOf_nil : callsOf [] = [] := rfl

@[simp]
theorem callsOf_call (c : Call) (answer : c.Answer) (trace : List Taken) :
    callsOf (⟨.call c, answer⟩ :: trace) = ⟨c, answer⟩ :: callsOf trace := rfl

@[simp]
theorem callsOf_access (a : Access) (result : a.Result) (trace : List Taken) :
    callsOf (⟨.access a, result⟩ :: trace) = callsOf trace := rfl

@[simp]
theorem callsOf_log (e : Event) (u : Unit) (trace : List Taken) :
    callsOf (⟨.log e, u⟩ :: trace) = callsOf trace := rfl

theorem callsOf_append (first second : List Taken) :
    callsOf (first ++ second) = callsOf first ++ callsOf second :=
  List.filterMap_append

section Replay

variable {S : Type} [Platform S] {α β : Type}

/-- The calls of two routines in a row. -/
theorem callsOf_trace_bind (x : Routine α) (f : α → Routine β) (n : Node S) :
    callsOf ((x >>= f).trace n)
      = callsOf (x.trace n) ++ callsOf ((f (x.run n).1).trace (x.run n).2) := by
  rw [Routine.trace_bind, callsOf_append]

/-! ## Replay -/

/-- The hardware after the given calls. -/
def replay (calls : List RecordedCall) (s : S) : S :=
  calls.foldl (fun s recorded => (Platform.call recorded.call s).2) s

/-- **The hardware changes by calls only.** -/
theorem run_hardware (x : Routine α) (n : Node S) :
    (x.run n).2.hardware = replay (callsOf (x.trace n)) n.hardware := by
  induction x generalizing n with
  | done a => rfl
  | step s next ih => cases s <;> exact ih _ _

end Replay

end PacketReinjection
