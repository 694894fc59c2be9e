import PacketReinjection.Routine

/-!
# `Idle` — the idle loop

The processor sleeps until the exit command clears the running flag. What happens while it sleeps is a
list of wakes, each of which does whatever the interrupts did in the meantime.

## Contents
- **`idleLoop`** — the loop over any state.
- **`Node.idle`** — the loop of an engine on its hardware.
-/

namespace PacketReinjection

/-- Sleep while `running` holds. Each sleep ends with the next of the wakes; when they are used up, with
    `last`, after which the loop is left. The results of the wakes are given in order. -/
def idleLoop {σ α : Type} (running : σ → Bool) (sleep : σ → σ) (last : σ → α × σ) :
    List (σ → α × σ) → σ → List α × σ
  | [], s =>
    if running s then
      let woken := last (sleep s)
      ([woken.1], woken.2)
    else
      ([], s)
  | wake :: wakes, s =>
    if running s then
      let woken := wake (sleep s)
      let later := idleLoop running sleep last wakes woken.2
      (woken.1 :: later.1, later.2)
    else
      ([], s)

/-- The idle loop of an engine on its hardware. -/
def Node.idle {S α : Type} [Platform S] (last : Node S → α × Node S)
    (wakes : List (Node S → α × Node S)) (n : Node S) : List α × Node S :=
  idleLoop (fun n => n.engine.running) (fun n => (Routine.waitForInterrupt.run n).2) last wakes n

end PacketReinjection
