import Mathlib.Logic.Function.Iterate
import PacketReinjection.Proofs.Finality
import PacketReinjection.Proofs.Routine.HandlerSteps

/-!
# `Proofs.IdleLoop` — the idle loop stops exactly at exit

The loop asks one question before each sleep: whether the engine still runs. Only what happens during
the sleep can change the answer. So the loop takes its steps in order up to the first one that leaves
the engine stopped, an exit that is looked at, and takes none after it; it sleeps once for each.

The loop is read in two ways here. `Node.idle` computes it from the list of the wakes and gives what
they did. `Idling.turn` is one turn of it, with no end in sight: that the loop is left at all, and when,
is a statement about how often the turn is taken.

## Contents
- **`Waiting`** — hardware that counts its sleeps; `perform_withWaits`: nothing but the loop sleeps.
- **`Idling`** — one turn of the loop; `Idling.node_iterate_turn`.
- **Stopping.** `exists_first_stop`, `idle_of_first_stop` and `idle_stops_exactly_at_exit`.
-/

namespace PacketReinjection

open Routine

variable {S : Type}

/-! ## Counting the sleeps -/

/-- Hardware together with a count of its sleeps. -/
structure Waiting (S : Type) where
  hardware : S
  waits : Nat

/-- A sleep is counted and does nothing else. What happens meanwhile is up to the loop. -/
instance [Platform S] : Platform (Waiting S) where
  call
    | .wait, s => ((), { s with waits := s.waits + 1 })
    | c, s => let r := Platform.call c s.hardware; (r.1, { s with hardware := r.2 })

/-- A node whose hardware has slept so often. -/
def Node.withWaits (n : Node S) (waits : Nat) : Node (Waiting S) :=
  ⟨⟨n.hardware, waits⟩, n.engine, n.events⟩

section Counting

variable [Platform S]

theorem run_wait_withWaits (n : Node S) (waits : Nat) :
    (waitForInterrupt.run (n.withWaits waits)).2 = n.withWaits (waits + 1) := rfl

/-- A step that is no sleep is the step of the hardware underneath. -/
theorem take_withWaits {s : Step} (hs : s.isAwake = true) (n : Node S) (waits : Nat) :
    (n.withWaits waits).take s = ((n.take s).1, (n.take s).2.withWaits waits) := by
  cases s with
  | call c =>
    cases c with
    | wait => exact Bool.noConfusion hs
    | _ => rfl
  | access a => rfl
  | log e => rfl

/-- So a routine that does not sleep runs there as it does without a count. -/
theorem run_withWaits {α : Type} {x : Routine α} (hx : x.Only Step.isAwake) (n : Node S)
    (waits : Nat) :
    x.run (n.withWaits waits) = ((x.run n).1, (x.run n).2.withWaits waits)
      ∧ x.trace (n.withWaits waits) = x.trace n := by
  induction x generalizing n with
  | done a => exact ⟨rfl, rfl⟩
  | step s next ih =>
    obtain ⟨hs, hnext⟩ := hx
    obtain ⟨hrun, htrace⟩ := ih (n.take s).1 (hnext _) (n.take s).2
    refine ⟨?_, ?_⟩
    · rw [Routine.run, take_withWaits hs]
      exact hrun
    · rw [Routine.trace, take_withWaits hs]
      exact congrArg (_ :: ·) htrace

/-- **No operation sleeps.** -/
theorem perform_withWaits (op : Operation) (n : Node S) (waits : Nat) :
    (n.withWaits waits).perform op = ((n.perform op).1, (n.perform op).2.withWaits waits) := by
  obtain ⟨hrun, htrace⟩ := run_withWaits (only_awake op) n waits
  simp only [Node.perform, hrun, htrace]
  rfl

end Counting

/-! ## One turn of the loop -/

/-- A node in the idle loop, and the operations that will wake it. -/
structure Idling (S : Type) where
  wakes : List Operation
  node : Node (Waiting S)

namespace Idling

/-- The condition under which the loop goes on. -/
def goesOn (s : Idling S) : Bool := s.node.engine.running

variable [Platform S]

/-- One turn: the processor sleeps, and the next operation wakes it, the last one again and again when
    there are no more. -/
def turn (last : Operation) (s : Idling S) : Idling S :=
  ⟨s.wakes.tail, ((waitForInterrupt.run s.node).2.perform (s.wakes.headD last)).2⟩

/-- **A number of turns** is the same number of operations and of sleeps, as long as the operations last.
    -/
theorem node_iterate_turn (last : Operation) (wakes : List Operation) (n : Node S) (waits : Nat) {k : Nat}
    (hk : k ≤ wakes.length + 1) :
    ((turn last)^[k] ⟨wakes, n.withWaits waits⟩).node
      = (n.performAll ((wakes ++ [last]).take k)).2.withWaits (waits + k) := by
  induction wakes generalizing n waits k with
  | nil =>
    obtain rfl | rfl : k = 0 ∨ k = 1 := by rw [List.length_nil] at hk; omega
    · rfl
    · exact congrArg Prod.snd (perform_withWaits last n (waits + 1))
  | cons op wakes ih =>
    cases k with
    | zero => rfl
    | succ k =>
      have hturn : turn last ⟨op :: wakes, n.withWaits waits⟩
          = ⟨wakes, (n.perform op).2.withWaits (waits + 1)⟩ :=
        congrArg (Idling.mk wakes) (congrArg Prod.snd (perform_withWaits op n (waits + 1)))
      rw [Function.iterate_succ_apply, hturn,
        ih (n.perform op).2 (waits + 1) (Nat.le_of_succ_le_succ hk), Nat.add_right_comm]
      rfl

end Idling

/-! ## Stopping -/

section Stopping

variable [Platform S]

/-- After an exit the engine is stopped, so there is a first operation that leaves it so, if it is not
    stopped before all of them. -/
theorem exists_first_stop {bytes : List UInt8} (hexit : FrameTable.AsksExit bytes)
    (wakes : List Operation) (n : Node S) :
    ∃ k ≤ wakes.length + 1,
      (∀ j < k, (n.performAll ((wakes ++ [Operation.frame bytes]).take j)).2.engine.running = true)
        ∧ (n.performAll ((wakes ++ [Operation.frame bytes]).take k)).2.engine.running = false := by
  induction wakes generalizing n with
  | nil =>
    cases hrunning : n.engine.running with
    | false => exact ⟨0, Nat.zero_le _, fun j hj => absurd hj (Nat.not_lt_zero j), hrunning⟩
    | true =>
      refine ⟨1, Nat.le_refl _, fun j hj => ?_, ?_⟩
      · obtain rfl : j = 0 := by omega
        exact hrunning
      · show (n.perform (.frame bytes)).2.engine.running = false
        simp [running_perform, Operation.asksExit, hrunning, hexit]
  | cons op wakes ih =>
    cases hrunning : n.engine.running with
    | false => exact ⟨0, Nat.zero_le _, fun j hj => absurd hj (Nat.not_lt_zero j), hrunning⟩
    | true =>
      obtain ⟨k, hk, hbefore, hstop⟩ := ih (n.perform op).2
      refine ⟨k + 1, Nat.succ_le_succ hk, fun j hj => ?_, hstop⟩
      cases j with
      | zero => exact hrunning
      | succ j => exact hbefore j (Nat.lt_of_succ_lt_succ hj)

/-- The loop takes the operations up to the first that leaves the engine stopped. -/
theorem idle_of_first_stop {last : Operation} {wakes : List Operation} {n : Node S} {k : Nat}
    (waits : Nat) (hk : k ≤ wakes.length + 1)
    (hbefore : ∀ j < k, (n.performAll ((wakes ++ [last]).take j)).2.engine.running = true)
    (hstop : (n.performAll ((wakes ++ [last]).take k)).2.engine.running = false) :
    (n.withWaits waits).idle (fun m => m.perform last) (wakes.map fun op m => m.perform op)
      = ((n.performAll ((wakes ++ [last]).take k)).1,
        (n.performAll ((wakes ++ [last]).take k)).2.withWaits (waits + k)) := by
  induction wakes generalizing n waits k with
  | nil =>
    obtain rfl | rfl : k = 0 ∨ k = 1 := by rw [List.length_nil] at hk; omega
    · exact idle_of_stopped (n := n.withWaits waits) hstop _ _
    · have hrunning : (n.withWaits waits).engine.running = true := hbefore 0 Nat.one_pos
      simp only [Node.idle, List.map_nil, idleLoop, hrunning, if_true, run_wait_withWaits,
        perform_withWaits]
      rfl
  | cons op wakes ih =>
    cases k with
    | zero => exact idle_of_stopped (n := n.withWaits waits) hstop _ _
    | succ k =>
      have hrunning : (n.withWaits waits).engine.running = true := hbefore 0 (Nat.succ_pos k)
      have hlater := ih (waits + 1) (Nat.le_of_succ_le_succ hk)
        (fun j hj => hbefore (j + 1) (Nat.succ_lt_succ hj)) hstop
      unfold Node.idle at hlater
      simp only [Node.idle, List.map_cons, idleLoop, hrunning, if_true, run_wait_withWaits,
        perform_withWaits, hlater, Nat.add_right_comm waits 1 k]
      rfl

/-- **The idle loop stops exactly at exit.** On any hardware and in any state, let operations wake the
    processor one after the other and, when they are used up, a frame with an exit command. There is a
    first `k` so that the engine does not run after `k` of these steps, and it is none if the engine did
    not run to begin with. The loop goes on before each turn up to the `k`-th and is left after it; at
    each of its turns the node is that of executing so many steps one after the other, with one sleep for
    each; and what the loop gives is what these `k` steps did and left behind. -/
theorem idle_stops_exactly_at_exit (n : Node S) (waits : Nat) (wakes : List Operation)
    (bytes : List UInt8) (hexit : FrameTable.AsksExit bytes) :
    let executed (k : Nat) := n.performAll ((wakes ++ [Operation.frame bytes]).take k)
    let loop (k : Nat) := (Idling.turn (.frame bytes))^[k] ⟨wakes, n.withWaits waits⟩
    ∃ k ≤ wakes.length + 1,
      (∀ j < k, (executed j).2.engine.running = true) ∧ (executed k).2.engine.running = false
        ∧ (n.engine.running = false → k = 0)
        ∧ (∀ j < k, (loop j).goesOn = true) ∧ (loop k).goesOn = false
        ∧ (∀ j ≤ k, (loop j).node = (executed j).2.withWaits (waits + j))
        ∧ (n.withWaits waits).idle (fun m => m.perform (.frame bytes))
            (wakes.map fun op m => m.perform op)
          = ((executed k).1, (executed k).2.withWaits (waits + k)) := by
  intro executed loop
  obtain ⟨k, hk, hbefore, hstop⟩ := exists_first_stop hexit wakes n
  have hloop (j : Nat) (hj : j ≤ k) : (loop j).node = (executed j).2.withWaits (waits + j) :=
    Idling.node_iterate_turn (.frame bytes) wakes n waits (hj.trans hk)
  have hgoesOn (j : Nat) (hj : j ≤ k) : (loop j).goesOn = (executed j).2.engine.running := by
    rw [Idling.goesOn, hloop j hj]
    rfl
  refine ⟨k, hk, hbefore, hstop, fun hstopped => ?_, fun j hj => ?_, ?_, hloop,
    idle_of_first_stop waits hk hbefore hstop⟩
  · by_contra hpos
    exact absurd (hbefore 0 (Nat.pos_of_ne_zero hpos)) (by simp [Node.performAll, hstopped])
  · rw [hgoesOn j (Nat.le_of_lt hj)]
    exact hbefore j hj
  · rw [hgoesOn k (Nat.le_refl k)]
    exact hstop

/-- An exit for another port, one cut short and a start do not end the loop; a complete exit does, and
    the packet that would be captured after it stays where it is. -/
theorem idle_stops_exactly_at_exit_midway :
    let n := Node.fresh Simulation.fresh EngineConfig.standard
    let exit := CommandMessage.exit.toBytes
    let wakes : List Operation :=
      [.start, .frame (exit.set 2 0xFF), .frame (exit.take 20), .start, .frame exit, .start, .capture]
    FrameTable.AsksExit exit
      ∧ ((n.withWaits 0).idle (fun m => m.perform (.frame exit))
          (wakes.map fun op m => m.perform op)).2 = (n.performAll (wakes.take 5)).2.withWaits 5 := by
  intro n exit wakes
  have hexit : FrameTable.AsksExit exit := by decide
  obtain ⟨k, hk, hbefore, hstop, -, -, -, -, hidle⟩ :=
    idle_stops_exactly_at_exit n 0 wakes exit hexit
  have hrunning : ∀ j < 5,
      (n.performAll ((wakes ++ [Operation.frame exit]).take j)).2.engine.running = true := by decide
  have hstopped :
      (n.performAll ((wakes ++ [Operation.frame exit]).take 5)).2.engine.running = false := by decide
  obtain rfl : k = 5 := by
    rcases Nat.lt_trichotomy k 5 with hlt | heq | hgt
    · exact absurd (hrunning k hlt) (by rw [hstop]; decide)
    · exact heq
    · exact absurd (hbefore 5 hgt) (by rw [hstopped]; decide)
  refine ⟨hexit, ?_⟩
  rw [hidle]
  rfl

end Stopping

end PacketReinjection
