import PacketReinjection.Proofs.History
import PacketReinjection.Proofs.Routine.Path
import PacketReinjection.Simulation.Hardware

/-!
# `Proofs.Preemption.Schedule` — standard handlers with the fast interrupt coming in between

The capture preempts every other handler, at any point at which the fast interrupt is not masked. A
schedule says what happens at each of these points: bursts of packets dumped by the router, of the
router blocking and unblocking, and of whole captures. Running a handler under a schedule gives the
moments of the run in their order, the handler's own steps among them.

## Contents
- **`Interference`**, **`Happening`**, **`Moment`** — what the environment does, and what can be seen.
- **`Routine.runPreempted`** — a routine under a schedule.
- **`StandardHandler`**, **`Activity`**, **`Episode`**, **`runActivities`** — whole runs.
- **`Moment.Lawful`**, **`Chain`** — what every moment obeys, and how moments follow each other.
-/

namespace PacketReinjection.Preemption

/-! ## Moments -/

/-- What the environment can do while the fast interrupt is not masked. -/
inductive Interference where
  /-- The router dumps a packet. -/
  | dump (p : DumpedPacket)
  /-- The router starts or stops taking packets. -/
  | block (blocked : Bool)
  /-- The capture runs, from its first step to its last. -/
  | capture

/-- Interference in its order, between two steps of a handler or between two handlers. -/
abbrev Burst := List Interference

/-- What can be seen to happen. -/
inductive Happening where
  /-- A step of the handler in progress, with what it gave. -/
  | own (taken : Taken)
  | dumped (p : DumpedPacket)
  | blocked (blocked : Bool)
  | captured (record : Performed)

/-- A happening between the nodes before and after it. -/
structure Moment where
  before : Node Simulation
  happening : Happening
  after : Node Simulation

/-- The moment of an interference. -/
def Interference.moment (n : Node Simulation) : Interference → Moment
  | .dump p => ⟨n, .dumped p, { n with hardware := (n.hardware.injectDump p).2 }⟩
  | .block blocked => ⟨n, .blocked blocked, { n with hardware := n.hardware.setBlocked blocked }⟩
  | .capture => ⟨n, .captured (n.perform .capture).1, (n.perform .capture).2⟩

/-- A burst, one interference after the other. -/
def interfere : Burst → Node Simulation → List Moment × Node Simulation
  | [], n => ([], n)
  | i :: is, n =>
    let m := i.moment n
    let later := interfere is m.after
    (m :: later.1, later.2)

/-- The moment of a handler's own step. -/
def ownMoment (s : Step) (n : Node Simulation) : Moment :=
  ⟨n, .own ⟨s, (n.take s).1⟩, (n.take s).2⟩

end PacketReinjection.Preemption

namespace PacketReinjection

/-! ## Routines under a schedule -/

/-- How deep in masked sections a handler is after a step. -/
def Step.depthAfter (depth : Nat) : Step → Nat
  | .call .maskFast => depth + 1
  | .call (.restoreFast _) => depth - 1
  | .call _ | .access _ | .log _ => depth

/-- Whether the capture can come in just before a step: a call outside every masked section. -/
def Step.preemptible (depth : Nat) : Step → Bool
  | .call _ => depth == 0
  | .access _ | .log _ => false

namespace Routine

open Preemption

variable {α : Type}

/-- Run a routine under a schedule, from `depth` masked sections deep. Each point at which the capture
    can come in takes the next burst; when no burst is left nothing comes in any more. -/
def runPreempted : Routine α → Nat → List Burst → Node Simulation →
    List Moment × α × Node Simulation
  | done a, _, _, n => ([], a, n)
  | step s next, depth, bursts, n =>
    let early := if s.preemptible depth then interfere (bursts.headD []) n else ([], n)
    let bursts := if s.preemptible depth then bursts.tail else bursts
    let own := ownMoment s early.2
    let later := (next (early.2.take s).1).runPreempted (s.depthAfter depth) bursts own.after
    (early.1 ++ own :: later.1, later.2)

end Routine

end PacketReinjection

namespace PacketReinjection.Preemption

/-! ## Whole runs -/

/-- What runs at standard priority. -/
inductive StandardHandler where
  | start
  | timerTick
  | transmitterReady
  | frame (bytes : List UInt8)
  | command (m : CommandMessage)

/-- The operation that a standard handler carries out. -/
def StandardHandler.operation : StandardHandler → Operation
  | .start => .start
  | .timerTick => .timerTick
  | .transmitterReady => .transmitterReady
  | .frame bytes => .frame bytes
  | .command m => .command m

/-- A part of a run. -/
inductive Activity where
  /-- No standard handler is in progress. -/
  | between (burst : Burst)
  /-- A standard handler from its first step to its last, under a schedule. -/
  | handler (h : StandardHandler) (bursts : List Burst)

/-- The record of an activity. -/
structure Episode where
  before : Node Simulation
  moments : List Moment
  /-- What the standard handler gave, if one ran. -/
  outcome : Option Outcome
  after : Node Simulation

/-- Carry out an activity and keep its record. -/
def runActivity : Activity → Node Simulation → Episode
  | .between burst, n => ⟨n, (interfere burst n).1, none, (interfere burst n).2⟩
  | .handler h bursts, n =>
    let r := h.operation.routine.runPreempted 0 bursts n
    ⟨n, r.1, some r.2.1, r.2.2⟩

/-- Carry out activities one after the other; the records are in the order of the activities. -/
def runActivities : List Activity → Node Simulation → List Episode × Node Simulation
  | [], n => ([], n)
  | activity :: activities, n =>
    let first := runActivity activity n
    let later := runActivities activities first.after
    (first :: later.1, later.2)

/-! ## Laws -/

/-- **What every moment obeys**: it is what its happening makes of the node before it. -/
inductive Moment.Lawful : Moment → Prop where
  | own (s : Step) (n : Node Simulation) : Lawful (ownMoment s n)
  | interference (i : Interference) (n : Node Simulation) : Lawful (i.moment n)

/-- Lawful moments that follow each other from one node to another. -/
inductive Chain : Node Simulation → List Moment → Node Simulation → Prop where
  | nil (n : Node Simulation) : Chain n [] n
  | cons {m : Moment} {ms : List Moment} {n : Node Simulation} (hm : m.Lawful)
      (hrest : Chain m.after ms n) : Chain m.before (m :: ms) n

/-- The own step of a moment. -/
def Moment.own? (m : Moment) : Option Taken :=
  match m.happening with
  | .own taken => some taken
  | .dumped _ | .blocked _ | .captured _ => none

/-- The own steps of a handler among the moments of its run. -/
def ownSteps (ms : List Moment) : List Taken := ms.filterMap Moment.own?

theorem ownSteps_append (ms ms' : List Moment) : ownSteps (ms ++ ms') = ownSteps ms ++ ownSteps ms' :=
  List.filterMap_append

theorem Chain.append {n n' n'' : Node Simulation} {ms ms' : List Moment} (h : Chain n ms n')
    (h' : Chain n' ms' n'') : Chain n (ms ++ ms') n'' := by
  induction h with
  | nil => exact h'
  | cons hm _ ih => exact .cons hm (ih h')

theorem chain_interfere (burst : Burst) (n : Node Simulation) :
    Chain n (interfere burst n).1 (interfere burst n).2 := by
  induction burst generalizing n with
  | nil => exact .nil n
  | cons i is ih =>
    have hbefore : (i.moment n).before = n := by cases i <;> rfl
    have hchain : Chain (i.moment n).before (interfere (i :: is) n).1 (interfere (i :: is) n).2 :=
      .cons (.interference i n) (ih _)
    rwa [hbefore] at hchain

theorem ownSteps_interfere (burst : Burst) (n : Node Simulation) :
    ownSteps (interfere burst n).1 = [] := by
  induction burst generalizing n with
  | nil => rfl
  | cons i is ih =>
    have hrest := ih (i.moment n).after
    cases i <;> exact hrest

end PacketReinjection.Preemption

namespace PacketReinjection.Routine

open Preemption

variable {α : Type}

/-- **One step under a schedule.** A burst, which is empty where the capture cannot come in; then the
    step; then the rest of the routine under the rest of the schedule. -/
theorem runPreempted_step (s : Step) (next : s.Result → Routine α) (depth : Nat) (bursts : List Burst)
    (n : Node Simulation) :
    ∃ (burst : Burst) (later : List Burst), (s.preemptible depth = false → burst = [])
      ∧ (step s next).runPreempted depth bursts n =
        let m := ownMoment s (interfere burst n).2
        let rest := (next ((interfere burst n).2.take s).1).runPreempted (s.depthAfter depth) later
          m.after
        ((interfere burst n).1 ++ m :: rest.1, rest.2) := by
  cases hpoint : s.preemptible depth with
  | true =>
    refine ⟨bursts.headD [], bursts.tail, fun h => absurd h (by decide), ?_⟩
    simp only [runPreempted, hpoint, if_true]
  | false =>
    refine ⟨[], bursts, fun _ => rfl, ?_⟩
    simp only [runPreempted, hpoint, interfere, Bool.false_eq_true, if_false]

/-- The moments of a run follow each other, and the own steps among them are a path of the routine. -/
theorem runPreempted_spec (x : Routine α) (depth : Nat) (bursts : List Burst) (n : Node Simulation) :
    Chain n (x.runPreempted depth bursts n).1 (x.runPreempted depth bursts n).2.2
      ∧ x.Path (ownSteps (x.runPreempted depth bursts n).1) (x.runPreempted depth bursts n).2.1 := by
  induction x generalizing depth bursts n with
  | done a => exact ⟨.nil n, rfl, rfl⟩
  | step s next ih =>
    obtain ⟨burst, later, -, hrun⟩ := runPreempted_step s next depth bursts n
    rw [hrun]
    obtain ⟨hchain, hpath⟩ := ih ((interfere burst n).2.take s).1 (s.depthAfter depth) later
      (ownMoment s (interfere burst n).2).after
    refine ⟨(chain_interfere burst n).append (.cons (.own s _) hchain), ?_⟩
    -- A burst holds no own step, so the path starts with the step itself.
    rw [ownSteps_append, ownSteps_interfere, List.nil_append]
    exact ⟨_, _, rfl, hpath⟩

end PacketReinjection.Routine
