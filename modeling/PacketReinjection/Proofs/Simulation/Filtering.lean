import PacketReinjection.Proofs.Simulation.Dumps

/-!
# `Proofs.Simulation.Filtering` — disabled classes are invisible

A dump of a disabled class that is captured at once leaves nothing behind: the latch was free before it
and is free again, no counter moves and no packet is queued. So it cannot be told from a run where such
dumps were put in, nor how many, of which packets or where. This is a statement about two runs, which
follows from one about a single dump by going through the runs side by side.

One thing has to be known of the state: a router that latches no packet flags no loss. The capture
takes the flag down, so a flag without a packet would tell. It cannot come up in a run (`FlagGuarded`).

## Contents
- **`FlagGuarded`** and **`flagGuarded_run`** — no packet latched, no loss flagged.
- **`capture_of_disabled`** — one dump of a disabled class, captured.
- **`Item`**, **`Unseen`** — runs with such dumps put in; **`Visit`**, what can be told of a run.
- **`visits_of_unseen`** and **`disabled_classes_invisible`**.
-/

namespace PacketReinjection

namespace Simulation

open Routine

/-! ## The loss flag -/

/-- While no packet is latched, no loss is flagged. -/
def FlagGuarded (s : Simulation) : Prop := s.dump = none → s.dumpOverflow = false

theorem flagGuarded_perform {n : Node Simulation} (hn : n.hardware.FlagGuarded) (op : Operation) :
    (n.perform op).2.hardware.FlagGuarded := by
  intro hfree
  by_cases hop : op.isStart = true
  · -- Start-up releases the latch, and the flag with it.
    cases op with
    | start => exact congrArg DumpLatch.overflow (latch_start n)
    | _ => exact absurd hop (by simp [Operation.isStart])
  · have hlatch := latch_perform (by simpa using hop) n
    cases hcaptured : (n.perform op).1.captured? with
    | none =>
      rw [hcaptured] at hlatch
      obtain ⟨hdump, hoverflow, -⟩ := DumpLatch.mk.inj hlatch
      rw [hoverflow]
      exact hn (hdump.symm.trans hfree)
    | some o =>
      rw [hcaptured] at hlatch
      exact congrArg DumpLatch.overflow hlatch

theorem flagGuarded_outside {s s' : Simulation} (hs : Outside s s') (h : s.FlagGuarded) :
    s'.FlagGuarded := by
  cases hs with
  | dump p =>
    unfold injectDump
    split
    · -- A loss is flagged beside the packet that is latched.
      rename_i latched hdump
      intro hfree
      exact absurd (hdump.symm.trans hfree) (by simp)
    · intro hfree
      exact absurd hfree (by simp)
  | block blocked => exact h

/-- **No run flags a loss without a latched packet.** -/
theorem flagGuarded_run {n : Node Simulation} (hn : n.hardware.FlagGuarded) (os : List Occurrence) :
    (run os n).2.hardware.FlagGuarded :=
  @run_preserves (fun _ m => m.hardware.FlagGuarded) (fun _ _ op h => flagGuarded_perform h op)
    (fun _ _ _ hs h => flagGuarded_outside hs h) os [] n hn

/-! ## One dump -/

/-- A dump and, right behind it, an operation. -/
def dumpThen (p : DumpedPacket) (op : Operation) : List Occurrence := [.dump p, .operation op]

section OneDump

variable {n : Node Simulation} {p : DumpedPacket} {op : Operation}

/-- A packet that is latched and released again leaves the router as it was. -/
theorem released_injectDump {s : Simulation} (hs : s.FlagGuarded) (hfree : s.dump = none)
    (p : DumpedPacket) : (s.injectDump p).2.released = s := by
  have hunflagged := hs hfree
  simp only [injectDump, hfree, released]
  rw [← hfree, ← hunflagged]

/-- **A dump of a disabled class, captured at once, leaves no trace**: not in the memory, not in the
    hardware and not in the log. -/
theorem capture_of_disabled (hn : n.hardware.FlagGuarded) (hfree : n.hardware.dump = none)
    (hdisabled : n.engine.filter.isEnabled p.packetClass = false)
    (hop : op.interrupt? = some .droppedPacket) :
    (((Occurrence.dump p).after n).perform op).1.outcome = .handled (.captured .filtered)
      ∧ (((Occurrence.dump p).after n).perform op).2 = n := by
  obtain ⟨hnode, houtcome⟩ := perform_interrupt hop ((Occurrence.dump p).after n)
  have hlatched : (n.hardware.injectDump p).2.dump.getD .blank = p := by simp [injectDump, hfree]
  have hreceived (status : UInt32) : n.engine.receive p status = (.filtered, n.engine) := by
    simp [Engine.receive, hdisabled]
  have hrun : (dispatch .droppedPacket).run ((Occurrence.dump p).after n)
      = (.captured .filtered, n) := by
    simp only [dispatch, run_bind, run_capture_simulation, Occurrence.after, hlatched, hreceived,
      released_injectDump hn hfree]
    rfl
  rw [hnode, houtcome, hrun]
  exact ⟨rfl, rfl⟩

/-- The same as a run. -/
theorem run_dumpThen (hn : n.hardware.FlagGuarded) (hfree : n.hardware.dump = none)
    (hdisabled : n.engine.filter.isEnabled p.packetClass = false)
    (hop : op.interrupt? = some .droppedPacket) : (run (dumpThen p op) n).2 = n :=
  (capture_of_disabled hn hfree hdisabled hop).2

end OneDump

/-! ## Runs with dumps put in -/

/-- A part of a run. -/
inductive Item where
  | own (o : Occurrence)
  /-- A dump and its capture, put in between. -/
  | hidden (p : DumpedPacket) (op : Operation)

/-- What happens in a part. -/
def Item.occurrences : Item → List Occurrence
  | own o => [o]
  | hidden p op => dumpThen p op

/-- The occurrence, unless it was put in. -/
def Item.own? : Item → Option Occurrence
  | own o => some o
  | hidden _ _ => none

/-- What is put in has a class that is disabled there, finds no packet latched and is captured. -/
def Unseen : List Item → Node Simulation → Prop
  | [], _ => True
  | .own o :: items, n => Unseen items (o.after n)
  | .hidden p op :: items, n =>
    (n.hardware.dump = none ∧ n.engine.filter.isEnabled p.packetClass = false
      ∧ op.interrupt? = some .droppedPacket) ∧ Unseen items (run (dumpThen p op) n).2

instance decidableUnseen : (items : List Item) → (n : Node Simulation) → Decidable (Unseen items n)
  | [], _ => inferInstanceAs (Decidable True)
  | .own o :: items, n => decidableUnseen items (o.after n)
  | .hidden p op :: items, n =>
    have := decidableUnseen items (run (dumpThen p op) n).2
    inferInstanceAs (Decidable ((n.hardware.dump = none
      ∧ n.engine.filter.isEnabled p.packetClass = false ∧ op.interrupt? = some .droppedPacket)
      ∧ Unseen items (run (dumpThen p op) n).2))

/-- All that can be told of one occurrence in a run. -/
structure Visit where
  before : Node Simulation
  occurrence : Occurrence
  /-- Its operations, with their outcomes, replies, counters and queues. -/
  records : List Performed
  after : Node Simulation

/-- An occurrence where it happens. -/
def Occurrence.visit (n : Node Simulation) (o : Occurrence) : Visit := ⟨n, o, o.records n, o.after n⟩

/-- What can be told of a run, what was put in apart. -/
def visits : List Item → Node Simulation → List Visit
  | [], _ => []
  | .own o :: items, n => o.visit n :: visits items (o.after n)
  | .hidden p op :: items, n => visits items (run (dumpThen p op) n).2

theorem run_append (os os' : List Occurrence) (n : Node Simulation) :
    (run (os ++ os') n).2 = (run os' (run os n).2).2 := by
  induction os generalizing n with
  | nil => rfl
  | cons o os ih => exact ih (o.after n)

/-- **A run with dumps put in is the run without them.** -/
theorem visits_of_unseen {items : List Item} {n : Node Simulation} (hn : n.hardware.FlagGuarded)
    (hunseen : Unseen items n) :
    visits items n = visits ((items.filterMap Item.own?).map .own) n
      ∧ (run (items.flatMap Item.occurrences) n).2 = (run (items.filterMap Item.own?) n).2 := by
  induction items generalizing n with
  | nil => exact ⟨rfl, rfl⟩
  | cons item items ih =>
    cases item with
    | own o =>
      have hafter : (o.after n).hardware.FlagGuarded := flagGuarded_run hn [o]
      obtain ⟨hvisits, hnode⟩ := ih hafter hunseen
      exact ⟨congrArg (o.visit n :: ·) hvisits, hnode⟩
    | hidden p op =>
      obtain ⟨⟨hfree, hdisabled, hop⟩, hlater⟩ := hunseen
      -- The run comes back to where it was, so the rest is the rest of the run without the dump.
      have hback := run_dumpThen hn hfree hdisabled hop
      rw [hback] at hlater
      obtain ⟨hvisits, hnode⟩ := ih hn hlater
      constructor
      · show visits items (run (dumpThen p op) n).2 = _
        rw [hback]
        exact hvisits
      · show (run (dumpThen p op ++ items.flatMap Item.occurrences) n).2 = _
        rw [run_append, hback]
        exact hnode

/-- **Disabled classes are invisible**, in every state that a run can come to. While no packet is
    latched, a dump of a disabled class that is captured, directly or by its line, is accepted by the
    router and filtered by the capture, and the node is exactly as before. So two runs that differ only
    in such dumps put in agree in every other occurrence, on what it finds, does and leaves behind, and
    they end in the same node. -/
theorem disabled_classes_invisible (hardware : Simulation) (hguarded : hardware.FlagGuarded)
    (config : EngineConfig) (earlier : List Occurrence) :
    let n := (run earlier (Node.fresh hardware config)).2
    (∀ p op, n.hardware.dump = none → n.engine.filter.isEnabled p.packetClass = false →
        op.interrupt? = some .droppedPacket →
      (n.hardware.injectDump p).1 = true
        ∧ (((Occurrence.dump p).after n).perform op).1.outcome = .handled (.captured .filtered)
        ∧ (((Occurrence.dump p).after n).perform op).2 = n)
      ∧ ∀ items items' : List Item, items.filterMap Item.own? = items'.filterMap Item.own? →
        Unseen items n → Unseen items' n →
        visits items n = visits items' n
          ∧ (run (items.flatMap Item.occurrences) n).2 = (run (items'.flatMap Item.occurrences) n).2 := by
  intro n
  have hn : n.hardware.FlagGuarded := flagGuarded_run (n := Node.fresh hardware config) hguarded earlier
  refine ⟨fun p op hfree hdisabled hop => ⟨?_, capture_of_disabled hn hfree hdisabled hop⟩, ?_⟩
  · simp [injectDump, hfree]
  · intro items items' hown hunseen hunseen'
    obtain ⟨hvisits, hnode⟩ := visits_of_unseen hn hunseen
    obtain ⟨hvisits', hnode'⟩ := visits_of_unseen hn hunseen'
    exact ⟨hvisits.trans (hown ▸ hvisits'.symm), hnode.trans (hown ▸ hnode'.symm)⟩

/-- Point-to-point packets come and go unseen before and after a multicast packet is queued and sent, and
    again once a message has disabled multicast packets as well. -/
theorem disabled_classes_invisible_after_filter_change :
    let pointToPoint : DumpedPacket := ⟨0x00400000, 9, 9⟩
    let multicast : DumpedPacket := ⟨0, 7, 0⟩
    let n := (run [.operation .start] (Node.fresh fresh EngineConfig.standard)).2
    let dumped : List Occurrence := [.dump multicast, .tick, .tick]
    let filtered : Occurrence := .operation (.command (CommandMessage.setPacketClasses 0))
    let items : List Item := [.hidden pointToPoint .capture] ++ dumped.map .own
      ++ [.hidden pointToPoint (.dispatch .droppedPacket), .own filtered, .hidden multicast .capture,
        .own .tick]
    fresh.FlagGuarded ∧ Unseen items n
      ∧ (((Occurrence.dump pointToPoint).after n).perform .capture).2 = n
      ∧ (run (items.flatMap Item.occurrences) n).2.hardware.transmitted.length = 1 := by
  intro pointToPoint multicast n dumped filtered items
  have hguarded : fresh.FlagGuarded := fun _ => rfl
  have hunseen : Unseen items n := by decide
  have hplain : Unseen ((items.filterMap Item.own?).map .own) n := by decide
  obtain ⟨hone, htwo⟩ :=
    disabled_classes_invisible fresh hguarded EngineConfig.standard [.operation .start]
  obtain ⟨-, -, hback⟩ := hone pointToPoint .capture (by decide) (by decide) rfl
  obtain ⟨-, hsame⟩ := htwo items ((items.filterMap Item.own?).map .own) rfl hunseen hplain
  refine ⟨hguarded, hunseen, hback, ?_⟩
  rw [hsame]
  decide

end Simulation

end PacketReinjection
