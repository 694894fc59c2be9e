import PacketReinjection.Proofs.Counters
import PacketReinjection.Proofs.Simulation.Registers
import PacketReinjection.Proofs.Simulation.Run

/-!
# `Proofs.Simulation.Dumps` — every dump of the router is accounted for once

The router latches one packet at a time, and the capture of that packet releases the latch. What happens
to dumps therefore falls into windows, one after the other: a packet is latched, further ones are lost,
the packet is captured. The overflow flag belongs to the window that is open. The capture that closes it
reads the flag and takes it down, and that is how a loss reaches the counter of missed packets: once for
a window, and not at all if the class of the latched packet is disabled by then.

## Contents
- **`DumpEvent`**, **`DumpWindow`**, **`DumpAccount`** — what happens to dumps, and its windows.
- **`DumpLatch`** and **`latch_perform`** — the latch after every operation.
- **`Shows`** — a node shows what the windows say: `Shows.dump`, `Shows.perform`.
- **`Guarded`** — operations that capture only what is latched.
- **`Orderly`**, **`dumpEvents`** and **`dumps_accounted`**.
-/

namespace PacketReinjection

/-! ## Windows -/

/-- What can happen to a dumped packet. -/
inductive DumpEvent where
  | latched
  /-- Another packet was latched already. -/
  | lost
  | captured (o : CaptureOutcome)
  deriving DecidableEq

/-- Whether a packet was captured, kept or not. -/
def DumpEvent.isCapture : DumpEvent → Bool
  | captured _ => true
  | latched | lost => false

/-- The events from the latching of a packet on, before its capture. -/
def openWindow (losses : Nat) : List DumpEvent := .latched :: List.replicate losses .lost

/-- A packet from its latching to its capture. -/
structure DumpWindow where
  /-- How many packets were lost in between. -/
  losses : Nat
  outcome : CaptureOutcome

namespace DumpWindow

/-- The events of a window. -/
def events (w : DumpWindow) : List DumpEvent := openWindow w.losses ++ [.captured w.outcome]

/-- Whether packets were lost in the window of a packet whose class was enabled. -/
def isMiss (w : DumpWindow) : Bool := w.outcome ≠ .filtered && w.losses ≠ 0

theorem count_events (w : DumpWindow) :
    w.events.count .latched = 1 ∧ w.events.countP DumpEvent.isCapture = 1
      ∧ w.events.count .lost = w.losses := by
  simp [events, openWindow, List.count_replicate, List.countP_replicate, DumpEvent.isCapture]

end DumpWindow

/-- What happened to dumps, in windows. -/
structure DumpAccount where
  /-- The windows that a capture closed, oldest first. -/
  closed : List DumpWindow
  /-- The losses so far in the window that is open. -/
  current : Option Nat

namespace DumpAccount

/-- The events of an account. -/
def events (a : DumpAccount) : List DumpEvent :=
  a.closed.flatMap DumpWindow.events ++ (a.current.map openWindow).getD []

/-- How many captures were told of losses and counted them. -/
def misses (a : DumpAccount) : Nat := a.closed.countP DumpWindow.isMiss

/-- One more window is opened, by the packet that is latched. -/
def latch (a : DumpAccount) : DumpAccount := { a with current := some 0 }

/-- One more loss in the window that is open. -/
def lose (a : DumpAccount) (losses : Nat) : DumpAccount := { a with current := some (losses + 1) }

/-- The window that is open is closed. -/
def close (a : DumpAccount) (losses : Nat) (o : CaptureOutcome) : DumpAccount where
  closed := a.closed ++ [⟨losses, o⟩]
  current := none

section Events

variable {a : DumpAccount}

theorem events_latch (h : a.current = none) : a.latch.events = a.events ++ [.latched] := by
  simp [events, latch, h, openWindow]

theorem events_lose {losses : Nat} (h : a.current = some losses) :
    (a.lose losses).events = a.events ++ [.lost] := by
  simp [events, lose, h, openWindow, List.replicate_succ']

theorem events_close {losses : Nat} (h : a.current = some losses) (o : CaptureOutcome) :
    (a.close losses o).events = a.events ++ [.captured o] := by
  simp [events, close, h, DumpWindow.events]

theorem misses_close (a : DumpAccount) (losses : Nat) (o : CaptureOutcome) :
    (a.close losses o).misses = a.misses + if o ≠ .filtered ∧ losses ≠ 0 then 1 else 0 := by
  simp [misses, close, DumpWindow.isMiss, List.countP_append, List.countP_singleton]

/-- **Every latched packet is captured once**, the one that is still latched apart. -/
theorem count_latched (a : DumpAccount) :
    a.events.count .latched
      = a.events.countP DumpEvent.isCapture + if a.current.isSome then 1 else 0 := by
  -- A closed window has one of each; the open one is only latched.
  have hclosed : (a.closed.flatMap DumpWindow.events).count .latched
      = (a.closed.flatMap DumpWindow.events).countP DumpEvent.isCapture := by
    induction a.closed with
    | nil => rfl
    | cons w ws ih =>
      obtain ⟨hlatched, hcaptured, -⟩ := w.count_events
      rw [List.flatMap_cons, List.count_append, List.countP_append, hlatched, hcaptured, ih]
  rw [events, List.count_append, List.countP_append, hclosed, Nat.add_assoc]
  congr 1
  cases a.current with
  | none => rfl
  | some losses =>
    simp [openWindow, List.count_replicate, List.countP_replicate, DumpEvent.isCapture]

/-- However many packets a window lost, its capture counts one of them at most. -/
theorem misses_le_lost (a : DumpAccount) : a.misses ≤ a.events.count .lost := by
  have hwindow (w : DumpWindow) : (if w.isMiss then 1 else 0) ≤ w.events.count .lost := by
    obtain ⟨-, -, hlosses⟩ := w.count_events
    rw [hlosses, DumpWindow.isMiss]
    cases w.losses with
    | zero => simp
    | succ losses => exact Nat.le_trans (by split <;> decide) (Nat.le_add_left 1 losses)
  have hclosed : a.misses ≤ (a.closed.flatMap DumpWindow.events).count .lost := by
    unfold misses
    induction a.closed with
    | nil => exact Nat.le_refl 0
    | cons w ws ih =>
      rw [List.countP_cons, List.flatMap_cons, List.count_append, Nat.add_comm]
      exact Nat.add_le_add (hwindow w) ih
  rw [events, List.count_append]
  exact Nat.le_add_right_of_le hclosed

end Events

end DumpAccount

namespace Simulation

/-! ## The latch -/

/-- The latch of a simulated router. -/
structure DumpLatch where
  dump : Option DumpedPacket
  overflow : Bool
  lost : UInt32

/-- The latch of a node's router. -/
def latch (s : Simulation) : DumpLatch := ⟨s.dump, s.dumpOverflow, s.lossCounter⟩

/-- The latch after its packet was read. -/
def DumpLatch.released (l : DumpLatch) : DumpLatch := { l with dump := none, overflow := false }

section Operations

open Routine

variable {n : Node Simulation} {op : Operation}

/-- Among the handlers only the capture reaches the latch. -/
theorem HandlerStep.latch {o : HandlerOutcome} {n' : Node Simulation} (hstep : HandlerStep n o n')
    {h : Performed} (houtcome : h.outcome = .handled o) :
    n'.hardware.latch = h.captured?.elim n.hardware.latch fun _ => n.hardware.latch.released := by
  rw [Performed.captured?, houtcome]
  cases hstep <;> rfl

/-- Start-up releases the latch. -/
theorem latch_start (n : Node Simulation) :
    (n.perform .start).2.hardware.latch = n.hardware.latch.released := by
  rw [perform_start_hardware]
  rfl

/-- **The latch after every operation** but a start-up: a capture releases it, and nothing else reaches
    it. -/
theorem latch_perform (hop : op.isStart = false) (n : Node Simulation) :
    (n.perform op).2.hardware.latch
      = (n.perform op).1.captured?.elim n.hardware.latch fun _ => n.hardware.latch.released := by
  obtain rfl | ⟨source, hop⟩ | ⟨hop, -, d, hd⟩ := perform_kinds n op
  · exact Bool.noConfusion hop
  · obtain ⟨hnode, houtcome⟩ := perform_interrupt hop n
    rw [hnode, (handlerStep_dispatch source n).latch houtcome]
  · rw [captured?_eq_none (by simp [hop]), perform_hardware, hd.calls]
    cases d with
    | carryOut sub value => cases sub <;> rfl
    | refuse error => rfl

/-- The dump status shows the overflow flag. -/
theorem lossStatus_flag (s : Simulation) :
    (s.lossStatus &&& Router.dumpOverflowMask != 0) = s.dumpOverflow := by
  unfold lossStatus
  cases s.dumpOverflow <;> decide

/-- What a capture was told of losses is what the latch flagged. -/
theorem flaggedLoss_perform (hop : op.interrupt? = some .droppedPacket) (n : Node Simulation) :
    flaggedLoss (n.perform op).1.trace = n.hardware.dumpOverflow := by
  have hsteps : (n.perform op).1.trace = capture.trace n := by
    rw [trace_interrupt hop, dispatch, trace_bind]
    exact List.append_nil _
  rw [hsteps, flaggedLoss, dumpStatus_trace_capture, readDump_simulation, Option.any_some]
  exact lossStatus_flag n.hardware

end Operations

/-! ## Accounts -/

/-- The node shows what the account says, the counter of losses having stood at `earlier`. -/
structure Shows (earlier : UInt32) (a : DumpAccount) (n : Node Simulation) : Prop where
  latched : n.hardware.dump.isSome = a.current.isSome
  overflow : n.hardware.dumpOverflow = a.current.any (· ≠ 0)
  lost : n.hardware.lossCounter = earlier + .ofNat (a.events.count .lost)
  missed : ∃ counted, n.engine.statistics.Counts counted ∧ counted .missedDropped = a.misses

/-- The captures of a history. -/
def captureEvents (history : List Performed) : List DumpEvent :=
  history.filterMap fun h => h.captured?.map DumpEvent.captured

/-- The event of a dump, read off what the router answers. -/
def injectionEvent (s : Simulation) (p : DumpedPacket) : DumpEvent :=
  if (s.injectDump p).1 then .latched else .lost

section Shows

variable {earlier : UInt32} {a : DumpAccount} {n : Node Simulation}

/-- **A dump** opens a window, or is one more loss in the window that is open. -/
theorem Shows.dump (hn : Shows earlier a n) (p : DumpedPacket) :
    ∃ a' : DumpAccount, a'.events = a.events ++ [n.hardware.injectionEvent p]
      ∧ Shows earlier a' { n with hardware := (n.hardware.injectDump p).2 } := by
  have hlatched := hn.latched
  have hoverflow := hn.overflow
  cases hdump : n.hardware.dump with
  | none =>
    -- The latch is free, so no window is open.
    rw [hdump] at hlatched
    have hcurrent : a.current = none := Option.isNone_iff_eq_none.mp (by simpa using hlatched.symm)
    have hevent : n.hardware.injectionEvent p = .latched := by simp [injectionEvent, injectDump, hdump]
    have hevents := DumpAccount.events_latch hcurrent
    refine ⟨a.latch, by rw [hevents, hevent], ?_, ?_, ?_, hn.missed⟩
    · simp [injectDump, hdump, DumpAccount.latch]
    · simpa [injectDump, hdump, DumpAccount.latch, hcurrent] using hoverflow
    · simpa [injectDump, hdump, hevents] using hn.lost
  | some latched =>
    rw [hdump] at hlatched
    obtain ⟨losses, hcurrent⟩ := Option.isSome_iff_exists.mp hlatched.symm
    have hevent : n.hardware.injectionEvent p = .lost := by simp [injectionEvent, injectDump, hdump]
    have hevents := DumpAccount.events_lose hcurrent
    refine ⟨a.lose losses, by rw [hevents, hevent], ?_, ?_, ?_, hn.missed⟩
    · simp [injectDump, hdump, DumpAccount.lose]
    · simp [injectDump, hdump, DumpAccount.lose]
    · simp [injectDump, hdump, hevents, hn.lost, UInt32.add_assoc]

/-- **An operation** closes the window that is open if it captures, and changes nothing if it does
    not. -/
theorem Shows.perform (hn : Shows earlier a n) {op : Operation}
    (hkept : (n.perform op).1.resets = false)
    (hguard : op.interrupt? = some .droppedPacket → n.hardware.dump.isSome = true) :
    ∃ a' : DumpAccount, a'.events = a.events ++ captureEvents [(n.perform op).1]
      ∧ Shows earlier a' (n.perform op).2 := by
  have hstarted : op.isStart = false := (Bool.or_eq_false_iff.mp hkept).1
  have hlatch := latch_perform hstarted n
  obtain ⟨counted, hcounts, hmisses⟩ := hn.missed
  have hafter : (n.perform op).2.engine.statistics.Counts _ :=
    (perform_explained op n).counts hkept hcounts
  cases hcaptured : (n.perform op).1.captured? with
  | none =>
    -- Nothing was captured: the latch, the windows and the counter stay.
    rw [hcaptured] at hlatch
    obtain ⟨hdump, hoverflow, hlost⟩ := DumpLatch.mk.inj hlatch
    refine ⟨a, by simp [captureEvents, hcaptured], ?_, ?_, ?_, _, hafter, ?_⟩
    · rw [hdump, hn.latched]
    · rw [hoverflow, hn.overflow]
    · rw [hlost, hn.lost]
    · simp [Performed.isEvent, hcaptured, hmisses]
  | some o =>
    rw [hcaptured] at hlatch
    obtain ⟨hdump, hoverflow, hlost⟩ := DumpLatch.mk.inj hlatch
    have hop : op.interrupt? = some .droppedPacket := by
      by_contra hother
      rw [captured?_eq_none hother] at hcaptured
      exact absurd hcaptured (by simp)
    -- Only a latched packet is captured, so there is a window to close, and its losses were flagged.
    obtain ⟨losses, hcurrent⟩ := Option.isSome_iff_exists.mp (hn.latched ▸ hguard hop)
    have hflag : flaggedLoss (n.perform op).1.trace = decide (losses ≠ 0) := by
      rw [flaggedLoss_perform hop, hn.overflow, hcurrent, Option.any_some]
    have hevents := DumpAccount.events_close hcurrent o
    refine ⟨a.close losses o, by simp [captureEvents, hcaptured, hevents], ?_, ?_, ?_, _, hafter, ?_⟩
    · rw [hdump]
      rfl
    · rw [hoverflow]
      rfl
    · rw [hlost, hevents]
      simp [Simulation.latch, hn.lost]
    · simp [Performed.isEvent, hcaptured, hflag, hmisses, DumpAccount.misses_close]

/-- The counter of losses grows by as many as there are, if it can show so many. -/
theorem Shows.growth (hn : Shows earlier a n) (hfew : a.events.count .lost < 2 ^ 32) :
    (n.hardware.lossCounter - earlier).toNat = a.events.count .lost := by
  rw [hn.lost, UInt32.add_comm, UInt32.add_sub_cancel]
  exact UInt32.toNat_ofNat_of_lt' hfew

/-- Blocking the router does not concern its latch. -/
theorem Shows.block (hn : Shows earlier a n) (blocked : Bool) :
    Shows earlier a { n with hardware := n.hardware.setBlocked blocked } :=
  ⟨hn.latched, hn.overflow, hn.lost, hn.missed⟩

/-- A start-up begins with no window. -/
theorem shows_start (n : Node Simulation) :
    Shows n.hardware.lossCounter ⟨[], none⟩ (n.perform .start).2 := by
  obtain ⟨hdump, hoverflow, hlost⟩ := DumpLatch.mk.inj (latch_start n)
  have hcounter : n.hardware.latch.lost = n.hardware.lossCounter + .ofNat 0 := (UInt32.add_zero _).symm
  refine ⟨by rw [hdump]; rfl, by rw [hoverflow]; rfl, hlost.trans hcounter, fun _ => 0, ?_, rfl⟩
  obtain ⟨source, hstarted⟩ := memory_start n
  rw [perform_start, hstarted]
  exact Statistics.counts_zero

end Shows

/-! ## Operations in a row -/

/-- Operations that capture only what is latched. -/
def Guarded : List Operation → Node Simulation → Prop
  | [], _ => True
  | op :: ops, n =>
    (op.interrupt? = some .droppedPacket → n.hardware.dump.isSome = true)
      ∧ Guarded ops (n.perform op).2

section Guarded

variable {n : Node Simulation} {ops ops' : List Operation}

/-- Operations that do not capture need no guard. -/
theorem guarded_of_other (h : ∀ op ∈ ops, op.interrupt? ≠ some .droppedPacket) : Guarded ops n := by
  induction ops generalizing n with
  | nil => trivial
  | cons op ops ih =>
    obtain ⟨hop, hops⟩ := List.forall_mem_cons.mp h
    exact ⟨fun hcapture => absurd hcapture hop, ih hops⟩

theorem Guarded.append (h : Guarded ops n) (h' : Guarded ops' (n.performAll ops).2) :
    Guarded (ops ++ ops') n := by
  induction ops generalizing n with
  | nil => exact h'
  | cons op ops ih => exact ⟨h.1, ih h.2 h'⟩

/-- A drain only drains. -/
theorem operations_drainWhileEnabled (budget : Nat) (n : Node Simulation) :
    ∀ op ∈ (drainWhileEnabled budget n).1.map HandlerOutcome.operation,
      op = .dispatch .transmitterReady := by
  induction budget generalizing n with
  | zero => simp [drainWhileEnabled]
  | succ budget ih =>
    rw [drainWhileEnabled]
    split
    · rw [run_dispatch_transmitterReady, List.map_cons]
      exact List.forall_mem_cons.mpr ⟨rfl, ih _⟩
    · simp

/-- What is serviced is latched. -/
theorem guarded_servicePending (n : Node Simulation) :
    Guarded ((servicePending n).1.map HandlerOutcome.operation) n := by
  have hcapture : Guarded ((captureLatched n).1.map HandlerOutcome.operation) n := by
    cases hlatched : latched? n with
    | none =>
      rw [captureLatched_of_none n hlatched]
      trivial
    | some p =>
      rw [captureLatched_of_some n hlatched]
      refine ⟨fun _ => ?_, trivial⟩
      unfold latched? at hlatched
      split at hlatched
      · exact Option.isSome_of_eq_some hlatched
      · exact absurd hlatched (by simp)
  have hdrain : Guarded ((drainWhileEnabled ((captureLatched n).2.engine.queue.length + 1)
      (captureLatched n).2).1.map HandlerOutcome.operation) (captureLatched n).2 := by
    refine guarded_of_other fun op hop => ?_
    rw [operations_drainWhileEnabled _ _ op hop]
    decide
  rw [servicePending, List.map_append]
  refine hcapture.append ?_
  rwa [(replays_captureLatched n).node]

theorem guarded_tick (n : Node Simulation) :
    Guarded ((tick n).1.map HandlerOutcome.operation) n := by
  have hticked : ((dispatch .timerTick).run n).1.operation = .dispatch .timerTick := by
    rw [run_dispatch_timerTick]
    rfl
  have hnode : (n.perform (.dispatch .timerTick)).2 = ((dispatch .timerTick).run n).2 :=
    (perform_interrupt rfl n).1
  refine ⟨?_, ?_⟩
  · rw [hticked]
    exact fun hcapture => absurd hcapture (by decide)
  · rw [hticked, hnode]
    exact guarded_servicePending _

end Guarded

/-! ## Runs -/

/-- What the law is about: no start-up and no reset of the counters, and a capture only of what is
    latched. Rounds, and what comes from outside, need no condition. -/
def Occurrence.Orderly (n : Node Simulation) : Occurrence → Prop
  | operation op =>
    (n.perform op).1.resets = false
      ∧ (op.interrupt? = some .droppedPacket → n.hardware.dump.isSome = true)
  | poll mailbox => ∀ h ∈ (poll mailbox).records n, h.resets = false
  | service | tick | dump _ | block _ => True

/-- Occurrences that are orderly, each where it happens. -/
def Orderly : List Occurrence → Node Simulation → Prop
  | [], _ => True
  | o :: os, n => o.Orderly n ∧ Orderly os (o.after n)

instance (n : Node Simulation) : (o : Occurrence) → Decidable (o.Orderly n)
  | .operation op =>
    inferInstanceAs (Decidable ((n.perform op).1.resets = false
      ∧ (op.interrupt? = some .droppedPacket → n.hardware.dump.isSome = true)))
  | .poll mailbox =>
    inferInstanceAs (Decidable (∀ h ∈ (Occurrence.poll mailbox).records n, h.resets = false))
  | .service | .tick | .dump _ | .block _ => inferInstanceAs (Decidable True)

instance decidableOrderly : (os : List Occurrence) → (n : Node Simulation) → Decidable (Orderly os n)
  | [], _ => inferInstanceAs (Decidable True)
  | o :: os, n =>
    have := decidableOrderly os (o.after n)
    inferInstanceAs (Decidable (o.Orderly n ∧ Orderly os (o.after n)))

/-- What happens to dumps in an occurrence. -/
def Occurrence.dumpEvents (n : Node Simulation) (o : Occurrence) : List DumpEvent :=
  match o with
  | dump p => [n.hardware.injectionEvent p]
  | operation _ | service | tick | poll _ | block _ => captureEvents (o.records n)

/-- What happens to dumps in a run. -/
def dumpEvents : List Occurrence → Node Simulation → List DumpEvent
  | [], _ => []
  | o :: os, n => o.dumpEvents n ++ dumpEvents os (o.after n)

/-- Whether the occurrence is a dump. -/
def Occurrence.isDump : Occurrence → Bool
  | dump _ => true
  | operation _ | service | tick | poll _ | block _ => false

section Runs

variable {earlier : UInt32} {a : DumpAccount} {n : Node Simulation}

/-- What guarded operations without a reset leave of the account. -/
theorem Shows.performAll (hn : Shows earlier a n) {ops : List Operation} (hguarded : Guarded ops n)
    (hkept : ∀ h ∈ (n.performAll ops).1, h.resets = false) :
    ∃ a' : DumpAccount, a'.events = a.events ++ captureEvents (n.performAll ops).1
      ∧ Shows earlier a' (n.performAll ops).2 := by
  induction ops generalizing a n with
  | nil => exact ⟨a, (List.append_nil _).symm, hn⟩
  | cons op ops ih =>
    obtain ⟨hfirst, hlater⟩ := List.forall_mem_cons.mp hkept
    obtain ⟨a₁, hevents₁, hshows₁⟩ := hn.perform hfirst hguarded.1
    obtain ⟨a₂, hevents₂, hshows₂⟩ := ih hshows₁ hguarded.2 hlater
    refine ⟨a₂, ?_, hshows₂⟩
    rw [hevents₂, hevents₁, List.append_assoc, captureEvents, captureEvents, ← List.filterMap_append]
    rfl

/-- The rounds reset nothing. -/
theorem resets_round (round : List HandlerOutcome) :
    ∀ h ∈ (n.performAll (round.map HandlerOutcome.operation)).1, h.resets = false := by
  induction round generalizing n with
  | nil => exact fun _ hh => absurd hh List.not_mem_nil
  | cons o round ih =>
    refine List.forall_mem_cons.mpr ⟨Performed.resets_of_interrupt ?_, ih⟩
    cases o <;> rfl

/-- **Every orderly occurrence** adds its events to the account. -/
theorem Shows.after (hn : Shows earlier a n) {o : Occurrence} (ho : o.Orderly n) :
    ∃ a' : DumpAccount, a'.events = a.events ++ o.dumpEvents n ∧ Shows earlier a' (o.after n) := by
  cases o with
  | operation op => exact hn.perform ho.1 ho.2
  | service =>
    have hshown := hn.performAll (guarded_servicePending n) (resets_round _)
    rwa [(replays_servicePending n).node] at hshown
  | tick =>
    have hshown := hn.performAll (guarded_tick n) (resets_round _)
    rwa [(replays_tick n).node] at hshown
  | poll mailbox =>
    have hother : Guarded ((Occurrence.poll mailbox).operations n) n := by
      refine guarded_of_other fun op hop => ?_
      obtain ⟨frame, -, rfl⟩ := List.mem_map.mp hop
      simp [Operation.interrupt?]
    have hshown := hn.performAll hother ho
    rwa [Occurrence.operations, performAll_poll] at hshown
  | dump p => exact hn.dump p
  | block blocked => exact ⟨a, (List.append_nil _).symm, hn.block blocked⟩

/-- **A run adds its events to the account.** -/
theorem Shows.run (hn : Shows earlier a n) {os : List Occurrence} (hos : Orderly os n) :
    ∃ a' : DumpAccount, a'.events = a.events ++ dumpEvents os n
      ∧ Shows earlier a' (Simulation.run os n).2 := by
  induction os generalizing a n with
  | nil => exact ⟨a, (List.append_nil _).symm, hn⟩
  | cons o os ih =>
    obtain ⟨a₁, hevents₁, hshows₁⟩ := hn.after hos.1
    obtain ⟨a₂, hevents₂, hshows₂⟩ := ih hshows₁ hos.2
    exact ⟨a₂, by rw [hevents₂, hevents₁, List.append_assoc, dumpEvents], hshows₂⟩

/-- A dump is an event, latched or lost; nothing else is. -/
theorem count_dumpEvents (os : List Occurrence) (n : Node Simulation) :
    (dumpEvents os n).count .latched + (dumpEvents os n).count .lost
      = os.countP Occurrence.isDump := by
  induction os generalizing n with
  | nil => rfl
  | cons o os ih =>
    have hcaptures (history : List Performed) :
        (captureEvents history).count .latched = 0 ∧ (captureEvents history).count .lost = 0 := by
      simp [captureEvents, List.count_eq_zero]
    have hfirst : (o.dumpEvents n).count .latched + (o.dumpEvents n).count .lost
        = if o.isDump then 1 else 0 := by
      cases o with
      | dump p =>
        show [n.hardware.injectionEvent p].count .latched + [n.hardware.injectionEvent p].count .lost = 1
        rw [injectionEvent]
        split <;> rfl
      | _ =>
        show (captureEvents _).count .latched + (captureEvents _).count .lost = 0
        rw [(hcaptures _).1, (hcaptures _).2]
    rw [dumpEvents, List.count_append, List.count_append, List.countP_cons, ← ih (o.after n), ← hfirst]
    omega

/-- **Every dump is accounted for once.** In an orderly run from a start-up on, with fewer dumps than a
    counter can show, what happens to dumps falls into windows that a latched packet opens and its
    capture closes. The overflow flag is up exactly if the open window has losses, and the counter of
    missed packets shows the closed windows that have some and whose packet was not filtered: however
    many were lost in a window, and not at all for those of a filtered packet. -/
theorem dumps_accounted (hardware : Simulation) (config : EngineConfig) (os : List Occurrence)
    (horderly : Orderly os ((Node.fresh hardware config).perform .start).2)
    (hfew : os.countP Occurrence.isDump < 2 ^ 32 - 1) :
    let n₀ := ((Node.fresh hardware config).perform .start).2
    let events := dumpEvents os n₀
    let n := (run os n₀).2
    (events.count .latched
        = events.countP DumpEvent.isCapture + if n.hardware.dump.isSome then 1 else 0)
      ∧ (n.hardware.lossCounter - hardware.lossCounter).toNat = events.count .lost
      ∧ (n.hardware.dumpOverflow = true → n.hardware.dump.isSome = true)
      ∧ (∃ a : DumpAccount, events = a.events
        ∧ n.hardware.dump.isSome = a.current.isSome
        ∧ n.hardware.dumpOverflow = a.current.any (· ≠ 0)
        ∧ n.engine.statistics.missedDropped.toNat = a.closed.countP DumpWindow.isMiss)
      ∧ n.engine.statistics.missedDropped.toNat
        ≤ (n.hardware.lossCounter - hardware.lossCounter).toNat := by
  intro n₀ events n
  obtain ⟨a, hevents, hshows⟩ := (shows_start (Node.fresh hardware config)).run horderly
  obtain ⟨counted, hcounts, hmisses⟩ := hshows.missed
  have hbounded : a.misses ≤ a.events.count .lost := a.misses_le_lost
  have hdumps : a.events.count .latched + a.events.count .lost = os.countP Occurrence.isDump := by
    rw [hevents]
    exact count_dumpEvents os n₀
  have hmissed : n.engine.statistics.missedDropped.toNat = a.misses := by
    have hshown : n.engine.statistics.missedDropped.toNat = min (counted .missedDropped) counterLimit :=
      hcounts .missedDropped
    rw [hshown, hmisses, counterLimit, UInt32.size]
    omega
  have hsame : events = a.events := hevents.symm
  have hgrowth : (n.hardware.lossCounter - hardware.lossCounter).toNat = a.events.count .lost :=
    hshows.growth (by omega)
  refine ⟨?_, ?_, fun hflag => ?_, ⟨a, hsame, hshows.latched, hshows.overflow, hmissed⟩, ?_⟩
  · rw [hsame, hshows.latched]
    exact a.count_latched
  · rw [hsame]
    exact hgrowth
  · rw [hshows.latched]
    rw [hshows.overflow] at hflag
    cases hcurrent : a.current with
    | none => simp [hcurrent] at hflag
    | some losses => rfl
  · rw [hmissed, hgrowth]
    exact hbounded

end Runs

/-- Three windows with two, no and two losses, of which the first is filtered: only the third is a miss.
    A fourth stands open. -/
theorem dumps_accounted_filtered :
    let p : DumpedPacket := ⟨0, 7, 0⟩
    let n₀ := ((Node.fresh fresh EngineConfig.standard).perform .start).2
    let os : List Occurrence := [.dump p, .dump p, .dump p,
      .operation (.command (CommandMessage.setPacketClasses 0)), .operation .capture,
      .operation (.command (CommandMessage.setPacketClasses PacketClass.multicast.maskBit)),
      .dump p, .tick, .dump p, .dump p, .dump p, .service, .dump p, .dump p]
    let n := (run os n₀).2
    Orderly os n₀ ∧ os.countP Occurrence.isDump < 2 ^ 32 - 1
      ∧ dumpEvents os n₀ =
        [.latched, .lost, .lost, .captured .filtered, .latched, .captured .queued,
          .latched, .lost, .lost, .captured .queued, .latched, .lost]
      ∧ n.hardware.lostDumps = 5 ∧ n.hardware.dumpOverflow = true ∧ n.hardware.dump.isSome = true
      ∧ n.engine.statistics.missedDropped.toNat = 1 := by
  intro p n₀ os n
  have horderly : Orderly os n₀ := by decide
  have hfew : os.countP Occurrence.isDump < 2 ^ 32 - 1 := by decide
  have hevents : dumpEvents os n₀ =
      [.latched, .lost, .lost, .captured .filtered, .latched, .captured .queued,
        .latched, .lost, .lost, .captured .queued, .latched, .lost] := by decide
  have hoverflow : n.hardware.dumpOverflow = true := by decide
  obtain ⟨-, hlost, hflag, -, -⟩ := dumps_accounted fresh EngineConfig.standard os horderly hfew
  refine ⟨horderly, hfew, hevents, ?_, hoverflow, hflag hoverflow, by decide⟩
  have hcounter : n.hardware.lossCounter - fresh.lossCounter = n.hardware.lossCounter := UInt32.sub_zero _
  rw [lostDumps, ← hcounter]
  exact hlost.trans (congrArg (List.count DumpEvent.lost) hevents)

end Simulation

end PacketReinjection
