import PacketReinjection.Proofs.Counters
import PacketReinjection.Proofs.Pipeline
import PacketReinjection.Proofs.Preemption.Schedule
import PacketReinjection.Proofs.Simulation.Handlers

/-!
# `Proofs.Preemption.Moments` — what one moment does to queue, counters and transmitter

A standard handler takes packets off the queue and counts re-injections; all else that moves packets or
counts is the capture. Each law is stated for one moment first and then for the moments of a chain.

## Contents
- **Own steps.** `Taken.removed?`, `Taken.counts`, `Taken.resets`, `Taken.written?`.
- **The queue.** `Moment.Lawful.conserves`, `Chain.conserves`.
- **The counters.** `Moment.ledger`, `Moment.Lawful.entry`, `Chain.accounts`.
- **The transmitter.** `SameTransmitter`, `Chain.transmitter`.
-/

namespace PacketReinjection

/-! ## Own steps -/

/-- Whether a standard handler may take the step: packets enter the queue in the capture only, and all
    counters but one are the capture's. -/
def Step.isStandard : Step → Bool
  | .access (.enqueue _) => false
  | .access (.count c) => c = .reinjected
  | .call _ | .access _ | .log _ => true

namespace Taken

/-- The packet that the step took off the queue. -/
def removed? : Taken → Option DumpedPacket
  | ⟨.access .dequeue, p⟩ => p
  | _ => none

/-- Whether the step counted an event of a counter. -/
def counts (taken : Taken) (c : Counter) : Bool :=
  match taken.step with
  | .access (.count d) => d = c
  | .call _ | .access _ | .log _ => false

/-- Whether the step reset the counters. -/
def resets (taken : Taken) : Bool :=
  match taken.step with
  | .access .resetStatistics => true
  | .call _ | .access _ | .log _ => false

/-- The register of the comms controller that the step wrote, and the word. -/
def written? (taken : Taken) : Option (CommsRegister × UInt32) :=
  match taken.step with
  | .call (.writeComms r value) => some (r, value)
  | .call _ | .access _ | .log _ => none

end Taken

namespace Preemption

/-- The packet that a capture queued in a moment. -/
def Moment.queued? (m : Moment) : Option DumpedPacket :=
  match m.happening with
  | .captured record => record.queued?
  | .own _ | .dumped _ | .blocked _ => none

/-- The packet that the handler in progress took off the queue in a moment. -/
def Moment.removed? (m : Moment) : Option DumpedPacket := m.own?.bind Taken.removed?

/-- The packets queued, in the order of their captures. -/
def queuedPackets (ms : List Moment) : List DumpedPacket := ms.filterMap Moment.queued?

/-- The packets taken off the queue, in their order. -/
def removedPackets (steps : List Taken) : List DumpedPacket := steps.filterMap Taken.removed?

/-- The own steps of a standard handler only. -/
def Moment.IsStandard (m : Moment) : Prop :=
  ∀ taken, m.own? = some taken → taken.step.isStandard = true

theorem isStandard_of_ownSteps {ms : List Moment}
    (h : ∀ taken ∈ ownSteps ms, taken.step.isStandard = true) : ∀ m ∈ ms, m.IsStandard :=
  fun m hm taken hown => h taken (List.mem_filterMap.mpr ⟨m, hm, hown⟩)

/-- A capture sends nothing. -/
theorem sent?_capture (n : Node Simulation) : (n.perform .capture).1.sent? = none := by
  simp [Node.perform, Operation.routine, Routine.run_bind, Performed.sent?]

/-! ## The queue -/

/-- **One moment moves at most one packet**: in with a capture, out with a step of the handler. -/
theorem Moment.Lawful.conserves {m : Moment} (hm : m.Lawful) (hs : m.IsStandard) :
    m.before.engine.queue.toList ++ m.queued?.toList
      = m.removed?.toList ++ m.after.engine.queue.toList := by
  cases hm with
  | own s n =>
    cases s with
    | call c => simp [ownMoment, queued?, removed?, own?, Taken.removed?, Node.take]
    | log e => simp [ownMoment, queued?, removed?, own?, Taken.removed?, Node.take]
    | access a =>
      cases a with
      | enqueue p => exact absurd (hs _ rfl) (by simp [Step.isStandard])
      | dequeue =>
        simp only [ownMoment, queued?, removed?, own?, Taken.removed?, Node.take, Access.apply,
          Option.bind_some, Option.toList_none, List.append_nil]
        cases htaken : n.engine.queue.dequeue.1 with
        | none => rw [RingQueue.dequeue_snd_of_none htaken]; rfl
        | some p => rw [RingQueue.toList_eq_of_dequeue htaken]; rfl
      | _ => simp [ownMoment, queued?, removed?, own?, Taken.removed?, Node.take]
  | interference i n =>
    cases i with
    | dump p => simp [Interference.moment, queued?, removed?, own?]
    | block blocked => simp [Interference.moment, queued?, removed?, own?]
    | capture =>
      have hmoved := (perform_explained .capture n).conserves
      rw [sent?_capture] at hmoved
      exact hmoved

/-- The moves of a chain add up. -/
theorem Chain.conserves {n n' : Node Simulation} {ms : List Moment} (h : Chain n ms n')
    (hs : ∀ m ∈ ms, m.IsStandard) :
    n.engine.queue.toList ++ queuedPackets ms
      = removedPackets (ownSteps ms) ++ n'.engine.queue.toList := by
  induction h with
  | nil n => simp [queuedPackets, removedPackets, ownSteps]
  | @cons m ms n' hm hrest ih =>
    have hfirst := hm.conserves (hs m (by simp))
    have hlater := ih fun m' hm' => hs m' (by simp [hm'])
    have hqueued : queuedPackets (m :: ms) = m.queued?.toList ++ queuedPackets ms :=
      filterMap_cons_toList _ m ms
    have hremoved : removedPackets (ownSteps (m :: ms))
        = m.removed?.toList ++ removedPackets (ownSteps ms) := by
      rw [removedPackets, ownSteps, filterMap_cons_toList, List.filterMap_append]
      cases hown : m.own? with
      | none => simp [removedPackets, ownSteps, Moment.removed?, hown]
      | some taken =>
        rw [Option.toList_some, filterMap_cons_toList]
        simp [removedPackets, ownSteps, Moment.removed?, hown]
    rw [hqueued, hremoved]
    exact moves_append hfirst hlater

/-! ## The counters -/

/-- Whether a moment is an event of a counter. -/
def Moment.isEvent (m : Moment) (c : Counter) : Bool :=
  match m.happening with
  | .own taken => taken.counts c
  | .captured record => record.isEvent c
  | .dumped _ | .blocked _ => false

/-- How the moments of a run enter the account of counters and queue. -/
def Moment.ledger : Ledger Moment where
  before m := m.before.engine
  after m := m.after.engine
  resets m := m.own?.any Taken.resets
  isEvent := Moment.isEvent
  removes m := m.removed?.isSome

/-- A dequeue takes one packet off the queue or finds none. -/
theorem entry_dequeue (n : Node Simulation) : Moment.ledger.Entry (ownMoment (.access .dequeue) n) where
  cleared hreset := Bool.noConfusion hreset
  counts _ _ hn := hn
  balance := by
    have hremoves : Moment.ledger.removes (ownMoment (.access .dequeue) n)
        = n.engine.queue.dequeue.1.isSome := rfl
    have hafter : (Moment.ledger.after (ownMoment (.access .dequeue) n)).queue
        = n.engine.queue.dequeue.2 := rfl
    rw [hremoves, hafter]
    show n.engine.queue.length + 0 = _ + _ + 0
    cases htaken : n.engine.queue.dequeue.1 with
    | none => simp [RingQueue.dequeue_snd_of_none htaken]
    | some p =>
      have hwaiting := congrArg List.length (RingQueue.toList_eq_of_dequeue htaken)
      simpa using hwaiting

/-- A re-injection counted by the handler is an event of its counter and of no other. -/
theorem entry_reinjected (n : Node Simulation) :
    Moment.ledger.Entry (ownMoment (.access (.count .reinjected)) n) where
  cleared hreset := Bool.noConfusion hreset
  counts _ _ hn := by
    refine Statistics.Counts.congr (Statistics.Counts.count hn .reinjected) fun c => ?_
    cases c <;> rfl
  balance := rfl

/-- **Every moment keeps the account.** -/
theorem Moment.Lawful.entry {m : Moment} (hm : m.Lawful) (hs : m.IsStandard) :
    Moment.ledger.Entry m := by
  cases hm with
  | own s n =>
    cases s with
    | call c => exact .of_same rfl (fun _ => rfl) rfl rfl rfl
    | log e => exact .of_same rfl (fun _ => rfl) rfl rfl rfl
    | access a =>
      cases a with
      | enqueue p => exact absurd (hs _ rfl) (by simp [Step.isStandard])
      | dequeue => exact entry_dequeue n
      | count c =>
        have hc : c = .reinjected := of_decide_eq_true (hs _ rfl)
        rw [hc]
        exact entry_reinjected n
      | resetStatistics => exact ⟨fun _ => rfl, fun hr => Bool.noConfusion hr, rfl⟩
      | _ => exact .of_same rfl (fun _ => rfl) rfl rfl rfl
  | interference i n =>
    cases i with
    | dump p => exact .of_same rfl (fun _ => rfl) rfl rfl rfl
    | block blocked => exact .of_same rfl (fun _ => rfl) rfl rfl rfl
    | capture =>
      have hrecord := (perform_explained .capture n).entry
      have hunreset : (n.perform .capture).1.resets = false := Performed.resets_of_interrupt rfl
      have hremoves : Performed.ledger.removes (n.perform .capture).1 = false := by
        simp [Performed.ledger, Performed.isEvent, sent?_capture]
      refine ⟨fun hreset => Bool.noConfusion hreset, fun _ => hrecord.counts hunreset, ?_⟩
      have hbalance := hrecord.balance
      rw [hremoves] at hbalance
      exact hbalance

theorem Chain.accounts {n n' : Node Simulation} {ms : List Moment} (h : Chain n ms n')
    (hs : ∀ m ∈ ms, m.IsStandard) {history : List Moment}
    (ha : Moment.ledger.Accounts history n.engine) :
    Moment.ledger.Accounts (history ++ ms) n'.engine := by
  induction h generalizing history with
  | nil n => rwa [List.append_nil]
  | @cons m ms n' hm hrest ih =>
    have hfirst : Moment.ledger.Accounts (history ++ [m]) m.after.engine :=
      Ledger.Accounts.step ha (hm.entry (hs m (by simp)))
    have hlater := ih (fun m' hm' => hs m' (by simp [hm'])) hfirst
    rwa [List.append_assoc, List.singleton_append] at hlater

/-! ## Single facts of a chain -/

theorem Chain.lawful {n n' : Node Simulation} {ms : List Moment} (h : Chain n ms n') :
    ∀ m ∈ ms, m.Lawful := by
  induction h with
  | nil => exact fun _ hm => absurd hm List.not_mem_nil
  | @cons m ms n' hm _ ih =>
    intro m' hm'
    rcases List.mem_cons.mp hm' with rfl | hm'
    · exact hm
    · exact ih m' hm'

/-- An access among the own steps gave what the memory held at its moment. -/
theorem Chain.access_result {n n' : Node Simulation} {ms : List Moment} (h : Chain n ms n')
    {a : Access} {r : a.Result} (hown : ⟨.access a, r⟩ ∈ ownSteps ms) :
    ∃ m ∈ ms, m.happening = .own ⟨.access a, r⟩ ∧ r = (a.apply m.before.engine).1 := by
  obtain ⟨m, hm, htaken⟩ := List.mem_filterMap.mp hown
  refine ⟨m, hm, ?_⟩
  cases h.lawful m hm with
  | own s n =>
    simp only [Moment.own?, ownMoment, Option.some.injEq, Taken.mk.injEq] at htaken
    obtain ⟨rfl, hr⟩ := htaken
    cases hr
    exact ⟨rfl, rfl⟩
  | interference i n => cases i <;> exact absurd htaken (by simp [Moment.own?, Interference.moment])

theorem perform_capture_snd (n : Node Simulation) :
    (n.perform .capture).2 =
      ⟨n.hardware.released,
        (n.engine.receive (n.hardware.dump.getD .blank) n.hardware.lossStatus).2, n.events⟩ := by
  simp [Node.perform, Operation.routine, Routine.run_bind, run_capture_simulation]

/-- The source id is the handler's: nothing else that happens changes it. -/
theorem Moment.Lawful.transmitSource {m : Moment} (hm : m.Lawful)
    (hs : ∀ taken value, m.own? = some taken → taken.step ≠ .access (.setTransmitSource value)) :
    m.after.engine.transmitSource = m.before.engine.transmitSource := by
  cases hm with
  | own s n =>
    cases s with
    | call c => rfl
    | log e => rfl
    | access a =>
      cases a with
      | setTransmitSource value => exact absurd rfl (hs _ value rfl)
      | _ => rfl
  | interference i n =>
    cases i with
    | dump p => rfl
    | block blocked => rfl
    | capture =>
      show (n.perform .capture).2.engine.transmitSource = n.engine.transmitSource
      rw [perform_capture_snd]
      obtain ⟨-, hr⟩ | ⟨-, -, hr⟩ | ⟨-, -, hr⟩ :=
        n.engine.receive_cases (n.hardware.dump.getD .blank) n.hardware.lossStatus <;> rw [hr]

theorem Chain.transmitSource {n n' : Node Simulation} {ms : List Moment} (h : Chain n ms n')
    (hs : ∀ taken ∈ ownSteps ms, ∀ value, taken.step ≠ .access (.setTransmitSource value)) :
    ∀ m ∈ ms, m.before.engine.transmitSource = n.engine.transmitSource := by
  induction h with
  | nil => exact fun _ hm => absurd hm List.not_mem_nil
  | @cons m ms n' hm _ ih =>
    have hfirst := hm.transmitSource fun taken value hown =>
      hs taken (List.mem_filterMap.mpr ⟨m, by simp, hown⟩) value
    intro m' hm'
    rcases List.mem_cons.mp hm' with rfl | hm'
    · rfl
    · refine (ih (fun taken htaken => ?_) m' hm').trans hfirst
      obtain ⟨m'', hm'', hown⟩ := List.mem_filterMap.mp htaken
      exact hs taken (List.mem_filterMap.mpr ⟨m'', by simp [hm''], hown⟩)

/-! ## The transmitter -/

/-- Two register files that agree on the transmitter. -/
structure SameTransmitter (s s' : Simulation) : Prop where
  txControl : s.txControl = s'.txControl
  sourceAddress : s.sourceAddress = s'.sourceAddress
  txData : s.txData = s'.txData
  transmitted : s.transmitted = s'.transmitted

theorem SameTransmitter.writeComms {s s' : Simulation} (h : SameTransmitter s s') (r : CommsRegister)
    (value : UInt32) : SameTransmitter (s.writeComms r value) (s'.writeComms r value) := by
  obtain ⟨hcontrol, hsource, hdata, htransmitted⟩ := h
  cases r with
  | txControl => exact ⟨rfl, hsource, hdata, htransmitted⟩
  | txData => exact ⟨hcontrol, hsource, rfl, htransmitted⟩
  | sourceAddress => exact ⟨hcontrol, rfl, hdata, htransmitted⟩
  | txKey =>
    refine ⟨hcontrol, hsource, rfl, ?_⟩
    simp only [Simulation.writeComms, hcontrol, hsource, hdata, htransmitted]

/-- Write words to registers of the comms controller, one after the other. -/
def writeAll (writes : List (CommsRegister × UInt32)) (s : Simulation) : Simulation :=
  writes.foldl (fun s w => s.writeComms w.1 w.2) s

/-- The writes to the comms controller among the steps of a handler. -/
def commsWrites (steps : List Taken) : List (CommsRegister × UInt32) := steps.filterMap Taken.written?

/-- **One moment changes the transmitter only by a write of the handler.** -/
theorem Moment.Lawful.transmitter {m : Moment} (hm : m.Lawful) {s : Simulation}
    (hs : SameTransmitter m.before.hardware s) :
    SameTransmitter m.after.hardware (writeAll (m.own?.bind Taken.written?).toList s) := by
  obtain ⟨hcontrol, hsource, hdata, htransmitted⟩ := hs
  cases hm with
  | own step n =>
    cases step with
    | call c =>
      cases c with
      | writeComms r value =>
        exact SameTransmitter.writeComms ⟨hcontrol, hsource, hdata, htransmitted⟩ r value
      | readRouter r => cases r <;> exact ⟨hcontrol, hsource, hdata, htransmitted⟩
      | writeRouter r value => cases r <;> exact ⟨hcontrol, hsource, hdata, htransmitted⟩
      | writeVic r value => cases r <;> exact ⟨hcontrol, hsource, hdata, htransmitted⟩
      | _ => exact ⟨hcontrol, hsource, hdata, htransmitted⟩
    | access a => exact ⟨hcontrol, hsource, hdata, htransmitted⟩
    | log e => exact ⟨hcontrol, hsource, hdata, htransmitted⟩
  | interference i n =>
    cases i with
    | dump p =>
      show SameTransmitter (n.hardware.injectDump p).2 s
      unfold Simulation.injectDump
      split <;> exact ⟨hcontrol, hsource, hdata, htransmitted⟩
    | block blocked => exact ⟨hcontrol, hsource, hdata, htransmitted⟩
    | capture =>
      show SameTransmitter (n.perform .capture).2.hardware s
      rw [perform_capture_snd]
      exact ⟨hcontrol, hsource, hdata, htransmitted⟩

theorem Chain.transmitter {n n' : Node Simulation} {ms : List Moment} (h : Chain n ms n')
    {s : Simulation} (hs : SameTransmitter n.hardware s) :
    SameTransmitter n'.hardware (writeAll (commsWrites (ownSteps ms)) s) := by
  induction h generalizing s with
  | nil n => exact hs
  | @cons m ms n' hm _ ih =>
    have hwrites : writeAll (commsWrites (ownSteps (m :: ms))) s
        = writeAll (commsWrites (ownSteps ms)) (writeAll (m.own?.bind Taken.written?).toList s) := by
      cases hown : m.own? with
      | none => simp [writeAll, commsWrites, ownSteps, hown]
      | some taken =>
        cases hwritten : taken.written? <;>
          simp [writeAll, commsWrites, ownSteps, hown, hwritten]
    rw [hwrites]
    exact ih (hm.transmitter hs)

end Preemption

end PacketReinjection
