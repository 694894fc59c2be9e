import PacketReinjection.Proofs.Preemption.Handlers

/-!
# `Proofs.Preemption.Safety` — standard handlers are safe against preemption

However the capture comes in between the steps of the standard handlers, no packet is lost, duplicated
or reordered, the counters balance whenever no standard handler is in progress, every packet sent is
the one that was oldest when it was taken, and the fast interrupt is masked around the queue only.

Between two handlers an invariant holds that no schedule can break: an idle episode moves nothing but
what the capture queues, and an episode that sends takes one packet and counts it.

## Contents
- **`Episode.Transmits`** — what sending a packet comes to.
- **`Invariant`** with `Invariant.idle` and `Invariant.sending`.
- **`Sound`** — one episode; `Invariant.run` — runs; `preemption_safe`.
-/

namespace PacketReinjection.Preemption

/-! ## Episodes -/

/-- The packet that the handler of an episode tells that it sent. -/
def Episode.sent? (ep : Episode) : Option DumpedPacket := ep.outcome.bind Outcome.sent?

/-- The moments of a run, in their order. -/
def allMoments (episodes : List Episode) : List Moment := episodes.flatMap Episode.moments

/-- The packets sent in a run, in the order of their episodes. -/
def sentPackets (episodes : List Episode) : List DumpedPacket := episodes.filterMap Episode.sent?

/-- What sending a packet comes to, whatever came in between. -/
structure Episode.Transmits (ep : Episode) (p : DumpedPacket) : Prop where
  /-- The handler took this packet and no other off the queue. -/
  removed : removedPackets (ownSteps ep.moments) = [p]
  /-- It was the oldest when it was taken. -/
  oldest : ∃ m ∈ ep.moments, m.happening = .own ⟨.access .dequeue, some p⟩
    ∧ m.before.engine.queue.toList.head? = some p
  /-- The handler wrote the packet to the transmitter, and nothing else. -/
  writes : commsWrites (ownSteps ep.moments)
    = transmitterWrites ep.before.engine.transmitSource p
  /-- The transmitter sent that packet and no other. -/
  fired : ep.after.hardware.transmitted
    = ep.before.hardware.transmitted ++ [p.image ep.before.engine.transmitSource none]

/-! ## The invariant -/

/-- What holds of a run whenever no standard handler is in progress. -/
structure Invariant (ms : List Moment) (sent : List DumpedPacket) (n : Node Simulation) : Prop where
  queue : queuedPackets ms = sent ++ n.engine.queue.toList
  accounts : Moment.ledger.Accounts ms n.engine
  removals : Moment.ledger.removals ms = Moment.ledger.events ms .reinjected
  unmasked : n.hardware.fastMasked = false
  /-- No payload is left in the transmitter. -/
  clean : n.hardware.txData = none

/-- Of the moments of a run only own steps count re-injections. -/
theorem Moment.Lawful.isEvent_reinjected {m : Moment} (hm : m.Lawful) :
    Moment.ledger.isEvent m .reinjected = m.own?.any fun taken => taken.counts .reinjected := by
  cases hm with
  | own s n => rfl
  | interference i n =>
    cases i with
    | dump p => rfl
    | block blocked => rfl
    | capture =>
      show (n.perform .capture).1.isEvent .reinjected = false
      simp [Performed.isEvent, sent?_capture]

theorem Moment.removes_eq (m : Moment) :
    Moment.ledger.removes m = m.own?.any fun taken => taken.removed?.isSome := by
  cases hown : m.own? <;> simp [Moment.ledger, Moment.removed?, hown]

theorem countP_ownSteps (f : Taken → Bool) (ms : List Moment) :
    ms.countP (fun m => m.own?.any f) = (ownSteps ms).countP f := by
  induction ms with
  | nil => rfl
  | cons m ms ih =>
    cases hown : m.own? with
    | none => simpa [ownSteps, hown] using ih
    | some taken => simpa [ownSteps, hown, List.countP_cons] using ih

/-- Writing a packet to a transmitter without a left payload sends just that packet. -/
theorem writeAll_transmitterWrites {s : Simulation} (hs : s.txData = none) (source : UInt32)
    (p : DumpedPacket) :
    (writeAll (transmitterWrites source p) s).txData = none
      ∧ (writeAll (transmitterWrites source p) s).transmitted
        = s.transmitted ++ [p.image source none] := by
  cases hpayload : p.header.toBitVec.getLsbD 17 <;>
    simp [-BitVec.getLsbD_eq_getElem, transmitterWrites, writeAll, Simulation.writeComms,
      DumpedPacket.image, hpayload, hs]

section Steps

variable {history ms : List Moment} {sent : List DumpedPacket} {n n' : Node Simulation}

/-- **An idle episode keeps the invariant**: what it captures waits behind the rest. -/
theorem Invariant.idle (hinv : Invariant history sent n) (hchain : Chain n ms n')
    (hidle : ∀ taken ∈ ownSteps ms, taken.isIdle = true) (hunmasked : n'.hardware.fastMasked = false) :
    Invariant (history ++ ms) sent n' := by
  have hsteps : ∀ taken ∈ ownSteps ms, taken.Idle :=
    fun taken htaken => Taken.idle_of_isIdle (hidle taken htaken)
  have hstandard : ∀ m ∈ ms, m.IsStandard :=
    isStandard_of_ownSteps fun taken htaken => (hsteps taken htaken).standard
  refine ⟨?_, hchain.accounts hstandard hinv.accounts, ?_, hunmasked, ?_⟩
  · -- Nothing left the queue, so what was captured stands behind what was there.
    have hmoved := hchain.conserves hstandard
    have hremoved : removedPackets (ownSteps ms) = [] :=
      List.filterMap_eq_nil_iff.mpr fun taken htaken => (hsteps taken htaken).removed
    rw [hremoved, List.nil_append] at hmoved
    unfold queuedPackets at hmoved ⊢
    rw [List.filterMap_append, ← hmoved, ← List.append_assoc, ← hinv.queue]
    rfl
  · -- An idle episode may hold a reset anywhere, so this goes moment by moment.
    refine Ledger.removals_eq_append_of_forall (fun m hm => ?_) hinv.removals
    rw [(hchain.lawful m hm).isEvent_reinjected, m.removes_eq]
    cases hown : m.own? with
    | none => rfl
    | some taken =>
      have hidle := hsteps taken (List.mem_filterMap.mpr ⟨m, hm, hown⟩)
      simp [hidle.removed, hidle.counted]
  · have hsame := hchain.transmitter (s := n.hardware) ⟨rfl, rfl, rfl, rfl⟩
    have hwrites : commsWrites (ownSteps ms) = [] :=
      List.filterMap_eq_nil_iff.mpr fun taken htaken => (hsteps taken htaken).written
    rw [hwrites] at hsame
    exact hsame.txData.trans hinv.clean

/-- **An episode that sends keeps the invariant**: the packet it took is the packet it tells of. -/
theorem Invariant.sending (hinv : Invariant history sent n) (hchain : Chain n ms n')
    {p : DumpedPacket} {status saved source : UInt32}
    (hsteps : ownSteps ms = sendingSteps status saved source p)
    (hunmasked : n'.hardware.fastMasked = false) :
    Invariant (history ++ ms) (sent ++ [p]) n' := by
  obtain ⟨hremoved, hremovals, hcounted, hwrites⟩ := sendingSteps_effect status saved source p
  have hkinds := sendingSteps_kinds status saved source p
  rw [← hsteps] at hremoved hremovals hcounted hwrites hkinds
  have hstandard : ∀ m ∈ ms, m.IsStandard :=
    isStandard_of_ownSteps fun taken htaken => (hkinds taken htaken).1
  refine ⟨?_, hchain.accounts hstandard hinv.accounts, ?_, hunmasked, ?_⟩
  · have hmoved := hchain.conserves hstandard
    rw [removedPackets, hremoved] at hmoved
    unfold queuedPackets at hmoved ⊢
    rw [List.filterMap_append, List.append_assoc, ← hmoved, ← List.append_assoc, ← hinv.queue]
    rfl
  · -- Between taking a packet and counting it the two differ; there is no reset in between.
    refine Ledger.removals_eq_append (fun m hm => ?_) ?_ hinv.removals
    · show (m.own?.any Taken.resets) = false
      cases hown : m.own? with
      | none => rfl
      | some taken => exact (hkinds taken (List.mem_filterMap.mpr ⟨m, hm, hown⟩)).2.1
    · have hleft : ms.countP Moment.ledger.removes = 1 := by
        rw [← hremovals, ← countP_ownSteps]
        exact List.countP_congr fun m _ => by rw [m.removes_eq]
      have hevents : (ms.countP fun m => Moment.ledger.isEvent m .reinjected) = 1 := by
        rw [← hcounted, ← countP_ownSteps]
        exact List.countP_congr fun m hm => by rw [(hchain.lawful m hm).isEvent_reinjected]
      rw [hleft, hevents]
  · have hsame := hchain.transmitter (s := n.hardware) ⟨rfl, rfl, rfl, rfl⟩
    rw [commsWrites, hwrites] at hsame
    exact hsame.txData.trans (writeAll_transmitterWrites hinv.clean source p).1

end Steps

/-! ## Runs -/

/-- What one episode keeps to. -/
structure Sound (ep : Episode) : Prop where
  transmits : ∀ p, ep.sent? = some p → ep.Transmits p
  masks : ∀ m ∈ ep.moments, m.MaskLaw

/-- An episode that sends transmits its packet and nothing else. -/
theorem Invariant.transmits {history : List Moment} {sent : List DumpedPacket} (ep : Episode)
    (hinv : Invariant history sent ep.before) (hchain : Chain ep.before ep.moments ep.after)
    {p : DumpedPacket} {status saved source : UInt32}
    (hsteps : ownSteps ep.moments = sendingSteps status saved source p) : ep.Transmits p := by
  obtain ⟨hremoved, -, -, hwrites⟩ := sendingSteps_effect status saved source p
  have hkinds := sendingSteps_kinds status saved source p
  -- The source id that was looked up is the one from before the episode.
  have hsource : source = ep.before.engine.transmitSource := by
    have hlooked : ⟨.access .transmitSource, source⟩ ∈ ownSteps ep.moments := by
      rw [hsteps]
      simp [sendingSteps, transmitSteps]
    obtain ⟨m, hm, -, hsource⟩ := hchain.access_result hlooked
    rw [← hsteps] at hkinds
    exact hsource.trans
      (hchain.transmitSource (fun taken htaken => (hkinds taken htaken).2.2) m hm)
  rw [hsource] at hwrites
  have hcomms : commsWrites (ownSteps ep.moments)
      = transmitterWrites ep.before.engine.transmitSource p := by
    rw [commsWrites, hsteps, hsource]
    exact hwrites
  refine ⟨?_, ?_, hcomms, ?_⟩
  · rw [removedPackets, hsteps]
    exact hremoved
  · have htaken : ⟨.access .dequeue, some p⟩ ∈ ownSteps ep.moments := by
      rw [hsteps]
      simp [sendingSteps]
    obtain ⟨m, hm, hhappening, holdest⟩ := hchain.access_result htaken
    exact ⟨m, hm, hhappening, (RingQueue.dequeue_fst _).symm.trans holdest.symm⟩
  · have hsame := hchain.transmitter (s := ep.before.hardware) ⟨rfl, rfl, rfl, rfl⟩
    rw [hcomms] at hsame
    exact hsame.transmitted.trans (writeAll_transmitterWrites hinv.clean _ p).2

/-- **One episode** keeps the invariant, and its own laws. -/
theorem Invariant.step {history : List Moment} {sent : List DumpedPacket} {n : Node Simulation}
    (hinv : Invariant history sent n) (activity : Activity) :
    let ep := runActivity activity n
    Invariant (history ++ ep.moments) (sent ++ ep.sent?.toList) ep.after ∧ Sound ep := by
  cases activity with
  | between burst =>
    obtain ⟨hmasks, hunmasked⟩ := masks_interfere burst hinv.unmasked
    have hsent : (runActivity (.between burst) n).sent? = none := rfl
    have hkept := hinv.idle (chain_interfere burst n)
      (by rw [ownSteps_interfere]; exact fun _ h => absurd h List.not_mem_nil) hunmasked
    refine ⟨?_, fun p hp => absurd hp (by simp [hsent]), hmasks⟩
    rw [hsent, Option.toList_none, List.append_nil]
    exact hkept
  | handler h bursts =>
    obtain ⟨hchain, hpath⟩ := h.operation.routine.runPreempted_spec 0 bursts n
    obtain ⟨hmasks, hunmasked⟩ := (disciplined_operation h).masks
      ⟨hinv.unmasked, rfl, fun _ hv => absurd hv (by simp)⟩ bursts
    obtain ⟨p, status, saved, source, hsent, hsteps⟩ | ⟨hunsent, hidle⟩ := path_operation hpath
    · have hkept := hinv.sending hchain hsteps hunmasked
      have hep : (runActivity (.handler h bursts) n).sent? = some p := hsent
      refine ⟨?_, fun q hq => ?_, hmasks⟩
      · rw [hep]
        exact hkept
      · obtain rfl : p = q := Option.some.inj (hep.symm.trans hq)
        exact Invariant.transmits (runActivity (.handler h bursts) n) hinv hchain hsteps
    · have hkept := hinv.idle hchain hidle hunmasked
      have hep : (runActivity (.handler h bursts) n).sent? = none := hunsent
      refine ⟨?_, fun q hq => absurd hq (by simp [hep]), hmasks⟩
      rw [hep, Option.toList_none, List.append_nil]
      exact hkept

/-- **Whole runs.** -/
theorem Invariant.run {history : List Moment} {sent : List DumpedPacket} {n : Node Simulation}
    (hinv : Invariant history sent n) (activities : List Activity) :
    let run := runActivities activities n
    Invariant (history ++ allMoments run.1) (sent ++ sentPackets run.1) run.2
      ∧ ∀ ep ∈ run.1, Sound ep := by
  induction activities generalizing history sent n with
  | nil =>
    refine ⟨?_, fun _ h => absurd h List.not_mem_nil⟩
    show Invariant (history ++ []) (sent ++ []) n
    rwa [List.append_nil, List.append_nil]
  | cons activity activities ih =>
    obtain ⟨hfirst, hsound⟩ := hinv.step activity
    obtain ⟨hlater, hsounds⟩ := ih hfirst
    refine ⟨?_, fun ep hep => ?_⟩
    · have hmoments : allMoments (runActivities (activity :: activities) n).1
          = (runActivity activity n).moments
            ++ allMoments (runActivities activities (runActivity activity n).after).1 := rfl
      have hsent : sentPackets (runActivities (activity :: activities) n).1
          = (runActivity activity n).sent?.toList
            ++ sentPackets (runActivities activities (runActivity activity n).after).1 :=
        filterMap_cons_toList _ _ _
      rw [hmoments, hsent, ← List.append_assoc, ← List.append_assoc]
      exact hlater
    · rcases List.mem_cons.mp hep with rfl | hep
      · exact hsound
      · exact hsounds ep hep

/-- A simulated node as it is built: its clock and two preloaded registers; all else is zero. -/
def built (clock control source : UInt32) : Simulation :=
  { Simulation.fresh with clockMegahertz := clock, routerControl := control, sourceAddress := source }

theorem Invariant.fresh (clock control source : UInt32) (config : EngineConfig) :
    Invariant [] [] (Node.fresh (built clock control source) config) where
  queue := by
    rw [List.nil_append]
    exact (RingQueue.toList_empty DumpedPacket.blank _).symm
  accounts := .fresh config
  removals := rfl
  unmasked := rfl
  clean := rfl

/-- **Standard handlers are safe against preemption.** For every run of standard handlers in any order,
    with any bursts of dumps, blocking and captures between them and at every point of each of them
    where the fast interrupt can come in, and whenever no standard handler is in progress:

    - the packets queued are the packets sent, followed by the queue as it stands;
    - with `L` the length of the queue at the last reset, `dropped + L` packets were sent, refused for
      want of room, or wait, as long as no counter stands at its largest value;
    - every handler that sent a packet took the oldest one, and wrote it and nothing else;
    - the fast interrupt was masked around the queue only, at no access to the hardware, and is
      unmasked now. -/
theorem preemption_safe (clock control source : UInt32) (config : EngineConfig)
    (activities : List Activity) :
    let run := runActivities activities (Node.fresh (built clock control source) config)
    let ms := allMoments run.1
    let s := run.2.engine.statistics
    queuedPackets ms = sentPackets run.1 ++ run.2.engine.queue.toList
      ∧ (s.Unsaturated → s.dropped.toNat + Moment.ledger.lengthAtReset ms
        = s.reinjected.toNat + s.queueOverflows.toNat + run.2.engine.queue.length)
      ∧ (∀ ep ∈ run.1, ∀ p, ep.sent? = some p → ep.Transmits p)
      ∧ (∀ m ∈ ms, m.MaskLaw) ∧ run.2.hardware.fastMasked = false := by
  intro run ms s
  obtain ⟨hinv, hsound⟩ := (Invariant.fresh clock control source config).run activities
  refine ⟨hinv.queue, fun hs => hinv.accounts.statistics_balance hs hinv.removals,
    fun ep hep => (hsound ep hep).transmits, fun m hm => ?_, hinv.unmasked⟩
  obtain ⟨ep, hep, hm⟩ := List.mem_flatMap.mp hm
  exact (hsound ep hep).masks m hm

/-- A second packet is captured between two register writes of the first one's re-injection. The writes
    are those of the first: its control and route bits, its payload and its key. -/
theorem preemption_safe_between_writes :
    let run := runActivities
      [.handler .start [], .between [.dump ⟨0x052b0000, 7, 9⟩, .capture],
        .handler .transmitterReady [[], [], [], [], [], [.dump ⟨0, 8, 0⟩, .capture]]]
      (Node.fresh (built 200 0 0x0203) EngineConfig.standard)
    run.2.engine.statistics.Unsaturated ∧ sentPackets run.1 = [⟨0x052b0000, 7, 9⟩]
      ∧ queuedPackets (allMoments run.1) = ⟨0x052b0000, 7, 9⟩ :: run.2.engine.queue.toList
      ∧ run.2.engine.statistics.dropped.toNat
        = run.2.engine.statistics.reinjected.toNat + run.2.engine.statistics.queueOverflows.toNat
          + run.2.engine.queue.length
      ∧ ∃ ep ∈ run.1, ep.sent? = some ⟨0x052b0000, 7, 9⟩ ∧ commsWrites (ownSteps ep.moments)
        = [(.txControl, 0x002b0000), (.sourceAddress, 0x05000203), (.txData, 9), (.txKey, 7)] := by
  intro run
  have hs : run.2.engine.statistics.Unsaturated := by intro c; cases c <;> decide
  have hsent : sentPackets run.1 = [⟨0x052b0000, 7, 9⟩] := by decide
  obtain ⟨hqueue, hbalance, htransmits, -⟩ := preemption_safe 200 0 0x0203 EngineConfig.standard
    [.handler .start [], .between [.dump ⟨0x052b0000, 7, 9⟩, .capture],
      .handler .transmitterReady [[], [], [], [], [], [.dump ⟨0, 8, 0⟩, .capture]]]
  have hlast : ∃ ep, run.1[2]? = some ep ∧ ep.sent? = some ⟨0x052b0000, 7, 9⟩
      ∧ ep.before.engine.transmitSource = 0x0203 := ⟨_, rfl, by decide, by decide⟩
  obtain ⟨ep, hep, hpacket, hsource⟩ := hlast
  have hmem : ep ∈ run.1 := List.mem_of_getElem? hep
  refine ⟨hs, hsent, ?_, hbalance hs, ep, hmem, hpacket, ?_⟩
  · rw [hqueue]
    exact congrArg (· ++ run.2.engine.queue.toList) hsent
  · rw [(htransmits ep hmem _ hpacket).writes, hsource]
    rfl

end PacketReinjection.Preemption
