import PacketReinjection.Proofs.Masks
import PacketReinjection.Proofs.Preemption.Masking
import PacketReinjection.Proofs.Routine.HandlerSteps

/-!
# `Proofs.Preemption.Handlers` — what a standard handler can do, whatever comes in between

Facts about the paths of the handlers, with any answers of the hardware and any contents of the memory
at every step. A handler either sends one packet, by the same steps in the same order each time, or
leaves queue, counters and transmitter alone but for resets.

## Contents
- **Kinds of steps.** `Step.isStill`, `Step.isPlain`, `Taken.isIdle`.
- **Discipline.** `disciplined_operation`.
- **Steps of a call.** `sendingSteps`, `blockedSteps`, `idleSteps`, `tickingSteps`.
- **Paths.** `path_transmitterReady_steps`, `path_timerTick_steps`, `path_transmitterReady`,
  `path_operation`.
-/

namespace PacketReinjection

/-! ## Kinds of steps -/

/-- Whether a step moves no packet, counts nothing and writes nothing to the transmitter. -/
def Step.isStill : Step → Bool
  | .call (.writeComms _ _) => false
  | .access (.enqueue _) | .access .dequeue | .access (.count _) => false
  | .call _ | .access _ | .log _ => true

/-- Whether a step is still and leaves the mask and the ends of the queue alone. -/
def Step.isPlain (s : Step) : Bool := s.isOpen && s.isStill

/-- Whether a step was still, or looked for a packet and found none. -/
def Taken.isIdle : Taken → Bool
  | ⟨.access .dequeue, p⟩ => p.isNone
  | ⟨s, _⟩ => s.isStill

/-- What an idle step did to the account and to the transmitter: nothing. -/
structure Taken.Idle (taken : Taken) : Prop where
  standard : taken.step.isStandard = true
  removed : taken.removed? = none
  counted : ∀ c, taken.counts c = false
  written : taken.written? = none

theorem Taken.idle_of_isIdle {taken : Taken} (h : taken.isIdle = true) : taken.Idle := by
  obtain ⟨s, r⟩ := taken
  cases s with
  | call c => cases c <;> first | exact ⟨rfl, rfl, fun _ => rfl, rfl⟩ | exact Bool.noConfusion h
  | log e => exact ⟨rfl, rfl, fun _ => rfl, rfl⟩
  | access a =>
    cases a with
    | dequeue => exact ⟨rfl, Option.isNone_iff_eq_none.mp h, fun _ => rfl, rfl⟩
    | _ => first | exact ⟨rfl, rfl, fun _ => rfl, rfl⟩ | exact Bool.noConfusion h

theorem Taken.isIdle_of_isStill {taken : Taken} (h : taken.step.isStill = true) :
    taken.isIdle = true := by
  obtain ⟨s, r⟩ := taken
  cases s with
  | call c => exact h
  | log e => exact h
  | access a => cases a <;> first | exact h | exact Bool.noConfusion h

/-! ## Discipline -/

section Plain

open Routine

/-- The steps of start-up are plain. -/
theorem plain_start : start.Only Step.isPlain :=
  only_start.mono fun s hs => by
    cases s with
    | call c => cases c <;> first | rfl | exact Bool.noConfusion hs
    | access a => cases a <;> first | rfl | exact Bool.noConfusion hs
    | log e => rfl

/-- The steps of messages are plain. -/
theorem plain_of_message {α : Type} {x : Routine α} (hx : x.Only Step.isMessage) :
    x.Only Step.isPlain :=
  hx.mono fun s hs => by
    cases s with
    | call c => cases c <;> first | rfl | exact Bool.noConfusion hs
    | access a => cases a <;> first | rfl | exact Bool.noConfusion hs
    | log e => rfl

theorem still_armIfPending : armIfPending.Only Step.isStill := by
  refine only_bind ⟨rfl, fun _ => trivial⟩ fun blocked => ?_
  split
  · exact trivial
  · refine only_bind ⟨rfl, fun _ => ⟨rfl, fun _ => ⟨rfl, fun _ => trivial⟩⟩⟩ fun empty => ?_
    split
    · exact trivial
    · exact ⟨rfl, fun _ => trivial⟩

theorem still_timerTick : timerTick.Only Step.isStill :=
  only_bind ⟨rfl, fun _ => trivial⟩ fun _ =>
    only_bind still_armIfPending fun _ => ⟨rfl, fun _ => trivial⟩

theorem disciplined_of_isPlain {α : Type} {x : Routine α} (hx : x.Only Step.isPlain) :
    x.Disciplined none :=
  (hx.mono fun _ hs => (Bool.and_eq_true_iff.mp hs).1).disciplined

theorem disciplined_timerTick : timerTick.Disciplined none := by
  have harm : armIfPending.Disciplined none := by
    refine .bind (Only.disciplined ⟨rfl, fun _ => trivial⟩) fun blocked => ?_
    split
    · exact rfl
    · refine .bind (disciplined_withFastMasked_access .queueIsEmpty) fun empty => ?_
      split
      · exact rfl
      · exact Only.disciplined ⟨rfl, fun _ => trivial⟩
  exact .bind (Only.disciplined ⟨rfl, fun _ => trivial⟩) fun _ =>
    .bind harm fun _ => Only.disciplined ⟨rfl, fun _ => trivial⟩

theorem disciplined_transmit (p : DumpedPacket) : (transmit p).Disciplined none := by
  refine Only.disciplined ?_
  cases hpayload : p.hasPayload <;> simp [transmit, hpayload, Step.isOpen, Access.touchesQueue]

theorem disciplined_transmitterReady : transmitterReady.Disciplined none := by
  have hdrain : drainOne.Disciplined none := by
    refine .bind (Only.disciplined ⟨rfl, fun _ => trivial⟩) fun blocked => ?_
    split
    · exact Only.disciplined ⟨rfl, fun _ => trivial⟩
    · refine .bind (disciplined_withFastMasked_access .dequeue) fun next => ?_
      split
      · exact Only.disciplined ⟨rfl, fun _ => trivial⟩
      · exact .bind (disciplined_transmit _) fun _ => Only.disciplined ⟨rfl, fun _ => trivial⟩
  exact .bind hdrain fun _ => Only.disciplined ⟨rfl, fun _ => trivial⟩

/-- **Every standard handler is disciplined.** -/
theorem disciplined_operation (h : Preemption.StandardHandler) :
    h.operation.routine.Disciplined none := by
  cases h with
  | start => exact .bind (disciplined_of_isPlain plain_start) fun _ => rfl
  | timerTick => exact .bind disciplined_timerTick fun _ => rfl
  | transmitterReady => exact .bind disciplined_transmitterReady fun _ => rfl
  | frame bytes => exact .bind (disciplined_of_isPlain (plain_of_message (only_handleFrame bytes))) fun _ => rfl
  | command m => exact .bind (disciplined_of_isPlain (plain_of_message (only_handleCommand m))) fun _ => rfl

end Plain

/-! ## Paths -/

/-- The writes that hand a packet to the transmitter, under the given source id: bits 16 to 23 of its
    header, the id beside bits 24 to 26, the payload only if bit 17 announces one, and last the key, which
    fires the packet. -/
def transmitterWrites (source : UInt32) (p : DumpedPacket) : List (CommsRegister × UInt32) :=
  [(.txControl, p.header &&& 0x00ff0000), (.sourceAddress, source ||| (p.header &&& 0x07000000))]
    ++ (if p.header.toBitVec.getLsbD 17 then [(.txData, p.payload)] else []) ++ [(.txKey, p.key)]

/-- The step of a write to the comms controller. -/
def writeStep (r : CommsRegister) (value : UInt32) : Taken := ⟨.call (.writeComms r value), ()⟩

/-- The steps of `transmit`. The source id is looked up between two writes. -/
def transmitSteps (source : UInt32) (p : DumpedPacket) : List Taken :=
  [writeStep .txControl (p.header &&& 0x00ff0000), ⟨.access .transmitSource, source⟩,
    writeStep .sourceAddress (source ||| (p.header &&& 0x07000000))]
    ++ (if p.header.toBitVec.getLsbD 17 then [writeStep .txData p.payload] else [])
    ++ [writeStep .txKey p.key]

/-- Every step of a call of the transmitter-ready handler that sends `p`. -/
def sendingSteps (status saved source : UInt32) (p : DumpedPacket) : List Taken :=
  [⟨.call (.readRouter .status), status⟩,
    ⟨.call .maskFast, saved⟩, ⟨.access .dequeue, some p⟩, ⟨.call (.restoreFast saved), ()⟩]
    ++ transmitSteps source p
    ++ [⟨.access (.count .reinjected), ()⟩, ⟨.call (.writeVic .vectorAddress 0), ()⟩]

/-- The step of arming or disarming the transmitter-ready interrupt. -/
def armingStep (armed : Bool) : Taken :=
  ⟨.call (.writeVic (if armed then .enable else .disable) InterruptSource.transmitterReady.mask), ()⟩

/-- Every step of a call of the transmitter-ready handler that finds the router blocked. -/
def blockedSteps (status : UInt32) : List Taken :=
  [⟨.call (.readRouter .status), status⟩, armingStep false, ⟨.call (.writeVic .vectorAddress 0), ()⟩]

/-- Every step of a call of the transmitter-ready handler that finds nothing queued. -/
def idleSteps (status saved : UInt32) : List Taken :=
  [⟨.call (.readRouter .status), status⟩,
    ⟨.call .maskFast, saved⟩, ⟨.access .dequeue, none⟩, ⟨.call (.restoreFast saved), ()⟩,
    armingStep false, ⟨.call (.writeVic .vectorAddress 0), ()⟩]

/-- The steps of a call of the timer's handler: `looking` is what it does to see whether to arm. -/
def tickingSteps (status : UInt32) (looking : List Taken) : List Taken :=
  [⟨.call (.writeTimer .interruptClear 1), ()⟩, ⟨.call (.readRouter .status), status⟩] ++ looking
    ++ [⟨.call (.writeVic .vectorAddress 0), ()⟩]

section SendingSteps

variable (status saved source : UInt32) (p : DumpedPacket)

/-- What the steps of a sending call are not: they fill no queue, reset nothing and keep the source
    id. -/
theorem sendingSteps_kinds : ∀ taken ∈ sendingSteps status saved source p,
    taken.step.isStandard = true ∧ taken.resets = false
      ∧ ∀ value, taken.step ≠ .access (.setTransmitSource value) := by
  cases hpayload : p.header.toBitVec.getLsbD 17 <;>
    simp [-BitVec.getLsbD_eq_getElem, sendingSteps, transmitSteps, writeStep, hpayload, Step.isStandard,
      Taken.resets]

/-- What they are: one packet off the queue, one re-injection counted, and the writes of the packet. -/
theorem sendingSteps_effect :
    (sendingSteps status saved source p).filterMap Taken.removed? = [p]
      ∧ (sendingSteps status saved source p).countP (fun taken => taken.removed?.isSome) = 1
      ∧ (sendingSteps status saved source p).countP (fun taken => taken.counts .reinjected) = 1
      ∧ (sendingSteps status saved source p).filterMap Taken.written? = transmitterWrites source p := by
  cases hpayload : p.header.toBitVec.getLsbD 17 with
  | false =>
    rw [sendingSteps, transmitSteps, transmitterWrites, hpayload]
    exact ⟨rfl, rfl, rfl, rfl⟩
  | true =>
    rw [sendingSteps, transmitSteps, transmitterWrites, hpayload]
    exact ⟨rfl, rfl, rfl, rfl⟩

end SendingSteps

section Paths

open Routine

variable {steps : List Taken}

theorem path_isBlocked {blocked : Bool} (h : Router.Monitor.isBlocked.Path steps blocked) :
    ∃ status, steps = [⟨.call (.readRouter .status), status⟩] := by
  obtain ⟨status, rest, rfl, rfl, -⟩ := h
  exact ⟨status, rfl⟩

theorem path_withFastMasked_access {a : Access} {r : a.Result}
    (h : (withFastMasked (access a)).Path steps r) :
    ∃ saved, steps =
      [⟨.call .maskFast, saved⟩, ⟨.access a, r⟩, ⟨.call (.restoreFast saved), ()⟩] := by
  obtain ⟨saved, rest, rfl, _, rest, rfl, u, rest, rfl, rfl, rfl⟩ := h
  exact ⟨saved, rfl⟩

theorem path_setTransmitterReady {armed : Bool} {u : Unit}
    (h : (setTransmitterReady armed).Path steps u) : steps = [armingStep armed] := by
  obtain ⟨_, rest, rfl, rfl, -⟩ := h
  rfl

theorem path_transmit {p : DumpedPacket} {u : Unit} (h : (transmit p).Path steps u) :
    ∃ source, steps = transmitSteps source p := by
  have hflag := p.hasPayload_eq
  cases hpayload : p.hasPayload with
  | true =>
    simp only [transmit, hpayload] at h
    obtain ⟨_, rest, rfl, source, rest, rfl, _, rest, rfl, _, rest, rfl, _, rest, rfl, rfl, -⟩ := h
    exact ⟨source, by rw [transmitSteps, ← hflag, hpayload, p.controlBits_eq, p.routeBits_eq]; rfl⟩
  | false =>
    simp only [transmit, hpayload] at h
    obtain ⟨_, rest, rfl, source, rest, rfl, _, rest, rfl, _, rest, rfl, rfl, -⟩ := h
    exact ⟨source, by rw [transmitSteps, ← hflag, hpayload, p.controlBits_eq, p.routeBits_eq]; rfl⟩

/-- **The three kinds of calls of the transmitter-ready handler**, step by step. -/
theorem path_transmitterReady_steps {o : DrainOutcome} (h : transmitterReady.Path steps o) :
    (∃ status, o = .blocked ∧ steps = blockedSteps status)
      ∨ (∃ status saved, o = .idle ∧ steps = idleSteps status saved)
      ∨ ∃ p status saved source, o = .sent p ∧ steps = sendingSteps status saved source p := by
  obtain ⟨o, drain, last, rfl, hdrain, _, rest, rfl, rfl, rfl⟩ := (path_bind _ _ _ _).mp h
  obtain ⟨blocked, first, later, rfl, hfirst, hlater⟩ := (path_bind _ _ _ _).mp hdrain
  obtain ⟨status, rfl⟩ := path_isBlocked hfirst
  split at hlater
  · -- Blocked: disarm and end.
    obtain ⟨_, disarm, rest, rfl, hdisarm, rfl, rfl⟩ := (path_bind _ _ _ _).mp hlater
    obtain rfl := path_setTransmitterReady hdisarm
    exact .inl ⟨status, rfl, rfl⟩
  · obtain ⟨next, taking, rest, rfl, htaking, hnext⟩ := (path_bind _ _ _ _).mp hlater
    obtain ⟨saved, rfl⟩ := path_withFastMasked_access htaking
    right
    cases next with
    | none =>
      -- Nothing queued: the queue was looked at, and the rest is as if blocked.
      obtain ⟨_, disarm, rest, rfl, hdisarm, rfl, rfl⟩ := (path_bind _ _ _ _).mp hnext
      obtain rfl := path_setTransmitterReady hdisarm
      exact .inl ⟨status, saved, rfl, rfl⟩
    | some p =>
      obtain ⟨_, sending, rest, rfl, hsending, _, rest, rfl, rfl, rfl⟩ := (path_bind _ _ _ _).mp hnext
      obtain ⟨source, rfl⟩ := path_transmit hsending
      exact .inr ⟨p, status, saved, source, rfl, by simp [sendingSteps]⟩

/-- **The three kinds of calls of the timer's handler**, step by step. -/
theorem path_timerTick_steps {armed : Bool} (h : timerTick.Path steps armed) :
    (∃ status, armed = false ∧ steps = tickingSteps status [])
      ∨ ∃ status saved, steps = tickingSteps status
          ([⟨.call .maskFast, saved⟩, ⟨.access .queueIsEmpty, !armed⟩,
              ⟨.call (.restoreFast saved), ()⟩]
            ++ if armed then [armingStep true] else []) := by
  obtain ⟨_, clear, rest, rfl, ⟨_, _, rfl, rfl, -⟩, htick⟩ := (path_bind _ _ _ _).mp h
  obtain ⟨armed, arm, last, rfl, harm, _, _, rfl, rfl, rfl⟩ := (path_bind _ _ _ _).mp htick
  obtain ⟨blocked, first, later, rfl, hfirst, hlater⟩ := (path_bind _ _ _ _).mp harm
  obtain ⟨status, rfl⟩ := path_isBlocked hfirst
  split at hlater
  · obtain ⟨rfl, rfl⟩ := hlater
    exact .inl ⟨status, rfl, rfl⟩
  · obtain ⟨empty, looking, rest, rfl, hlooking, hempty⟩ := (path_bind _ _ _ _).mp hlater
    obtain ⟨saved, rfl⟩ := path_withFastMasked_access hlooking
    right
    cases empty with
    | true =>
      obtain ⟨rfl, rfl⟩ := hempty
      exact ⟨status, saved, rfl⟩
    | false =>
      obtain ⟨_, arming, rest, rfl, harming, rfl, rfl⟩ := (path_bind _ _ _ _).mp hempty
      obtain rfl := path_setTransmitterReady harming
      exact ⟨status, saved, rfl⟩

/-- The transmitter-ready handler sends a packet by `sendingSteps`, or every step is idle. -/
theorem path_transmitterReady {o : DrainOutcome} (h : transmitterReady.Path steps o) :
    (∃ p status saved source, o = .sent p ∧ steps = sendingSteps status saved source p)
      ∨ ((∀ p, o ≠ .sent p) ∧ ∀ taken ∈ steps, taken.isIdle = true) := by
  obtain ⟨status, rfl, rfl⟩ | ⟨status, saved, rfl, rfl⟩ | ⟨p, status, saved, source, rfl, rfl⟩ :=
    path_transmitterReady_steps h
  · refine .inr ⟨fun p => DrainOutcome.noConfusion, ?_⟩
    simp [blockedSteps, armingStep, Taken.isIdle, Step.isStill]
  · refine .inr ⟨fun p => DrainOutcome.noConfusion, ?_⟩
    simp [idleSteps, armingStep, Taken.isIdle, Step.isStill]
  · exact .inl ⟨p, status, saved, source, rfl, rfl⟩

/-- The paths of a still routine are idle. -/
theorem idle_of_only {α : Type} {x : Routine α} {a : α} (hx : x.Only Step.isStill)
    (h : x.Path steps a) : ∀ taken ∈ steps, taken.isIdle = true :=
  fun taken htaken => Taken.isIdle_of_isStill (hx.of_path h taken htaken)

theorem idle_of_isPlain {α : Type} {x : Routine α} {a : α} (hx : x.Only Step.isPlain)
    (h : x.Path steps a) : ∀ taken ∈ steps, taken.isIdle = true :=
  idle_of_only (hx.mono fun _ hs => (Bool.and_eq_true_iff.mp hs).2) h

/-- **The two kinds of standard handlers.** A handler that tells of a packet sent it by `sendingSteps`;
    any other took idle steps only. -/
theorem path_operation {h : Preemption.StandardHandler} {o : Outcome}
    (hpath : h.operation.routine.Path steps o) :
    (∃ p status saved source, o.sent? = some p ∧ steps = sendingSteps status saved source p)
      ∨ (o.sent? = none ∧ ∀ taken ∈ steps, taken.isIdle = true) := by
  cases h with
  | start =>
    obtain ⟨_, hbody, rfl⟩ := (path_bind_pure PacketReinjection.start _ _ _).mp hpath
    exact Or.inr ⟨rfl, idle_of_isPlain plain_start hbody⟩
  | timerTick =>
    obtain ⟨_, hbody, rfl⟩ := (path_bind_pure PacketReinjection.timerTick _ _ _).mp hpath
    exact Or.inr ⟨rfl, idle_of_only still_timerTick hbody⟩
  | transmitterReady =>
    obtain ⟨o, hbody, rfl⟩ := (path_bind_pure PacketReinjection.transmitterReady _ _ _).mp hpath
    obtain ⟨p, status, saved, source, rfl, hsteps⟩ | ⟨hunsent, hidle⟩ := path_transmitterReady hbody
    · exact Or.inl ⟨p, status, saved, source, rfl, hsteps⟩
    · refine Or.inr ⟨?_, hidle⟩
      cases o with
      | blocked => rfl
      | idle => rfl
      | sent p => exact absurd rfl (hunsent p)
  | frame bytes =>
    obtain ⟨_, hbody, rfl⟩ := (path_bind_pure (handleFrame bytes) _ _ _).mp hpath
    exact Or.inr ⟨rfl, idle_of_isPlain (plain_of_message (only_handleFrame bytes)) hbody⟩
  | command m =>
    obtain ⟨_, hbody, rfl⟩ := (path_bind_pure (handleCommand m) _ _ _).mp hpath
    exact Or.inr ⟨rfl, idle_of_isPlain (plain_of_message (only_handleCommand m)) hbody⟩

end Paths

end PacketReinjection
