import PacketReinjection.Proofs.Command.Acceptance
import PacketReinjection.Proofs.Preemption.Handlers

/-!
# `Proofs.CallDiscipline` — in which order the hardware is called

What the engine asks of its hardware keeps to four rules, whatever the hardware answers. The fast
interrupt is masked for no call at all: the restoring call comes next. A capture reads the dump
registers in one fixed order and does nothing else. A packet goes to the transmitter in one group of
writes that its key ends, and nothing else writes there. And the two vectored handlers end their
interrupt by their last call, on every path.

The paths of the handlers say which calls each kind of outcome comes with (`HandlerCalls`), so the rules
are looked at once for each kind.

## Contents
- **Calls.** `Sectioned`, `preparingCalls`, `Call.isQuiet`.
- **`HandlerCalls`** and **`handlerCalls_of_path`** — the calls of the interrupt handlers.
- **`Performed.CallLaw`** and **`callLaw_perform`** — the rules for one operation.
- **`callLog`** and **`calls_disciplined`** — the rules for whole runs.
-/

namespace PacketReinjection

/-! ## Calls -/

/-- The record of a read of a router register. -/
def routerRead (r : RouterRegister) (value : UInt32) : RecordedCall := ⟨.readRouter r, value⟩

/-- The record of a write of a register of the comms controller. -/
def commsWritten (r : CommsRegister) (value : UInt32) : RecordedCall := ⟨.writeComms r value, ()⟩

/-- The record of the write that clears the timer's interrupt. -/
def timerCleared : RecordedCall := ⟨.writeTimer .interruptClear 1, ()⟩

/-- The record of the write that ends the interrupt in progress. -/
def acknowledged : RecordedCall := vicWritten .vectorAddress 0

/-- The records of a masked section: nothing is called in between. -/
def maskedSection (saved : UInt32) : List RecordedCall := [⟨.maskFast, saved⟩, ⟨.restoreFast saved, ()⟩]

/-- The writes of a packet to the transmitter under the given source id, up to the key: bits 16 to 23 of
    its header, the id beside bits 24 to 26, and the payload if bit 17 announces one. -/
def preparingCalls (source : UInt32) (p : DumpedPacket) : List RecordedCall :=
  [commsWritten .txControl (p.header &&& 0x00ff0000),
    commsWritten .sourceAddress (source ||| (p.header &&& 0x07000000))]
    ++ if p.header.toBitVec.getLsbD 17 then [commsWritten .txData p.payload] else []

/-- Whether a call masks the fast interrupt or restores it. -/
def Call.switchesMask : Call → Bool
  | .maskFast | .restoreFast _ => true
  | .readRouter _ | .writeRouter _ _ | .readComms _ | .writeComms _ _ | .writeTimer _ _
  | .writeVic _ _ | .readClock | .bind _ | .wait => false

/-- Whether a call writes a register of the comms controller. -/
def Call.writesComms : Call → Bool
  | .writeComms _ _ => true
  | .readRouter _ | .writeRouter _ _ | .readComms _ | .writeTimer _ _ | .writeVic _ _ | .maskFast
  | .restoreFast _ | .readClock | .bind _ | .wait => false

/-- Whether a call ends the interrupt in progress. -/
def Call.acknowledges : Call → Bool
  | .writeVic .vectorAddress _ => true
  | .writeVic .select _ | .writeVic .enable _ | .writeVic .disable _ => false
  | .readRouter _ | .writeRouter _ _ | .readComms _ | .writeComms _ _ | .writeTimer _ _ | .maskFast
  | .restoreFast _ | .readClock | .bind _ | .wait => false

/-- Whether none of the rules is about the call. -/
def Call.isQuiet (c : Call) : Bool := !c.switchesMask && !c.writesComms && !c.acknowledges

/-- **Every masking call is followed at once by the restoring call**, with exactly the value that it
    answered, and there is no other restoring call. -/
inductive Sectioned : List RecordedCall → Prop where
  | nil : Sectioned []
  | plain {c : RecordedCall} {calls : List RecordedCall} (hc : c.call.switchesMask = false)
      (hcalls : Sectioned calls) : Sectioned (c :: calls)
  | masked (saved : UInt32) {calls : List RecordedCall} (hcalls : Sectioned calls) :
      Sectioned (maskedSection saved ++ calls)

theorem Sectioned.append {first second : List RecordedCall} (hfirst : Sectioned first)
    (hsecond : Sectioned second) : Sectioned (first ++ second) := by
  induction hfirst with
  | nil => exact hsecond
  | plain hc _ ih => exact .plain hc ih
  | masked saved _ ih => exact .masked saved ih

theorem sectioned_of_forall {calls : List RecordedCall}
    (h : ∀ c ∈ calls, c.call.switchesMask = false) : Sectioned calls := by
  induction calls with
  | nil => exact .nil
  | cons c calls ih =>
    obtain ⟨hc, hcalls⟩ := List.forall_mem_cons.mp h
    exact .plain hc (ih hcalls)

theorem sectioned_maskedSection (saved : UInt32) : Sectioned (maskedSection saved) :=
  .masked saved .nil

/-! ## The interrupt handlers -/

/-- The calls of the handler of a line, and the outcome that they come with. -/
inductive HandlerCalls : InterruptSource → HandlerOutcome → List RecordedCall → Prop where
  | captured (o : CaptureOutcome) (header payload key status : UInt32) :
      HandlerCalls .droppedPacket (.captured o)
        [routerRead .dumpHeader header, routerRead .dumpData payload, routerRead .dumpKey key,
          routerRead .dumpStatus status]
  | tickBlocked (status : UInt32) :
      HandlerCalls .timerTick (.ticked false) [timerCleared, routerRead .status status, acknowledged]
  | tickEmpty (status saved : UInt32) :
      HandlerCalls .timerTick (.ticked false)
        ([timerCleared, routerRead .status status] ++ maskedSection saved ++ [acknowledged])
  | tickPending (status saved : UInt32) :
      HandlerCalls .timerTick (.ticked true)
        ([timerCleared, routerRead .status status] ++ maskedSection saved
          ++ [vicWritten .enable InterruptSource.transmitterReady.mask, acknowledged])
  | drainBlocked (status : UInt32) :
      HandlerCalls .transmitterReady (.drained .blocked)
        [routerRead .status status, vicWritten .disable InterruptSource.transmitterReady.mask,
          acknowledged]
  | drainIdle (status saved : UInt32) :
      HandlerCalls .transmitterReady (.drained .idle)
        ([routerRead .status status] ++ maskedSection saved
          ++ [vicWritten .disable InterruptSource.transmitterReady.mask, acknowledged])
  | sent (status saved source : UInt32) (p : DumpedPacket) :
      HandlerCalls .transmitterReady (.drained (.sent p))
        ([routerRead .status status] ++ maskedSection saved ++ preparingCalls source p
          ++ [commsWritten .txKey p.key, acknowledged])
  | deferred : HandlerCalls .command .deferred []

section Handlers

open Routine

variable {S : Type} [Platform S]

theorem callsOf_sendingSteps (status saved source : UInt32) (p : DumpedPacket) :
    callsOf (sendingSteps status saved source p)
      = [routerRead .status status] ++ maskedSection saved ++ preparingCalls source p
        ++ [commsWritten .txKey p.key, acknowledged] := by
  rw [sendingSteps, transmitSteps, preparingCalls]
  cases p.header.toBitVec.getLsbD 17 <;> rfl

/-- Whether a step is an access to the memory. -/
def Step.isAccess : Step → Bool
  | .access _ => true
  | .call _ | .log _ => false

/-- What becomes of a packet that was read is decided in the memory. -/
theorem only_keep (p : DumpedPacket) (status : UInt32) : (keep p status).Only Step.isAccess := by
  have hcount (c : Counter) : (access (.count c) : Routine Unit).Only Step.isAccess :=
    ⟨rfl, fun _ => trivial⟩
  refine only_bind ⟨rfl, fun _ => trivial⟩ fun enabled => ?_
  split
  · have hqueue : (do
        access (.count .dropped)
        if ← access (.enqueue p) then
          return .queued
        else
          access (.count .queueOverflows)
          return .overflowed : Routine CaptureOutcome).Only Step.isAccess := by
      refine only_bind (hcount _) fun _ => only_bind ⟨rfl, fun _ => trivial⟩ fun room => ?_
      split
      · exact trivial
      · exact only_bind (hcount _) fun _ => trivial
    split
    · exact only_bind (hcount _) fun _ => hqueue
    · exact hqueue
  · exact trivial

/-- Accesses alone are no calls. -/
theorem callsOf_of_only {α : Type} {x : Routine α} {steps : List Taken} {a : α}
    (hx : x.Only Step.isAccess) (h : x.Path steps a) : callsOf steps = [] := by
  refine List.filterMap_eq_nil_iff.mpr fun taken htaken => ?_
  have hkind := hx.of_path h taken htaken
  obtain ⟨s, r⟩ := taken
  cases s with
  | access a => rfl
  | call c => exact Bool.noConfusion hkind
  | log e => rfl

/-- **Which calls a handler makes** follows from what it gives. -/
theorem handlerCalls_of_path {source : InterruptSource} {steps : List Taken} {o : HandlerOutcome}
    (h : (dispatch source).Path steps o) : HandlerCalls source o (callsOf steps) := by
  cases source with
  | droppedPacket =>
    obtain ⟨o, hcapture, rfl⟩ := (path_bind_pure _ _ _ _).mp h
    obtain ⟨header, _, rfl, payload, _, rfl, key, _, rfl, status, keeping, rfl, hkeep⟩ := hcapture
    simp only [callsOf_call, callsOf_of_only (only_keep _ _) hkeep]
    exact .captured o header payload key status
  | timerTick =>
    obtain ⟨armed, htick, rfl⟩ := (path_bind_pure _ _ _ _).mp h
    obtain ⟨status, rfl, rfl⟩ | ⟨status, saved, rfl⟩ := path_timerTick_steps htick
    · exact .tickBlocked status
    · cases armed with
      | false => exact .tickEmpty status saved
      | true => exact .tickPending status saved
  | transmitterReady =>
    obtain ⟨o, hdrain, rfl⟩ := (path_bind_pure _ _ _ _).mp h
    obtain ⟨status, rfl, rfl⟩ | ⟨status, saved, rfl, rfl⟩ | ⟨p, status, saved, id, rfl, rfl⟩ :=
      path_transmitterReady_steps hdrain
    · exact .drainBlocked status
    · exact .drainIdle status saved
    · rw [callsOf_sendingSteps]
      exact .sent status saved id p
  | command =>
    obtain ⟨rfl, rfl⟩ := h
    exact .deferred

theorem key_not_mem_preparingCalls (source : UInt32) (p : DumpedPacket) (key : UInt32) :
    commsWritten .txKey key ∉ preparingCalls source p := by
  cases hpayload : p.header.toBitVec.getLsbD 17 <;> simp [-BitVec.getLsbD_eq_getElem, preparingCalls, hpayload, commsWritten]

theorem sectioned_preparingCalls (source : UInt32) (p : DumpedPacket) :
    Sectioned (preparingCalls source p) := by
  refine sectioned_of_forall ?_
  cases hpayload : p.header.toBitVec.getLsbD 17 <;> 
    simp [-BitVec.getLsbD_eq_getElem, preparingCalls, hpayload, commsWritten, Call.switchesMask]

namespace HandlerCalls

variable {source : InterruptSource} {o : HandlerOutcome} {calls : List RecordedCall}

theorem sectioned (h : HandlerCalls source o calls) : Sectioned calls := by
  have hread (status : UInt32) : Sectioned [routerRead .status status] := .plain rfl .nil
  have hcleared (status : UInt32) : Sectioned [timerCleared, routerRead .status status] :=
    .plain rfl (hread status)
  have hended : Sectioned [acknowledged] := .plain rfl .nil
  cases h with
  | captured o header payload key status =>
    exact .plain rfl (.plain rfl (.plain rfl (.plain rfl .nil)))
  | tickBlocked status => exact (hcleared status).append hended
  | tickEmpty status saved =>
    exact ((hcleared status).append (sectioned_maskedSection saved)).append hended
  | tickPending status saved =>
    exact ((hcleared status).append (sectioned_maskedSection saved)).append (.plain rfl hended)
  | drainBlocked status => exact (hread status).append (.plain rfl hended)
  | drainIdle status saved =>
    exact ((hread status).append (sectioned_maskedSection saved)).append (.plain rfl hended)
  | sent status saved id p =>
    exact (((hread status).append (sectioned_maskedSection saved)).append
      (sectioned_preparingCalls id p)).append (.plain rfl hended)
  | deferred => exact .nil

theorem reads (h : HandlerCalls .droppedPacket o calls) : ∃ header payload key status,
    calls = [routerRead .dumpHeader header, routerRead .dumpData payload, routerRead .dumpKey key,
      routerRead .dumpStatus status] := by
  cases h with
  | captured o header payload key status => exact ⟨header, payload, key, status, rfl⟩

theorem fires {p : DumpedPacket} (h : HandlerCalls source (.drained (.sent p)) calls) :
    source = .transmitterReady ∧ ∃ id earlier later,
      calls = earlier ++ preparingCalls id p ++ commsWritten .txKey p.key :: later
        ∧ (∀ c ∈ earlier, c.call.writesComms = false) ∧ ∀ c ∈ later, c.call.writesComms = false := by
  cases h with
  | sent status saved id p =>
    refine ⟨rfl, id, [routerRead .status status] ++ maskedSection saved, [acknowledged], rfl, ?_, ?_⟩
    · simp [routerRead, maskedSection, Call.writesComms]
    · simp [acknowledged, vicWritten, Call.writesComms]

theorem silent (h : HandlerCalls source o calls) (hsent : (Outcome.handled o).sent? = none) :
    ∀ c ∈ calls, c.call.writesComms = false := by
  cases h with
  | sent status saved id p => exact absurd hsent (by simp)
  | _ =>
    simp [routerRead, timerCleared, maskedSection, acknowledged, vicWritten, Call.writesComms]

theorem ends (h : HandlerCalls source o calls)
    (hsource : source = .timerTick ∨ source = .transmitterReady) :
    ∃ earlier, calls = earlier ++ [acknowledged] ∧ ∀ c ∈ earlier, c.call.acknowledges = false := by
  cases h with
  | captured o header payload key status => exact absurd hsource (by simp)
  | tickBlocked status =>
    exact ⟨[timerCleared, routerRead .status status], rfl, by
      simp [timerCleared, routerRead, Call.acknowledges]⟩
  | tickEmpty status saved =>
    exact ⟨[timerCleared, routerRead .status status] ++ maskedSection saved, rfl, by
      simp [timerCleared, routerRead, maskedSection, Call.acknowledges]⟩
  | tickPending status saved =>
    exact ⟨[timerCleared, routerRead .status status] ++ maskedSection saved
        ++ [vicWritten .enable InterruptSource.transmitterReady.mask], by simp, by
      simp [timerCleared, routerRead, maskedSection, vicWritten, Call.acknowledges]⟩
  | drainBlocked status =>
    exact ⟨[routerRead .status status, vicWritten .disable InterruptSource.transmitterReady.mask], rfl,
      by simp [routerRead, vicWritten, Call.acknowledges]⟩
  | drainIdle status saved =>
    exact ⟨[routerRead .status status] ++ maskedSection saved
        ++ [vicWritten .disable InterruptSource.transmitterReady.mask], by simp, by
      simp [routerRead, maskedSection, vicWritten, Call.acknowledges]⟩
  | sent status saved id p =>
    refine ⟨[routerRead .status status] ++ maskedSection saved ++ preparingCalls id p
        ++ [commsWritten .txKey p.key], by simp, ?_⟩
    cases hpayload : p.header.toBitVec.getLsbD 17 <;>
      simp [-BitVec.getLsbD_eq_getElem, routerRead, maskedSection, preparingCalls, commsWritten, hpayload,
        Call.acknowledges]
  | deferred => exact absurd hsource (by simp)

theorem unended (h : HandlerCalls source o calls) (htimer : source ≠ .timerTick)
    (htransmitter : source ≠ .transmitterReady) : ∀ c ∈ calls, c.call.acknowledges = false := by
  cases h with
  | captured o header payload key status => simp [routerRead, Call.acknowledges]
  | deferred => simp
  | tickBlocked | tickEmpty | tickPending => exact absurd rfl htimer
  | drainBlocked | drainIdle | sent => exact absurd rfl htransmitter

end HandlerCalls

end Handlers

/-! ## One operation -/

/-- The rules for the calls of one operation. -/
structure Performed.CallLaw (h : Performed) : Prop where
  sectioned : Sectioned (callsOf h.trace)
  /-- A capture reads the dump registers, their status last, and makes no other call. -/
  captured : h.operation.interrupt? = some .droppedPacket → ∃ header payload key status,
    callsOf h.trace = [routerRead .dumpHeader header, routerRead .dumpData payload,
      routerRead .dumpKey key, routerRead .dumpStatus status]
  /-- A packet is sent by the transmitter-ready handler only, by one group of writes that its key ends;
      no other call of the handler writes to the transmitter. -/
  sent : ∀ p, h.sent? = some p → h.operation.interrupt? = some .transmitterReady
    ∧ ∃ source earlier later,
      callsOf h.trace = earlier ++ preparingCalls source p ++ commsWritten .txKey p.key :: later
        ∧ (∀ c ∈ earlier, c.call.writesComms = false) ∧ ∀ c ∈ later, c.call.writesComms = false
  /-- An operation that sends no packet writes nothing to the transmitter. -/
  unsent : h.sent? = none → ∀ c ∈ callsOf h.trace, c.call.writesComms = false
  /-- The last call of either vectored handler, and no call before it, ends the interrupt. -/
  ended : h.operation.interrupt? = some .timerTick
      ∨ h.operation.interrupt? = some .transmitterReady →
    ∃ earlier, callsOf h.trace = earlier ++ [acknowledged]
      ∧ ∀ c ∈ earlier, c.call.acknowledges = false
  /-- No other operation ends an interrupt. -/
  unended : h.operation.interrupt? ≠ some .timerTick →
    h.operation.interrupt? ≠ some .transmitterReady →
      ∀ c ∈ callsOf h.trace, c.call.acknowledges = false

section OneOperation

open Routine

variable {S : Type} [Platform S]

/-- Quiet calls break no rule. -/
theorem callLaw_of_quiet {op : Operation} (hop : op.interrupt? = none) {n : Node S}
    (hquiet : ∀ c ∈ callsOf (n.perform op).1.trace, c.call.isQuiet = true) :
    (n.perform op).1.CallLaw := by
  have hline : (n.perform op).1.operation.interrupt? = none := hop
  have hsent : (n.perform op).1.sent? = none := sent?_of_no_interrupt hop n
  have hrules (c : RecordedCall) (hc : c ∈ callsOf (n.perform op).1.trace) :
      c.call.switchesMask = false ∧ c.call.writesComms = false ∧ c.call.acknowledges = false := by
    simpa [Call.isQuiet, and_assoc] using hquiet c hc
  exact {
    sectioned := sectioned_of_forall fun c hc => (hrules c hc).1
    captured := fun hcapture => absurd hcapture (by simp [hline])
    sent := fun p hp => absurd hp (by simp [hsent])
    unsent := fun _ c hc => (hrules c hc).2.1
    ended := fun hvectored => absurd hvectored (by simp [hline])
    unended := fun _ _ c hc => (hrules c hc).2.2 }

/-- **The calls of every handler keep to the rules.** -/
theorem callLaw_of_interrupt {op : Operation} {source : InterruptSource}
    (hop : op.interrupt? = some source) (n : Node S) : (n.perform op).1.CallLaw := by
  obtain ⟨-, houtcome⟩ := perform_interrupt hop n
  have hcalls : HandlerCalls source ((dispatch source).run n).1 (callsOf (n.perform op).1.trace) := by
    rw [trace_interrupt hop]
    exact handlerCalls_of_path (path_trace _ n)
  have hline : (n.perform op).1.operation.interrupt? = some source := hop
  refine ⟨hcalls.sectioned, fun hcapture => ?_, fun p hp => ?_, fun hsent => ?_, fun hvectored => ?_,
    fun htimer htransmitter => ?_⟩
  · rw [hline] at hcapture
    obtain rfl := Option.some.inj hcapture
    exact hcalls.reads
  · have hsame := houtcome.symm.trans (Performed.outcome_of_sent hp)
    injection hsame with hsame
    rw [hsame] at hcalls
    obtain ⟨rfl, hgroup⟩ := hcalls.fires
    exact ⟨hline, hgroup⟩
  · rw [Performed.sent?, houtcome] at hsent
    exact hcalls.silent hsent
  · rw [hline, Option.some.injEq, Option.some.injEq] at hvectored
    exact hcalls.ends hvectored
  · rw [hline, ne_eq, Option.some.injEq] at htimer htransmitter
    exact hcalls.unended htimer htransmitter

/-- Start-up reads and writes registers and installs handlers. -/
theorem quiet_start (n : Node S) :
    ∀ c ∈ callsOf (n.perform .start).1.trace, c.call.isQuiet = true := by
  simp [Node.perform, Operation.routine, start, configureTimer, configureTransmitter,
    Router.Monitor.configure, disableInterrupts, Node.take, Call.isQuiet, Call.switchesMask,
    Call.writesComms, Call.acknowledges]

/-- The calls of a message are those that were decided. -/
theorem quiet_of_decided {s : S} {h : Performed} {d : Decision} (hd : h.Decided s d) :
    ∀ c ∈ callsOf h.trace, c.call.isQuiet = true := by
  rw [hd.calls]
  cases d with
  | carryOut sub value =>
    cases sub <;>
      simp [Decision.calls, SubCommand.calls, replacingCalls, controlRead, controlWritten, vicWritten,
        Call.isQuiet, Call.switchesMask, Call.writesComms, Call.acknowledges]
  | refuse error => simp [Decision.calls]

/-- **Every operation keeps to the rules**, on any hardware. -/
theorem callLaw_perform (n : Node S) (op : Operation) : (n.perform op).1.CallLaw := by
  obtain rfl | ⟨source, hop⟩ | ⟨hop, -, d, hd⟩ := perform_kinds n op
  · exact callLaw_of_quiet rfl (quiet_start n)
  · exact callLaw_of_interrupt hop n
  · exact callLaw_of_quiet hop (quiet_of_decided hd)

end OneOperation

/-! ## Runs -/

/-- The calls of a history, in their order. -/
def callLog (history : List Performed) : List RecordedCall :=
  history.flatMap fun h => callsOf h.trace

/-- A key that was written behind the given calls of a history ends the writes of a packet, all of them
    made one after the other by one call of the handler that told of the packet. -/
def EndsGroup (history : List Performed) (before : List RecordedCall) (key : UInt32) : Prop :=
  ∃ earlier h later, history = earlier ++ h :: later
    ∧ h.operation.interrupt? = some .transmitterReady
    ∧ ∃ p source first rest, h.sent? = some p ∧ p.key = key
      ∧ callsOf h.trace = first ++ preparingCalls source p ++ commsWritten .txKey key :: rest
      ∧ before = callLog earlier ++ (first ++ preparingCalls source p)

section Runs

variable {history : List Performed}

theorem sectioned_callLog (hlaw : ∀ h ∈ history, h.CallLaw) : Sectioned (callLog history) := by
  induction history with
  | nil => exact .nil
  | cons h history ih =>
    obtain ⟨hfirst, hlater⟩ := List.forall_mem_cons.mp hlaw
    exact hfirst.sectioned.append (ih hlater)

/-- A key among the calls of one operation. -/
theorem Performed.CallLaw.endsGroup {h : Performed} (hlaw : h.CallLaw)
    {before after : List RecordedCall} {key : UInt32}
    (hcalls : callsOf h.trace = before ++ commsWritten .txKey key :: after)
    (later : List Performed) : EndsGroup (h :: later) before key := by
  cases hsent : h.sent? with
  | none =>
    have hsilent := hlaw.unsent hsent (commsWritten .txKey key) (by simp [hcalls])
    exact absurd hsilent (by simp [commsWritten, Call.writesComms])
  | some p =>
    obtain ⟨hline, source, first, rest, hgroup, hfirst, hrest⟩ := hlaw.sent p hsent
    -- The group's key is the only one among these calls.
    have hnotFirst : commsWritten .txKey key ∉ first ++ preparingCalls source p := by
      rw [List.mem_append, not_or]
      exact ⟨fun hmem => Bool.noConfusion (hfirst _ hmem), key_not_mem_preparingCalls source p key⟩
    have hnotRest : commsWritten .txKey key ∉ rest := fun hmem => Bool.noConfusion (hrest _ hmem)
    obtain ⟨hbefore, hkey, -⟩ :=
      (List.append_cons_inj_of_notMem hnotFirst hnotRest).mp (hgroup.symm.trans hcalls)
    have hsame : p.key = key := by
      injection hkey with hcall
      injection hcall
    refine ⟨[], h, later, rfl, hline, p, source, first, rest, hsent, hsame, ?_, hbefore.symm⟩
    rw [hgroup, hsame]

theorem endsGroup_callLog (hlaw : ∀ h ∈ history, h.CallLaw) {before after : List RecordedCall}
    {key : UInt32} (hlog : callLog history = before ++ commsWritten .txKey key :: after) :
    EndsGroup history before key := by
  induction history generalizing before with
  | nil => exact absurd hlog (by simp [callLog])
  | cons h history ih =>
    obtain ⟨hfirst, hlater⟩ := List.forall_mem_cons.mp hlaw
    -- Either the key is among the calls of the first operation, or it stands behind all of them.
    have hbehind (between : List RecordedCall) (hbefore : before = callsOf h.trace ++ between)
        (hrest : callLog history = between ++ commsWritten .txKey key :: after) :
        EndsGroup (h :: history) before key := by
      obtain ⟨earlier, g, later, rfl, hline, p, source, first, rest, hsent, hkey, hcalls, hbetween⟩ :=
        ih hlater hrest
      refine ⟨h :: earlier, g, later, rfl, hline, p, source, first, rest, hsent, hkey, hcalls, ?_⟩
      rw [hbefore, hbetween, callLog, callLog, List.flatMap_cons, List.append_assoc]
    rw [callLog, List.flatMap_cons] at hlog
    obtain ⟨between, hbefore, hrest⟩ | ⟨tail, hcalls, hrest⟩ := List.append_eq_append_iff.mp hlog
    · exact hbehind between hbefore hrest
    · cases tail with
      | nil => exact hbehind [] (by simpa using hcalls.symm) hrest.symm
      | cons c tail =>
        obtain ⟨rfl, -⟩ := List.cons_eq_cons.mp hrest
        exact hfirst.endsGroup hcalls history

end Runs

/-- **The hardware is called by the rules**, whatever it answers and in whatever order the engine is
    asked. Every operation keeps to its rules; in the log of all calls every masking call is followed at
    once by the call that restores what it answered, and there is no other restoring call; and every key
    that was written ends the group of writes of one packet that was sent. -/
theorem calls_disciplined {S : Type} [Platform S] (n : Node S) (ops : List Operation) :
    let history := (n.performAll ops).1
    (∀ h ∈ history, h.CallLaw) ∧ Sectioned (callLog history)
      ∧ ∀ before key after, callLog history = before ++ commsWritten .txKey key :: after →
        EndsGroup history before key := by
  intro history
  have hlaw : ∀ h ∈ history, h.CallLaw := Node.forall_performAll callLaw_perform ops n
  exact ⟨hlaw, sectioned_callLog hlaw, fun _ _ _ hlog => endsGroup_callLog hlaw hlog⟩

/-- A packet with a payload is read from scripted registers and sent: the key that ends the log but for
    the acknowledgement ends a group of writes. -/
theorem calls_disciplined_payload_sent :
    let script : Script :=
      [(.router .dumpHeader, [0x00020000]), (.router .dumpKey, [7]), (.router .dumpData, [9])]
    let history := ((Node.fresh (⟨script, 100, []⟩ : Scripted) EngineConfig.standard).performAll
      [.capture, .timerTick, .transmitterReady]).1
    let before := (callLog history).take 16
    callLog history = before ++ [commsWritten .txKey 7, acknowledged] ∧ EndsGroup history before 7 := by
  refine ⟨by rfl, ?_⟩
  exact (calls_disciplined _ _).2.2 _ 7 [acknowledged] (by rfl)

end PacketReinjection
