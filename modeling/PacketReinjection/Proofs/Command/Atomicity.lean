import PacketReinjection.Proofs.Command.Acceptance
import PacketReinjection.Proofs.Router.WaitField

/-!
# `Proofs.Command.Atomicity` — a refused message does nothing, an accepted one its own part only

From the answer to a message alone it follows what the message can have done. Since what was decided
fixes calls and memory, only the calls of each request remain to be looked at.

## Contents
- **`SubCommand.Permits`** — the calls that a request may make; `permits_calls`.
- **`Performed.MessageLaw`** — what a message may do; `Decided.messageLaw`.
- **`messages_atomic`**.
-/

namespace PacketReinjection

open Router (WaitField)

/-! ## Calls of a request -/

/-- The control register is read once and written back once; of what was read, only one wait field was
    replaced, and it now holds the value. -/
def ReplacesOnly (f : WaitField) (value : UInt32) (calls : List RecordedCall) : Prop :=
  ∃ control control', calls = [controlRead control, controlWritten control']
    ∧ control' &&& ~~~f.mask = control &&& ~~~f.mask ∧ (f.extract control').toUInt32 = value

/-- The calls that a request may make. -/
def SubCommand.Permits (value : UInt32) (calls : List RecordedCall) : SubCommand → Prop
  | .setTimeout => ReplacesOnly .primary value calls
  | .setEmergencyTimeout => ReplacesOnly .emergency value calls
  | .setPacketClasses | .resetCounters => calls = []
  | .getStatus => ∃ first second, calls = [controlRead first, controlRead second]
  | .exit => calls =
      [vicWritten .disable InterruptSource.standingMask,
        vicWritten .disable InterruptSource.transmitterReady.mask, vicWritten .select 0]

/-- Whether a call writes a register of the transmitter or of the timer. -/
def Call.drivesOutput : Call → Bool
  | .writeComms _ _ | .writeTimer _ _ => true
  | .readRouter _ | .writeRouter _ _ | .readComms _ | .writeVic _ _ | .maskFast | .restoreFast _
  | .readClock | .bind _ | .wait => false

section Calls

variable {S : Type} [Platform S] {value : UInt32} {sub : SubCommand}

theorem replacesOnly_replacingCalls (f : WaitField) (hfits : value ≤ WaitField.maxValue) (s : S) :
    ReplacesOnly f value (replacingCalls f value s) := by
  refine ⟨(readControl s).1, _, rfl, f.replace_and_not_mask _ _, ?_⟩
  rw [f.extract_replace, WaitField.toUInt32_toUInt8 hfits]

/-- **A request that is carried out makes the calls that it may make.** -/
theorem permits_calls (hfits : sub.refusal? value = none) (s : S) :
    sub.Permits value (sub.calls value s) := by
  cases sub with
  | setTimeout => exact replacesOnly_replacingCalls _ (SubCommand.le_of_fits (.inl rfl) hfits) s
  | setEmergencyTimeout =>
    exact replacesOnly_replacingCalls _ (SubCommand.le_of_fits (.inr rfl) hfits) s
  | setPacketClasses => rfl
  | getStatus => exact ⟨_, _, rfl⟩
  | resetCounters => rfl
  | exit => rfl

/-- No request may drive an output. -/
theorem SubCommand.Permits.not_drivesOutput {calls : List RecordedCall}
    (h : sub.Permits value calls) : ∀ c ∈ calls, c.call.drivesOutput = false := by
  cases sub with
  | setTimeout | setEmergencyTimeout =>
    obtain ⟨control, control', rfl, -, -⟩ := h
    simp [controlRead, controlWritten, Call.drivesOutput]
  | setPacketClasses | resetCounters => cases h; simp
  | getStatus =>
    obtain ⟨first, second, rfl⟩ := h
    simp [controlRead, Call.drivesOutput]
  | exit => cases h; simp [vicWritten, Call.drivesOutput]

end Calls

/-! ## The law -/

/-- What a message may do. -/
structure Performed.MessageLaw (h : Performed) : Prop where
  /-- A message that was not accepted makes no call and leaves the whole memory as it was. -/
  rejected : h.outcome.accepted = false → callsOf h.trace = [] ∧ h.after = h.before
  /-- A message that was accepted made a request; its calls are those of the request, and so is its
      effect on the memory. -/
  accepted : h.outcome.accepted = true → ∃ sub value,
    h.operation.request? h.before.running = some (sub, value)
      ∧ sub.Permits value (callsOf h.trace) ∧ h.after = sub.effect value h.before
  /-- No message touches the queue, and none writes to the transmitter or the timer. -/
  confined : h.after.queue = h.before.queue ∧ ∀ c ∈ callsOf h.trace, c.call.drivesOutput = false

/-- **A message that did what was decided kept to its part.** -/
theorem Performed.Decided.messageLaw {S : Type} [Platform S] {s : S} {h : Performed} {d : Decision}
    (hd : h.Decided s d) : h.MessageLaw := by
  cases d with
  | carryOut sub value =>
    obtain ⟨hrequested, hfits⟩ := hd.request sub value rfl
    have hpermitted : sub.Permits value (callsOf h.trace) := by
      rw [hd.calls]
      exact permits_calls hfits s
    refine ⟨fun hrejected => ?_, fun _ => ⟨sub, value, hrequested, hpermitted, hd.after⟩, ?_,
      hpermitted.not_drivesOutput⟩
    · rw [hd.outcome] at hrejected
      exact absurd hrejected (by simp [Decision.accepts])
    · rw [hd.after]
      exact h.before.afterRequest_queue (some (sub, value))
  | refuse error =>
    refine ⟨fun _ => ⟨hd.calls, hd.after⟩, fun haccepted => ?_, congrArg Engine.queue hd.after, ?_⟩
    · rw [hd.outcome] at haccepted
      exact absurd haccepted (by simp [Decision.accepts])
    · rw [hd.calls]
      simp [Decision.calls]

/-- **A refused message is as if it had not come, and an accepted one does its own part only**, on any
    hardware, in any state of the memory, whatever the bytes of the frame. -/
theorem messages_atomic {S : Type} [Platform S] (n : Node S) :
    (∀ bytes, (n.perform (.frame bytes)).1.MessageLaw)
      ∧ ∀ m, (n.perform (.command m)).1.MessageLaw := by
  refine ⟨fun bytes => ?_, fun m => (decided_command n m).messageLaw⟩
  obtain ⟨d, hd⟩ := decided_frame n bytes
  exact hd.messageLaw

end PacketReinjection
