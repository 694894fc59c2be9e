import PacketReinjection.Proofs.Command.Decision
import PacketReinjection.Proofs.Command.Reply
import PacketReinjection.Proofs.History

/-!
# `Proofs.Command.Acceptance` — which messages of a history were accepted

Acceptance is read off the answer: a result code for a frame, a verdict for a message. The record of a
message follows a decision (`Performed.Decided`), and then it was accepted exactly if something was to
be carried out.

## Contents
- **`Outcome.accepted`**, **`Performed.accepted?`** — acceptance, and the request that was accepted.
- **`Performed.Decided`** — `decided_command`, `decided_frame`; `perform_kinds`: every operation is a
  start-up, a handler or a message that did what was decided.
- **What was accepted.** `Performed.Decided.accepted?_eq`: what was decided; `refusal?_of_accepted`:
  nothing that does not fit.
-/

namespace PacketReinjection

/-! ## Acceptance -/

/-- Whether a message was accepted: the frame got a reply with the result code of success, or the
    message a verdict that is no refusal. -/
def Outcome.accepted : Outcome → Bool
  | .replied reply => reply.any fun r => r.resultCode = some .ok
  | .answered (.refused _) => false
  | .answered .accepted | .answered (.status _) => true
  | .started | .handled _ => false

/-- Whether something is to be carried out. -/
def Decision.accepts : Decision → Bool
  | .carryOut _ _ => true
  | .refuse _ => false

/-- No error is answered with the result code of success. -/
theorem ControlError.resultCode_ne_ok (error : ControlError) : error.resultCode ≠ .ok := by
  cases error <;> exact ResultCode.noConfusion

section Acceptance

variable {S : Type} [Platform S] (d : Decision) (n : Node S)

theorem accepted_answered : (Outcome.answered (d.verdict n)).accepted = d.accepts := by
  cases d with
  | carryOut sub value => cases sub <;> rfl
  | refuse error => rfl

theorem accepted_replied (envelope : Envelope) :
    (Outcome.replied (some (ReplyFrame.ofVerdict envelope (d.verdict n)))).accepted = d.accepts := by
  simp only [Outcome.accepted, Option.any_some, ReplyFrame.resultCode_ofVerdict]
  cases d with
  | carryOut sub value => cases sub <;> rfl
  | refuse error => simp [Decision.verdict, CommandReply.resultCode, error.resultCode_ne_ok,
      Decision.accepts]

end Acceptance

/-- The request that an operation made and that was accepted, with its value. -/
def Performed.accepted? (h : Performed) : Option (SubCommand × UInt32) :=
  if h.outcome.accepted then h.operation.request? h.before.running else none

theorem Performed.accepted?_of_none {h : Performed}
    (hnone : h.operation.request? h.before.running = none) : h.accepted? = none := by
  rw [accepted?, hnone, ite_self]

/-! ## Records of messages -/

/-- What is carried out fits. -/
theorem SubCommand.fits_of_decision {sub sub' : SubCommand} {value value' : UInt32}
    (h : sub.decision value = .carryOut sub' value') : sub'.refusal? value' = none := by
  unfold SubCommand.decision at h
  split at h
  · exact Decision.noConfusion h
  · rename_i hfits
    injection h with hsub hvalue
    rwa [← hsub, ← hvalue]

theorem CommandMessage.fits_of_decision {m : CommandMessage} {sub : SubCommand} {value : UInt32}
    (h : m.decision = .carryOut sub value) : sub.refusal? value = none := by
  unfold CommandMessage.decision at h
  split at h
  · exact Decision.noConfusion h
  · split at h
    · exact Decision.noConfusion h
    · exact SubCommand.fits_of_decision h

theorem frame_fits_of_decision {bytes : List UInt8} {sub : SubCommand} {value : UInt32}
    (h : frameDecision bytes = .carryOut sub value) : sub.refusal? value = none := by
  unfold frameDecision at h
  split at h
  · exact CommandMessage.fits_of_decision h
  · exact Decision.noConfusion h

/-- A record of a message that did what was decided, on hardware in the given state. -/
structure Performed.Decided {S : Type} [Platform S] (s : S) (h : Performed) (d : Decision) : Prop where
  outcome : h.outcome.accepted = d.accepts
  calls : callsOf h.trace = d.calls s
  after : h.after = d.effect h.before
  /-- What is carried out was asked for, and fits. -/
  request : ∀ sub value, d = .carryOut sub value →
    h.operation.request? h.before.running = some (sub, value) ∧ sub.refusal? value = none

/-- The request that a decision accepts. -/
def Decision.accepted? : Decision → Option (SubCommand × UInt32)
  | .carryOut sub value => some (sub, value)
  | .refuse _ => none

section Messages

variable {S : Type} [Platform S]

open Routine

theorem Performed.Decided.accepted?_eq {s : S} {h : Performed} {d : Decision} (hd : h.Decided s d) :
    h.accepted? = d.accepted? := by
  rw [accepted?, hd.outcome]
  cases d with
  | carryOut sub value => exact (hd.request sub value rfl).1
  | refuse error => rfl

theorem decided_command (n : Node S) (m : CommandMessage) :
    (n.perform (.command m)).1.Decided n.hardware m.decision where
  outcome := by
    simp [Node.perform, Operation.routine, run_bind, (obeys_handleCommand m).verdict,
      accepted_answered]
  calls := by
    simp [Node.perform, Operation.routine, trace_bind, (obeys_handleCommand m).calls]
  after := by
    simp [Node.perform, Operation.routine, run_bind, (obeys_handleCommand m).engine]
  request _ _ hd := ⟨request?_of_decision hd, CommandMessage.fits_of_decision hd⟩

theorem decided_frame (n : Node S) (bytes : List UInt8) :
    ∃ d, (n.perform (.frame bytes)).1.Decided n.hardware d := by
  obtain ⟨-, hreply, hcalls, hengine⟩ | ⟨envelope, hrunning, -, hreply, hcalls, hengine⟩ :=
    handleFrame_cases bytes n
  · -- A frame that is dropped counts as refused; with which error does not matter.
    refine ⟨.refuse (.truncated 0), ?_, ?_, ?_, fun _ _ hd => Decision.noConfusion hd⟩
    · simp [Node.perform, Operation.routine, run_bind, hreply, Outcome.accepted, Decision.accepts]
    · simp [Node.perform, Operation.routine, trace_bind, hcalls, Decision.calls]
    · simp [Node.perform, Operation.routine, run_bind, hengine, Decision.effect]
  · refine ⟨frameDecision bytes, ?_, ?_, ?_, fun sub value hd => ⟨?_, frame_fits_of_decision hd⟩⟩
    · simp [Node.perform, Operation.routine, run_bind, hreply, accepted_replied]
    · simp [Node.perform, Operation.routine, trace_bind, hcalls]
    · simp [Node.perform, Operation.routine, run_bind, hengine]
    · simp [Node.perform, Operation.request?, hrunning, frameRequest?_of_decision hd]

/-- **The three kinds of operations**: start-ups, handlers, and messages that did what was decided. -/
theorem perform_kinds (n : Node S) (op : Operation) :
    op = .start ∨ (∃ source, op.interrupt? = some source)
      ∨ op.interrupt? = none ∧ op.isStart = false
        ∧ ∃ d, (n.perform op).1.Decided n.hardware d := by
  cases op with
  | start => exact .inl rfl
  | frame bytes => exact .inr (.inr ⟨rfl, rfl, decided_frame n bytes⟩)
  | command m => exact .inr (.inr ⟨rfl, rfl, m.decision, decided_command n m⟩)
  | _ => exact .inr (.inl ⟨_, rfl⟩)

/-- **What was accepted fits.** -/
theorem refusal?_of_accepted (n : Node S) (op : Operation) {sub : SubCommand} {value : UInt32}
    (h : (n.perform op).1.accepted? = some (sub, value)) : sub.refusal? value = none := by
  obtain rfl | ⟨source, hop⟩ | ⟨-, -, d, hd⟩ := perform_kinds n op
  · rw [Performed.accepted?_of_none rfl] at h
    exact absurd h (by simp)
  · have hhandler : op.interrupt?.isSome = true := Option.isSome_of_eq_some hop
    rw [Performed.accepted?_of_none (Operation.request?_of_interrupt hhandler)] at h
    exact absurd h (by simp)
  · rw [hd.accepted?_eq] at h
    cases d with
    | carryOut sub' value' =>
      have hsame : (sub', value') = (sub, value) := Option.some.inj h
      cases hsame
      exact (hd.request sub value rfl).2
    | refuse error => exact absurd h (by simp [Decision.accepted?])

end Messages

end PacketReinjection
