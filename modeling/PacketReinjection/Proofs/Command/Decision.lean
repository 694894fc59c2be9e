import Mathlib.Tactic.ByContra
import PacketReinjection.Proofs.Memory
import PacketReinjection.Proofs.Routine.Calls

/-!
# `Proofs.Command.Decision` — what a message does is decided before anything is done

A message is either carried out or refused, and which of the two can be read off the message alone. The
decision then fixes everything: the verdict, the calls on the hardware with their answers, and the
memory afterwards. `obeys_handleCommand` is the inversion lemma of the command handler and
`handleFrame_cases` that of frames; later proofs open neither handler again.

## Contents
- **`Decision`** — `CommandMessage.decision`, `frameDecision`.
- **Consequences.** `Decision.verdict`, `Decision.calls`, `Decision.effect`.
- **`Routine.Obeys`** — `obeys_handleCommand`, `obeys_handleAddressed`.
- **`handleFrame_cases`**.
-/

namespace PacketReinjection

/-! ## Decisions -/

/-- What is to be done about a message. -/
inductive Decision where
  | carryOut (sub : SubCommand) (value : UInt32)
  | refuse (error : ControlError)
  deriving DecidableEq

/-- Why a request is refused for its value, if it is: a wait field has eight bits. -/
def SubCommand.refusal? (value : UInt32) : SubCommand → Option ControlError
  | .setTimeout | .setEmergencyTimeout =>
    if value > Router.WaitField.maxValue then
      some (.argumentOutOfRange value Router.WaitField.maxValue)
    else
      none
  | .setPacketClasses | .getStatus | .resetCounters | .exit => none

/-- A value that a wait field takes has eight bits. -/
theorem SubCommand.le_of_fits {sub : SubCommand} {value : UInt32}
    (hsub : sub = .setTimeout ∨ sub = .setEmergencyTimeout) (hfits : sub.refusal? value = none) :
    value ≤ Router.WaitField.maxValue := by
  by_contra hlarge
  rcases hsub with rfl | rfl <;>
    exact absurd hfits (by simp [refusal?, UInt32.not_le.mp hlarge])

/-- What is to be done about a request with its value. -/
def SubCommand.decision (value : UInt32) (sub : SubCommand) : Decision :=
  match sub.refusal? value with
  | some error => .refuse error
  | none => .carryOut sub value

/-- What is to be done about a complete message: its command is looked at first, then its request, then
    the request's value. -/
def CommandMessage.decision (m : CommandMessage) : Decision :=
  if m.envelope.command ≠ reinjectionCommand then
    .refuse (.unknownCommand m.envelope.command)
  else
    match SubCommand.ofCode? m.argument₁ with
    | none => .refuse (.unknownSubCommand m.argument₁)
    | some sub => sub.decision m.argument₂

/-- What is to be done about a frame that a reply can be addressed for. -/
def frameDecision (bytes : List UInt8) : Decision :=
  match CommandMessage.decode bytes with
  | .ok m => m.decision
  | .error error => .refuse error

/-- Only a request that a message makes is carried out. -/
theorem request?_of_decision {m : CommandMessage} {sub : SubCommand} {value : UInt32}
    (h : m.decision = .carryOut sub value) : m.request? = some (sub, value) := by
  unfold CommandMessage.decision at h
  unfold CommandMessage.request?
  by_cases hcommand : m.envelope.command = reinjectionCommand
  · rw [if_neg (not_not_intro hcommand)] at h
    rw [if_pos hcommand]
    cases hsub : SubCommand.ofCode? m.argument₁ with
    | none =>
      rw [hsub] at h
      exact Decision.noConfusion h
    | some sub' =>
      rw [hsub] at h
      simp only [SubCommand.decision] at h
      split at h
      · exact Decision.noConfusion h
      · injection h with hsame hvalue
        rw [hsame, hvalue, Option.map_some]
  · rw [if_pos hcommand] at h
    exact Decision.noConfusion h

theorem frameRequest?_of_decision {bytes : List UInt8} {sub : SubCommand} {value : UInt32}
    (h : frameDecision bytes = .carryOut sub value) : frameRequest? bytes = some (sub, value) := by
  unfold frameDecision at h
  unfold frameRequest?
  cases hdecode : CommandMessage.decode bytes with
  | ok m =>
    rw [hdecode] at h
    exact request?_of_decision h
  | error error =>
    rw [hdecode] at h
    exact Decision.noConfusion h

/-- A request that does not ask for too much is carried out. -/
theorem CommandMessage.decision_of_request {m : CommandMessage} {sub : SubCommand} {value : UInt32}
    (hrequest : m.request? = some (sub, value)) (hfits : sub.refusal? value = none) :
    m.decision = .carryOut sub value := by
  unfold request? at hrequest
  by_cases hcommand : m.envelope.command = reinjectionCommand
  · rw [if_pos hcommand, Option.map_eq_some_iff] at hrequest
    obtain ⟨sub', hsub, hsame⟩ := hrequest
    cases hsame
    rw [decision, if_neg (not_not_intro hcommand), hsub]
    simp only [SubCommand.decision, hfits]
  · rw [if_neg hcommand] at hrequest
    exact absurd hrequest (by simp)

theorem frameDecision_of_request {bytes : List UInt8} {sub : SubCommand} {value : UInt32}
    (hrequest : frameRequest? bytes = some (sub, value)) (hfits : sub.refusal? value = none) :
    frameDecision bytes = .carryOut sub value := by
  unfold frameRequest? at hrequest
  unfold frameDecision
  cases hdecode : CommandMessage.decode bytes with
  | ok m =>
    rw [hdecode] at hrequest
    exact m.decision_of_request hrequest hfits
  | error error =>
    rw [hdecode] at hrequest
    exact absurd hrequest (by simp)

/-! ## Consequences -/

section Consequences

variable {S : Type} [Platform S]

/-- A read of the router's control register: the word, and the hardware afterwards. -/
def readControl (s : S) : UInt32 × S := Platform.call (.readRouter .control) s

/-- The record of a read of the router's control register. -/
def controlRead (control : UInt32) : RecordedCall := ⟨.readRouter .control, control⟩

/-- The record of a write of the router's control register. -/
def controlWritten (control : UInt32) : RecordedCall := ⟨.writeRouter .control control, ()⟩

/-- The record of a write of the interrupt controller. -/
def vicWritten (r : VicRegister) (value : UInt32) : RecordedCall := ⟨.writeVic r value, ()⟩

/-- The present status. Each wait field has a read of its own. -/
def presentStatus (n : Node S) : StatusReport :=
  let first := readControl n.hardware
  let second := readControl first.2
  .ofReadings (Router.WaitField.primary.extract first.1)
    (Router.WaitField.emergency.extract second.1) n.engine.statistics n.engine.filter.mask

/-- The verdict on a request that is carried out. -/
def SubCommand.verdict (n : Node S) : SubCommand → CommandReply
  | .getStatus => .status (presentStatus n)
  | .setTimeout | .setEmergencyTimeout | .setPacketClasses | .resetCounters | .exit => .accepted

/-- The calls that replace a wait field. -/
def replacingCalls (f : Router.WaitField) (value : UInt32) (s : S) : List RecordedCall :=
  [controlRead (readControl s).1, controlWritten (f.replace (readControl s).1 value)]

/-- The calls of a request that is carried out. -/
def SubCommand.calls (value : UInt32) (s : S) : SubCommand → List RecordedCall
  | .setTimeout => replacingCalls .primary value s
  | .setEmergencyTimeout => replacingCalls .emergency value s
  | .setPacketClasses | .resetCounters => []
  | .getStatus =>
    let first := readControl s
    [controlRead first.1, controlRead (readControl first.2).1]
  | .exit =>
    [vicWritten .disable InterruptSource.standingMask,
      vicWritten .disable InterruptSource.transmitterReady.mask, vicWritten .select 0]

namespace Decision

/-- The verdict that follows from a decision. -/
def verdict (n : Node S) : Decision → CommandReply
  | carryOut sub _ => sub.verdict n
  | refuse error => .refused error

/-- The calls that follow from a decision. -/
def calls (s : S) : Decision → List RecordedCall
  | carryOut sub value => sub.calls value s
  | refuse _ => []

/-- The memory that follows from a decision. -/
def effect (e : Engine) : Decision → Engine
  | carryOut sub value => sub.effect value e
  | refuse _ => e

end Decision

end Consequences

/-! ## Carrying out -/

open Routine

/-- **A routine that does what was decided**, on any hardware. -/
structure Routine.Obeys (x : Routine CommandReply) (d : Decision) : Prop where
  verdict : ∀ {S : Type} [Platform S] (n : Node S), (x.run n).1 = d.verdict n
  calls : ∀ {S : Type} [Platform S] (n : Node S), callsOf (x.trace n) = d.calls n.hardware
  engine : ∀ {S : Type} [Platform S] (n : Node S), (x.run n).2.engine = d.effect n.engine

section Carrying

variable {S : Type} [Platform S]

/-- A value that does not fit is refused before the hardware is touched. -/
theorem perform_of_refusal {value : UInt32} {sub : SubCommand} {error : ControlError}
    (h : sub.refusal? value = some error) : perform value sub = done (.error error) := by
  cases sub with
  | setTimeout | setEmergencyTimeout =>
    simp only [SubCommand.refusal?] at h
    split at h
    · rename_i hlarge
      injection h with h
      rw [← h]
      simp [perform, Router.Monitor.setWait, hlarge, Except.map]
    · exact absurd h (by simp)
  | _ => exact absurd h (by simp [SubCommand.refusal?])

theorem perform_of_fits {value : UInt32} {sub : SubCommand} (h : sub.refusal? value = none)
    (n : Node S) :
    ((perform value sub).run n).1 = .ok (sub.verdict n)
      ∧ callsOf ((perform value sub).trace n) = sub.calls value n.hardware := by
  cases sub with
  | setTimeout | setEmergencyTimeout =>
    have hfits : ¬value > Router.WaitField.maxValue :=
      UInt32.not_lt.mpr (SubCommand.le_of_fits (by simp) h)
    simp [perform, Router.Monitor.setWait, hfits, Except.map, SubCommand.verdict, SubCommand.calls,
      replacingCalls, controlRead, controlWritten, readControl, Node.take]
  | setPacketClasses => exact ⟨rfl, rfl⟩
  | getStatus => exact ⟨rfl, rfl⟩
  | resetCounters => exact ⟨rfl, rfl⟩
  | exit => exact ⟨rfl, rfl⟩

/-- A message is checked without a step but for the log. -/
theorem execute_spec (m : CommandMessage) (n : Node S) :
    ((execute m).run n).1 =
        (match m.decision with
        | .carryOut sub _ => .ok (sub.verdict n)
        | .refuse error => .error error)
      ∧ callsOf ((execute m).trace n) = m.decision.calls n.hardware
      ∧ ((execute m).run n).2.engine = m.decision.effect n.engine := by
  unfold execute CommandMessage.decision
  by_cases hcommand : m.envelope.command = reinjectionCommand
  · rw [if_neg (not_not_intro hcommand), if_neg (not_not_intro hcommand)]
    cases SubCommand.ofCode? m.argument₁ with
    | none => exact ⟨rfl, rfl, rfl⟩
    | some sub =>
      simp only [SubCommand.decision, run_bind, callsOf_trace_bind]
      cases hrefusal : sub.refusal? m.argument₂ with
      | some error =>
        rw [perform_of_refusal hrefusal]
        exact ⟨rfl, rfl, rfl⟩
      | none =>
        -- The log keeps hardware and memory, so the request finds what the message found.
        have hlogged := perform_of_fits hrefusal ((log (.received sub m.envelope.sequence)).run n).2
        exact ⟨hlogged.1, hlogged.2, memory_perform _ _ _⟩
  · rw [if_pos hcommand, if_pos hcommand]
    exact ⟨rfl, rfl, rfl⟩

end Carrying

/-- **The command handler does what was decided.** -/
theorem obeys_handleCommand (m : CommandMessage) : (handleCommand m).Obeys m.decision where
  verdict n := by
    simp only [handleCommand, run_bind, (execute_spec m n).1]
    cases m.decision with
    | carryOut sub value => rfl
    | refuse error => rfl
  calls n := by
    simp only [handleCommand, callsOf_trace_bind, execute_spec m n]
    cases m.decision with
    | carryOut sub value => exact List.append_nil _
    | refuse error => rfl
  engine n := by
    rw [← (execute_spec m n).2.2]
    simp only [handleCommand, run_bind]
    cases ((execute m).run n).1 with
    | ok reply => rfl
    | error error => rfl

theorem obeys_handleAddressed (envelope : Envelope) (bytes : List UInt8) :
    (handleAddressed envelope bytes).Obeys (frameDecision bytes) := by
  unfold handleAddressed frameDecision
  cases CommandMessage.decode bytes with
  | ok m => exact obeys_handleCommand m
  | error error => exact ⟨fun _ => rfl, fun _ => rfl, fun _ => rfl⟩

/-! ## Frames -/

/-- **What can become of a frame.** It is dropped without a trace in hardware or memory, because the
    engine has stopped or because no reply can be addressed; or it is answered with the verdict. -/
theorem handleFrame_cases {S : Type} [Platform S] (bytes : List UInt8) (n : Node S) :
    ((n.engine.running = false ∨ ∃ error, Envelope.peek bytes = .error error)
        ∧ ((handleFrame bytes).run n).1 = none
        ∧ callsOf ((handleFrame bytes).trace n) = []
        ∧ ((handleFrame bytes).run n).2.engine = n.engine)
      ∨ ∃ envelope, n.engine.running = true ∧ Envelope.peek bytes = .ok envelope
        ∧ ((handleFrame bytes).run n).1
            = some (ReplyFrame.ofVerdict envelope ((frameDecision bytes).verdict n))
        ∧ callsOf ((handleFrame bytes).trace n) = (frameDecision bytes).calls n.hardware
        ∧ ((handleFrame bytes).run n).2.engine = (frameDecision bytes).effect n.engine := by
  unfold handleFrame
  cases hrunning : n.engine.running with
  | false =>
    left
    simp [hrunning, Node.take]
  | true =>
    cases hpeek : Envelope.peek bytes with
    | error error =>
      left
      simp [hrunning, Node.take]
    | ok envelope =>
      right
      have hobeys := obeys_handleAddressed envelope bytes
      refine ⟨envelope, rfl, rfl, ?_⟩
      simp [hrunning, Node.take, run_bind, trace_bind, hobeys.verdict, hobeys.calls, hobeys.engine]

end PacketReinjection
