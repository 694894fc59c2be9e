import PacketReinjection.Proofs.Command.Acceptance
import PacketReinjection.Proofs.Command.FrameTable

/-!
# `Proofs.Command.Exit` — what stops the engine

The running flag is cleared by an exit command and by nothing else, and it is never set. Which frames
and messages are exit commands is said in numbers, with none of the decoder's own types in it.

## Contents
- **Exit commands.** `FrameTable.AsksExit`, `CommandMessage.AsksExit`; `frameRequest?_any_exit`: the
  decoder reads an exit out of these frames and no others.
- **The flag.** `Operation.asksExit`, `running_perform`, `running_handleFrame`.
- **Records.** `Performed.exits`: an exit was executed; `exits_perform`.
-/

namespace PacketReinjection

open LittleEndian

/-! ## Exit commands -/

/-- The frame is a complete exit command for the control port, whatever its value and further data. -/
def FrameTable.AsksExit (bytes : List UInt8) : Prop :=
  24 ≤ bytes.length ∧ bytes.getD 2 0 >>> 5 = 0 ∧ field bytes 8 2 = 30 ∧ field bytes 12 4 = 5

instance (bytes : List UInt8) : Decidable (FrameTable.AsksExit bytes) :=
  inferInstanceAs (Decidable (24 ≤ bytes.length ∧ bytes.getD 2 0 >>> 5 = 0 ∧ field bytes 8 2 = 30
    ∧ field bytes 12 4 = 5))

/-- The message is an exit command, whatever its header and its value. -/
def CommandMessage.AsksExit (m : CommandMessage) : Prop := m.envelope.command = 30 ∧ m.argument₁ = 5

instance (m : CommandMessage) : Decidable m.AsksExit :=
  inferInstanceAs (Decidable (m.envelope.command = 30 ∧ m.argument₁ = 5))

/-- Whether a request is an exit. -/
def isExit (request : SubCommand × UInt32) : Bool := request.1 = .exit

/-- Only one code names the exit. -/
theorem SubCommand.ofCode?_any_exit (c : UInt32) :
    ((ofCode? c).any fun sub => sub = .exit) = decide (c = 5) := by
  unfold ofCode?
  split <;> simp_all

theorem CommandMessage.request?_any_exit (m : CommandMessage) :
    m.request?.any isExit = decide m.AsksExit := by
  unfold request? AsksExit
  by_cases hcommand : m.envelope.command = reinjectionCommand
  · have hnumber : m.envelope.command = 30 := hcommand
    rw [if_pos hcommand, Option.any_map]
    refine (SubCommand.ofCode?_any_exit m.argument₁).trans ?_
    simp [hnumber]
  · have hnumber : ¬m.envelope.command = 30 := hcommand
    simp [if_neg hcommand, hnumber]

/-- **The frames that an exit is read from.** -/
theorem frameRequest?_any_exit (bytes : List UInt8) :
    (frameRequest? bytes).any isExit = decide (FrameTable.AsksExit bytes) := by
  cases hpeek : Envelope.peek bytes with
  | error error =>
    have hno : ¬FrameTable.AsksExit bytes := by
      rintro ⟨hlong, hport, -, -⟩
      rcases (FrameTable.peek_error_iff bytes).mp ⟨error, hpeek⟩ with hshort | hother
      · omega
      · exact hother hport
    rw [frameRequest?_of_peek_error hpeek, decide_eq_false hno, Option.any_none]
  | ok envelope =>
    have hport : bytes.getD 2 0 >>> 5 = 0 := by
      by_contra hother
      obtain ⟨error, herror⟩ := (FrameTable.peek_error_iff bytes).mpr (.inr hother)
      cases hpeek.symm.trans herror
    unfold frameRequest?
    by_cases hlong : 24 ≤ bytes.length
    · -- A complete message has its command and its request where the numbers are read.
      have hcommand : envelope.command = 30 ↔ field bytes 8 2 = 30 := by
        rw [Envelope.command_of_peek hpeek, ← toNat_word16At (by omega), ← UInt16.toNat_inj]
        rfl
      have hargument : word32At bytes 12 = 5 ↔ field bytes 12 4 = 5 := by
        rw [← toNat_word32At (by omega), ← UInt32.toNat_inj]
        rfl
      rw [CommandMessage.decode_of_le hpeek hlong]
      simp only [CommandMessage.request?_any_exit, CommandMessage.AsksExit, FrameTable.AsksExit,
        hcommand, hargument, hlong, hport, true_and]
    · rw [CommandMessage.decode_of_lt hpeek (by omega),
        decide_eq_false fun hexit => hlong hexit.1, Option.any_none]

/-! ## The flag -/

/-- Whether an operation is an exit command that is looked at. Frames are looked at only while the
    engine runs. -/
def Operation.asksExit (running : Bool) : Operation → Bool
  | .frame bytes => running && decide (FrameTable.AsksExit bytes)
  | .command m => decide m.AsksExit
  | .start | .capture | .timerTick | .transmitterReady | .dispatch _ => false

theorem Operation.request?_any_exit (op : Operation) (running : Bool) :
    (op.request? running).any isExit = op.asksExit running := by
  cases op with
  | frame bytes =>
    cases running with
    | true => exact frameRequest?_any_exit bytes
    | false => rfl
  | command m => exact m.request?_any_exit
  | _ => rfl

/-- An exit clears the flag, and no other request touches it. -/
theorem Engine.afterRequest_running (e : Engine) (request : Option (SubCommand × UInt32)) :
    (e.afterRequest request).running = (e.running && !request.any isExit) := by
  cases request with
  | none => exact (Bool.and_true _).symm
  | some request =>
    obtain ⟨sub, value⟩ := request
    cases sub <;> simp [afterRequest, SubCommand.effect, isExit]

/-- Whatever an operation did to the memory, it cleared the flag only by an exit. -/
theorem Performed.Explained.running {h : Performed} (hx : h.Explained) :
    h.after.running = (h.before.running && !h.operation.asksExit h.before.running) := by
  cases hx with
  | started source => exact (Bool.and_true _).symm
  | @captured op e trace p status hop hp hs =>
    have hnone : op.asksExit e.running = false := by
      rw [← op.request?_any_exit, Operation.request?_of_interrupt hop, Option.any_none]
    obtain ⟨-, hr⟩ | ⟨-, -, hr⟩ | ⟨-, -, hr⟩ := e.receive_cases p status <;> simp [hr, hnone]
  | @sent op e trace p hop hp =>
    have hnone : op.asksExit e.running = false := by
      rw [← op.request?_any_exit, Operation.request?_of_interrupt hop, Option.any_none]
    simp [Engine.sent, hnone]
  | requested hop hcaptured hsent hafter =>
    rw [hafter, Engine.afterRequest_running, Operation.request?_any_exit]

section Flag

variable {S : Type} [Platform S]

/-- **The running flag after every operation**, on any hardware. -/
theorem running_perform (n : Node S) (op : Operation) :
    (n.perform op).2.engine.running
      = (n.engine.running && !op.asksExit n.engine.running) :=
  (perform_explained op n).running

theorem running_handleFrame (bytes : List UInt8) (n : Node S) :
    ((handleFrame bytes).run n).2.engine.running
      = (n.engine.running && !decide (FrameTable.AsksExit bytes)) := by
  rw [memory_handleFrame, Engine.afterRequest_running]
  cases n.engine.running with
  | true => rw [if_pos rfl, frameRequest?_any_exit]
  | false => rfl

end Flag

/-! ## Records -/

/-- Whether the record is one of an exit that was executed: asked for and accepted. -/
def Performed.exits (h : Performed) : Bool := h.accepted?.any isExit

section Records

variable {S : Type} [Platform S]

/-- What was decided to be an exit is one, and nothing but a decision against it stands in the way. -/
theorem exits_of_decided {s : S} {h : Performed} {d : Decision} (hd : h.Decided s d)
    (hrefused : ∀ error, d = .refuse error →
      (h.operation.request? h.before.running).any isExit = false) :
    h.exits = h.operation.asksExit h.before.running := by
  rw [Performed.exits, hd.accepted?_eq, ← Operation.request?_any_exit]
  cases d with
  | carryOut sub value =>
    rw [(hd.request sub value rfl).1]
    rfl
  | refuse error =>
    rw [hrefused error rfl]
    rfl

/-- **An exit is executed exactly if it is asked for**: none is ever refused. -/
theorem exits_perform (n : Node S) (op : Operation) :
    (n.perform op).1.exits = op.asksExit n.engine.running := by
  cases op with
  | frame bytes =>
    obtain ⟨d, hd⟩ := decided_frame n bytes
    refine exits_of_decided hd fun error hrefused => ?_
    -- A refused frame leaves the memory alone, and with it the flag.
    have hflag := running_perform n (.frame bytes)
    have hsame : (n.perform (.frame bytes)).2.engine = n.engine := by
      have hafter := hd.after
      rw [hrefused] at hafter
      exact hafter
    rw [hsame] at hflag
    rw [Operation.request?_any_exit]
    show (Operation.frame bytes).asksExit n.engine.running = false
    cases hrunning : n.engine.running with
    | false => rfl
    | true => simpa [hrunning] using hflag
  | command m =>
    refine exits_of_decided (decided_command n m) fun error hrefused => ?_
    show m.request?.any isExit = false
    cases hrequest : m.request? with
    | none => rfl
    | some request =>
      obtain ⟨sub, value⟩ := request
      by_contra hexit
      obtain rfl : sub = .exit := by simpa [isExit] using hexit
      rw [CommandMessage.decision_of_request hrequest rfl] at hrefused
      exact Decision.noConfusion hrefused
  | _ =>
    rw [Performed.exits, Performed.accepted?_of_none rfl]
    rfl

end Records

end PacketReinjection
