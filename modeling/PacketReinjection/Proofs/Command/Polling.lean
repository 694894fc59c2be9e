import PacketReinjection.Proofs.Command.Exit

/-!
# `Proofs.Command.Polling` — a poll handles the waiting frames in order, up to an exit

A poll of a running engine takes the frames up to and including the first exit command, a poll of a
stopped engine takes none. What it does is then nothing but those frames handled one after the other:
their replies go out in that order, and the frames behind them stay where they are.

The loop asks for the running flag before each frame, so that an exit ends it. That is also why the
frames may come in any number of batches: a poll that ended for want of frames goes on where it
stopped, and one that ended by an exit never goes on.

## Contents
- **What is taken.** `throughExit`, `Node.framesTaken`.
- **What is replied.** `repliesOf`.
- **The loop.** `run_pollFrames`, `run_pollFrames_append`.
- **`polls_in_order`** — one poll, and two of them.
-/

namespace PacketReinjection

/-! ## What is taken -/

/-- The frames up to and including the first exit command; all of them, if there is none. -/
def throughExit (inbox : List CommandFrame) : List CommandFrame :=
  inbox.take (inbox.findIdx (fun frame => FrameTable.AsksExit frame.bytes) + 1)

theorem throughExit_cons_exit {frame : CommandFrame} (h : FrameTable.AsksExit frame.bytes)
    (rest : List CommandFrame) : throughExit (frame :: rest) = [frame] := by
  simp [throughExit, List.findIdx_cons, h]

theorem throughExit_cons_other {frame : CommandFrame} (h : ¬FrameTable.AsksExit frame.bytes)
    (rest : List CommandFrame) : throughExit (frame :: rest) = frame :: throughExit rest := by
  simp [throughExit, List.findIdx_cons, h]

/-- An exit command that is cut short is a frame like any other. -/
example : let short : CommandFrame := ⟨CommandMessage.exit.toBytes.take 23, by decide⟩
    throughExit [short, CommandMessage.exit.encode, CommandMessage.getStatus.encode]
      = [short, CommandMessage.exit.encode] := by
  decide

/-- The frames that a poll takes. -/
def Node.framesTaken {S : Type} (n : Node S) (inbox : List CommandFrame) : List CommandFrame :=
  if n.engine.running then throughExit inbox else []

theorem Node.framesTaken_prefix {S : Type} (n : Node S) (inbox : List CommandFrame) :
    n.framesTaken inbox <+: inbox := by
  unfold framesTaken
  split
  · exact List.take_prefix _ _
  · exact List.nil_prefix

/-- The operation of handling a frame. -/
def CommandFrame.operation (frame : CommandFrame) : Operation := .frame frame.bytes

/-! ## What is replied -/

/-- The reply that the operation gave, if it gave one. -/
def Performed.reply? (h : Performed) : Option ReplyFrame :=
  match h.outcome with
  | .replied reply => reply
  | .started | .handled _ | .answered _ => none

/-- The replies of a history, in the order of the operations. -/
def repliesOf (history : List Performed) : List ReplyFrame := history.filterMap Performed.reply?

theorem repliesOf_cons (h : Performed) (history : List Performed) :
    repliesOf (h :: history) = h.reply?.toList ++ repliesOf history :=
  filterMap_cons_toList _ h history

/-! ## The loop -/

section Loop

variable {S : Type} [Platform S]

open Routine

/-- Handling a frame as an operation gives its reply and the node after it. -/
theorem perform_frame (n : Node S) (bytes : List UInt8) :
    (n.perform (.frame bytes)).1.reply? = ((handleFrame bytes).run n).1
      ∧ (n.perform (.frame bytes)).2 = ((handleFrame bytes).run n).2 := by
  constructor <;> simp [Node.perform, Operation.routine, run_bind, Performed.reply?]

/-- A stopped engine leaves the inbox alone. -/
theorem run_pollFrames_stopped {n : Node S} (hstopped : n.engine.running = false)
    (inbox : List CommandFrame) : (pollFrames inbox).run n = (⟨0, inbox, []⟩, n) := by
  cases inbox with
  | nil => rfl
  | cons frame rest => simp [pollFrames, hstopped]

/-- A running engine handles the first frame and goes on with the others. -/
theorem run_pollFrames_cons {n : Node S} (hrunning : n.engine.running = true) (frame : CommandFrame)
    (rest : List CommandFrame) :
    (pollFrames (frame :: rest)).run n =
      let first := (handleFrame frame.bytes).run n
      let later := (pollFrames rest).run first.2
      (⟨later.1.handled + 1, later.1.remaining, first.1.toList ++ later.1.replies⟩, later.2) := by
  simp only [pollFrames, access, take, step_bind, done_bind, run_access, Access.apply, hrunning,
    if_true, run_bind]
  rfl

/-- **The loop handles the frames that it takes, one after the other**, and leaves the rest. -/
theorem run_pollFrames (inbox : List CommandFrame) (n : Node S) :
    (pollFrames inbox).run n =
      let taken := n.framesTaken inbox
      let handled := n.performAll (taken.map CommandFrame.operation)
      (⟨taken.length, inbox.drop taken.length, repliesOf handled.1⟩, handled.2) := by
  -- Induction on the inbox; the flag after each frame decides whether the loop goes on.
  induction inbox generalizing n with
  | nil =>
    have hnone : n.framesTaken [] = [] := by simp [Node.framesTaken, throughExit]
    rw [hnone]
    rfl
  | cons frame rest ih =>
    cases hrunning : n.engine.running with
    | false =>
      have hnone : n.framesTaken (frame :: rest) = [] := by simp [Node.framesTaken, hrunning]
      rw [run_pollFrames_stopped hrunning, hnone]
      rfl
    | true =>
      obtain ⟨hreply, hnode⟩ := perform_frame n frame.bytes
      have hflag := running_handleFrame frame.bytes n
      have htaken : n.framesTaken (frame :: rest)
          = frame :: ((handleFrame frame.bytes).run n).2.framesTaken rest := by
        unfold Node.framesTaken
        by_cases hexit : FrameTable.AsksExit frame.bytes
        · simp [hflag, hrunning, hexit, throughExit_cons_exit hexit]
        · simp [hflag, hrunning, hexit, throughExit_cons_other hexit]
      rw [run_pollFrames_cons hrunning, htaken]
      simp only [ih, List.map_cons, Node.performAll, CommandFrame.operation, hnode, repliesOf_cons,
        hreply, List.length_cons, List.drop_succ_cons]

/-- **The loop goes on where it stopped**: a second batch finds what the first one left in front of it. -/
theorem run_pollFrames_append (first second : List CommandFrame) (n : Node S) :
    (pollFrames (first ++ second)).run n =
      let half := (pollFrames first).run n
      let rest := (pollFrames (half.1.remaining ++ second)).run half.2
      (⟨half.1.handled + rest.1.handled, rest.1.remaining, half.1.replies ++ rest.1.replies⟩,
        rest.2) := by
  induction first generalizing n with
  | nil =>
    rw [show (pollFrames []).run n = (⟨0, [], []⟩, n) from rfl]
    simp
  | cons frame batch ih =>
    cases hrunning : n.engine.running with
    | false =>
      rw [run_pollFrames_stopped hrunning (frame :: batch)]
      simp [run_pollFrames_stopped hrunning]
    | true =>
      rw [List.cons_append, run_pollFrames_cons hrunning, run_pollFrames_cons hrunning]
      simp only [ih, List.append_assoc, Nat.add_right_comm]

theorem run_pollCommands (mailbox : Mailbox) (n : Node S) :
    (pollCommands mailbox).run n =
      let poll := (pollFrames mailbox.inbox).run n
      ((poll.1.handled, ⟨poll.1.remaining, mailbox.outbox ++ poll.1.replies⟩), poll.2) := by
  simp only [pollCommands, run_bind]
  rfl

/-- **A poll processes the mailbox in order, exactly once, and stops at an exit**, on any hardware and in
    any state of the engine. It takes the frames through the first exit, gives their number, appends
    their replies and leaves the other frames in order. Batches make no difference: two polls with new
    frames before each are one poll of all the frames. -/
theorem polls_in_order (n : Node S) (mailbox : Mailbox) :
    (let taken := n.framesTaken mailbox.inbox
      let handled := n.performAll (taken.map CommandFrame.operation)
      (pollCommands mailbox).run n =
        ((taken.length,
          ⟨mailbox.inbox.drop taken.length, mailbox.outbox ++ repliesOf handled.1⟩), handled.2))
      ∧ ∀ first second : List CommandFrame,
        let half := (pollCommands (mailbox.push first)).run n
        let rest := (pollCommands (half.1.2.push second)).run half.2
        (pollCommands (mailbox.push (first ++ second))).run n =
          ((half.1.1 + rest.1.1, rest.1.2), rest.2) := by
  refine ⟨?_, fun first second => ?_⟩
  · rw [run_pollCommands, run_pollFrames]
  · simp only [run_pollCommands, Mailbox.push, ← List.append_assoc]
    rw [run_pollFrames_append]
    simp only [List.append_assoc]

end Loop

end PacketReinjection
