import PacketReinjection.Proofs.History
import PacketReinjection.Proofs.Ledger
import PacketReinjection.Simulation.Hardware

/-!
# `Proofs.Counters` — the counters balance, resets included

The records of a history enter the account of `Proofs.Ledger`: every operation resets, counts and
removes at most what its kind of record says.

## Contents
- **`Performed.ledger`** — what a record counts as.
- **`Performed.Explained.entry`** — every record keeps the account.
- **`counters_conserved`** — histories.
-/

namespace PacketReinjection

/-! ## One record -/

namespace Performed

/-- Whether a record is an event of a counter. -/
def isEvent (h : Performed) : Counter → Bool
  | .dropped => h.captured?.any (· ≠ .filtered)
  | .missedDropped => h.captured?.any (· ≠ .filtered) && flaggedLoss h.trace
  | .queueOverflows => h.captured? = some .overflowed
  | .reinjected => h.sent?.isSome

/-- How the records of operations enter the account. -/
def ledger : Ledger Performed where
  before := before
  after := after
  resets := resets
  isEvent := isEvent
  removes h := h.isEvent .reinjected

variable {h : Performed}

theorem resets_of_interrupt (hop : h.operation.interrupt?.isSome = true) : h.resets = false := by
  rw [resets, Operation.isStart_of_interrupt hop, Operation.request?_of_interrupt hop]
  rfl

theorem Explained.cleared (hx : h.Explained) (hr : h.resets = true) :
    h.after.statistics = Statistics.zero := by
  cases hx with
  | started source => rfl
  | captured hop hp hs => exact absurd hr (by simp [resets_of_interrupt, hop])
  | sent hop hp => exact absurd hr (by simp [resets_of_interrupt, hop])
  | requested hop hcaptured hsent hafter =>
    -- Not a start-up, so the reset is the request of a message.
    simp only [resets, hop, Bool.false_or, Option.any_eq_true, decide_eq_true_eq] at hr
    obtain ⟨⟨sub, value⟩, hrequest, hsub⟩ := hr
    rw [hafter, hrequest, Engine.afterRequest]
    simp only at hsub
    rw [hsub]
    rfl

theorem Explained.counts (hx : h.Explained) (hr : h.resets = false) {n : Counter → Nat}
    (hn : h.before.statistics.Counts n) :
    h.after.statistics.Counts fun c => n c + if h.isEvent c then 1 else 0 := by
  cases hx with
  | started source => exact absurd hr (by simp [resets, Operation.isStart])
  | @captured op e trace p status hop hp hs =>
    -- What is counted depends on what became of the packet, and on the status read beside it.
    have hflag : flaggedLoss trace = (status &&& Router.dumpOverflowMask != 0) := by
      rw [flaggedLoss, hs]
      rfl
    obtain ⟨-, hout⟩ | ⟨-, -, hout⟩ | ⟨-, -, hout⟩ := e.receive_cases p status
    · rw [hout]
      refine Statistics.Counts.congr hn fun c => ?_
      cases c <;> simp [isEvent, captured?, sent?]
    · rw [hout]
      refine Statistics.Counts.congr (hn.received status) fun c => ?_
      cases c <;> simp [isEvent, captured?, sent?, hflag]
    · rw [hout]
      refine Statistics.Counts.congr ((hn.received status).count .queueOverflows) fun c => ?_
      cases c <;> simp [isEvent, captured?, sent?, hflag]
  | @sent op e trace p hop hp =>
    refine Statistics.Counts.congr (Statistics.Counts.count hn .reinjected) fun c => ?_
    cases c <;> simp [isEvent, captured?, sent?]
  | requested hop hcaptured hsent hafter =>
    have hsame : h.after.statistics = h.before.statistics :=
      hafter ▸ Engine.afterRequest_statistics _ (by simpa [resets, hop] using hr)
    rw [hsame]
    refine Statistics.Counts.congr hn fun c => ?_
    cases c <;> simp [isEvent, hcaptured, hsent]

theorem Explained.balance (hx : h.Explained) :
    h.before.queue.length + (if h.isEvent .dropped then 1 else 0)
      = h.after.queue.length + (if h.isEvent .reinjected then 1 else 0)
        + if h.isEvent .queueOverflows then 1 else 0 := by
  cases hx with
  | started source => simp [isEvent, captured?, sent?, Engine.restarted]
  | @captured op e trace p status hop hp hs =>
    obtain ⟨-, hout⟩ | ⟨-, hroom, hout⟩ | ⟨-, -, hout⟩ := e.receive_cases p status
    · simp [isEvent, captured?, sent?, hout]
    · simp [isEvent, captured?, sent?, hout, RingQueue.length_enqueue hroom]
    · simp [isEvent, captured?, sent?, hout]
  | @sent op e trace p hop hp =>
    have hwaiting := congrArg List.length (RingQueue.toList_eq_of_dequeue hp)
    simpa [isEvent, captured?, sent?, Engine.sent] using hwaiting
  | requested hop hcaptured hsent hafter =>
    simp [isEvent, hcaptured, hsent, hafter, Engine.afterRequest_queue]

/-- **Every record keeps the account.** -/
theorem Explained.entry (hx : h.Explained) : ledger.Entry h where
  cleared := hx.cleared
  counts hr _ hn := hx.counts hr hn
  balance := hx.balance

end Performed

/-! ## Histories -/

section Histories

variable {S : Type} [Platform S]

/-- The account holds after any operations on a fresh engine. -/
theorem accounts_performAll (hardware : S) (config : EngineConfig) (ops : List Operation) :
    Performed.ledger.Accounts ((Node.fresh hardware config).performAll ops).1
      ((Node.fresh hardware config).performAll ops).2.engine := by
  induction ops using List.reverseRecOn with
  | nil => exact .fresh config
  | append_singleton ops op ih =>
    rw [Node.performAll_concat]
    exact Ledger.Accounts.step ih (perform_explained op _).entry

/-- **The counters balance, resets included.** After any operations in any order on any hardware, and
    with `L` the length of the queue at the last reset, `dropped + L` packets were sent, refused for
    want of room, or wait; and each counter is the number of its events since that reset. Two counters
    never pass `dropped`, not even where it has stopped at its largest value. -/
theorem counters_conserved (hardware : S) (config : EngineConfig) (ops : List Operation) :
    let run := (Node.fresh hardware config).performAll ops
    let s := run.2.engine.statistics
    (s.Unsaturated →
        s.dropped.toNat + Performed.ledger.lengthAtReset run.1
            = s.reinjected.toNat + s.queueOverflows.toNat + run.2.engine.queue.length
          ∧ ∀ c, (s.get c).toNat = Performed.ledger.events run.1 c)
      ∧ s.missedDropped ≤ s.dropped ∧ s.queueOverflows ≤ s.dropped := by
  intro run s
  have ha : Performed.ledger.Accounts run.1 run.2.engine := accounts_performAll hardware config ops
  refine ⟨fun hs => ⟨ha.statistics_balance hs rfl, ha.counts.get_eq hs⟩,
    ha.get_le (c := .missedDropped) (d := .dropped) fun h hmissed => ?_,
    ha.get_le (c := .queueOverflows) (d := .dropped) fun h hrefused => ?_⟩
  · exact (Bool.and_eq_true_iff.mp hmissed).1
  · have houtcome : h.captured? = some .overflowed := of_decide_eq_true hrefused
    simp [Performed.ledger, Performed.isEvent, houtcome]

end Histories

/-- A reset while a packet waits: the balance starts from one. -/
theorem counters_conserved_reset_while_queued :
    let run := (Node.fresh Simulation.fresh EngineConfig.standard).performAll
      [.capture, .command CommandMessage.resetCounters, .capture, .transmitterReady]
    run.2.engine.statistics.Unsaturated ∧ Performed.ledger.lengthAtReset run.1 = 1
      ∧ run.2.engine.statistics.dropped.toNat + 1
        = run.2.engine.statistics.reinjected.toNat + run.2.engine.statistics.queueOverflows.toNat
          + run.2.engine.queue.length := by
  intro run
  have hs : run.2.engine.statistics.Unsaturated := by intro c; cases c <;> decide
  have hlength : Performed.ledger.lengthAtReset run.1 = 1 := by decide
  have hbalance := ((counters_conserved Simulation.fresh EngineConfig.standard _).1 hs).1
  exact ⟨hs, hlength, hlength ▸ hbalance⟩

end PacketReinjection
