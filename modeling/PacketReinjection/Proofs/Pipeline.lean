import PacketReinjection.Proofs.History

/-!
# `Proofs.Pipeline` — no packet is lost, duplicated or reordered

The queue is the only place between capture and transmitter. One record moves at most one packet
through it (`Performed.Explained.conserves`), and the moves of a history add up: what was queued is what
was sent, followed by what still waits.

## Contents
- **`Performed.QueueLaw`** — the part that one operation plays for the queue.
- **One record.** `Explained.conserves`, `Explained.queueLaw`.
- **Histories.** `conserves_performAll`, `packets_conserved`.
-/

namespace PacketReinjection

/-! ## One record -/

/-- The part that one operation plays for the queue, which holds 255 packets at most. -/
structure Performed.QueueLaw (h : Performed) : Prop where
  /-- A capture reads a packet; its class, then the room in the queue, decide what becomes of it. -/
  captured : ∀ o, h.captured? = some o → ∃ p, dumpedPacket h.trace = some p
    ∧ (h.before.filter.isEnabled p.packetClass = true →
        (o = .queued ↔ h.before.queue.length < 255)
          ∧ (o = .overflowed ↔ h.before.queue.length = 255))
    ∧ (o = .filtered ↔ h.before.filter.isEnabled p.packetClass = false)
  /-- A packet that was queued is now the youngest. -/
  queued : ∀ p, h.queued? = some p → h.after.queue.toList = h.before.queue.toList ++ [p]
  /-- A packet that was sent was the oldest. -/
  sent : ∀ p, h.sent? = some p → h.before.queue.toList = p :: h.after.queue.toList
  /-- Whatever else happened, slots and indices are as before. -/
  kept : h.captured? ≠ some .queued → h.sent? = none → h.after.queue = h.before.queue

namespace Performed.Explained

variable {h : Performed}

/-- **One record moves at most one packet**: in at the young end, out at the old end. -/
theorem conserves (hx : h.Explained) :
    h.before.queue.toList ++ h.queued?.toList = h.sent?.toList ++ h.after.queue.toList := by
  cases hx with
  | started source => simp [queued?, sent?, captured?, Engine.restarted]
  | @captured op e trace p status hop hp hs =>
    obtain ⟨-, hr⟩ | ⟨-, hroom, hr⟩ | ⟨-, -, hr⟩ := e.receive_cases p status
    · simp [queued?, sent?, captured?, hr]
    · simp [queued?, sent?, captured?, hr, hp, RingQueue.toList_enqueue hroom]
    · simp [queued?, sent?, captured?, hr]
  | @sent op e trace p hop hp =>
    simp [queued?, sent?, captured?, Engine.sent, RingQueue.toList_eq_of_dequeue hp]
  | requested hop hcaptured hsent hafter =>
    simp [queued?, hcaptured, hsent, hafter, Engine.afterRequest_queue]

theorem kept (hx : h.Explained) (hqueued : h.captured? ≠ some .queued) (hsent : h.sent? = none) :
    h.after.queue = h.before.queue := by
  cases hx with
  | started source => rfl
  | @captured op e trace p status hop hp hs =>
    obtain ⟨-, hr⟩ | ⟨-, hroom, hr⟩ | ⟨-, -, hr⟩ := e.receive_cases p status
    · rw [hr]
    · exact absurd (by simp [captured?, hr]) hqueued
    · rw [hr]
  | @sent op e trace p hop hp => exact absurd hsent (by simp [sent?])
  | requested hop hcaptured hsent hafter => rw [hafter, Engine.afterRequest_queue]

/-- What became of a captured packet is decided by its class and the room in the queue. -/
theorem outcome_iff (hx : h.Explained) {o : CaptureOutcome} (ho : h.captured? = some o) :
    ∃ p, dumpedPacket h.trace = some p
      ∧ (h.before.filter.isEnabled p.packetClass = true →
          (o = .queued ↔ h.before.queue.length < 255)
            ∧ (o = .overflowed ↔ h.before.queue.length = 255))
      ∧ (o = .filtered ↔ h.before.filter.isEnabled p.packetClass = false) := by
  cases hx with
  | started source => exact absurd ho (by simp [captured?])
  | @captured op e trace p status hop hp hs =>
    refine ⟨p, hp, ?_⟩
    have hlt : e.queue.length < 256 := e.queue.length_lt
    simp only [captured?, Option.some.injEq] at ho
    subst ho
    obtain ⟨hclass, hr⟩ | ⟨hclass, hroom, hr⟩ | ⟨hclass, hfull, hr⟩ := e.receive_cases p status
    · simp [hr, hclass]
    · simp only [hr, hclass]
      simp
      omega
    · simp [hr, hclass, hfull]
  | @sent op e trace p hop hp => exact absurd ho (by simp [captured?])
  | requested hop hcaptured hsent hafter => exact absurd ho (by simp [hcaptured])

theorem queueLaw (hx : h.Explained) : h.QueueLaw where
  captured o ho := hx.outcome_iff ho
  queued p hp := by
    -- A record that queued a packet sent none, so the one move is the way in.
    have hsent : h.sent? = none := by
      cases hsome : h.sent? with
      | none => rfl
      | some q => exact absurd hp (by simp [queued?, captured?_of_sent hsome])
    have hmoved := hx.conserves
    rw [hp, hsent] at hmoved
    exact hmoved.symm
  sent p hp := by
    -- A record that sent a packet captured none, so the one move is the way out.
    have hqueued : h.queued? = none := by simp [queued?, captured?_of_sent hp]
    have hmoved := hx.conserves
    rw [hp, hqueued] at hmoved
    simpa using hmoved
  kept := hx.kept

end Performed.Explained

/-! ## Histories -/

section Histories

variable {S : Type} [Platform S]

/-- **The moves of a history add up**, from any node. -/
theorem conserves_performAll (ops : List Operation) (n : Node S) :
    n.engine.queue.toList ++ queuedPackets (n.performAll ops).1
      = sentPackets (n.performAll ops).1 ++ (n.performAll ops).2.engine.queue.toList := by
  induction ops generalizing n with
  | nil => simp [Node.performAll, queuedPackets, sentPackets]
  | cons op ops ih =>
    have hfirst := (perform_explained op n).conserves
    have hlater := ih (n.perform op).2
    show _ ++ queuedPackets ((n.perform op).1 :: ((n.perform op).2.performAll ops).1)
      = sentPackets ((n.perform op).1 :: ((n.perform op).2.performAll ops).1) ++ _
    rw [queuedPackets_cons, sentPackets_cons]
    exact moves_append hfirst hlater

theorem queueLaw_performAll (ops : List Operation) (n : Node S) :
    ∀ h ∈ (n.performAll ops).1, h.QueueLaw :=
  Node.forall_performAll (fun n op => (perform_explained op n).queueLaw) ops n

/-- **No loss, no duplication, no reordering.** On any hardware and after any operations in any order,
    the packets that were queued are the packets that were sent, followed by the queue as it stands;
    and every single operation keeps to its part. -/
theorem packets_conserved (hardware : S) (config : EngineConfig) (ops : List Operation) :
    let run := (Node.fresh hardware config).performAll ops
    queuedPackets run.1 = sentPackets run.1 ++ run.2.engine.queue.toList
      ∧ ∀ h ∈ run.1, h.QueueLaw := by
  intro run
  refine ⟨?_, queueLaw_performAll ops _⟩
  have hmoved := conserves_performAll ops (Node.fresh hardware config)
  rwa [show (Node.fresh hardware config).engine.queue.toList = [] from RingQueue.toList_empty _ _,
    List.nil_append] at hmoved

end Histories

end PacketReinjection
