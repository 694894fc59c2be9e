import PacketReinjection.Proofs.Command.FrameTable
import PacketReinjection.Proofs.Command.Reply
import PacketReinjection.Proofs.Router.ReadBack

/-!
# `Proofs.Command.ReplyCodec` — replies are read as they were meant

The engine writes a reply and the host reads it, each with its own idea of where the fields stand. What
the host reads is what the engine meant, for every frame that gets a reply at all: frames too short for
the fields that a reply echoes are among them. A status reply shows the status that the engine would
report itself, which presupposes that the control register reads back what was written.

## Contents
- **Envelopes.** `Echoes`, what every reply shows of its frame; `echoes_handleFrame`.
- **Status.** `ShowsStatus`, what the reply to get-status shows; `presentStatus_eq`, `status_handleFrame`.
- **Reports.** `StatusReport.decode_ok_iff`, `StatusReport.decode_seven_words`.
- **Buffers.** `ReplyFrame.Copies`, what copying does; `ReplyFrame.copies`.
- **`reply_codec`**.
-/

namespace PacketReinjection

open LittleEndian Router

/-! ## Envelopes -/

/-- What every reply shows of its frame. -/
structure Echoes (bytes : List UInt8) (reply : ReplyFrame) : Prop where
  /-- The bytes of the frame's header with source and destination exchanged. -/
  header : reply.header =
    { flags := bytes.getD 0 0, tag := bytes.getD 1 0, destinationPortCore := bytes.getD 3 0,
      sourcePortCore := bytes.getD 2 0, destinationChip := word16 (bytes.getD 6 0) (bytes.getD 7 0),
      sourceChip := word16 (bytes.getD 4 0) (bytes.getD 5 0) }
  /-- Exchanged once more they are the frame's header. -/
  returned : MessageHeader.decode bytes = .ok reply.header.swapped
  /-- The frame's sequence number, or zero where the end of the frame cuts it off. -/
  sequence : reply.sequence
    = if 12 ≤ bytes.length then word16 (bytes.getD 10 0) (bytes.getD 11 0) else 0
  resultCode : reply.resultCode ≠ none
  payload : reply.payload = [] ∨ reply.payload.length = 28

/-- The envelope of a frame holds the header and the sequence number that are read from the frame. -/
theorem Envelope.reads_of_peek {bytes : List UInt8} {envelope : Envelope}
    (hpeek : peek bytes = .ok envelope) :
    MessageHeader.decode bytes = .ok envelope.header ∧ envelope.sequence = word16At bytes 10 := by
  simp only [peek, bind, Except.bind] at hpeek
  split at hpeek
  · cases hpeek
  · rename_i header hheader
    split at hpeek
    · cases hpeek
    · injection hpeek with henvelope
      rw [← henvelope]
      exact ⟨hheader, rfl⟩

theorem echoes_ofVerdict {bytes : List UInt8} {envelope : Envelope}
    (hpeek : Envelope.peek bytes = .ok envelope) (verdict : CommandReply) :
    Echoes bytes (ReplyFrame.ofVerdict envelope verdict) := by
  obtain ⟨hheader, hsequence⟩ := Envelope.reads_of_peek hpeek
  constructor
  · have hlength := Envelope.length_of_peek hpeek
    have hbytes : envelope.header = _ :=
      Except.ok.inj (hheader.symm.trans (MessageHeader.decode_of_le hlength))
    rw [ReplyFrame.header_ofVerdict, hbytes, word16At_of_le (by omega), word16At_of_le (by omega)]
    rfl
  · rw [ReplyFrame.header_ofVerdict, envelope.header.swapped_swapped]
    exact hheader
  · rw [ReplyFrame.sequence_ofVerdict, hsequence]
    split
    · rename_i hwhole
      exact word16At_of_le hwhole
    · rename_i hcut
      exact word16At_of_lt (Nat.not_le.mp hcut)
  · rw [ReplyFrame.resultCode_ofVerdict]
    exact Option.some_ne_none _
  · rw [ReplyFrame.payload_ofVerdict]
    cases verdict with
    | accepted => exact .inl rfl
    | refused error => exact .inl rfl
    | status report => exact .inr rfl

section Frames

variable {S : Type} [Platform S] {bytes : List UInt8} {n : Node S} {reply : ReplyFrame}

/-- A reply brings the verdict on its frame, and the engine runs. -/
theorem of_handleFrame_eq_some (hreply : ((handleFrame bytes).run n).1 = some reply) :
    ∃ envelope, Envelope.peek bytes = .ok envelope
      ∧ reply = ReplyFrame.ofVerdict envelope ((frameDecision bytes).verdict n)
      ∧ callsOf ((handleFrame bytes).trace n) = (frameDecision bytes).calls n.hardware
      ∧ ((handleFrame bytes).run n).2.engine = (frameDecision bytes).effect n.engine := by
  obtain ⟨-, hnone, -, -⟩ | ⟨envelope, -, hpeek, hsome, hcalls, hengine⟩ := handleFrame_cases bytes n
  · rw [hnone] at hreply
    exact absurd hreply (Option.some_ne_none reply).symm
  · exact ⟨envelope, hpeek, Option.some.inj (hreply.symm.trans hsome), hcalls, hengine⟩

/-- **Every reply** shows its frame's envelope. -/
theorem echoes_handleFrame (hreply : ((handleFrame bytes).run n).1 = some reply) :
    Echoes bytes reply := by
  obtain ⟨envelope, hpeek, rfl, -, -⟩ := of_handleFrame_eq_some hreply
  exact echoes_ofVerdict hpeek _

/-! ## Status -/

/-- A reply that shows the status which the engine reports itself, just before the frame and just after
    it. -/
structure ShowsStatus (n : Node S) (bytes : List UInt8) (reply : ReplyFrame) : Prop where
  resultCode : reply.resultCode = some .ok
  before : reply.status = .ok (reportStatus.run n).1
  after : reply.status = .ok (reportStatus.run ((handleFrame bytes).run n).2).1

/-- What the engine reports is the present status. -/
theorem run_reportStatus (n : Node S) : (reportStatus.run n).1 = presentStatus n := rfl

variable [ReadsBack S]

open ReadsBack

/-- The present status is a function of the control word and the memory. -/
theorem presentStatus_eq (n : Node S) :
    presentStatus n =
      .ofReadings (WaitField.primary.extract (control n.hardware))
        (WaitField.emergency.extract (control n.hardware)) n.engine.statistics
        n.engine.filter.mask := by
  simp [presentStatus, readControl, read_control, control_read]

/-- A request for the status is carried out, whatever its other arguments are. -/
theorem frameDecision_getStatus {m : CommandMessage} (hdecode : CommandMessage.decode bytes = .ok m)
    (hcommand : m.envelope.command = 30) (hrequest : m.argument₁ = 3) :
    frameDecision bytes = .carryOut .getStatus m.argument₂ := by
  have hcode : SubCommand.ofCode? m.argument₁ = some .getStatus := by
    rw [hrequest]
    rfl
  have hours : m.envelope.command = reinjectionCommand := hcommand
  have hmade : m.request? = some (.getStatus, m.argument₂) := by
    rw [CommandMessage.request?, if_pos hours, hcode]
    rfl
  refine frameDecision_of_request ?_ rfl
  rw [frameRequest?, hdecode]
  exact hmade

/-- **The reply to a request for the status** shows the status. -/
theorem status_handleFrame (hreply : ((handleFrame bytes).run n).1 = some reply) {m : CommandMessage}
    (hdecode : CommandMessage.decode bytes = .ok m) (hcommand : m.envelope.command = 30)
    (hrequest : m.argument₁ = 3) : ShowsStatus n bytes reply := by
  obtain ⟨envelope, hpeek, rfl, hcalls, hengine⟩ := of_handleFrame_eq_some hreply
  rw [frameDecision_getStatus hdecode hcommand hrequest] at hcalls hengine ⊢
  -- The handler reads the control word twice and writes nothing, so a second report finds it unchanged.
  have hcontrol : control ((handleFrame bytes).run n).2.hardware = control n.hardware := by
    rw [run_hardware, hcalls]
    simp [Decision.calls, SubCommand.calls, replay, controlRead, control_read]
  have hsame : presentStatus ((handleFrame bytes).run n).2 = presentStatus n := by
    rw [presentStatus_eq, presentStatus_eq, hcontrol, hengine]
    rfl
  have hstatus := ReplyFrame.status_ofVerdict envelope (presentStatus n)
  refine ⟨ReplyFrame.resultCode_ofVerdict _ _, hstatus, ?_⟩
  rw [run_reportStatus, hsame]
  exact hstatus

end Frames

/-! ## Reports -/

namespace StatusReport

/-- A report is read from 28 bytes at least. -/
theorem decode_ok_iff (bytes : List UInt8) :
    (∃ report, decode bytes = .ok report) ↔ 28 ≤ bytes.length := by
  unfold decode
  split
  · rename_i hshort
    constructor
    · rintro ⟨report, hreport⟩
      cases hreport
    · exact fun hlong => absurd hshort (Nat.not_lt.mpr hlong)
  · rename_i hlong
    exact ⟨fun _ => Nat.not_lt.mp hlong, fun _ => ⟨_, rfl⟩⟩

/-- Any seven words are the words of a report. -/
theorem decode_seven_words (w₀ w₁ w₂ w₃ w₄ w₅ w₆ : UInt32) (rest : List UInt8) :
    ∃ report, decode ([w₀, w₁, w₂, w₃, w₄, w₅, w₆].flatMap bytes32 ++ rest) = .ok report
      ∧ report.words = [w₀, w₁, w₂, w₃, w₄, w₅, w₆] := by
  let report : StatusReport := ⟨w₀, w₁, w₂, w₃, w₄, w₅, w₆⟩
  have hwords : report.words = [w₀, w₁, w₂, w₃, w₄, w₅, w₆] := rfl
  rw [← hwords]
  exact ⟨report, report.decode_words_append rest, rfl⟩

end StatusReport

/-! ## Buffers -/

namespace ReplyFrame

variable (r : ReplyFrame) (buffer : List UInt8)

/-- The caller's buffer after an attempt to copy a reply into it: a refusal gives no other. -/
def bufferAfter : List UInt8 :=
  match r.writeTo buffer with
  | .ok (_, written) => written
  | .error _ => buffer

/-- What copying a reply into a buffer does. -/
structure Copies : Prop where
  /-- The reply fits: its length is given, its bytes come first, and the rest stays. -/
  fits : r.bytes.length ≤ buffer.length ↔
    r.writeTo buffer = .ok (r.bytes.length, r.bytes ++ buffer.drop r.bytes.length)
  /-- It does not fit: both lengths are given. -/
  refused : buffer.length < r.bytes.length ↔
    r.writeTo buffer = .error (.bufferTooSmall r.bytes.length buffer.length)
  length : (r.bufferAfter buffer).length = buffer.length
  unchanged : buffer.length < r.bytes.length → r.bufferAfter buffer = buffer

/-- **Copying** puts a reply into a buffer whole or not at all. -/
theorem copies : r.Copies buffer := by
  by_cases hshort : buffer.length < r.bytes.length
  · have hrefused : r.writeTo buffer = .error (.bufferTooSmall r.bytes.length buffer.length) :=
      if_pos hshort
    have hafter : r.bufferAfter buffer = buffer := by rw [bufferAfter, hrefused]
    constructor
    case fits =>
      constructor
      · intro hfits
        exact absurd hshort (Nat.not_lt.mpr hfits)
      · intro hwritten
        rw [hrefused] at hwritten
        cases hwritten
    case refused => exact ⟨fun _ => hrefused, fun _ => hshort⟩
    case length => rw [hafter]
    case unchanged => exact fun _ => hafter
  · have hwritten : r.writeTo buffer = .ok (r.bytes.length, r.bytes ++ buffer.drop r.bytes.length) :=
      if_neg hshort
    constructor
    case fits => exact ⟨fun _ => hwritten, fun _ => Nat.not_lt.mp hshort⟩
    case refused =>
      constructor
      · intro h
        exact absurd h hshort
      · intro hrefused
        rw [hwritten] at hrefused
        cases hrefused
    case length =>
      rw [bufferAfter, hwritten]
      simp only [List.length_append, List.length_drop]
      omega
    case unchanged => exact fun h => absurd h hshort

end ReplyFrame

/-! ## The codec -/

/-- **Replies are read as they were meant.** Every reply, on any hardware, shows its frame's header with
    source and destination exchanged, its sequence number, a result code, and no payload or that of a
    status; the reply to a request for the status shows the engine's status, where the control register reads
    back. Seven words are read back from their bytes whatever follows, and a report is read from 28 bytes at
    least. A reply is copied into a buffer whole or not at all. -/
theorem reply_codec :
    (∀ (S : Type) [Platform S] (n : Node S) (bytes : List UInt8) (reply : ReplyFrame),
      ((handleFrame bytes).run n).1 = some reply → Echoes bytes reply)
    ∧ (∀ (S : Type) [Platform S] [ReadsBack S] (n : Node S) (bytes : List UInt8) (reply : ReplyFrame)
        (m : CommandMessage), ((handleFrame bytes).run n).1 = some reply →
      CommandMessage.decode bytes = .ok m → m.envelope.command = 30 → m.argument₁ = 3 →
      ShowsStatus n bytes reply)
    ∧ (∀ (w₀ w₁ w₂ w₃ w₄ w₅ w₆ : UInt32) (rest : List UInt8), ∃ report,
      StatusReport.decode ([w₀, w₁, w₂, w₃, w₄, w₅, w₆].flatMap bytes32 ++ rest) = .ok report
        ∧ report.words = [w₀, w₁, w₂, w₃, w₄, w₅, w₆])
    ∧ (∀ bytes : List UInt8, (∃ report, StatusReport.decode bytes = .ok report) ↔ 28 ≤ bytes.length)
    ∧ ∀ (r : ReplyFrame) (buffer : List UInt8), r.Copies buffer := by
  refine ⟨?_, ?_, StatusReport.decode_seven_words, StatusReport.decode_ok_iff, ReplyFrame.copies⟩
  · intro S _ n bytes reply hreply
    exact echoes_handleFrame hreply
  · intro S _ _ n bytes reply m hreply hdecode hcommand hrequest
    exact status_handleFrame hreply hdecode hcommand hrequest

/-- A frame that ends within its command, and a request for the status over memory-mapped registers. -/
theorem reply_codec_stub_and_status :
    let d : Mapped.Description := ⟨true, true, true, true, true, true, true, true, 200, -1, 0, 0, 0, 0⟩
    let simulated : Node Simulation := Node.fresh Simulation.fresh EngineConfig.standard
    let mapped : Node Mapped.MappedHardware := Node.fresh ⟨d, Mapped.Board.zeroed⟩ EngineConfig.standard
    let stub : List UInt8 := [0x87, 0xff, 0x01, 0xff, 0x12, 0x34, 0x56, 0x78, 0x1e]
    let request : List UInt8 := CommandMessage.getStatus.toBytes
    (∃ reply, ((handleFrame stub).run simulated).1 = some reply ∧ Echoes stub reply)
      ∧ ∃ reply, ((handleFrame request).run mapped).1 = some reply
        ∧ ShowsStatus mapped request reply := by
  intro d simulated mapped stub request
  exact ⟨⟨_, rfl, reply_codec.1 _ simulated stub _ rfl⟩,
    ⟨_, rfl, reply_codec.2.1 _ mapped request _ CommandMessage.getStatus rfl rfl rfl rfl⟩⟩

end PacketReinjection
