import PacketReinjection.EntryPoints
import PacketReinjection.Proofs.Command.FrameTable
import PacketReinjection.Proofs.Command.Reply

/-!
# `Proofs.EntryPoints.Message` — a frame is handled in place, and all or nothing

The message entry carries a frame out before it knows whether the reply fits, and the reply goes where
the frame was. That no command takes effect whose reply is lost is due to the lengths: a frame that is
carried out has 24 bytes, the reply to every request that changes anything has 12, and the buffer holds
the frame already. Only a status report can be longer than its frame, and reporting changes nothing.

## Contents
- **`harmless_of_long_reply`**, **`unaffected_handleFrame`** — what a frame does that gets no reply, or
  one longer than itself.
- **`deliver`** — a reply goes to the front of a buffer, if it fits.
- **`Firmware.handleMessage_ofNode`** — the entry of firmware with an engine.
- **`Firmware.Delivered`**, **`Firmware.Undelivered`**, **`Firmware.message_in_place`**.
-/

namespace PacketReinjection

open Mapped

/-! ## Long replies -/

section LongReplies

variable {S : Type} [Platform S]

/-- A frame that is carried out is a complete message. -/
theorem length_of_carryOut {bytes : List UInt8} {sub : SubCommand} {value : UInt32}
    (h : frameDecision bytes = .carryOut sub value) : messageLength ≤ bytes.length := by
  -- The decoder looks at the envelope before it looks at the length.
  by_contra hshort
  cases hpeek : Envelope.peek bytes with
  | error error =>
    have hrequest := frameRequest?_of_decision h
    rw [frameRequest?_of_peek_error hpeek] at hrequest
    exact absurd hrequest (by simp)
  | ok envelope =>
    rw [frameDecision, CommandMessage.decode_of_lt hpeek (Nat.not_le.mp hshort)] at h
    exact Decision.noConfusion h

/-- **A frame whose reply is longer than itself does no harm**: the memory stays, and all that is asked
    of the hardware is the router's control register. -/
theorem harmless_of_long_reply {bytes : List UInt8} {n : Node S} {reply : ReplyFrame}
    (hreply : ((handleFrame bytes).run n).1 = some reply) (hlong : bytes.length < reply.bytes.length) :
    ((handleFrame bytes).run n).2.engine = n.engine
      ∧ ∀ c ∈ callsOf ((handleFrame bytes).trace n), c.call = .readRouter .control := by
  obtain ⟨-, hnone, -, -⟩ | ⟨envelope, -, -, hsome, hcalls, hengine⟩ := handleFrame_cases bytes n
  · rw [hnone] at hreply
    exact absurd hreply (by simp)
  · rw [hsome] at hreply
    obtain rfl := Option.some.inj hreply
    rw [ReplyFrame.length_ofVerdict] at hlong
    rw [hcalls, hengine]
    cases hdecision : frameDecision bytes with
    | refuse error => exact ⟨rfl, fun _ hc => absurd hc List.not_mem_nil⟩
    | carryOut sub value =>
      have hcomplete := length_of_carryOut hdecision
      rw [hdecision] at hlong
      cases sub with
      | getStatus => exact ⟨rfl, by simp [Decision.calls, SubCommand.calls, controlRead]⟩
      | _ =>
        -- The reply is an envelope, which is shorter than any complete message.
        have hshort : bytes.length < envelopeLength := hlong
        exact absurd (Nat.lt_of_le_of_lt hcomplete hshort) (by decide)

end LongReplies

/-- Reading leaves memory-mapped registers as they are. -/
theorem replay_controlReads {calls : List RecordedCall}
    (h : ∀ c ∈ calls, c.call = .readRouter .control) (s : MappedHardware) : replay calls s = s := by
  induction calls with
  | nil => rfl
  | cons c calls ih =>
    obtain ⟨hc, hcalls⟩ := List.forall_mem_cons.mp h
    have hsame : (Platform.call c.call s).2 = s := by
      rw [hc]
      rfl
    rw [replay, List.foldl_cons, hsame]
    exact ih hcalls

/-- **A frame without a reply, or with one longer than itself, leaves engine and registers as they
    are.** -/
theorem unaffected_handleFrame (bytes : List UInt8) (n : Node MappedHardware)
    (hlong : ∀ reply, ((handleFrame bytes).run n).1 = some reply → bytes.length < reply.bytes.length) :
    ((handleFrame bytes).run n).2.engine = n.engine
      ∧ ((handleFrame bytes).run n).2.hardware = n.hardware := by
  have hhardware := run_hardware (handleFrame bytes) n
  cases hreply : ((handleFrame bytes).run n).1 with
  | none =>
    obtain ⟨-, -, hcalls, hengine⟩ | ⟨envelope, -, -, hsome, -, -⟩ := handleFrame_cases bytes n
    · rw [hcalls] at hhardware
      exact ⟨hengine, hhardware⟩
    · rw [hreply] at hsome
      exact absurd hsome (by simp)
  | some reply =>
    obtain ⟨hengine, hcalls⟩ := harmless_of_long_reply hreply (hlong reply hreply)
    exact ⟨hengine, hhardware.trans (replay_controlReads hcalls _)⟩

/-! ## Delivery -/

/-- What delivering a reply leaves behind, where `capacity` bytes of the buffer may be used. A reply that
    fits takes the place of as many bytes at the front, and the rest of the buffer stays; one that is
    longer than the room is not delivered at all. -/
def deliver (buffer : List UInt8) (capacity : Nat) : Option ReplyFrame → Firmware.Handled
  | none => ⟨.discarded, none, buffer⟩
  | some reply =>
    if reply.bytes.length ≤ min capacity buffer.length then
      ⟨.ok, some reply.bytes.length, reply.bytes ++ buffer.drop reply.bytes.length⟩
    else
      ⟨.bufferTooSmall, none, buffer⟩

section Delivery

variable {reply : ReplyFrame} {buffer : List UInt8} {capacity : Nat}

/-- A reply that fits into a whole buffer is put in front of what stays of it. -/
theorem deliver_of_fits (h : reply.bytes.length ≤ buffer.length) :
    deliver buffer buffer.length (some reply) =
      ⟨.ok, some reply.bytes.length, reply.bytes ++ buffer.drop reply.bytes.length⟩ :=
  if_pos (by rwa [Nat.min_self])

/-- A reply that is longer than a whole buffer is not delivered. -/
theorem deliver_of_long (h : buffer.length < reply.bytes.length) :
    deliver buffer buffer.length (some reply) = ⟨.bufferTooSmall, none, buffer⟩ :=
  if_neg (by rw [Nat.min_self]; exact Nat.not_le.mpr h)

/-- What fits is copied over the front of the room, and what lies behind the room is not touched. -/
theorem writeTo_of_fits (h : reply.bytes.length ≤ min capacity buffer.length) :
    ∃ written, reply.writeTo (buffer.take capacity) = .ok (reply.bytes.length, written)
      ∧ written ++ buffer.drop capacity = reply.bytes ++ buffer.drop reply.bytes.length := by
  have hroom : ¬(buffer.take capacity).length < reply.bytes.length := by
    rw [List.length_take]
    exact Nat.not_lt.mpr h
  refine ⟨_, if_neg hroom, ?_⟩
  -- Both ends of the room are behind the reply, so the rest of the buffer is in one piece.
  have hbehind : reply.bytes.length ≤ capacity := h.trans (Nat.min_le_left _ _)
  have hrest : (buffer.take capacity).drop reply.bytes.length ++ buffer.drop capacity
      = buffer.drop reply.bytes.length := by
    rw [List.drop_take, ← Nat.add_sub_cancel' hbehind, ← List.drop_drop, Nat.add_sub_cancel_left,
      List.take_append_drop]
  rw [List.append_assoc, hrest]

/-- What does not fit is refused as too long for the buffer. -/
theorem writeTo_of_long (h : ¬reply.bytes.length ≤ min capacity buffer.length) :
    ∃ error, reply.writeTo (buffer.take capacity) = .error error
      ∧ EntryStatus.ofError error = .bufferTooSmall := by
  have hroom : (buffer.take capacity).length < reply.bytes.length := by
    rw [List.length_take]
    exact Nat.not_le.mp h
  exact ⟨_, if_pos hroom, rfl⟩

end Delivery

namespace Firmware

/-! ## The message entry -/

/-- With an engine, a routine runs on it. -/
theorem run?_ofNode {α : Type} (r : Routine α) (n : Node MappedHardware) :
    (ofNode n).run? r = some ((r.run n).1, ofNode (r.run n).2) := rfl

/-- With an engine, a frame within the buffer is handled and its reply delivered. -/
theorem handleMessage_ofNode (n : Node MappedHardware) {length capacity : Nat}
    (hwithin : length ≤ capacity) (buffer : List UInt8) :
    (ofNode n).handleMessage true true buffer length capacity =
      let handled := (handleFrame (buffer.take length)).run n
      (deliver buffer capacity handled.1, ofNode handled.2) := by
  simp only [handleMessage, Bool.not_true, Bool.or_self, Bool.false_eq_true, if_false,
    if_neg (Nat.not_lt.mpr hwithin), run?_ofNode]
  cases ((handleFrame (buffer.take length)).run n).1 with
  | none => rfl
  | some reply =>
    by_cases hfits : reply.bytes.length ≤ min capacity buffer.length
    · obtain ⟨written, hwrite, hbuffer⟩ := writeTo_of_fits hfits
      simp only [deliver, if_pos hfits, hwrite, hbuffer]
    · obtain ⟨error, hwrite, hstatus⟩ := writeTo_of_long hfits
      simp only [deliver, if_neg hfits, hwrite, hstatus]

/-- A reply was delivered: it stands at the front of the buffer, its length is told, and the firmware is
    that of the node after the frame. -/
structure Delivered (n' : Node MappedHardware) (reply : ReplyFrame) (buffer : List UInt8)
    (r : Handled × Firmware) : Prop where
  front : r.1.buffer.take reply.bytes.length = reply.bytes
  rest : r.1.buffer.drop reply.bytes.length = buffer.drop reply.bytes.length
  replyLength : r.1.replyLength = some reply.bytes.length
  firmware : r.2 = ofNode n'

/-- Nothing was delivered: the buffer, the place for the length, the engine and the board are as they
    were. -/
structure Undelivered (n : Node MappedHardware) (buffer : List UInt8) (r : Handled × Firmware) :
    Prop where
  buffer : r.1.buffer = buffer
  replyLength : r.1.replyLength = none
  engine : r.2.engine = (ofNode n).engine
  board : r.2.board = (ofNode n).board

/-- Without a reply nothing is delivered, nor if the reply is longer than the buffer. -/
theorem undelivered (n : Node MappedHardware) (buffer : List UInt8) (length : Nat)
    (status : EntryStatus)
    (hlong : ∀ reply, ((handleFrame (buffer.take length)).run n).1 = some reply →
      buffer.length < reply.bytes.length) :
    Undelivered n buffer
      (⟨status, none, buffer⟩, ofNode ((handleFrame (buffer.take length)).run n).2) := by
  have hframe : (buffer.take length).length ≤ buffer.length := List.length_take_le' _ _
  obtain ⟨hengine, hhardware⟩ := unaffected_handleFrame (buffer.take length) n fun reply hreply =>
    Nat.lt_of_le_of_lt hframe (hlong reply hreply)
  refine ⟨rfl, rfl, ?_, ?_⟩
  · simp only [ofNode, hengine, hhardware]
  · simp only [ofNode, hhardware]

/-- **A frame is handled in place, and all or nothing.** With an engine in any state and a buffer of any
    contents, the status is decided by the lengths and by the reply to the first `length` bytes. Either
    the reply is delivered and everything has the effect of handling that frame, or the buffer, the
    engine and every register are as they were. -/
theorem message_in_place (n : Node MappedHardware) (buffer : List UInt8) (length : Nat) :
    let handled := (handleFrame (buffer.take length)).run n
    let r := (ofNode n).handleMessage true true buffer length buffer.length
    r.1.status =
        (if length > buffer.length then .bufferTooSmall
        else
          match handled.1 with
          | none => .discarded
          | some reply => if reply.bytes.length > buffer.length then .bufferTooSmall else .ok)
      ∧ (r.1.status = .ok → ∃ reply, handled.1 = some reply ∧ Delivered handled.2 reply buffer r)
      ∧ (r.1.status ≠ .ok → Undelivered n buffer r) := by
  intro handled r
  by_cases houtside : length > buffer.length
  · have hr : r = (⟨.bufferTooSmall, none, buffer⟩, ofNode n) := by simp [r, handleMessage, houtside]
    rw [hr, if_pos houtside]
    exact ⟨rfl, fun hok => EntryStatus.noConfusion hok, fun _ => ⟨rfl, rfl, rfl, rfl⟩⟩
  · have hr : r = (deliver buffer buffer.length handled.1, ofNode handled.2) :=
      handleMessage_ofNode n (Nat.not_lt.mp houtside) buffer
    rw [if_neg houtside, hr]
    cases hreply : handled.1 with
    | none =>
      refine ⟨rfl, fun hok => EntryStatus.noConfusion hok, fun _ => undelivered n buffer length _ ?_⟩
      intro reply hsome
      exact absurd (hsome.symm.trans hreply) (by simp)
    | some reply =>
      by_cases hlong : buffer.length < reply.bytes.length
      · rw [deliver_of_long hlong]
        refine ⟨(if_pos hlong).symm, fun hok => EntryStatus.noConfusion hok, fun _ =>
          undelivered n buffer length _ ?_⟩
        intro reply' hsome
        rwa [← Option.some.inj (hreply.symm.trans hsome)]
      · rw [deliver_of_fits (Nat.not_lt.mp hlong)]
        refine ⟨(if_neg hlong).symm, fun _ => ⟨reply, rfl, ?_⟩, fun hfailed => absurd rfl hfailed⟩
        exact ⟨List.take_left, List.drop_left, rfl, rfl⟩

/-- A request for the status in a buffer of its own length: the report does not fit, and nothing has
    happened. In a larger buffer it is delivered. -/
theorem message_in_place_status :
    let d : Description := ⟨true, true, true, true, true, true, true, true, 200, -1, 0, 0, 0, 0⟩
    let n := Node.fresh (⟨d, Board.zeroed⟩ : MappedHardware) EngineConfig.standard
    let frame := CommandMessage.getStatus.toBytes
    let buffer := frame ++ List.replicate 40 7
    let small := (ofNode n).handleMessage true true frame 24 24
    let large := (ofNode n).handleMessage true true buffer 24 64
    small.1.status = .bufferTooSmall ∧ Undelivered n frame small
      ∧ large.1.status = .ok
      ∧ ∃ n' reply, Delivered n' reply buffer large ∧ reply.bytes.length = 40 := by
  intro d n frame buffer small large
  have hsmall : small.1.status = .bufferTooSmall := by decide
  have hlarge : large.1.status = .ok := by decide
  have hlength : large.1.replyLength = some 40 := by decide
  obtain ⟨-, -, hnothing⟩ := message_in_place n frame 24
  obtain ⟨-, hsomething, -⟩ := message_in_place n buffer 24
  obtain ⟨reply, -, hdelivered⟩ := hsomething hlarge
  have hundelivered : Undelivered n frame small :=
    hnothing fun hok => EntryStatus.noConfusion (hsmall.symm.trans hok)
  refine ⟨hsmall, hundelivered, hlarge, _, reply, hdelivered, ?_⟩
  exact Option.some.inj (hdelivered.replyLength.symm.trans hlength)

end Firmware

end PacketReinjection
