import Mathlib.Tactic.ByContra
import Mathlib.Tactic.IntervalCases
import PacketReinjection.Proofs.Command.Decision
import PacketReinjection.Proofs.Command.Reply
import PacketReinjection.Proofs.Router.WaitField
import PacketReinjection.Simulation.Hardware

/-!
# `Proofs.Command.FrameTable` — the reply to every byte string

What a running engine answers is a table over the bytes of the frame: whether there is a reply at all,
its twelve bytes of envelope, and the status words behind them. The table is written in numbers, with
none of the decoder's own types in it, and the frame handler is shown to follow it.

## Contents
- **The table.** `Unanswered`, `code`, `AsksStatus`, `replyHead`, `classBits`, `statusWords`.
- **Reading.** `MessageHeader.decode_of_le`, `Envelope.peek_of_le`, `FrameTable.peek_error_iff`.
- **Deciding.** `CommandMessage.decision_cases`, and over bytes `frameDecision_cases`.
- **Further data.** `handleFrame_take`: what follows a complete message is never looked at.
- **`handleFrame_table`**.
-/

namespace PacketReinjection

open LittleEndian
open Router (WaitField)

/-! ## The table -/

namespace FrameTable

/-- A frame without a reply: it ends within its header, or it is for another port. -/
def Unanswered (bytes : List UInt8) : Prop := bytes.length < 8 ∨ bytes.getD 2 0 >>> 5 ≠ 0

/-- No request has the code, or it is a wait field's and the value has more than eight bits. -/
def BadArgument (code value : Nat) : Prop := 5 < code ∨ code ≤ 1 ∧ 255 < value

instance (code value : Nat) : Decidable (BadArgument code value) :=
  inferInstanceAs (Decidable (5 < code ∨ code ≤ 1 ∧ 255 < value))

/-- The result code of the reply. -/
def code (bytes : List UInt8) : UInt16 :=
  if bytes.length < 24 then 0x81
  else if field bytes 8 2 ≠ 30 then 0x83
  else if BadArgument (field bytes 12 4) (field bytes 16 4) then 0x84
  else 0x80

/-- The frame asks for the status, and nothing is wrong with it. -/
def AsksStatus (bytes : List UInt8) : Prop := code bytes = 0x80 ∧ field bytes 12 4 = 3

instance (bytes : List UInt8) : Decidable (AsksStatus bytes) :=
  inferInstanceAs (Decidable (code bytes = 0x80 ∧ field bytes 12 4 = 3))

/-- The first twelve bytes of the reply: ports and chips change places, and a sequence number that the
    end of the frame cuts off is zero. -/
def replyHead (bytes : List UInt8) : List UInt8 :=
  [bytes.getD 0 0, bytes.getD 1 0, bytes.getD 3 0, bytes.getD 2 0]
    ++ slice bytes 6 2 ++ slice bytes 4 2 ++ bytes16 (code bytes)
    ++ if 12 ≤ bytes.length then slice bytes 10 2 else [0, 0]

/-- The four flags of a filter as the low bits of a word. -/
def classBits (f : ClassFilter) : UInt32 :=
  (if f.multicast then 1 else 0) + (if f.pointToPoint then 2 else 0)
    + (if f.nearestNeighbour then 4 else 0) + if f.fixedRoute then 8 else 0

/-- The words of a status reply, given the control word as it was read for each wait field: bits 16 to
    23 of the first one, bits 24 to 31 of the second, the four counters and the flags. -/
def statusWords (first second : UInt32) (e : Engine) : List UInt32 :=
  [first >>> 16 &&& 0xff, second >>> 24, e.statistics.dropped, e.statistics.missedDropped,
    e.statistics.queueOverflows, e.statistics.reinjected, classBits e.filter]

/-- A reply that follows the table, where the handler made the given calls. -/
structure Follows (e : Engine) (bytes : List UInt8) (calls : List RecordedCall) (reply : ReplyFrame) :
    Prop where
  length : reply.bytes.length = if AsksStatus bytes then 40 else 12
  plain : ¬AsksStatus bytes → reply.bytes = replyHead bytes
  status : AsksStatus bytes → ∃ first second, calls = [controlRead first, controlRead second]
    ∧ reply.bytes = replyHead bytes ++ (statusWords first second e).flatMap bytes32

theorem length_replyHead {bytes : List UInt8} (h : 8 ≤ bytes.length) :
    (replyHead bytes).length = 12 := by
  have hsequence : (if 12 ≤ bytes.length then slice bytes 10 2 else [0, 0]).length = 2 := by
    split
    · exact length_slice (by omega)
    · rfl
  simp only [replyHead, List.length_append, hsequence, length_bytes16,
    length_slice (by omega : 6 + 2 ≤ bytes.length), length_slice (by omega : 4 + 2 ≤ bytes.length)]
  rfl

end FrameTable

/-! ## Reading -/

/-- A full header is read byte by byte. -/
theorem MessageHeader.decode_of_le {bytes : List UInt8} (h : 8 ≤ bytes.length) :
    decode bytes = .ok
      { flags := bytes.getD 0 0, tag := bytes.getD 1 0, destinationPortCore := bytes.getD 2 0,
        sourcePortCore := bytes.getD 3 0, destinationChip := word16At bytes 4,
        sourceChip := word16At bytes 6 } := by
  match bytes with
  | _ :: _ :: _ :: _ :: _ :: _ :: _ :: _ :: _ => rfl
  | [] | [_] | [_, _] | [_, _, _] | [_, _, _, _] | [_, _, _, _, _] | [_, _, _, _, _, _]
  | [_, _, _, _, _, _, _] => exact absurd h (by simp)

theorem MessageHeader.decode_of_lt {bytes : List UInt8} (h : bytes.length < 8) :
    decode bytes = .error (.truncated bytes.length) := by
  match bytes with
  | _ :: _ :: _ :: _ :: _ :: _ :: _ :: _ :: _ => exact absurd h (by simp)
  | [] | [_] | [_, _] | [_, _, _] | [_, _, _, _] | [_, _, _, _, _] | [_, _, _, _, _, _]
  | [_, _, _, _, _, _, _] => rfl

/-- The port is the high three bits of its byte. -/
theorem MessageHeader.destinationPort_eq (header : MessageHeader) :
    header.destinationPort = header.destinationPortCore >>> 5 := by
  apply UInt8.toBitVec_inj.mp
  apply BitVec.eq_of_getLsbD_eq
  intro i hi
  interval_cases i <;> simp [destinationPort]

/-- The envelope of a frame with a full header. -/
theorem Envelope.peek_of_le {bytes : List UInt8} (h : 8 ≤ bytes.length) :
    peek bytes =
      if bytes.getD 2 0 >>> 5 ≠ 0 then
        .error (.otherPort (bytes.getD 2 0 >>> 5))
      else
        .ok { header :=
                { flags := bytes.getD 0 0, tag := bytes.getD 1 0,
                  destinationPortCore := bytes.getD 2 0, sourcePortCore := bytes.getD 3 0,
                  destinationChip := word16At bytes 4, sourceChip := word16At bytes 6 }
              command := word16At bytes 8
              sequence := word16At bytes 10 } := by
  simp only [peek, MessageHeader.decode_of_le h, MessageHeader.destinationPort_eq, bind, Except.bind]
  split <;> rfl

theorem Envelope.peek_of_lt {bytes : List UInt8} (h : bytes.length < 8) :
    peek bytes = .error (.truncated bytes.length) := by
  simp only [peek, MessageHeader.decode_of_lt h, bind, Except.bind]

/-- A frame with an envelope has a full header. -/
theorem Envelope.length_of_peek {bytes : List UInt8} {envelope : Envelope}
    (hpeek : peek bytes = .ok envelope) : 8 ≤ bytes.length := by
  by_contra hshort
  rw [peek_of_lt (by omega)] at hpeek
  cases hpeek

/-- **Which frames have no envelope.** -/
theorem FrameTable.peek_error_iff (bytes : List UInt8) :
    (∃ error, Envelope.peek bytes = .error error) ↔ Unanswered bytes := by
  by_cases hshort : bytes.length < 8
  · exact ⟨fun _ => .inl hshort, fun _ => ⟨_, Envelope.peek_of_lt hshort⟩⟩
  · rw [Envelope.peek_of_le (by omega), Unanswered]
    split
    · rename_i hport
      exact ⟨fun _ => .inr hport, fun _ => ⟨_, rfl⟩⟩
    · rename_i hport
      constructor
      · rintro ⟨error, herror⟩
        cases herror
      · exact fun hbad => absurd hbad (not_or.mpr ⟨hshort, hport⟩)

/-- The envelope of the reply is the head of the table. -/
theorem FrameTable.bytes_envelope {bytes : List UInt8} {envelope : Envelope}
    (hpeek : Envelope.peek bytes = .ok envelope) (verdict : CommandReply)
    (hcode : verdict.resultCode.word = code bytes) :
    (ReplyFrame.ofVerdict envelope verdict).bytes
      = replyHead bytes ++ verdict.payload.flatMap bytes32 := by
  have hlength := Envelope.length_of_peek hpeek
  rw [Envelope.peek_of_le hlength] at hpeek
  split at hpeek
  · cases hpeek
  · injection hpeek with henvelope
    have hdestination : bytes16 (word16At bytes 4) = slice bytes 4 2 := by
      rw [bytes16_word16At, if_pos (by omega)]
    have hsource : bytes16 (word16At bytes 6) = slice bytes 6 2 := by
      rw [bytes16_word16At, if_pos (by omega)]
    rw [ReplyFrame.bytes_ofVerdict, ← henvelope, hcode, replyHead]
    simp only [hdestination, hsource, bytes16_word16At]

/-! ## Deciding -/

/-- A code names a request exactly if it is not above the largest one. -/
theorem SubCommand.ofCode?_cases (c : UInt32) :
    (5 < c.toNat ∧ ofCode? c = none) ∨ ∃ sub : SubCommand, sub.code = c ∧ ofCode? c = some sub := by
  unfold ofCode?
  split
  · exact .inr ⟨.setTimeout, rfl, rfl⟩
  · exact .inr ⟨.setEmergencyTimeout, rfl, rfl⟩
  · exact .inr ⟨.setPacketClasses, rfl, rfl⟩
  · exact .inr ⟨.getStatus, rfl, rfl⟩
  · exact .inr ⟨.resetCounters, rfl, rfl⟩
  · exact .inr ⟨.exit, rfl, rfl⟩
  · rename_i h₀ h₁ h₂ h₃ h₄ h₅
    left
    refine ⟨?_, rfl⟩
    by_contra hsmall
    have hle : c.toNat ≤ 5 := by omega
    interval_cases hc : c.toNat
    · exact h₀ (UInt32.toNat_inj.mp hc)
    · exact h₁ (UInt32.toNat_inj.mp hc)
    · exact h₂ (UInt32.toNat_inj.mp hc)
    · exact h₃ (UInt32.toNat_inj.mp hc)
    · exact h₄ (UInt32.toNat_inj.mp hc)
    · exact h₅ (UInt32.toNat_inj.mp hc)

/-- A request is refused for its value exactly if the table says so. -/
theorem SubCommand.refusal?_eq (sub : SubCommand) (value : UInt32) :
    sub.refusal? value =
      if FrameTable.BadArgument sub.code.toNat value.toNat then
        some (.argumentOutOfRange value WaitField.maxValue)
      else
        none := by
  have hlarge : value > WaitField.maxValue ↔ 255 < value.toNat := UInt32.lt_iff_toNat_lt
  cases sub <;> simp [FrameTable.BadArgument, refusal?, code, hlarge]

/-- **What becomes of a complete message**, in numbers. -/
theorem CommandMessage.decision_cases (m : CommandMessage) :
    (m.envelope.command.toNat ≠ 30
        ∧ ∃ error, m.decision = .refuse error ∧ error.resultCode = .command)
      ∨ (m.envelope.command.toNat = 30
        ∧ FrameTable.BadArgument m.argument₁.toNat m.argument₂.toNat
        ∧ ∃ error, m.decision = .refuse error ∧ error.resultCode = .argument)
      ∨ (m.envelope.command.toNat = 30
        ∧ ¬FrameTable.BadArgument m.argument₁.toNat m.argument₂.toNat
        ∧ ∃ sub : SubCommand, sub.code = m.argument₁ ∧ m.decision = .carryOut sub m.argument₂) := by
  unfold decision
  by_cases hcommand : m.envelope.command = reinjectionCommand
  · right
    have hnumber : m.envelope.command.toNat = 30 := congrArg UInt16.toNat hcommand
    rw [if_neg (not_not_intro hcommand)]
    obtain ⟨habove, hnone⟩ | ⟨sub, hcode, hsome⟩ := SubCommand.ofCode?_cases m.argument₁
    · rw [hnone]
      exact .inl ⟨hnumber, .inl habove, _, rfl, rfl⟩
    · rw [hsome, ← hcode]
      by_cases hbad : FrameTable.BadArgument sub.code.toNat m.argument₂.toNat
      · left
        refine ⟨hnumber, hbad, .argumentOutOfRange m.argument₂ WaitField.maxValue, ?_, rfl⟩
        simp only [SubCommand.decision, sub.refusal?_eq, if_pos hbad]
      · right
        refine ⟨hnumber, hbad, sub, rfl, ?_⟩
        simp only [SubCommand.decision, sub.refusal?_eq, if_neg hbad]
  · left
    rw [if_pos hcommand]
    exact ⟨fun hnumber => hcommand (UInt16.toNat_inj.mp hnumber), _, rfl, rfl⟩

theorem CommandMessage.decode_of_lt {bytes : List UInt8} {envelope : Envelope}
    (hpeek : Envelope.peek bytes = .ok envelope) (h : bytes.length < 24) :
    decode bytes = .error (.tooShort messageLength bytes.length) := by
  simp only [decode, hpeek, bind, Except.bind]
  exact if_pos h

/-- A complete message is the envelope and three words. -/
theorem CommandMessage.decode_of_le {bytes : List UInt8} {envelope : Envelope}
    (hpeek : Envelope.peek bytes = .ok envelope) (h : 24 ≤ bytes.length) :
    decode bytes = .ok { envelope, argument₁ := word32At bytes 12, argument₂ := word32At bytes 16,
                         argument₃ := word32At bytes 20 } := by
  have hcomplete : ¬bytes.length < messageLength := Nat.not_lt.mpr h
  simp only [decode, hpeek, bind, Except.bind, if_neg hcomplete]
  rfl

theorem Envelope.command_of_peek {bytes : List UInt8} {envelope : Envelope}
    (hpeek : peek bytes = .ok envelope) : envelope.command = word16At bytes 8 := by
  simp only [peek, bind, Except.bind] at hpeek
  split at hpeek
  · cases hpeek
  · split at hpeek
    · cases hpeek
    · injection hpeek with henvelope
      rw [← henvelope]

/-- **What becomes of a frame that a reply can be addressed for**, read off its bytes. -/
theorem frameDecision_cases {bytes : List UInt8} {envelope : Envelope}
    (hpeek : Envelope.peek bytes = .ok envelope) :
    (FrameTable.code bytes ≠ 0x80
        ∧ ∃ error, frameDecision bytes = .refuse error
          ∧ error.resultCode.word = FrameTable.code bytes)
      ∨ (FrameTable.code bytes = 0x80
        ∧ ∃ sub : SubCommand, sub.code.toNat = field bytes 12 4
          ∧ frameDecision bytes = .carryOut sub (word32At bytes 16)) := by
  by_cases hshort : bytes.length < 24
  · have hcode : FrameTable.code bytes = 0x81 := if_pos hshort
    left
    rw [hcode, frameDecision, CommandMessage.decode_of_lt hpeek hshort]
    exact ⟨by decide, _, rfl, rfl⟩
  · have hcommand : (word16At bytes 8).toNat = field bytes 8 2 := toNat_word16At (by omega)
    have hargument : (word32At bytes 12).toNat = field bytes 12 4 := toNat_word32At (by omega)
    have hvalue : (word32At bytes 16).toNat = field bytes 16 4 := toNat_word32At (by omega)
    rw [frameDecision, CommandMessage.decode_of_le hpeek (by omega), FrameTable.code, if_neg hshort,
      ← hcommand, ← hargument, ← hvalue, ← Envelope.command_of_peek hpeek]
    simp only
    obtain ⟨hother, error, hrefused, hcode⟩ | ⟨hours, hbad, error, hrefused, hcode⟩
      | ⟨hours, hgood, sub, hsub, hcarried⟩ := CommandMessage.decision_cases
        ⟨envelope, word32At bytes 12, word32At bytes 16, word32At bytes 20⟩
    · left
      rw [if_pos hother]
      exact ⟨by decide, error, hrefused, congrArg ResultCode.word hcode⟩
    · left
      rw [if_neg (not_not_intro hours), if_pos hbad]
      exact ⟨by decide, error, hrefused, congrArg ResultCode.word hcode⟩
    · right
      rw [if_neg (not_not_intro hours), if_neg hgood]
      exact ⟨rfl, sub, congrArg UInt32.toNat hsub, hcarried⟩

/-! ## Replies -/

/-- The class mask of a filter is the word of its flags. -/
theorem FrameTable.mask_eq (f : ClassFilter) : f.mask = classBits f := by
  obtain ⟨multicast, pointToPoint, nearestNeighbour, fixedRoute⟩ := f
  revert multicast pointToPoint nearestNeighbour fixedRoute
  decide

/-- The words of a report are those of the table. -/
theorem FrameTable.words_ofReadings (first second : UInt32) (e : Engine) :
    (StatusReport.ofReadings (WaitField.primary.extract first) (WaitField.emergency.extract second)
      e.statistics e.filter.mask).words = statusWords first second e := by
  have hprimary : (WaitField.primary.extract first).toUInt32 = first >>> 16 &&& 0xff :=
    WaitField.primary.toUInt32_extract first
  have hemergency : (WaitField.emergency.extract second).toUInt32 = second >>> 24 :=
    (WaitField.emergency.toUInt32_extract second).trans (WaitField.shiftRight_emergency second)
  rw [StatusReport.words, StatusReport.ofReadings, hprimary, hemergency, mask_eq]
  rfl

/-- The code of get-status is the only one with a report. -/
theorem SubCommand.code_eq_three_iff (sub : SubCommand) : sub.code.toNat = 3 ↔ sub = .getStatus := by
  cases sub <;> simp [code]

section Replies

variable {S : Type} [Platform S]

open FrameTable

/-- **Every reply follows the table.** -/
theorem FrameTable.follows_ofVerdict {bytes : List UInt8} {envelope : Envelope}
    (hpeek : Envelope.peek bytes = .ok envelope) (n : Node S) :
    Follows n.engine bytes ((frameDecision bytes).calls n.hardware)
      (ReplyFrame.ofVerdict envelope ((frameDecision bytes).verdict n)) := by
  have hlength : (replyHead bytes).length = 12 := length_replyHead (Envelope.length_of_peek hpeek)
  -- Without a payload the head is all there is.
  have hplain (verdict : CommandReply) (hcode : verdict.resultCode.word = code bytes)
      (hpayload : verdict.payload = []) (hasks : ¬AsksStatus bytes) (calls : List RecordedCall) :
      Follows n.engine bytes calls (ReplyFrame.ofVerdict envelope verdict) := by
    have hbytes := bytes_envelope hpeek verdict hcode
    rw [hpayload, List.flatMap_nil, List.append_nil] at hbytes
    exact ⟨by rw [hbytes, hlength, if_neg hasks], fun _ => hbytes, fun h => absurd h hasks⟩
  obtain ⟨hfailed, error, hrefused, hcode⟩ | ⟨hok, sub, hsub, hcarried⟩ := frameDecision_cases hpeek
  · rw [hrefused]
    exact hplain (.refused error) hcode rfl (fun h => hfailed h.1) _
  · rw [hcarried]
    by_cases hstatus : sub = .getStatus
    · have hasks : AsksStatus bytes := ⟨hok, by rw [← hsub, hstatus]; rfl⟩
      have hbytes := bytes_envelope hpeek (.status (presentStatus n)) hok.symm
      rw [CommandReply.payload, presentStatus, words_ofReadings] at hbytes
      rw [hstatus]
      refine ⟨?_, fun h => absurd hasks h, fun _ => ⟨_, _, rfl, hbytes⟩⟩
      rw [if_pos hasks]
      refine (congrArg List.length hbytes).trans ?_
      rw [List.length_append, hlength]
      rfl
    · have hasks : ¬AsksStatus bytes := fun h =>
        hstatus (sub.code_eq_three_iff.mp (hsub.trans h.2))
      cases sub with
      | getStatus => exact absurd rfl hstatus
      | _ => exact hplain .accepted hok.symm rfl hasks _

/-! ## Further data -/

/-- **What follows a complete message is never looked at**, step by step. -/
theorem handleFrame_take {bytes : List UInt8} (h : 24 ≤ bytes.length) :
    handleFrame (bytes.take 24) = handleFrame bytes := by
  have hlength : (bytes.take 24).length = 24 := by rw [List.length_take, Nat.min_eq_left h]
  have hbyte (i : Nat) (hi : i < 24) : (bytes.take 24).getD i 0 = bytes.getD i 0 := by
    simp [List.getD_eq_getElem?_getD, hi]
  have hpeek : Envelope.peek (bytes.take 24) = Envelope.peek bytes := by
    rw [Envelope.peek_of_le (by omega), Envelope.peek_of_le (by omega), hbyte 0 (by decide),
      hbyte 1 (by decide), hbyte 2 (by decide), hbyte 3 (by decide), word16At_take (by decide) h,
      word16At_take (by decide) h, word16At_take (by decide) h, word16At_take (by decide) h]
  have hdecode : CommandMessage.decode (bytes.take 24) = CommandMessage.decode bytes := by
    cases henvelope : Envelope.peek bytes with
    | error error => simp only [CommandMessage.decode, hpeek, henvelope, bind, Except.bind]
    | ok envelope =>
      rw [CommandMessage.decode_of_le henvelope h,
        CommandMessage.decode_of_le (hpeek.trans henvelope) hlength.ge, word32At_take (by decide) h,
        word32At_take (by decide) h, word32At_take (by decide) h]
  simp only [handleFrame, handleAddressed, hpeek, hdecode]

/-! ## The whole table -/

/-- **The reply to every byte string.** A running engine on any hardware leaves exactly the frames of
    the table unanswered, every reply follows the table, and of a complete message only the first 24
    bytes count, for the reply and for every step that leads to it. -/
theorem handleFrame_table (n : Node S) (hrunning : n.engine.running = true) (bytes : List UInt8) :
    (((handleFrame bytes).run n).1 = none ↔ Unanswered bytes)
      ∧ (∀ reply, ((handleFrame bytes).run n).1 = some reply →
        Follows n.engine bytes (callsOf ((handleFrame bytes).trace n)) reply)
      ∧ (24 ≤ bytes.length → ∀ bytes' : List UInt8, bytes'.take 24 = bytes.take 24 →
        handleFrame bytes' = handleFrame bytes) := by
  refine ⟨?_, ?_, fun hlong bytes' hsame => ?_⟩
  · rw [← peek_error_iff]
    obtain ⟨hdropped, hnone, -, -⟩ | ⟨envelope, -, hpeek, hsome, -, -⟩ := handleFrame_cases bytes n
    · rcases hdropped with hstopped | hpeek
      · exact absurd hrunning (by simp [hstopped])
      · exact ⟨fun _ => hpeek, fun _ => hnone⟩
    · rw [hsome, hpeek]
      constructor
      · intro h
        cases h
      · rintro ⟨error, h⟩
        cases h
  · intro reply hreply
    obtain ⟨-, hnone, -, -⟩ | ⟨envelope, -, hpeek, hsome, hcalls, -⟩ := handleFrame_cases bytes n
    · exact absurd (hnone.symm.trans hreply) (by simp)
    · rw [hcalls, ← Option.some.inj (hsome.symm.trans hreply)]
      exact follows_ofVerdict hpeek n
  · have hlong' : 24 ≤ bytes'.length := by
      have hlength := congrArg List.length hsame
      simp only [List.length_take] at hlength
      omega
    rw [← handleFrame_take hlong', hsame, handleFrame_take hlong]

end Replies

/-- A request for the status gets a reply with a report of wait fields, counters and filter, a frame that
    ends within its header none. -/
theorem handleFrame_table_status_and_stub :
    let n : Node Simulation :=
      { Node.fresh { Simulation.fresh with routerControl := 0x5a4f1234 } EngineConfig.standard with
        engine := { Engine.fresh { EngineConfig.standard with classMask := 0xd } with
          statistics := ⟨0x01020304, 5, 6, 0xfffffffe⟩ } }
    n.engine.running = true
      ∧ (∃ reply, ((handleFrame CommandMessage.getStatus.toBytes).run n).1 = some reply
        ∧ reply.bytes.length = 40
        ∧ reply.bytes.drop 12 = [0x4f, 0, 0, 0, 0x5a, 0, 0, 0, 4, 3, 2, 1, 5, 0, 0, 0, 6, 0, 0, 0,
          0xfe, 0xff, 0xff, 0xff, 0xd, 0, 0, 0])
      ∧ ((handleFrame [7, 0xff, 1]).run n).1 = none := by
  intro n
  have hrunning : n.engine.running = true := rfl
  obtain ⟨hanswered, hfollows, -⟩ := handleFrame_table n hrunning CommandMessage.getStatus.toBytes
  obtain ⟨reply, hreply⟩ := Option.ne_none_iff_exists'.mp
    (mt hanswered.mp (by simp only [FrameTable.Unanswered]; decide))
  have hasks : FrameTable.AsksStatus CommandMessage.getStatus.toBytes := by decide
  have hcalls : callsOf ((handleFrame CommandMessage.getStatus.toBytes).trace n)
      = [controlRead 0x5a4f1234, controlRead 0x5a4f1234] := rfl
  refine ⟨hrunning, ⟨reply, hreply, ?_, ?_⟩, ?_⟩
  · rw [(hfollows reply hreply).length, if_pos hasks]
  · obtain ⟨first, second, hread, hbytes⟩ := (hfollows reply hreply).status hasks
    obtain ⟨rfl, rfl⟩ : 0x5a4f1234 = first ∧ 0x5a4f1234 = second := by
      simpa [controlRead] using hcalls.symm.trans hread
    rw [hbytes]
    decide
  · exact (handleFrame_table n hrunning [7, 0xff, 1]).1.mpr (.inl (by decide))

end PacketReinjection
