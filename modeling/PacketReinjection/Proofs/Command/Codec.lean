import PacketReinjection.Proofs.Command.FrameTable

/-!
# `Proofs.Command.Codec` — messages and their bytes

Encoding loses nothing of a message, and decoding loses nothing of the first 24 bytes of a byte string.
What cannot be decoded is refused for one of three reasons, and which one it is can be told from the length
and the third byte alone.

## Contents
- **Encoding first.** `peek_encode`, `CommandMessage.decode_toBytes`.
- **Decoding first.** `MessageHeader.encode_read`, `CommandMessage.toBytes_read`.
- **`CommandMessage.decode_cases`** — every byte string falls in one of four classes.
- **`message_codec`**.
-/

namespace PacketReinjection

open LittleEndian

/-! ## Encoding first -/

/-- The envelope of an encoded message, whatever follows the envelope. -/
theorem Envelope.peek_encode (e : Envelope) (rest : List UInt8) :
    peek (e.encode ++ rest) =
      if e.header.destinationPort ≠ 0 then .error (.otherPort e.header.destinationPort) else .ok e := by
  have hheader : MessageHeader.decode (e.encode ++ rest) = .ok e.header := by
    show Except.ok (MessageHeader.mk _ _ _ _ (word16 _ _) (word16 _ _)) = Except.ok e.header
    simp only [word16_bytes16]
  have hcommand : word16At (e.encode ++ rest) 8 = e.command := word16_bytes16 e.command
  have hsequence : word16At (e.encode ++ rest) 10 = e.sequence := word16_bytes16 e.sequence
  simp only [peek, hheader, hcommand, hsequence, bind, Except.bind]
  split <;> rfl

namespace CommandMessage

/-- Behind an envelope only the length is looked at. -/
theorem decode_of_peek {bytes : List UInt8} {envelope : Envelope} (h : Envelope.peek bytes = .ok envelope) :
    decode bytes =
      if bytes.length < 24 then
        .error (.tooShort 24 bytes.length)
      else
        .ok ⟨envelope, word32At bytes 12, word32At bytes 16, word32At bytes 20⟩ := by
  simp only [decode, h, bind, Except.bind]
  show (if bytes.length < 24 then _ else _) = _
  split <;> rfl

theorem decode_of_peek_error {bytes : List UInt8} {error : ControlError}
    (h : Envelope.peek bytes = .error error) : decode bytes = .error error := by
  simp only [decode, h, bind, Except.bind]

/-- The bytes of a message for the control port are read back as the message. -/
theorem decode_toBytes (m : CommandMessage) :
    decode m.toBytes =
      if m.envelope.header.destinationPort ≠ 0 then
        .error (.otherPort m.envelope.header.destinationPort)
      else
        .ok m := by
  have hpeek := m.envelope.peek_encode (bytes32 m.argument₁ ++ bytes32 m.argument₂ ++ bytes32 m.argument₃)
  rw [← List.append_assoc, ← List.append_assoc, ← toBytes] at hpeek
  have hfirst : word32At m.toBytes 12 = m.argument₁ := word32_bytes32 m.argument₁
  have hsecond : word32At m.toBytes 16 = m.argument₂ := word32_bytes32 m.argument₂
  have hthird : word32At m.toBytes 20 = m.argument₃ := word32_bytes32 m.argument₃
  have hlong : ¬m.toBytes.length < 24 := Nat.lt_irrefl 24
  by_cases hport : m.envelope.header.destinationPort ≠ 0
  · rw [if_pos hport] at hpeek ⊢
    exact decode_of_peek_error hpeek
  · rw [if_neg hport] at hpeek ⊢
    rw [decode_of_peek hpeek, if_neg hlong, hfirst, hsecond, hthird]

end CommandMessage

/-! ## Decoding first -/

/-- A full header is written as the eight bytes that it was read from. -/
theorem MessageHeader.encode_read {bytes : List UInt8} (h : 8 ≤ bytes.length) :
    encode
      { flags := bytes.getD 0 0, tag := bytes.getD 1 0, destinationPortCore := bytes.getD 2 0,
        sourcePortCore := bytes.getD 3 0, destinationChip := word16At bytes 4,
        sourceChip := word16At bytes 6 } = slice bytes 0 8 := by
  match bytes with
  | _ :: _ :: _ :: _ :: d₀ :: d₁ :: s₀ :: s₁ :: _ =>
    show _ :: _ :: _ :: _ :: (bytes16 (word16 d₀ d₁) ++ bytes16 (word16 s₀ s₁)) = _
    rw [bytes16_word16, bytes16_word16]
    rfl
  | [] | [_] | [_, _] | [_, _, _] | [_, _, _, _] | [_, _, _, _, _] | [_, _, _, _, _, _]
  | [_, _, _, _, _, _, _] => exact absurd h (by simp)

namespace CommandMessage

/-- The message that stands in the first 24 bytes. -/
def read (bytes : List UInt8) : CommandMessage where
  envelope :=
    { header :=
        { flags := bytes.getD 0 0, tag := bytes.getD 1 0, destinationPortCore := bytes.getD 2 0,
          sourcePortCore := bytes.getD 3 0, destinationChip := word16At bytes 4,
          sourceChip := word16At bytes 6 }
      command := word16At bytes 8
      sequence := word16At bytes 10 }
  argument₁ := word32At bytes 12
  argument₂ := word32At bytes 16
  argument₃ := word32At bytes 20

/-- The message is written as the bytes that it was read from. -/
theorem toBytes_read {bytes : List UInt8} (h : messageLength ≤ bytes.length) :
    (read bytes).toBytes = bytes.take messageLength := by
  have hlength : 24 ≤ bytes.length := h
  have hheader := MessageHeader.encode_read (by omega : 8 ≤ bytes.length)
  have hcommand : bytes16 (word16At bytes 8) = slice bytes 8 2 := by
    rw [bytes16_word16At, if_pos (by omega)]
  have hsequence : bytes16 (word16At bytes 10) = slice bytes 10 2 := by
    rw [bytes16_word16At, if_pos (by omega)]
  calc (read bytes).toBytes
      = slice bytes 0 8 ++ slice bytes 8 2 ++ slice bytes 10 2 ++ slice bytes 12 4 ++ slice bytes 16 4
          ++ slice bytes 20 4 := by
        rw [toBytes, Envelope.encode]
        simp only [read, hheader, hcommand, hsequence]
        rw [bytes32_word32At (by omega), bytes32_word32At (by omega), bytes32_word32At (by omega)]
    _ = slice bytes 0 24 := by
        rw [slice_append_slice bytes 0 8 2, slice_append_slice bytes 0 10 2,
          slice_append_slice bytes 0 12 4, slice_append_slice bytes 0 16 4,
          slice_append_slice bytes 0 20 4]
    _ = bytes.take messageLength := rfl

/-- **Every byte string falls in one of four classes**: it ends within the header; its header is complete and
    for another port; it is for the control port and ends within the message; or it starts with a message. -/
theorem decode_cases (bytes : List UInt8) :
    (bytes.length < 8 ∧ decode bytes = .error (.truncated bytes.length))
      ∨ (8 ≤ bytes.length ∧ bytes.getD 2 0 >>> 5 ≠ 0
          ∧ decode bytes = .error (.otherPort (bytes.getD 2 0 >>> 5)))
      ∨ (8 ≤ bytes.length ∧ bytes.getD 2 0 >>> 5 = 0 ∧ bytes.length < 24
          ∧ decode bytes = .error (.tooShort 24 bytes.length))
      ∨ (24 ≤ bytes.length ∧ bytes.getD 2 0 >>> 5 = 0 ∧ decode bytes = .ok (read bytes)) := by
  by_cases hheader : bytes.length < 8
  · exact .inl ⟨hheader, decode_of_peek_error (Envelope.peek_of_lt hheader)⟩
  · have hpeek := Envelope.peek_of_le (Nat.not_lt.mp hheader)
    by_cases hport : bytes.getD 2 0 >>> 5 = 0
    · rw [if_neg (not_not_intro hport)] at hpeek
      by_cases hshort : bytes.length < 24
      · exact .inr (.inr (.inl ⟨by omega, hport, hshort, by rw [decode_of_peek hpeek, if_pos hshort]⟩))
      · exact .inr (.inr (.inr ⟨by omega, hport, by rw [decode_of_peek hpeek, if_neg hshort]; rfl⟩))
    · rw [if_pos hport] at hpeek
      exact .inr (.inl ⟨by omega, hport, decode_of_peek_error hpeek⟩)

end CommandMessage

/-- A frame is made of a byte string that is not too long, and of no other. -/
theorem CommandFrame.ofBytes_cases (bytes : List UInt8) :
    (bytes.length ≤ 280 ∧ ∃ f, ofBytes bytes = .ok f ∧ f.bytes = bytes)
      ∨ (280 < bytes.length ∧ ofBytes bytes = .error (.bufferTooSmall bytes.length 280)) := by
  by_cases hfits : bytes.length ≤ 280
  · exact .inl ⟨hfits, ⟨bytes, hfits⟩, dif_pos hfits, rfl⟩
  · exact .inr ⟨Nat.not_le.mp hfits, dif_neg hfits⟩

open CommandMessage in
/-- **The codec of messages.** A message has 24 bytes, which are read back as the message exactly if its
    port is the control port, and as that other port otherwise. A byte string is refused as truncated,
    as one for another port, or as too short, and otherwise gives the message that its first 24 bytes
    encode; each of the four happens exactly under its own condition. A frame is made of any byte string of
    280 bytes at most, and holds it. -/
theorem message_codec :
    (∀ m : CommandMessage, m.encode.bytes.length = 24
      ∧ (decode m.encode.bytes = .ok m ↔ m.envelope.header.destinationPortCore >>> 5 = 0)
      ∧ (decode m.encode.bytes = .error (.otherPort (m.envelope.header.destinationPortCore >>> 5))
          ↔ m.envelope.header.destinationPortCore >>> 5 ≠ 0)
      ∧ CommandFrame.ofBytes m.encode.bytes = .ok m.encode)
    ∧ ∀ bytes : List UInt8,
      (decode bytes = .error (.truncated bytes.length) ↔ bytes.length < 8)
      ∧ (decode bytes = .error (.otherPort (bytes.getD 2 0 >>> 5))
          ↔ 8 ≤ bytes.length ∧ bytes.getD 2 0 >>> 5 ≠ 0)
      ∧ (decode bytes = .error (.tooShort 24 bytes.length)
          ↔ 8 ≤ bytes.length ∧ bytes.getD 2 0 >>> 5 = 0 ∧ bytes.length < 24)
      ∧ ((∃ m, decode bytes = .ok m ∧ m.encode.bytes = bytes.take 24)
          ↔ 24 ≤ bytes.length ∧ bytes.getD 2 0 >>> 5 = 0)
      ∧ ((∃ f, CommandFrame.ofBytes bytes = .ok f ∧ f.bytes = bytes) ↔ bytes.length ≤ 280)
      ∧ ((∃ error, CommandFrame.ofBytes bytes = .error error) ↔ 280 < bytes.length) := by
  refine ⟨fun m => ?_, fun bytes => ?_⟩
  · have hdecode := m.decode_toBytes
    rw [MessageHeader.destinationPort_eq] at hdecode
    refine ⟨rfl, ?_, ?_, dif_pos _⟩
    all_goals
      show decode m.toBytes = _ ↔ _
      rw [hdecode]
      split <;> simp_all
  · have hread (h : 24 ≤ bytes.length) : (read bytes).encode.bytes = bytes.take 24 := toBytes_read h
    have hframe := CommandFrame.ofBytes_cases bytes
    -- In each class one of the four answers is given, and the other three conditions fail.
    rcases decode_cases bytes with ⟨hlength, hanswer⟩ | ⟨hlength, hport, hanswer⟩
      | ⟨hlength, hport, hshort, hanswer⟩ | ⟨hlength, hport, hanswer⟩
    all_goals
      rw [hanswer]
      refine ⟨?_, ?_, ?_, ?_, ?_, ?_⟩ <;> grind

end PacketReinjection
