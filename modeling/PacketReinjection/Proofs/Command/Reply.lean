import PacketReinjection.Command.Reply
import PacketReinjection.Proofs.LittleEndian

/-!
# `Proofs.Command.Reply` — what is read from a reply is what was put into it

## Contents
- **`bytes_ofVerdict`**, **`length_ofVerdict`** — the bytes of a reply: the envelope, and the words of a
  report if the verdict brings one.
- **`header_ofVerdict`**, **`sequence_ofVerdict`**, **`resultCode_ofVerdict`**, **`payload_ofVerdict`**,
  **`status_ofVerdict`** — envelope and verdict read back.
-/

namespace PacketReinjection

open LittleEndian

/-- The words that a verdict is sent with. -/
def CommandReply.payload : CommandReply → List UInt32
  | .status report => report.words
  | .accepted | .refused _ => []

namespace ReplyFrame

variable (request : Envelope) (verdict : CommandReply)

theorem ofVerdict_eq : ofVerdict request verdict = build request verdict.resultCode verdict.payload := by
  cases verdict <;> rfl

/-- The request's header with source and destination exchanged, the result code, the request's sequence
    number, and the payload. -/
theorem bytes_ofVerdict :
    (ofVerdict request verdict).bytes
      = [request.header.flags, request.header.tag, request.header.sourcePortCore,
          request.header.destinationPortCore]
        ++ bytes16 request.header.sourceChip ++ bytes16 request.header.destinationChip
        ++ bytes16 verdict.resultCode.word ++ bytes16 request.sequence
        ++ verdict.payload.flatMap bytes32 := by
  rw [ofVerdict_eq]
  rfl

/-- A reply has an envelope, and four bytes for each word of its payload. -/
theorem length_ofVerdict :
    (ofVerdict request verdict).bytes.length = envelopeLength + 4 * verdict.payload.length := by
  have hwords (words : List UInt32) : (words.flatMap bytes32).length = 4 * words.length := by
    induction words with
    | nil => rfl
    | cons word words ih =>
      rw [List.flatMap_cons, List.length_append, ih, List.length_cons, Nat.mul_succ, Nat.add_comm]
      rfl
  rw [bytes_ofVerdict, List.length_append, hwords]
  rfl

/-- A reply shows the header of its request with source and destination exchanged. -/
theorem header_ofVerdict : (ofVerdict request verdict).header = request.header.swapped := by
  rw [ofVerdict_eq]
  show MessageHeader.mk _ _ _ _ (word16 _ _) (word16 _ _) = request.header.swapped
  rw [word16_bytes16, word16_bytes16]
  rfl

/-- A reply shows the sequence number of its request. -/
theorem sequence_ofVerdict : (ofVerdict request verdict).sequence = request.sequence := by
  rw [ofVerdict_eq]
  exact word16_bytes16 request.sequence

/-- Behind the envelope stand the words of the verdict. -/
theorem payload_ofVerdict :
    (ofVerdict request verdict).payload = verdict.payload.flatMap bytes32 := by
  rw [ofVerdict_eq]
  rfl

/-- **A reply shows the result code of its verdict.** -/
theorem resultCode_ofVerdict : (ofVerdict request verdict).resultCode = some verdict.resultCode := by
  rw [ofVerdict_eq]
  show ResultCode.ofWord? (word16 verdict.resultCode.word.toUInt8 (verdict.resultCode.word >>> 8).toUInt8)
    = some verdict.resultCode
  rw [word16_bytes16, ResultCode.ofWord?_word]

end ReplyFrame

/-- The words of a report are read back as the report, whatever follows them. -/
theorem StatusReport.decode_words_append (report : StatusReport) (rest : List UInt8) :
    decode (report.words.flatMap bytes32 ++ rest) = .ok report := by
  have hlong : ¬(report.words.flatMap bytes32 ++ rest).length < statusWords * 4 := by
    simp [words, bytes32, statusWords]
  rw [decode, if_neg hlong]
  show Except.ok (StatusReport.mk (word32 _ _ _ _) (word32 _ _ _ _) (word32 _ _ _ _) (word32 _ _ _ _)
    (word32 _ _ _ _) (word32 _ _ _ _) (word32 _ _ _ _)) = Except.ok report
  simp only [word32_bytes32]

/-- **A reply shows the report of its verdict.** -/
theorem ReplyFrame.status_ofVerdict (request : Envelope) (report : StatusReport) :
    (ofVerdict request (.status report)).status = .ok report := by
  have hwords := report.decode_words_append []
  rwa [List.append_nil] at hwords

end PacketReinjection
