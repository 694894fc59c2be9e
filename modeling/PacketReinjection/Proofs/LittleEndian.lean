import Mathlib.Algebra.Group.Nat.Defs
import PacketReinjection.LittleEndian

/-!
# `Proofs.LittleEndian` — words and their bytes

A byte string stands for a number, its first byte counting least. Writing a word gives bytes that stand
for it, reading gives the number that the bytes stand for, and each undoes the other.

## Contents
- **`value`**, **`slice`**, **`field`** — the number of a byte string, and of a part of one.
- **Reading.** `toNat_word16`, `toNat_word32`, and at an offset `toNat_word16At`, `toNat_word32At`;
  `word16At_of_le`, `word16At_of_lt`: both bytes, or zero; `word16At_take`, `word32At_take`: bytes further
  behind do not count.
- **Writing.** `value_bytes16`, `value_bytes32`.
- **Round trips.** `word16_bytes16`, `word32_bytes32`, and back by `eq_of_value_eq`: `bytes16_word16`,
  `bytes16_word16At`, `bytes32_word32At`.
-/

namespace PacketReinjection.LittleEndian

/-- The number that a byte string stands for. -/
def value : List UInt8 → Nat
  | [] => 0
  | b :: bytes => b.toNat + 256 * value bytes

/-- The bytes from an offset on, `width` of them at most. -/
def slice (bytes : List UInt8) (offset width : Nat) : List UInt8 := (bytes.drop offset).take width

/-- The number in a place of a byte string. -/
def field (bytes : List UInt8) (offset width : Nat) : Nat := value (slice bytes offset width)

theorem length_slice {bytes : List UInt8} {offset width : Nat} (h : offset + width ≤ bytes.length) :
    (slice bytes offset width).length = width := by
  rw [slice, List.length_take, List.length_drop]
  omega

/-- What lies beyond a part does not count for it. -/
theorem slice_take {offset width count : Nat} (bytes : List UInt8) (h : offset + width ≤ count) :
    slice (bytes.take count) offset width = slice bytes offset width := by
  rw [slice, slice, List.drop_take, List.take_take, Nat.min_eq_left (by omega)]

/-- Parts that touch make up one part. -/
theorem slice_append_slice (bytes : List UInt8) (offset width more : Nat) :
    slice bytes offset width ++ slice bytes (offset + width) more = slice bytes offset (width + more) := by
  rw [slice, slice, slice, ← List.drop_drop, List.take_add]

/-! ## Reading -/

/-- A further byte above the bytes read so far. -/
theorem or_shiftLeft_eq {low high k : Nat} (hlow : low < 2 ^ k) :
    low ||| high <<< k = low + 2 ^ k * high := by
  rw [Nat.or_comm, ← Nat.shiftLeft_add_eq_or_of_lt hlow, Nat.shiftLeft_eq, Nat.mul_comm, Nat.add_comm]

/-- A byte that is shifted inside a word loses nothing. -/
theorem shiftLeft_mod_eq {b k n : Nat} (hb : b < 2 ^ 8) (hk : 8 + k ≤ n) :
    b <<< k % 2 ^ n = b <<< k := by
  have hlt : b <<< k < 2 ^ (8 + k) := by
    rw [Nat.shiftLeft_eq, Nat.pow_add]
    exact Nat.mul_lt_mul_of_pos_right hb (Nat.two_pow_pos k)
  exact Nat.mod_eq_of_lt (Nat.lt_of_lt_of_le hlt (Nat.pow_le_pow_right (by decide) hk))

theorem toNat_word16 (b₀ b₁ : UInt8) : (word16 b₀ b₁).toNat = value [b₀, b₁] := by
  have h₀ : b₀.toNat < 2 ^ 8 := b₀.toNat_lt
  have h₁ : b₁.toNat < 2 ^ 8 := b₁.toNat_lt
  show b₀.toNat ||| b₁.toNat <<< 8 % 2 ^ 16 = value [b₀, b₁]
  rw [shiftLeft_mod_eq h₁ (by decide), or_shiftLeft_eq h₀]
  simp only [value]
  omega

theorem toNat_word32 (b₀ b₁ b₂ b₃ : UInt8) :
    (word32 b₀ b₁ b₂ b₃).toNat = value [b₀, b₁, b₂, b₃] := by
  have h₀ : b₀.toNat < 2 ^ 8 := b₀.toNat_lt
  have h₁ : b₁.toNat < 2 ^ 8 := b₁.toNat_lt
  have h₂ : b₂.toNat < 2 ^ 8 := b₂.toNat_lt
  have h₃ : b₃.toNat < 2 ^ 8 := b₃.toNat_lt
  show b₀.toNat ||| b₁.toNat <<< 8 % 2 ^ 32 ||| b₂.toNat <<< 16 % 2 ^ 32 ||| b₃.toNat <<< 24 % 2 ^ 32
    = value [b₀, b₁, b₂, b₃]
  have h₀₁ : b₀.toNat + 2 ^ 8 * b₁.toNat < 2 ^ 16 := by omega
  have h₀₁₂ : b₀.toNat + 2 ^ 8 * b₁.toNat + 2 ^ 16 * b₂.toNat < 2 ^ 24 := by omega
  rw [shiftLeft_mod_eq h₁ (by decide), shiftLeft_mod_eq h₂ (by decide), shiftLeft_mod_eq h₃ (by decide),
    or_shiftLeft_eq h₀, or_shiftLeft_eq h₀₁, or_shiftLeft_eq h₀₁₂]
  simp only [value]
  omega

/-- A byte string that is long enough shows its bytes at an offset. -/
theorem drop_eq_of_le {bytes : List UInt8} {offset : Nat} (h : offset + 2 ≤ bytes.length) :
    ∃ b₀ b₁ rest, bytes.drop offset = b₀ :: b₁ :: rest := by
  have hlength : (bytes.drop offset).length = bytes.length - offset := List.length_drop
  match hrest : bytes.drop offset with
  | [] | [_] => rw [hrest] at hlength; simp only [List.length_nil, List.length_cons] at hlength; omega
  | b₀ :: b₁ :: rest => exact ⟨b₀, b₁, rest, rfl⟩

/-- A word that the end of the byte string cuts off reads as zero. -/
theorem word16At_of_lt {bytes : List UInt8} {offset : Nat} (h : bytes.length < offset + 2) :
    word16At bytes offset = 0 := by
  have hlength : (bytes.drop offset).length = bytes.length - offset := List.length_drop
  unfold word16At
  split
  · rename_i hdrop
    rw [hdrop] at hlength
    simp only [List.length_cons] at hlength
    omega
  · rfl

/-- A word that is there is the word of its two bytes. -/
theorem word16At_of_le {bytes : List UInt8} {offset : Nat} (h : offset + 2 ≤ bytes.length) :
    word16At bytes offset = word16 (bytes.getD offset 0) (bytes.getD (offset + 1) 0) := by
  obtain ⟨b₀, b₁, rest, hdrop⟩ := drop_eq_of_le h
  have hbyte (i : Nat) : bytes.getD (offset + i) 0 = (b₀ :: b₁ :: rest).getD i 0 := by
    rw [← hdrop, List.getD_eq_getElem?_getD, List.getD_eq_getElem?_getD, List.getElem?_drop]
  have hfirst : bytes.getD offset 0 = b₀ := hbyte 0
  have hsecond : bytes.getD (offset + 1) 0 = b₁ := hbyte 1
  rw [word16At, hdrop, hfirst, hsecond]

theorem toNat_word16At {bytes : List UInt8} {offset : Nat} (h : offset + 2 ≤ bytes.length) :
    (word16At bytes offset).toNat = field bytes offset 2 := by
  obtain ⟨b₀, b₁, rest, hdrop⟩ := drop_eq_of_le h
  rw [word16At, field, slice, hdrop]
  exact toNat_word16 b₀ b₁

theorem toNat_word32At {bytes : List UInt8} {offset : Nat} (h : offset + 4 ≤ bytes.length) :
    (word32At bytes offset).toNat = field bytes offset 4 := by
  obtain ⟨b₀, b₁, later, hdrop⟩ := drop_eq_of_le (by omega : offset + 2 ≤ bytes.length)
  obtain ⟨b₂, b₃, rest, hlater⟩ := drop_eq_of_le (by omega : offset + 2 + 2 ≤ bytes.length)
  have hrest : later = b₂ :: b₃ :: rest := by
    rw [← hlater, ← List.drop_drop, hdrop]
    rfl
  rw [word32At, field, slice, hdrop, hrest]
  exact toNat_word32 b₀ b₁ b₂ b₃

section Take

variable {bytes : List UInt8} {offset count : Nat}

theorem word16At_take (h : offset + 2 ≤ count) (hcount : count ≤ bytes.length) :
    word16At (bytes.take count) offset = word16At bytes offset := by
  have hlength : (bytes.take count).length = count := by
    rw [List.length_take, Nat.min_eq_left hcount]
  rw [← UInt16.toNat_inj, toNat_word16At (by omega), toNat_word16At (by omega), field, field,
    slice_take bytes h]

theorem word32At_take (h : offset + 4 ≤ count) (hcount : count ≤ bytes.length) :
    word32At (bytes.take count) offset = word32At bytes offset := by
  have hlength : (bytes.take count).length = count := by
    rw [List.length_take, Nat.min_eq_left hcount]
  rw [← UInt32.toNat_inj, toNat_word32At (by omega), toNat_word32At (by omega), field, field,
    slice_take bytes h]

end Take

/-! ## Writing -/

theorem value_bytes16 (w : UInt16) : value (bytes16 w) = w.toNat := by
  have hlt := w.toNat_lt
  simp only [bytes16, value, UInt16.toNat_toUInt8, UInt16.toNat_shiftRight]
  show w.toNat % 2 ^ 8 + 256 * (w.toNat >>> 8 % 2 ^ 8 + 256 * 0) = w.toNat
  rw [Nat.shiftRight_eq_div_pow]
  omega

theorem value_bytes32 (w : UInt32) : value (bytes32 w) = w.toNat := by
  have hlt := w.toNat_lt
  simp only [bytes32, value, UInt32.toNat_toUInt8, UInt32.toNat_shiftRight]
  show w.toNat % 2 ^ 8 + 256 * (w.toNat >>> 8 % 2 ^ 8 + 256 * (w.toNat >>> 16 % 2 ^ 8
    + 256 * (w.toNat >>> 24 % 2 ^ 8 + 256 * 0))) = w.toNat
  rw [Nat.shiftRight_eq_div_pow, Nat.shiftRight_eq_div_pow, Nat.shiftRight_eq_div_pow]
  omega

/-! ## Round trips -/

theorem word16_bytes16 (w : UInt16) : word16 w.toUInt8 (w >>> 8).toUInt8 = w := by
  rw [← UInt16.toNat_inj, toNat_word16]
  exact value_bytes16 w

theorem word32_bytes32 (w : UInt32) :
    word32 w.toUInt8 (w >>> 8).toUInt8 (w >>> 16).toUInt8 (w >>> 24).toUInt8 = w := by
  rw [← UInt32.toNat_inj, toNat_word32]
  exact value_bytes32 w

/-- Byte strings of one length that stand for the same number are the same. -/
theorem eq_of_value_eq {a b : List UInt8} (hlength : a.length = b.length) (hvalue : value a = value b) :
    a = b := by
  induction a generalizing b with
  | nil => exact (List.length_eq_zero_iff.mp hlength.symm).symm
  | cons x a ih =>
    cases b with
    | nil => exact absurd hlength (by simp)
    | cons y b =>
      have hx := x.toNat_lt
      have hy := y.toNat_lt
      simp only [value] at hvalue
      have hrest : a = b := ih (Nat.succ.inj hlength) (by omega)
      rw [hrest, UInt8.toNat_inj.mp (by omega : x.toNat = y.toNat)]

theorem bytes16_word16 (b₀ b₁ : UInt8) : bytes16 (word16 b₀ b₁) = [b₀, b₁] :=
  eq_of_value_eq rfl (by rw [value_bytes16, toNat_word16])

/-- A word that was read is written as the bytes that it was read from, or as zeros where they are
    missing. -/
theorem bytes16_word16At (bytes : List UInt8) (offset : Nat) :
    bytes16 (word16At bytes offset)
      = if offset + 2 ≤ bytes.length then slice bytes offset 2 else [0, 0] := by
  split
  · rename_i h
    obtain ⟨b₀, b₁, rest, hdrop⟩ := drop_eq_of_le h
    rw [word16At, slice, hdrop]
    exact bytes16_word16 b₀ b₁
  · rename_i h
    rw [word16At_of_lt (Nat.not_le.mp h)]
    rfl

/-- A word of four bytes that was read is written as the bytes that it was read from. -/
theorem bytes32_word32At {bytes : List UInt8} {offset : Nat} (h : offset + 4 ≤ bytes.length) :
    bytes32 (word32At bytes offset) = slice bytes offset 4 := by
  refine eq_of_value_eq (length_slice h).symm ?_
  rw [value_bytes32, toNat_word32At h, field]

end PacketReinjection.LittleEndian
