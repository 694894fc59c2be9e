import Mathlib.Tactic.IntervalCases
import PacketReinjection.Router.Monitor

/-!
# `Proofs.Router.WaitField` — two wait fields in one control word

Bit by bit, a wait field is the eight bits of the control word from its shift on. Replacing it changes
these bits and no others, so the fields are independent of each other and of the rest of the word.

## Contents
- **Bits.** `word_eq_of_bits`; `getLsbD_mask`, `getLsbD_extract`, `getLsbD_replace`; `toUInt32_extract`, a
  field as a number.
- **Replacing.** `extract_replace`, `extract_replace_of_ne`, `replace_and_not_mask`, `replace_comm`.
- **Start-up.** `configured`, the control word that start-up leaves, with `extract_configured` and
  `configured_and_preserved`.
-/

namespace PacketReinjection

/-- A word is known by its bits. -/
theorem word_eq_of_bits {a b : UInt32}
    (h : ∀ i < 32, a.toBitVec.getLsbD i = b.toBitVec.getLsbD i) : a = b := by
  apply UInt32.toBitVec_inj.mp
  exact BitVec.eq_of_getLsbD_eq h

namespace Router

namespace WaitField

/-! ## Bits -/

theorem shift_lt (f : WaitField) : f.shift.toNat < 25 := by
  cases f <;> decide

theorem getLsbD_maxValue (i : Nat) : maxValue.toBitVec.getLsbD i = decide (i < 8) := by
  by_cases hi : i < 8
  · interval_cases i <;> rfl
  · have hsmall : maxValue.toNat < 2 ^ i :=
      Nat.lt_of_lt_of_le (by decide : maxValue.toNat < 2 ^ 8)
        (Nat.pow_le_pow_right (by decide) (by omega))
    rw [decide_eq_false hi]
    exact Nat.testBit_lt_two_pow hsmall

theorem getLsbD_mask (f : WaitField) {i : Nat} (hi : i < 32) :
    f.mask.toBitVec.getLsbD i = decide (f.shift.toNat ≤ i ∧ i < f.shift.toNat + 8) := by
  cases f <;> interval_cases i <;> rfl

theorem toBitVec_extract (f : WaitField) (control : UInt32) :
    (f.extract control).toBitVec
      = ((control.toBitVec &&& f.mask.toBitVec) >>> f.shift.toNat).setWidth 8 := by
  cases f <;> rfl

theorem toBitVec_replace (f : WaitField) (control value : UInt32) :
    (f.replace control value).toBitVec
      = (control.toBitVec &&& ~~~f.mask.toBitVec)
        ||| ((value.toBitVec &&& maxValue.toBitVec) <<< f.shift.toNat) := by
  cases f <;> rfl

theorem getLsbD_extract (f : WaitField) (control : UInt32) {i : Nat} (hi : i < 8) :
    (f.extract control).toBitVec.getLsbD i = control.toBitVec.getLsbD (f.shift.toNat + i) := by
  have hlt := f.shift_lt
  rw [toBitVec_extract, BitVec.getLsbD_setWidth, BitVec.getLsbD_ushiftRight, BitVec.getLsbD_and,
    f.getLsbD_mask (by omega)]
  simp [hi]

theorem getLsbD_replace (f : WaitField) (control value : UInt32) {i : Nat} (hi : i < 32) :
    (f.replace control value).toBitVec.getLsbD i
      = if f.shift.toNat ≤ i ∧ i < f.shift.toNat + 8 then
          value.toBitVec.getLsbD (i - f.shift.toNat)
        else
          control.toBitVec.getLsbD i := by
  rw [toBitVec_replace, BitVec.getLsbD_or, BitVec.getLsbD_and, BitVec.getLsbD_not,
    BitVec.getLsbD_shiftLeft, BitVec.getLsbD_and, f.getLsbD_mask hi, getLsbD_maxValue]
  split
  · rename_i hinside
    have habove : ¬i < f.shift.toNat := by omega
    have hbelow : i - f.shift.toNat < 8 := by omega
    simp [hinside, hi, habove, hbelow]
  · rename_i houtside
    have hside : i < f.shift.toNat ∨ ¬i - f.shift.toNat < 8 := by omega
    rcases hside with hbelow | habove
    · simp [houtside, hi, hbelow]
    · simp [houtside, hi, habove]

theorem toBitVec_shiftRight (f : WaitField) (control : UInt32) :
    (control >>> f.shift).toBitVec = control.toBitVec >>> f.shift.toNat := by
  cases f <;> rfl

/-- **A field is the low byte of the word shifted down to it.** -/
theorem toUInt32_extract (f : WaitField) (control : UInt32) :
    (f.extract control).toUInt32 = control >>> f.shift &&& maxValue := by
  apply word_eq_of_bits
  intro i hi
  rw [UInt8.toBitVec_toUInt32, BitVec.getLsbD_setWidth, UInt32.toBitVec_and, BitVec.getLsbD_and,
    toBitVec_shiftRight, BitVec.getLsbD_ushiftRight, getLsbD_maxValue]
  by_cases hlow : i < 8
  · rw [getLsbD_extract f control hlow]
    simp [hi, hlow]
  · rw [BitVec.getLsbD_of_ge _ _ (Nat.not_lt.mp hlow)]
    simp [hlow]

/-- Above the emergency field there is nothing to mask. -/
theorem shiftRight_emergency (control : UInt32) :
    control >>> emergency.shift &&& maxValue = control >>> emergency.shift := by
  apply word_eq_of_bits
  intro i hi
  rw [UInt32.toBitVec_and, BitVec.getLsbD_and, getLsbD_maxValue, toBitVec_shiftRight,
    BitVec.getLsbD_ushiftRight]
  by_cases hlow : i < 8
  · simp [hlow]
  · have hshift : emergency.shift.toNat = 24 := rfl
    rw [BitVec.getLsbD_of_ge _ _ (by omega), Bool.false_and]

/-- No bit is in both fields. -/
theorem outside_of_inside {f g : WaitField} (hne : g ≠ f) {i : Nat}
    (hinside : g.shift.toNat ≤ i ∧ i < g.shift.toNat + 8) :
    ¬(f.shift.toNat ≤ i ∧ i < f.shift.toNat + 8) := by
  cases f <;> cases g <;> first | exact absurd rfl hne | (simp [shift] at hinside ⊢; omega)

/-! ## Replacing -/

/-- A field is known by its bits. -/
theorem extract_eq_of_bits {f : WaitField} {control : UInt32} {b : UInt8}
    (h : ∀ i < 8, control.toBitVec.getLsbD (f.shift.toNat + i) = b.toBitVec.getLsbD i) :
    f.extract control = b := by
  apply UInt8.toBitVec_inj.mp
  apply BitVec.eq_of_getLsbD_eq
  intro i hi
  rw [getLsbD_extract _ _ hi, h i hi]

/-- The field that was replaced holds the low byte of its new value. -/
theorem extract_replace (f : WaitField) (control value : UInt32) :
    f.extract (f.replace control value) = value.toUInt8 := by
  refine extract_eq_of_bits fun i hi => ?_
  have hlt := f.shift_lt
  rw [getLsbD_replace _ _ _ (by omega), if_pos (by omega), Nat.add_sub_cancel_left]
  simp [hi]

/-- The other field is not touched. -/
theorem extract_replace_of_ne {f g : WaitField} (hne : g ≠ f) (control value : UInt32) :
    g.extract (f.replace control value) = g.extract control := by
  refine extract_eq_of_bits fun i hi => ?_
  have hlt := g.shift_lt
  have hinside : g.shift.toNat ≤ g.shift.toNat + i ∧ g.shift.toNat + i < g.shift.toNat + 8 := by omega
  have houtside := outside_of_inside hne hinside
  rw [getLsbD_replace _ _ _ (by omega), if_neg houtside, getLsbD_extract _ _ hi]

/-- No bit outside the field is touched. -/
theorem replace_and_not_mask (f : WaitField) (control value : UInt32) :
    f.replace control value &&& ~~~f.mask = control &&& ~~~f.mask := by
  apply word_eq_of_bits
  intro i hi
  simp only [UInt32.toBitVec_and, UInt32.toBitVec_not, BitVec.getLsbD_and, BitVec.getLsbD_not,
    f.getLsbD_mask hi, f.getLsbD_replace _ _ hi]
  by_cases hinside : f.shift.toNat ≤ i ∧ i < f.shift.toNat + 8
  · simp [hinside]
  · rw [if_neg hinside]

/-- Neither field reaches into the preserved half. -/
theorem replace_and_preserved (f : WaitField) (control value : UInt32) :
    f.replace control value &&& preservedMask = control &&& preservedMask := by
  have hpart : preservedMask = ~~~f.mask &&& preservedMask := by cases f <;> decide
  rw [hpart, ← UInt32.and_assoc, replace_and_not_mask, UInt32.and_assoc]

/-- **The order in which the two fields are replaced makes no difference.** -/
theorem replace_comm {f g : WaitField} (hne : f ≠ g) (control first second : UInt32) :
    f.replace (g.replace control first) second = g.replace (f.replace control second) first := by
  apply word_eq_of_bits
  intro i hi
  rw [getLsbD_replace _ _ _ hi, getLsbD_replace _ _ _ hi, getLsbD_replace _ _ _ hi,
    getLsbD_replace _ _ _ hi]
  by_cases hf : f.shift.toNat ≤ i ∧ i < f.shift.toNat + 8
  · rw [if_pos hf, if_neg (outside_of_inside hne hf), if_pos hf]
  · rw [if_neg hf, if_neg hf]

/-- A value that fits is its own low byte. -/
theorem toUInt32_toUInt8 {value : UInt32} (h : value ≤ maxValue) : value.toUInt8.toUInt32 = value := by
  have hle : value.toNat ≤ 255 := UInt32.le_iff_toNat_le.mp h
  apply UInt32.toNat_inj.mp
  rw [UInt8.toNat_toUInt32, UInt32.toNat_toUInt8]
  omega

end WaitField

/-! ## Start-up -/

/-- The control word that start-up leaves: both wait fields, the preserved half, and dump interrupts. -/
def configured (control : UInt32) (primary emergency : UInt8) : UInt32 :=
  ((control &&& preservedMask) ||| Monitor.waitBits primary emergency) ||| dumpEnableMask

/-- The value that start-up gives a wait field. -/
def WaitField.configuredValue (primary emergency : UInt8) : WaitField → UInt8
  | .primary => primary
  | .emergency => emergency

/-- **Start-up leaves the configured values in both fields**, whatever stood there. -/
theorem extract_configured (f : WaitField) (control : UInt32) (primary emergency : UInt8) :
    f.extract (configured control primary emergency) = f.configuredValue primary emergency := by
  refine WaitField.extract_eq_of_bits fun i hi => ?_
  cases f <;> interval_cases i <;>
    simp [configured, Monitor.waitBits, WaitField.shift, WaitField.configuredValue, preservedMask,
      dumpEnableMask]

/-- Start-up keeps the preserved half and enables dump interrupts in it. -/
theorem configured_and_preserved (control : UInt32) (primary emergency : UInt8) :
    configured control primary emergency &&& preservedMask
      = control &&& preservedMask ||| dumpEnableMask := by
  apply word_eq_of_bits
  intro i hi
  interval_cases i <;>
    simp [configured, Monitor.waitBits, WaitField.shift, preservedMask, dumpEnableMask]

end Router

end PacketReinjection
