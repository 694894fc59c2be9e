import PacketReinjection.ClassFilter
import PacketReinjection.Simulation.Hardware

/-!
# `Proofs.Masks` — masks of single bits

Interrupt lines, packet classes and the payload flag of a header are tested by masks of one bit each.
Such a test reads the bit, and what a mask leaves of a word is the mask or nothing.

## Contents
- **Single bits.** `and_mask_eq`, `and_mask_ne_zero`.
- **Packet headers.** `DumpedPacket.controlBits_eq`, `routeBits_eq`, `hasPayload_eq`, in numbers.
- **Interrupt lines.** `InterruptSource.getLsbD_mask`, `Simulation.interruptEnabled_eq`.
- **Packet classes.** `ClassFilter.mask_ofMask`: of a class mask the low four bits are kept.
-/

namespace PacketReinjection

/-! ## Single bits -/

section SingleBit

variable {mask : UInt32} {k : Nat} (hmask : mask.toBitVec = BitVec.twoPow 32 k)

include hmask

theorem and_mask_eq (w : UInt32) : w &&& mask = if w.toBitVec.getLsbD k then mask else 0 := by
  apply UInt32.toBitVec_inj.mp
  rw [UInt32.toBitVec_and, hmask, BitVec.and_twoPow]
  split
  · exact hmask.symm
  · rfl

theorem and_mask_ne_zero (hk : k < 32) (w : UInt32) : (w &&& mask != 0) = w.toBitVec.getLsbD k := by
  have hone : mask ≠ 0 := by
    intro hzero
    have hbit := congrArg (fun v : BitVec 32 => v.getLsbD k) hmask
    simp [hzero, hk] at hbit
  rw [and_mask_eq hmask]
  cases w.toBitVec.getLsbD k <;> simp [hone]

end SingleBit

/-! ## Packet headers -/

namespace DumpedPacket

variable (p : DumpedPacket)

theorem controlBits_eq : p.controlBits = p.header &&& 0x00ff0000 := rfl

theorem routeBits_eq : p.routeBits = p.header &&& 0x07000000 := rfl

theorem hasPayload_eq : p.hasPayload = p.header.toBitVec.getLsbD 17 := by
  have hmask : Header.payloadMask.toBitVec = BitVec.twoPow 32 17 := rfl
  exact and_mask_ne_zero hmask (by decide) p.header

end DumpedPacket

/-! ## Interrupt lines -/

theorem InterruptSource.line_lt (source : InterruptSource) : source.line.toNat < 32 := by
  cases source <;> decide

theorem InterruptSource.toBitVec_mask (source : InterruptSource) :
    source.mask.toBitVec = BitVec.twoPow 32 source.line.toNat := by
  cases source <;> rfl

/-- A line's mask is its one bit. -/
theorem InterruptSource.getLsbD_mask (source : InterruptSource) (i : Nat) :
    source.mask.toBitVec.getLsbD i = decide (source.line.toNat = i) := by
  rw [source.toBitVec_mask, BitVec.getLsbD_twoPow, decide_eq_true source.line_lt, Bool.true_and]

/-- A line is enabled exactly if its bit is set. -/
theorem Simulation.interruptEnabled_eq (s : Simulation) (source : InterruptSource) :
    s.interruptEnabled source = s.vicEnabled.toBitVec.getLsbD source.line.toNat :=
  and_mask_ne_zero source.toBitVec_mask source.line_lt s.vicEnabled

/-! ## Packet classes -/

theorem PacketClass.toBitVec_maskBit (c : PacketClass) :
    c.maskBit.toBitVec = BitVec.twoPow 32 c.code.toNat := by
  cases c <;> rfl

/-- What a class mask says of one class. -/
theorem PacketClass.and_maskBit (c : PacketClass) (mask : UInt32) :
    mask &&& c.maskBit = if mask &&& c.maskBit != 0 then c.maskBit else 0 := by
  have hcode : c.code.toNat < 32 := by cases c <;> decide
  rw [and_mask_ne_zero c.toBitVec_maskBit hcode]
  exact and_mask_eq c.toBitVec_maskBit mask

/-- **A filter keeps the low four bits of its mask.** -/
theorem ClassFilter.mask_ofMask (mask : UInt32) :
    (ofMask mask).mask = mask &&& PacketClass.fullMask := by
  have hfull : PacketClass.fullMask = PacketClass.multicast.maskBit ||| PacketClass.pointToPoint.maskBit
      ||| PacketClass.nearestNeighbour.maskBit ||| PacketClass.fixedRoute.maskBit := by decide
  have hparts : mask &&& PacketClass.fullMask =
      mask &&& PacketClass.multicast.maskBit ||| mask &&& PacketClass.pointToPoint.maskBit
        ||| mask &&& PacketClass.nearestNeighbour.maskBit ||| mask &&& PacketClass.fixedRoute.maskBit := by
    rw [hfull]
    apply UInt32.toBitVec_inj.mp
    simp only [UInt32.toBitVec_and, UInt32.toBitVec_or, BitVec.and_or_distrib_left]
  rw [hparts, PacketClass.and_maskBit .multicast, PacketClass.and_maskBit .pointToPoint,
    PacketClass.and_maskBit .nearestNeighbour, PacketClass.and_maskBit .fixedRoute]
  simp only [ClassFilter.mask, ofMask]
  cases mask &&& PacketClass.multicast.maskBit != 0 <;>
    cases mask &&& PacketClass.pointToPoint.maskBit != 0 <;>
    cases mask &&& PacketClass.nearestNeighbour.maskBit != 0 <;>
    cases mask &&& PacketClass.fixedRoute.maskBit != 0 <;> rfl

end PacketReinjection
