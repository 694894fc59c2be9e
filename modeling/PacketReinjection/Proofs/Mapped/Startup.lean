import Mathlib.Logic.Function.Basic
import Mathlib.Tactic.IntervalCases
import PacketReinjection.Proofs.Mapped.Accesses
import PacketReinjection.Proofs.Router.WaitField
import PacketReinjection.Proofs.Routine.Calls
import PacketReinjection.Startup

/-!
# `Proofs.Mapped.Startup` — start-up over memory-mapped registers installs the vectors

Each handler goes into a slot of the interrupt controller, and before the command handler is installed the
slot of the runtime's own message handler is cleared. That slot may be one of those which are filled, the
command handler's own among them; what is written last counts. The select word is read, changed and written
back once for each handler, whatever it held.

The words of the interrupt controller are looked at as a function of their offset, which each call updates.

## Contents
- **`Description.slotFilled`**, **`Description.installed`**, **`Description.vicAfter`** — the words after a
  slot was filled, after an installation, and after a call; `read_install`, `read_call`.
- **`Description.fastAfter`** — the fast vector after a call; `read_fastVector_call`.
- **`Description.started`** and **`read_start`** — the words after start-up.
- **`Installed`** and **`installed_start`**.
-/

namespace PacketReinjection.Mapped

open Routine

/-! ## The words of the interrupt controller -/

namespace Description

variable (d : Description) (words : Nat → UInt32)

/-- The words after the slot of the runtime's own message handler was cleared, if there is one. -/
def slotCleared : Nat → UInt32 :=
  if 0 ≤ d.runtimeSlot then Function.update words (128 + d.runtimeSlot.toNat) 0 else words

/-- The words after the handler of a line was installed in a slot. -/
def slotFilled (source : InterruptSource) (slot : Nat) : Nat → UInt32 :=
  let before := if source = .command then d.slotCleared words else words
  Function.update
    (Function.update (Function.update before (64 + slot) (d.entryAddress source)) (128 + slot)
      (0x20 ||| source.line))
    3 (words 3 &&& ~~~source.mask)

/-- The words after the handler of a line was installed at its priority. -/
def installed (source : InterruptSource) : Nat → UInt32 :=
  match source.priority with
  | .fast => Function.update words 3 (words 3 ||| source.mask)
  | .standard slot => d.slotFilled words source slot

/-- The words after a call. -/
def vicAfter : Call → Nat → UInt32
  | .writeVic r value => Function.update words r.offset value
  | .bind source => d.installed words source
  | .readRouter _ | .writeRouter _ _ | .readComms _ | .writeComms _ _ | .writeTimer _ _
  | .maskFast | .restoreFast _ | .readClock | .wait => words

end Description

/-- Writing a word of the interrupt controller. -/
theorem read_vic_write {o : Nat} (ho : o < 256) (m : Memory) (value : UInt32) :
    (m.write .vic o value).read .vic = Function.update (m.read .vic) o value := by
  funext o'
  rw [Memory.read_write, Function.update_apply]
  by_cases hsame : o' = o
  · rw [if_pos ⟨rfl, hsame, ho⟩, if_pos hsame]
  · rw [if_neg fun h => hsame h.2.1, if_neg hsame]

/-- Writing a word of another block. -/
theorem read_vic_write_of_ne {block : Block} (h : block ≠ .vic) (m : Memory) (o : Nat) (value : UInt32) :
    (m.write block o value).read .vic = m.read .vic := by
  funext o'
  exact Memory.read_write_of_ne (fun hsame => h hsame.1.symm) m value

section Install

variable {d : Description}

theorem read_installFast (source : InterruptSource) (b : Board) :
    ((d.installFast source).run b).2.memory.read .vic =
      Function.update (b.memory.read .vic) 3 (b.memory.read .vic 3 ||| source.mask) := by
  unfold Description.installFast
  cases d.hasFastVector with
  | false => exact read_vic_write (by decide) b.memory _
  | true =>
    show ((b.memory.write .fastVector 0 _).write .vic 3 _).read .vic = _
    rw [read_vic_write (by decide), read_vic_write_of_ne (by decide)]
    rfl

theorem read_installVectored (hslot : d.runtimeSlot < 128) (source : InterruptSource) {slot : Nat}
    (hsmall : slot < 128) (b : Board) :
    ((d.installVectored source slot).run b).2.memory.read .vic
      = d.slotFilled (b.memory.read .vic) source slot := by
  -- What follows the clearing of the slot, on the board that it leaves.
  have hinstall (b' : Board) (select : UInt32) :
      (((b'.memory.write .vic (64 + slot) (d.entryAddress source)).write .vic (128 + slot)
          (vectorEnable ||| source.line)).write .vic 3 select).read .vic =
        Function.update (Function.update (Function.update (b'.memory.read .vic) (64 + slot)
          (d.entryAddress source)) (128 + slot) (0x20 ||| source.line)) 3 select := by
    rw [read_vic_write (by decide), read_vic_write (by omega), read_vic_write (by omega)]
    rfl
  by_cases hcommand : source = .command
  · by_cases hruntime : 0 ≤ d.runtimeSlot
    · have hcleared : (b.memory.write .vic (128 + d.runtimeSlot.toNat) 0).read .vic
          = Function.update (b.memory.read .vic) (128 + d.runtimeSlot.toNat) 0 :=
        read_vic_write (by omega) b.memory 0
      simp only [Description.installVectored, Description.clearRuntimeSlot, Description.slotFilled,
        Description.slotCleared, if_pos hcommand, if_pos hruntime, ← hcleared]
      exact hinstall (b.write .vic (128 + d.runtimeSlot.toNat) 0) _
    · simp only [Description.installVectored, Description.clearRuntimeSlot, Description.slotFilled,
        Description.slotCleared, if_pos hcommand, if_neg hruntime]
      exact hinstall b _
  · simp only [Description.installVectored, Description.slotFilled, if_neg hcommand]
    exact hinstall b _

theorem read_install (hslot : d.runtimeSlot < 128) (source : InterruptSource)
    (b : Board) :
    ((d.install source).run b).2.memory.read .vic = d.installed (b.memory.read .vic) source := by
  cases source with
  | droppedPacket => exact read_installFast .droppedPacket b
  | timerTick => exact read_installVectored hslot .timerTick (by decide) b
  | transmitterReady => exact read_installVectored hslot .transmitterReady (by decide) b
  | command => exact read_installVectored hslot .command (by decide) b

end Install

/-- **The words after a call.** -/
theorem read_call (c : Call) (h : MappedHardware) (hslot : h.description.runtimeSlot < 128) :
    (Platform.call c h).2.board.memory.read .vic
      = h.description.vicAfter (h.board.memory.read .vic) c := by
  cases c with
  | writeRouter r value | writeComms r value | writeTimer r value =>
    exact read_vic_write_of_ne (by decide) h.board.memory r.offset value
  | writeVic r value => exact read_vic_write (by cases r <;> decide) h.board.memory value
  | bind source => exact read_install hslot source h.board
  | readRouter r | readComms r | maskFast | restoreFast saved | readClock | wait => rfl

/-- The fast vector after a call. -/
def Description.fastAfter (d : Description) (word : UInt32) : Call → UInt32
  | .bind .droppedPacket => if d.hasFastVector then d.entryAddress .droppedPacket else word
  | _ => word

/-- Filling a slot leaves the fast vector alone. -/
theorem read_fastVector_installVectored {d : Description} (source : InterruptSource) (slot : Nat)
    (b : Board) :
    ((d.installVectored source slot).run b).2.memory.read .fastVector 0
      = b.memory.read .fastVector 0 := by
  refine BoardProgram.read_run _ _ ?_
  rw [accesses_installVectored]
  split <;> simp

theorem read_fastVector_call (c : Call) (h : MappedHardware) :
    (Platform.call c h).2.board.memory.read .fastVector 0
      = h.description.fastAfter (h.board.memory.read .fastVector 0) c := by
  cases c with
  | bind source =>
    cases source with
    | droppedPacket =>
      show ((h.description.installFast .droppedPacket).run h.board).2.memory.read .fastVector 0
        = if h.description.hasFastVector then _ else _
      unfold Description.installFast
      cases h.description.hasFastVector with
      | false => rfl
      | true => exact Memory.read_write_self (by decide : 0 < Block.fastVector.size) h.board.memory _
    | timerTick | transmitterReady | command =>
      exact read_fastVector_installVectored _ _ h.board
  | writeRouter r value | writeComms r value | writeTimer r value | writeVic r value => rfl
  | readRouter r | readComms r | maskFast | restoreFast saved | readClock | wait => rfl

/-- What each call does to a part of the hardware, calls in a row do to it one after the other. -/
theorem replay_part {β : Type} {d : Description} (part : MappedHardware → β) (after : β → Call → β)
    (hcall : ∀ c h, h.description = d → part (Platform.call c h).2 = after (part h) c)
    (calls : List RecordedCall) (h : MappedHardware) (hd : h.description = d) :
    part (replay calls h) = calls.foldl (fun w recorded => after w recorded.call) (part h) := by
  induction calls generalizing h with
  | nil => rfl
  | cons recorded rest ih =>
    have hrest := ih (Platform.call recorded.call h).2 hd
    rw [hcall recorded.call h hd] at hrest
    exact hrest

/-! ## Start-up -/

/-- The words of the interrupt controller after start-up, from those before. -/
def Description.started (d : Description) (words : Nat → UInt32) : Nat → UInt32 :=
  let disabled := Function.update (Function.update words 5 InterruptSource.standingMask) 5
    InterruptSource.transmitterReady.mask
  let vectored := d.installed (d.installed (d.installed disabled .command) .transmitterReady) .timerTick
  Function.update (d.installed vectored .droppedPacket) 4 InterruptSource.standingMask

/-- **The words after start-up.** -/
theorem read_start (n : Node MappedHardware) (hslot : n.hardware.description.runtimeSlot < 128) :
    (memoryOf (start.run n).2).read .vic
      = n.hardware.description.started ((memoryOf n).read .vic) := by
  rw [memoryOf, run_hardware]
  refine replay_part (fun h => h.board.memory.read .vic) n.hardware.description.vicAfter ?_ _ _ rfl
  intro c h hd
  rw [← hd]
  exact read_call c h (hd ▸ hslot)

/-- The select word after each handler was installed: the fast line is selected, the others are not. -/
theorem select_started (select : UInt32) :
    (((select &&& ~~~InterruptSource.command.mask) &&& ~~~InterruptSource.transmitterReady.mask)
        &&& ~~~InterruptSource.timerTick.mask) ||| InterruptSource.droppedPacket.mask
      = (select ||| 0x00020000) &&& ~~~(0x00081010 : UInt32) := by
  apply word_eq_of_bits
  intro i hi
  interval_cases i <;> simp [InterruptSource.mask, InterruptSource.line]

/-- What start-up leaves in the interrupt controller and in the fast vector. -/
structure Installed (d : Description) (before after : Memory) : Prop where
  /-- Slot 0 has the command handler, on line 19. -/
  command : after.read .vic 64 = d.commandEntry.toUInt32 ∧ after.read .vic 128 = 0x20 ||| 19
  /-- Slot 1 has the transmitter's handler, on line 12. -/
  transmitter : after.read .vic 65 = d.transmitterReadyEntry.toUInt32 ∧ after.read .vic 129 = 0x20 ||| 12
  /-- Slot 2 has the timer's handler, on line 4. -/
  timer : after.read .vic 66 = d.timerTickEntry.toUInt32 ∧ after.read .vic 130 = 0x20 ||| 4
  /-- A slot of the runtime's own beyond these is free. -/
  runtime : 3 ≤ d.runtimeSlot → after.read .vic (128 + d.runtimeSlot.toNat) = 0
  /-- Line 17 is fast, and lines 4, 12 and 19 are not. -/
  select : after.read .vic 3 = (before.read .vic 3 ||| 0x00020000) &&& ~~~(0x00081010 : UInt32)
  /-- What was written last to enable lines: lines 4 and 17. -/
  enable : after.read .vic 4 = 0x00020010
  /-- What was written last to disable lines: line 12. -/
  disable : after.read .vic 5 = 0x00001000
  fast : after.read .fastVector 0
    = if d.hasFastVector then d.droppedPacketEntry.toUInt32 else before.read .fastVector 0
  others : ∀ o : Nat, o ∉ [3, 4, 5, 64, 65, 66, 128, 129, 130] →
    ¬(3 ≤ d.runtimeSlot ∧ (o : Int) = 128 + d.runtimeSlot) → after.read .vic o = before.read .vic o

section Started

variable (d : Description) (words : Nat → UInt32)

theorem slotCleared_of_ne {o : Nat} (h : ¬(0 ≤ d.runtimeSlot ∧ (o : Int) = 128 + d.runtimeSlot)) :
    d.slotCleared words o = words o := by
  unfold Description.slotCleared
  split
  · rw [Function.update_of_ne (by omega)]
  · rfl

/-- The runtime's slot is cleared before the slots are filled. -/
theorem started_filled :
    d.started words 64 = d.commandEntry.toUInt32 ∧ d.started words 128 = 0x20 ||| 19
      ∧ d.started words 65 = d.transmitterReadyEntry.toUInt32 ∧ d.started words 129 = 0x20 ||| 12
      ∧ d.started words 66 = d.timerTickEntry.toUInt32 ∧ d.started words 130 = 0x20 ||| 4 := by
  simp [Description.started, Description.installed, Description.slotFilled, InterruptSource.priority,
    Description.entryAddress, InterruptSource.line]

theorem started_select :
    d.started words 3 = (words 3 ||| 0x00020000) &&& ~~~(0x00081010 : UInt32) := by
  rw [← select_started]
  simp [Description.started, Description.installed, Description.slotFilled, InterruptSource.priority]

theorem started_disable : d.started words 5 = 0x00001000 := by
  have hcleared (words : Nat → UInt32) : d.slotCleared words 5 = words 5 :=
    slotCleared_of_ne d words (by omega)
  simp [Description.started, Description.installed, Description.slotFilled, InterruptSource.priority,
    hcleared]
  rfl

/-- Apart from the words that are filled, only the runtime's slot is written. -/
theorem started_of_not_mem {o : Nat} (ho : o ∉ [3, 4, 5, 64, 65, 66, 128, 129, 130]) :
    d.started words o = d.slotCleared words o := by
  simp only [List.mem_cons, List.not_mem_nil, or_false, not_or] at ho
  have hdisabled (value : UInt32) :
      d.slotCleared (Function.update words 5 value) o = d.slotCleared words o := by
    unfold Description.slotCleared
    split <;> simp [Function.update_apply, ho]
  simp [Description.started, Description.installed, Description.slotFilled, InterruptSource.priority, ho,
    hdisabled]

end Started

/-- The fast vector after start-up. -/
theorem read_fastVector_start (n : Node MappedHardware) :
    (memoryOf (start.run n).2).read .fastVector 0 =
      if n.hardware.description.hasFastVector then
        n.hardware.description.droppedPacketEntry.toUInt32
      else
        (memoryOf n).read .fastVector 0 := by
  rw [memoryOf, run_hardware]
  refine replay_part (fun h => h.board.memory.read .fastVector 0) n.hardware.description.fastAfter ?_ _ _
    rfl
  intro c h hd
  rw [← hd]
  exact read_fastVector_call c h

/-- **Start-up installs the vectors**, whatever the blocks hold and wherever the runtime's slot is. -/
theorem installed_start (n : Node MappedHardware) (hslot : n.hardware.description.runtimeSlot < 128) :
    Installed n.hardware.description (memoryOf n) (memoryOf (start.run n).2) := by
  have hwords := fun o => congrFun (read_start n hslot) o
  obtain ⟨hcommand, hcommandControl, htransmitter, htransmitterControl, htimer, htimerControl⟩ :=
    started_filled n.hardware.description ((memoryOf n).read .vic)
  constructor
  case command => exact ⟨(hwords 64).trans hcommand, (hwords 128).trans hcommandControl⟩
  case transmitter => exact ⟨(hwords 65).trans htransmitter, (hwords 129).trans htransmitterControl⟩
  case timer => exact ⟨(hwords 66).trans htimer, (hwords 130).trans htimerControl⟩
  case runtime =>
    intro hruntime
    have houtside : 128 + n.hardware.description.runtimeSlot.toNat
        ∉ [3, 4, 5, 64, 65, 66, 128, 129, 130] := by
      simp only [List.mem_cons, List.not_mem_nil, or_false, not_or]
      omega
    rw [hwords, started_of_not_mem _ _ houtside, Description.slotCleared, if_pos (by omega),
      Function.update_self]
  case select => exact (hwords 3).trans (started_select _ _)
  case enable => exact hwords 4
  case disable => exact (hwords 5).trans (started_disable _ _)
  case fast => exact read_fastVector_start n
  case others =>
    intro o ho hruntime
    have hcleared : ¬(0 ≤ n.hardware.description.runtimeSlot
        ∧ (o : Int) = 128 + n.hardware.description.runtimeSlot) := by
      simp only [List.mem_cons, List.not_mem_nil, or_false, not_or] at ho
      omega
    rw [hwords, started_of_not_mem _ _ ho, slotCleared_of_ne _ _ hcleared]

end PacketReinjection.Mapped
