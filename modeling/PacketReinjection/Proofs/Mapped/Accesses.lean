import PacketReinjection.Mapped.Hardware
import PacketReinjection.Proofs.Mapped.Memory
import PacketReinjection.Proofs.Routine.HandlerSteps

/-!
# `Proofs.Mapped.Accesses` — which words a routine touches

Over memory-mapped registers a call is a row of accesses to words. Listing them says two things of a
routine: whether it ever leaves a block, and which words it can have changed, since a word that no access
writes holds what it held before.

An access is confined to a list of words if it stays inside its block and, where it writes, writes one of
them. Calls are looked at one by one; a routine is confined if its kind of steps is.

## Contents
- **`WordAccess`**, **`BoardProgram.accesses`**, **`Routine.accesses`** — the accesses of a run.
- **`read_run`** — what is not written stays, for board programs and for routines.
- **`WordAccess.Confined`** and **`confined_of_only`** — from calls to routines.
- **`handlingWords`**, **`Description.startingWords`** — the words of handlers and of start-up;
  `confined_of_isHandling`, `confined_of_isStarting`.
-/

namespace PacketReinjection.Mapped

/-! ## Accesses -/

/-- An access to a word. -/
structure WordAccess where
  block : Block
  offset : Nat
  isWrite : Bool
  deriving DecidableEq

/-- The accesses of a program on a board, in their order. -/
def BoardProgram.accesses {α : Type} : BoardProgram α → Board → List WordAccess
  | done _, _ => []
  | read block offset next, b =>
    ⟨block, offset, false⟩ :: (next (b.memory.read block offset)).accesses b
  | write block offset value next, b =>
    ⟨block, offset, true⟩ :: next.accesses (b.write block offset value)
  | maskFast next, b =>
    let answer := nextAnswer b.maskAnswers
    (next answer.1).accesses ({ b with maskAnswers := answer.2 }.record (.maskFast answer.1))
  | restoreFast saved next, b => next.accesses (b.record (.restoreFast saved))
  | wait next, b => next.accesses (b.record .wait)

/-- The accesses of a step. Only calls reach the board. -/
def stepAccesses (n : Node MappedHardware) : Step → List WordAccess
  | .call c => (n.hardware.description.program c).accesses n.hardware.board
  | .access _ | .log _ => []

/-- The accesses of a routine on a node, in their order. -/
def routineAccesses {α : Type} : Routine α → Node MappedHardware → List WordAccess
  | .done _, _ => []
  | .step s next, n => stepAccesses n s ++ routineAccesses (next (n.take s).1) (n.take s).2

/-- The memory of a node. -/
def memoryOf (n : Node MappedHardware) : Memory := n.hardware.board.memory

/-! ## What is not written stays -/

section Frame

variable {α : Type} {block : Block} {offset : Nat}

/-- **A word that a program does not write** holds what it held. -/
theorem BoardProgram.read_run (p : BoardProgram α) (b : Board)
    (hunwritten : ⟨block, offset, true⟩ ∉ p.accesses b) :
    (p.run b).2.memory.read block offset = b.memory.read block offset := by
  induction p generalizing b with
  | done a => rfl
  | read block' offset' next ih =>
    apply ih
    intro h
    exact hunwritten (List.mem_cons_of_mem _ h)
  | write block' offset' value next ih =>
    have hother : ¬(block = block' ∧ offset = offset') := by
      rintro ⟨rfl, rfl⟩
      exact hunwritten List.mem_cons_self
    have hnext := ih (b.write block' offset' value) fun h => hunwritten (List.mem_cons_of_mem _ h)
    exact hnext.trans (Memory.read_write_of_ne hother b.memory value)
  | maskFast next ih => exact ih _ _ hunwritten
  | restoreFast saved next ih => exact ih _ hunwritten
  | wait next ih => exact ih _ hunwritten

/-- A word that a step does not write holds what it held. -/
theorem read_take (s : Step) (n : Node MappedHardware)
    (hunwritten : ⟨block, offset, true⟩ ∉ stepAccesses n s) :
    (memoryOf (n.take s).2).read block offset = (memoryOf n).read block offset := by
  cases s with
  | call c => exact (n.hardware.description.program c).read_run n.hardware.board hunwritten
  | access a => rfl
  | log e => rfl

/-- **A word that a routine does not write** holds what it held. -/
theorem read_run (x : Routine α) (n : Node MappedHardware)
    (hunwritten : ⟨block, offset, true⟩ ∉ routineAccesses x n) :
    (memoryOf (x.run n).2).read block offset = (memoryOf n).read block offset := by
  induction x generalizing n with
  | done a => rfl
  | step s next ih =>
    have hfirst := read_take s n fun h => hunwritten (List.mem_append_left _ h)
    have hlater := ih (n.take s).1 (n.take s).2 fun h => hunwritten (List.mem_append_right _ h)
    calc (memoryOf ((next (n.take s).1).run (n.take s).2).2).read block offset
        = (memoryOf (n.take s).2).read block offset := hlater
      _ = (memoryOf n).read block offset := hfirst

end Frame

/-! ## Confinement -/

/-- An access that stays inside its block and writes the given words only. -/
structure WordAccess.Confined (words : List (Block × Nat)) (a : WordAccess) : Prop where
  inside : a.offset < a.block.size
  written : a.isWrite = true → (a.block, a.offset) ∈ words

section Confinement

variable {α : Type} {d : Description} {kind : Step → Bool} {words : List (Block × Nat)}

/-- No step changes what the platform was built over. -/
theorem description_take (s : Step) (n : Node MappedHardware) :
    (n.take s).2.hardware.description = n.hardware.description := by
  cases s <;> rfl

/-- **A routine of confined calls is confined.** -/
theorem confined_of_only
    (hcalls : ∀ c, kind (.call c) = true → ∀ b, ∀ a ∈ (d.program c).accesses b, a.Confined words)
    {x : Routine α} (hx : x.Only kind) {n : Node MappedHardware} (hd : n.hardware.description = d) :
    ∀ a ∈ routineAccesses x n, a.Confined words := by
  induction x generalizing n with
  | done a => exact fun _ h => absurd h List.not_mem_nil
  | step s next ih =>
    intro a ha
    rcases List.mem_append.mp ha with hfirst | hlater
    · cases s with
      | call c =>
        rw [stepAccesses, hd] at hfirst
        exact hcalls c hx.1 _ a hfirst
      | access e => exact absurd hfirst List.not_mem_nil
      | log e => exact absurd hfirst List.not_mem_nil
    · exact ih _ (hx.2 _) ((description_take s n).trans hd) a hlater

end Confinement

/-! ## Handlers and start-up -/

/-- The ten words that handlers write: the router's control register, the transmitter's registers, the
    timer's acknowledgement, and select, enables and acknowledgement at the interrupt controller. -/
def handlingWords : List (Block × Nat) :=
  [(.router, 0), (.comms, 0), (.comms, 1), (.comms, 2), (.comms, 6), (.timer, 3),
    (.vic, 3), (.vic, 4), (.vic, 5), (.vic, 12)]

/-- The words that start-up writes, the runtime's own slot apart. -/
def configuredWords : List (Block × Nat) :=
  [(.router, 0), (.timer, 0), (.timer, 2), (.timer, 3), (.timer, 6), (.vic, 3), (.vic, 4), (.vic, 5),
    (.vic, 64), (.vic, 65), (.vic, 66), (.vic, 128), (.vic, 129), (.vic, 130)]

/-- The words that start-up writes. -/
def Description.startingWords (d : Description) : List (Block × Nat) :=
  configuredWords ++ (if d.hasFastVector then [(.fastVector, 0)] else [])
    ++ if 0 ≤ d.runtimeSlot then [(.vic, vectorControlBase + d.runtimeSlot.toNat)] else []

section Calls

variable {d : Description} {words : List (Block × Nat)} {block : Block} {offset : Nat}

/-- A call that reads one word is confined to any words. -/
theorem confined_readWord (hinside : offset < block.size) (b : Board) :
    ∀ a ∈ (BoardProgram.readWord block offset).accesses b, a.Confined words :=
  List.forall_mem_singleton.mpr ⟨hinside, Bool.noConfusion⟩

/-- A call that writes one word is confined to words among which it is. -/
theorem confined_writeWord {value : UInt32} (hinside : offset < block.size)
    (hword : (block, offset) ∈ words) (b : Board) :
    ∀ a ∈ (BoardProgram.writeWord block offset value).accesses b, a.Confined words :=
  List.forall_mem_singleton.mpr ⟨hinside, fun _ => hword⟩

theorem confined_of_isHandling (c : Call) (hc : (Step.call c).isHandling = true) (b : Board) :
    ∀ a ∈ (d.program c).accesses b, a.Confined handlingWords := by
  cases c with
  | readRouter r => exact confined_readWord (by cases r <;> decide) b
  | writeRouter r value =>
    cases r with
    | control => exact confined_writeWord (by decide) (by decide) b
    | _ => exact Bool.noConfusion hc
  | writeComms r value => exact confined_writeWord (by cases r <;> decide) (by cases r <;> decide) b
  | writeTimer r value =>
    cases r with
    | interruptClear => exact confined_writeWord (by decide) (by decide) b
    | _ => exact Bool.noConfusion hc
  | writeVic r value => exact confined_writeWord (by cases r <;> decide) (by cases r <;> decide) b
  | maskFast | restoreFast saved | wait => exact fun _ h => absurd h List.not_mem_nil
  | readComms r | readClock | bind source => exact Bool.noConfusion hc

/-- Start-up writes the configured words. -/
theorem mem_startingWords {word : Block × Nat} (h : word ∈ configuredWords) :
    word ∈ d.startingWords :=
  List.mem_append_left _ (List.mem_append_left _ h)

/-- The accesses that install the handler of the fast interrupt. -/
theorem accesses_installFast (source : InterruptSource) (b : Board) :
    (d.installFast source).accesses b =
      ⟨.vic, 3, false⟩ :: (if d.hasFastVector then [⟨.fastVector, 0, true⟩] else [])
        ++ [⟨.vic, 3, true⟩] := by
  cases hfast : d.hasFastVector <;>
    simp [Description.installFast, BoardProgram.accesses, BoardProgram.writeWord, hfast, VicRegister.offset]

/-- The accesses that install a handler in a slot; the runtime's own slot is cleared first. -/
theorem accesses_installVectored (source : InterruptSource) (slot : Nat) (b : Board) :
    (d.installVectored source slot).accesses b =
      ⟨.vic, 3, false⟩ ::
        (if source = .command ∧ 0 ≤ d.runtimeSlot then
          [⟨.vic, vectorControlBase + d.runtimeSlot.toNat, true⟩]
        else
          [])
        ++ [⟨.vic, vectorAddressBase + slot, true⟩, ⟨.vic, vectorControlBase + slot, true⟩,
          ⟨.vic, 3, true⟩] := by
  by_cases hcommand : source = .command <;> by_cases hruntime : 0 ≤ d.runtimeSlot <;>
    simp [Description.installVectored, Description.clearRuntimeSlot, BoardProgram.accesses,
      BoardProgram.writeWord, hcommand, hruntime, VicRegister.offset]

/-- Writing a configured word is confined. -/
theorem confined_configured (hword : (block, offset) ∈ configuredWords) :
    (⟨block, offset, true⟩ : WordAccess).Confined d.startingWords := by
  have hinside : ∀ word ∈ configuredWords, word.2 < word.1.size := by decide
  exact ⟨hinside _ hword, fun _ => mem_startingWords hword⟩

theorem confined_readSelect : (⟨.vic, 3, false⟩ : WordAccess).Confined words :=
  ⟨by decide, Bool.noConfusion⟩

theorem confined_installFast (source : InterruptSource) (b : Board) :
    ∀ a ∈ (d.installFast source).accesses b, a.Confined d.startingWords := by
  rw [accesses_installFast, List.forall_mem_append, List.forall_mem_cons]
  refine ⟨⟨confined_readSelect, ?_⟩, List.forall_mem_singleton.mpr (confined_configured (by decide))⟩
  split
  · rename_i hfast
    have hword : (.fastVector, 0) ∈ d.startingWords :=
      List.mem_append_left _ (List.mem_append_right _ (by simp [hfast]))
    exact List.forall_mem_singleton.mpr ⟨by decide, fun _ => hword⟩
  · exact fun _ h => absurd h List.not_mem_nil

/-- The runtime's own slot is inside the block, whichever it is. -/
theorem confined_installVectored (hslot : d.runtimeSlot < 128) (source : InterruptSource) {slot : Nat}
    (haddress : (.vic, vectorAddressBase + slot) ∈ configuredWords)
    (hcontrol : (.vic, vectorControlBase + slot) ∈ configuredWords) (b : Board) :
    ∀ a ∈ (d.installVectored source slot).accesses b, a.Confined d.startingWords := by
  rw [accesses_installVectored, List.forall_mem_append, List.forall_mem_cons]
  refine ⟨⟨confined_readSelect, ?_⟩, ?_⟩
  · split
    · rename_i hruntime
      have hinside : vectorControlBase + d.runtimeSlot.toNat < Block.vic.size := by
        have hsize : Block.vic.size = vectorControlBase + 128 := rfl
        omega
      have hword : (.vic, vectorControlBase + d.runtimeSlot.toNat) ∈ d.startingWords :=
        List.mem_append_right _ (by simp [hruntime.2])
      exact List.forall_mem_singleton.mpr ⟨hinside, fun _ => hword⟩
    · exact fun _ h => absurd h List.not_mem_nil
  · rw [List.forall_mem_cons, List.forall_mem_cons, List.forall_mem_singleton]
    exact ⟨confined_configured haddress, confined_configured hcontrol, confined_configured (by decide)⟩

theorem confined_install (hslot : d.runtimeSlot < 128) (source : InterruptSource) (b : Board) :
    ∀ a ∈ (d.install source).accesses b, a.Confined d.startingWords := by
  cases source with
  | droppedPacket => exact confined_installFast .droppedPacket b
  | timerTick => exact confined_installVectored hslot .timerTick (by decide) (by decide) b
  | transmitterReady => exact confined_installVectored hslot .transmitterReady (by decide) (by decide) b
  | command => exact confined_installVectored hslot .command (by decide) (by decide) b

theorem confined_of_isStarting (hslot : d.runtimeSlot < 128) (c : Call)
    (hc : (Step.call c).isStarting = true) (b : Board) :
    ∀ a ∈ (d.program c).accesses b, a.Confined d.startingWords := by
  cases c with
  | readRouter r => exact confined_readWord (by cases r <;> decide) b
  | readComms r => exact confined_readWord (by cases r <;> decide) b
  | writeRouter r value =>
    cases r with
    | control => exact confined_writeWord (by decide) (mem_startingWords (by decide)) b
    | _ => exact Bool.noConfusion hc
  | writeTimer r value =>
    exact confined_writeWord (by cases r <;> decide) (mem_startingWords (by cases r <;> decide)) b
  | writeVic r value =>
    cases r with
    | enable | disable => exact confined_writeWord (by decide) (mem_startingWords (by decide)) b
    | select | vectorAddress => exact Bool.noConfusion hc
  | readClock => exact fun _ h => absurd h List.not_mem_nil
  | bind source => exact confined_install hslot source b
  | writeComms r value | maskFast | restoreFast saved | wait => exact Bool.noConfusion hc

end Calls

end PacketReinjection.Mapped
