import PacketReinjection.Proofs.Mapped.Startup

/-!
# `Proofs.Mapped.Footprint` — after start-up ten words can change

Once a node over memory-mapped registers is started, whatever comes — interrupts, messages, polls, sleep,
in any order — the engine writes ten words at most and leaves no block. The registers themselves are
somebody else's as well: status bits and dump registers change from outside between two activities. A word
that is none of the ten is at any time what those changes alone make of it.

## Contents
- **`Activity`** with `routine`, `fromOutside` and `perform` — what can happen after start-up.
- **`performActivities`**, **`activityAccesses`**, **`changesFromOutside`** — activities in a row.
- **`Stays`** — the footprint of activities; `stays_activities`, by induction from `read_perform`.
- **`start_up_footprint`**.
-/

namespace PacketReinjection.Mapped

open Routine

/-! ## Activities -/

/-- What can happen on a node after start-up. -/
inductive Activity where
  /-- Something other than a start-up is asked of the engine. -/
  | operation (op : Operation) (notStart : op.isStart = false)
  /-- The engine takes the frames that wait. -/
  | poll (frames : List CommandFrame)
  /-- The idle loop sleeps. -/
  | sleep
  /-- A word changes from outside. -/
  | outside (block : Block) (offset : Nat) (value : UInt32)

namespace Activity

/-- What the engine does. -/
def routine : Activity → Routine Unit
  | operation op _ => do let _ ← op.routine
  | poll frames => do let _ ← pollFrames frames
  | sleep => waitForInterrupt
  | outside _ _ _ => return ()

/-- What is done to the memory from outside. -/
def fromOutside (m : Memory) : Activity → Memory
  | outside block offset value => m.write block offset value
  | operation _ _ | poll _ | sleep => m

/-- The node after an activity. -/
def perform (n : Node MappedHardware) (a : Activity) : Node MappedHardware :=
  let r := (a.routine.run n).2
  let board := { r.hardware.board with memory := a.fromOutside (memoryOf r) }
  { r with hardware := { r.hardware with board := board } }

/-- No activity is a start-up. -/
theorem only_routine (a : Activity) : a.routine.Only Step.isHandling := by
  cases a with
  | operation op notStart => exact only_bind (only_operation notStart) fun _ => trivial
  | poll frames => exact only_bind (isHandling_of_message (only_pollFrames frames)) fun _ => trivial
  | sleep => exact ⟨rfl, fun _ => trivial⟩
  | outside block offset value => exact trivial

end Activity

/-- The node after activities, one after the other. -/
def performActivities (activities : List Activity) (n : Node MappedHardware) : Node MappedHardware :=
  activities.foldl Activity.perform n

/-- The engine's accesses during activities, in their order. -/
def activityAccesses : List Activity → Node MappedHardware → List WordAccess
  | [], _ => []
  | a :: rest, n => routineAccesses a.routine n ++ activityAccesses rest (a.perform n)

/-- The memory that the changes from outside alone would leave. -/
def changesFromOutside (activities : List Activity) (m : Memory) : Memory :=
  activities.foldl Activity.fromOutside m

/-! ## One activity -/

/-- An activity stays inside the blocks and writes the words of handlers only. -/
theorem confined_activity (a : Activity) (n : Node MappedHardware) :
    ∀ access ∈ routineAccesses a.routine n, access.Confined handlingWords :=
  confined_of_only confined_of_isHandling a.only_routine rfl

section Words

variable {block : Block} {offset : Nat}

/-- A word that is alike in two memories is alike after the same change from outside. -/
theorem read_fromOutside {m m' : Memory} (hsame : m.read block offset = m'.read block offset)
    (a : Activity) : (a.fromOutside m).read block offset = (a.fromOutside m').read block offset := by
  cases a with
  | outside block' offset' value =>
    show (m.write block' offset' value).read block offset = (m'.write block' offset' value).read block offset
    rw [Memory.read_write, Memory.read_write, hsame]
  | operation _ _ | poll _ | sleep => exact hsame

/-- **One activity**: a word that no handler writes changes from outside only. -/
theorem read_perform (hword : (block, offset) ∉ handlingWords) (a : Activity) (n : Node MappedHardware) :
    (memoryOf (a.perform n)).read block offset = (a.fromOutside (memoryOf n)).read block offset := by
  have hunwritten : ⟨block, offset, true⟩ ∉ routineAccesses a.routine n := by
    intro haccess
    exact hword ((confined_activity a n _ haccess).written rfl)
  exact read_fromOutside (read_run a.routine n hunwritten) a

end Words

/-! ## Activities in a row -/

/-- The footprint of activities on a node. -/
structure Stays (activities : List Activity) (n : Node MappedHardware) : Prop where
  /-- No access is outside its block. -/
  inside : ∀ a ∈ activityAccesses activities n, a.offset < a.block.size
  /-- The ten words are written, and no others. -/
  written : ∀ a ∈ activityAccesses activities n,
    a.isWrite = true → (a.block, a.offset) ∈ handlingWords
  /-- Every other word is what the changes from outside make of it. -/
  unchanged : ∀ block offset, (block, offset) ∉ handlingWords →
    (memoryOf (performActivities activities n)).read block offset
      = (changesFromOutside activities (memoryOf n)).read block offset

theorem confined_activities (activities : List Activity) (n : Node MappedHardware) :
    ∀ access ∈ activityAccesses activities n, access.Confined handlingWords := by
  induction activities generalizing n with
  | nil => exact fun _ h => absurd h List.not_mem_nil
  | cons a rest ih => exact List.forall_mem_append.mpr ⟨confined_activity a n, ih (a.perform n)⟩

theorem read_performActivities {block : Block} {offset : Nat} (hword : (block, offset) ∉ handlingWords)
    (activities : List Activity) (n : Node MappedHardware) {m : Memory}
    (hsame : (memoryOf n).read block offset = m.read block offset) :
    (memoryOf (performActivities activities n)).read block offset
      = (changesFromOutside activities m).read block offset := by
  -- The reference memory follows the changes from outside while the node does everything.
  induction activities generalizing n m with
  | nil => exact hsame
  | cons a rest ih =>
    exact ih (a.perform n) ((read_perform hword a n).trans (read_fromOutside hsame a))

/-- **The footprint of any activities**, from any state of the node. -/
theorem stays_activities (activities : List Activity) (n : Node MappedHardware) : Stays activities n where
  inside a ha := (confined_activities activities n a ha).inside
  written a ha := (confined_activities activities n a ha).written
  unchanged _ _ hword := read_performActivities hword activities n rfl

/-! ## Start-up and after -/

/-- The accesses of start-up. -/
theorem confined_start (n : Node MappedHardware) (hslot : n.hardware.description.runtimeSlot < 128) :
    ∀ a ∈ routineAccesses start n, a.Confined n.hardware.description.startingWords :=
  confined_of_only (confined_of_isStarting hslot) only_start rfl

/-- **Start-up and everything after it.** Whatever the blocks hold and wherever the runtime's own slot is,
    start-up installs the vectors and leaves no block; and whatever happens then, ten words at most are
    written and no block is left. -/
theorem start_up_footprint (n : Node MappedHardware)
    (hslot : n.hardware.description.runtimeSlot < 128) :
    Installed n.hardware.description (memoryOf n) (memoryOf (start.run n).2)
      ∧ (∀ a ∈ routineAccesses start n, a.offset < a.block.size)
      ∧ ∀ activities, Stays activities (start.run n).2 := by
  refine ⟨installed_start n hslot, ?_, ?_⟩
  · intro a ha
    exact (confined_start n hslot a ha).inside
  · intro activities
    exact stays_activities activities (start.run n).2

/-- The runtime's own slot is one that start-up fills, every line was fast before, and then a dump
    register changes from outside and is captured. -/
theorem start_up_footprint_slot_one :
    let d : Description :=
      ⟨true, true, true, true, true, true, true, true, 200, 1, 0x11, 0x22, 0x33, 0x44⟩
    let n : Node MappedHardware :=
      Node.fresh ⟨d, Board.zeroed.write .vic 3 0xffffffff⟩ EngineConfig.standard
    d.runtimeSlot < 128 ∧ Installed d (memoryOf n) (memoryOf (start.run n).2)
      ∧ Stays [.outside .router 6 0x00020000, .operation .capture rfl, .sleep] (start.run n).2 := by
  intro d n
  have hslot : n.hardware.description.runtimeSlot < 128 := by decide
  have hfootprint := start_up_footprint n hslot
  exact ⟨hslot, hfootprint.1, hfootprint.2.2 _⟩

end PacketReinjection.Mapped
