import PacketReinjection.Mapped.Memory
import PacketReinjection.Platform

/-!
# `Mapped.Hardware` — memory-mapped registers

Registers are words of memory blocks. Masking the fast interrupt and waiting need processor
instructions, so they are callbacks, and handlers are installed by writing the addresses of their
entry code into the interrupt controller.

## Contents
- **`Description`** — which blocks and callbacks there are, the clock, and the entry addresses;
  `isComplete` says whether a platform can be built over it.
- **`Board`** — the memory and the processor's callbacks, the part of the platform that is outside.
- **`BoardProgram`** — words read and written and callbacks run, one after the other.
- **`Description.program`** — what each call does to the board.
- **`MappedHardware`** — the platform.
-/

namespace PacketReinjection.Mapped

/-! ## Description -/

/-- What the start-up code hands over. -/
structure Description where
  hasRouter : Bool
  hasComms : Bool
  hasTimer : Bool
  hasVic : Bool
  /-- Missing when the fast interrupt's vector is fixed. -/
  hasFastVector : Bool
  hasMaskCallback : Bool
  hasRestoreCallback : Bool
  hasWaitCallback : Bool
  clockMegahertz : UInt32
  /-- The slot of the message handler that the runtime installed itself; negative for none. -/
  runtimeSlot : Int
  /-- The address of a line's entry code; zero for none. -/
  droppedPacketEntry : UInt64
  timerTickEntry : UInt64
  transmitterReadyEntry : UInt64
  commandEntry : UInt64
  deriving DecidableEq

namespace Description

/-- Whether every block and callback is there that the platform cannot do without. -/
def isComplete (d : Description) : Bool :=
  d.hasRouter && d.hasComms && d.hasTimer && d.hasVic
    && d.hasMaskCallback && d.hasRestoreCallback && d.hasWaitCallback

/-- The address of a line's entry code as it is stored: its low 32 bits. -/
def entryAddress (d : Description) : InterruptSource → UInt32
  | .droppedPacket => d.droppedPacketEntry.toUInt32
  | .timerTick => d.timerTickEntry.toUInt32
  | .transmitterReady => d.transmitterReadyEntry.toUInt32
  | .command => d.commandEntry.toUInt32

end Description

/-! ## The board -/

/-- A callback that was run. -/
inductive CallbackCall where
  | maskFast (answer : UInt32)
  | restoreFast (saved : UInt32)
  | wait
  deriving DecidableEq

/-- The memory and the processor's callbacks. -/
structure Board where
  memory : Memory
  /-- The answers to come from masking the fast interrupt. -/
  maskAnswers : List UInt32
  /-- The callbacks run so far, oldest first. -/
  calls : List CallbackCall
  deriving DecidableEq

namespace Board

/-- A board with every word zero. -/
def zeroed : Board := ⟨Memory.zeroed, [], []⟩

/-- Write a word of a block. -/
def write (b : Board) (block : Block) (offset : Nat) (value : UInt32) : Board :=
  { b with memory := b.memory.write block offset value }

/-- Record that a callback was run. -/
def record (b : Board) (call : CallbackCall) : Board :=
  { b with calls := b.calls ++ [call] }

end Board

/-! ## Board programs -/

/-- What a call does to the board: words are read and written and callbacks run, one after the other, and
    then there is an answer. -/
inductive BoardProgram (α : Type) where
  | done (a : α)
  | read (block : Block) (offset : Nat) (next : UInt32 → BoardProgram α)
  | write (block : Block) (offset : Nat) (value : UInt32) (next : BoardProgram α)
  | maskFast (next : UInt32 → BoardProgram α)
  | restoreFast (saved : UInt32) (next : BoardProgram α)
  | wait (next : BoardProgram α)

namespace BoardProgram

variable {α : Type}

/-- Read a word and end with it. -/
def readWord (block : Block) (offset : Nat) : BoardProgram UInt32 := read block offset done

/-- Write a word and end. -/
def writeWord (block : Block) (offset : Nat) (value : UInt32) : BoardProgram Unit :=
  write block offset value (done ())

/-- Run a program on a board. -/
def run : BoardProgram α → Board → α × Board
  | done a, b => (a, b)
  | read block offset next, b => (next (b.memory.read block offset)).run b
  | write block offset value next, b => next.run (b.write block offset value)
  | maskFast next, b =>
    let answer := nextAnswer b.maskAnswers
    (next answer.1).run ({ b with maskAnswers := answer.2 }.record (.maskFast answer.1))
  | restoreFast saved next, b => next.run (b.record (.restoreFast saved))
  | wait next, b => next.run (b.record .wait)

end BoardProgram

/-! ## The platform -/

/-- The word offset of the first vector address at the interrupt controller. -/
def vectorAddressBase : Nat := 64

/-- The word offset of the first vector control word at the interrupt controller. -/
def vectorControlBase : Nat := 128

/-- The bit of a vector control word that enables its slot. -/
def vectorEnable : UInt32 := 0x20

namespace Description

open BoardProgram

/-- Install the handler of the fast interrupt through its vector, if there is one. -/
def installFast (d : Description) (source : InterruptSource) : BoardProgram Unit :=
  read .vic VicRegister.select.offset fun select =>
    let selected := writeWord .vic VicRegister.select.offset (select ||| source.mask)
    if d.hasFastVector then
      write .fastVector 0 (d.entryAddress source) selected
    else
      selected

/-- Clear the slot of the runtime's own message handler, if there is one, and go on. -/
def clearRuntimeSlot (d : Description) (next : BoardProgram Unit) : BoardProgram Unit :=
  if 0 ≤ d.runtimeSlot then
    write .vic (vectorControlBase + d.runtimeSlot.toNat) 0 next
  else
    next

/-- Install the handler of a vectored interrupt in a slot. The runtime's own message handler goes before
    the command handler comes. -/
def installVectored (d : Description) (source : InterruptSource) (slot : Nat) : BoardProgram Unit :=
  read .vic VicRegister.select.offset fun select =>
    let installed :=
      write .vic (vectorAddressBase + slot) (d.entryAddress source)
        (write .vic (vectorControlBase + slot) (vectorEnable ||| source.line)
          (writeWord .vic VicRegister.select.offset (select &&& ~~~source.mask)))
    if source = .command then d.clearRuntimeSlot installed else installed

/-- Install the handler of a line at its priority. -/
def install (d : Description) (source : InterruptSource) : BoardProgram Unit :=
  match source.priority with
  | .fast => d.installFast source
  | .standard slot => d.installVectored source slot

/-- What a call does to the board. -/
def program (d : Description) : (c : Call) → BoardProgram c.Answer
  | .readRouter r => readWord .router r.offset
  | .writeRouter r value => writeWord .router r.offset value
  | .readComms r => readWord .comms r.offset
  | .writeComms r value => writeWord .comms r.offset value
  | .writeTimer r value => writeWord .timer r.offset value
  | .writeVic r value => writeWord .vic r.offset value
  | .maskFast => maskFast done
  | .restoreFast saved => restoreFast saved (done ())
  | .readClock => done d.clockMegahertz
  | .bind source => d.install source
  | .wait => wait (done ())

end Description

/-- Memory-mapped hardware. -/
structure MappedHardware where
  description : Description
  board : Board
  deriving DecidableEq

namespace MappedHardware

/-- The platform over a description, unless something is missing. -/
def ofDescription? (d : Description) (board : Board) : Option MappedHardware :=
  if d.isComplete then some ⟨d, board⟩ else none

/-- The answer to a call and the state after it. -/
def answer (c : Call) (h : MappedHardware) : c.Answer × MappedHardware :=
  let r := (h.description.program c).run h.board
  (r.1, { h with board := r.2 })

instance : Platform MappedHardware := ⟨answer⟩

end MappedHardware

end PacketReinjection.Mapped
