/-!
# `Mapped.Memory` — the register blocks as memory

Every block is a run of words, and the vector of the fast interrupt is a single word of its own.

## Contents
- **`Block`** — the blocks with their `size` in words.
- **`Memory`** — their contents, with `read` and `write` by block and word offset.
- **`changedWords`** — where two memories differ.
-/

namespace PacketReinjection.Mapped

/-- The register blocks. -/
inductive Block where
  | router
  | comms
  | timer
  | vic
  /-- The word that holds the address of the fast interrupt's entry. -/
  | fastVector
  deriving DecidableEq, Inhabited

namespace Block

/-- The blocks in their order. -/
def all : List Block := [router, comms, timer, vic, fastVector]

/-- The words of a block. -/
def size : Block → Nat
  | router => 16
  | comms => 8
  | timer => 8
  | vic => 256
  | fastVector => 1

end Block

/-- The contents of the blocks. -/
structure Memory where
  router : Vector UInt32 Block.router.size
  comms : Vector UInt32 Block.comms.size
  timer : Vector UInt32 Block.timer.size
  vic : Vector UInt32 Block.vic.size
  fastVector : Vector UInt32 Block.fastVector.size
  deriving DecidableEq

namespace Memory

/-- Every word zero. -/
def zeroed : Memory where
  router := Vector.replicate _ 0
  comms := Vector.replicate _ 0
  timer := Vector.replicate _ 0
  vic := Vector.replicate _ 0
  fastVector := Vector.replicate _ 0

/-- The words of a block. -/
def words (m : Memory) : (b : Block) → Vector UInt32 b.size
  | .router => m.router
  | .comms => m.comms
  | .timer => m.timer
  | .vic => m.vic
  | .fastVector => m.fastVector

/-- Read a word. No word lies outside a block: such a read gives zero. -/
def read (m : Memory) (b : Block) (offset : Nat) : UInt32 :=
  (m.words b)[offset]?.getD 0

/-- Write a word. No word lies outside a block: such a write changes nothing. -/
def write (m : Memory) (b : Block) (offset : Nat) (value : UInt32) : Memory :=
  match b with
  | .router => { m with router := m.router.setIfInBounds offset value }
  | .comms => { m with comms := m.comms.setIfInBounds offset value }
  | .timer => { m with timer := m.timer.setIfInBounds offset value }
  | .vic => { m with vic := m.vic.setIfInBounds offset value }
  | .fastVector => { m with fastVector := m.fastVector.setIfInBounds offset value }

end Memory

/-- The words of the second memory that differ from the first, block by block and by offset. -/
def changedWords (before after : Memory) : List (Block × Nat × UInt32) :=
  Block.all.flatMap fun b =>
    (List.range b.size).filterMap fun offset =>
      let value := after.read b offset
      if before.read b offset = value then none else some (b, offset, value)

end PacketReinjection.Mapped
