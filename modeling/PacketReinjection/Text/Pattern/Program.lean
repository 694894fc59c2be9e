import PacketReinjection.Text.Pattern.Basic

/-!
# `Text.Pattern.Program` — patterns as instructions

A pattern becomes a list of instructions, each of which names the instructions that come after it. They are
written from the end of the pattern to its start, so that the next instruction is always known; only a loop
names an instruction before it is complete.

## Contents
- **`Instruction`** — a step of a match; `successors` gives where it leads from a spot.
- **`Program`** — instructions by their number.
- **`Pattern.compile`** — the instructions of a pattern in front of those of what follows it.
-/

namespace PacketReinjection.Text

/-- A step of a match. -/
inductive Instruction where
  /-- The match is complete. -/
  | accept
  | one (s : CharSet) (next : Nat)
  | anchor (a : Anchor) (next : Nat)
  /-- Two ways to go on, rather the first. -/
  | fork (first second : Nat)
  | openGroup (index next : Nat)
  | closeGroup (index next : Nat)
  deriving DecidableEq

/-- Where an instruction leads from a spot, the preferred way first. -/
def Instruction.successors (i : Instruction) (s : Spot) : List (Nat × Spot) :=
  match i with
  | accept => []
  | one set next =>
    match s.after with
    | [] => []
    | c :: rest => if set.contains c then [(next, s.advance c rest)] else []
  | anchor a next => if s.satisfies a then [(next, s)] else []
  | fork first second => [(first, s), (second, s)]
  | openGroup index next => [(next, s.openGroup index)]
  | closeGroup index next => [(next, s.closeGroup index)]

/-- Instructions by their number. -/
abbrev Program := Array Instruction

/-- Append an instruction; its number, and the program with it. -/
def Program.emit (program : Program) (i : Instruction) : Nat × Program :=
  (program.size, program.push i)

/-- A way to go on with a turn or to leave, in the order that suits the quantifier. -/
def Instruction.turn (greedy : Bool) (body next : Nat) : Instruction :=
  if greedy then fork body next else fork next body

namespace Pattern

/-- What writes the instructions of a pattern in front of `next`: the number of the first of them, and the
    program with them. -/
abbrev Compiler := Nat → Program → Nat × Program

/-- Exactly `n` turns. -/
def compileExactly (body : Compiler) : Nat → Compiler
  | 0, next, program => (next, program)
  | n + 1, next, program =>
    let (rest, program) := compileExactly body n next program
    body rest program

/-- At most `n` turns, before each of which the match can leave. -/
def compileUpTo (body : Compiler) (greedy : Bool) : Nat → Compiler
  | 0, next, program => (next, program)
  | n + 1, next, program =>
    let (rest, program) := compileUpTo body greedy n next program
    let (first, program) := body rest program
    program.emit (.turn greedy first next)

/-- One turn or more: the first instruction of the turn that is repeated, after each of which the match can
    leave. -/
def compileLoop (body : Compiler) (greedy : Bool) : Compiler := fun next program =>
  let (again, program) := program.emit (.fork next next)
  let (first, program) := body again program
  (first, program.setIfInBounds again (.turn greedy first next))

/-- The instructions of a pattern in front of the instruction `next`. -/
def compile : Pattern → Compiler
  | empty, next, program => (next, program)
  | one set, next, program => program.emit (.one set next)
  | anchor a, next, program => program.emit (.anchor a next)
  | seq p q, next, program =>
    let (second, program) := q.compile next program
    p.compile second program
  | alt p q, next, program =>
    let (second, program) := q.compile next program
    let (first, program) := p.compile next program
    program.emit (.fork first second)
  | repeated p least (some most) greedy, next, program =>
    let (rest, program) := compileUpTo p.compile greedy (most - least) next program
    compileExactly p.compile least rest program
  | repeated p 0 none greedy, next, program =>
    let (first, program) := compileLoop p.compile greedy next program
    program.emit (.turn greedy first next)
  | repeated p (least + 1) none greedy, next, program =>
    let (first, program) := compileLoop p.compile greedy next program
    compileExactly p.compile least first program
  | group index p, next, program =>
    let (close, program) := program.emit (.closeGroup index next)
    let (body, program) := p.compile close program
    program.emit (.openGroup index body)

/-- The first instruction of a pattern and the program of the whole. -/
def toProgram (p : Pattern) : Nat × Program := p.compile 0 #[.accept]

end Pattern

end PacketReinjection.Text
