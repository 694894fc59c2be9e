import PacketReinjection.Command.Handler
import PacketReinjection.Handlers
import PacketReinjection.Idle
import PacketReinjection.Mapped.Hardware

/-!
# `EntryPoints` — the functions that start-up code and interrupt vectors call

There is one engine. It comes into being with the first successful initialisation and is
never replaced; until then the interrupt entries do nothing.

## Contents
- **`EntryStatus`** — the codes that the functions return.
- **`Firmware`** — the board and the engine, if there is one yet.
- **Lifecycle.** `initialise`, `startEngine`, `isRunning`, `runEngine`.
- **Interrupts and messages.** `interrupt`, `handleMessage`.
-/

namespace PacketReinjection

open Mapped

/-! ## Status codes -/

/-- How a function ended. -/
inductive EntryStatus where
  | ok
  | failed
  | nullPointer
  | notInitialised
  | alreadyInitialised
  /-- The frame gets no reply. -/
  | discarded
  | bufferTooSmall
  deriving DecidableEq, Inhabited

namespace EntryStatus

/-- The code of a status: zero, or negative. -/
def code : EntryStatus → Int
  | ok => 0
  | failed => -1
  | nullPointer => -2
  | notInitialised => -3
  | alreadyInitialised => -4
  | discarded => -5
  | bufferTooSmall => -6

/-- The status of a control error. -/
def ofError : ControlError → EntryStatus
  | .bufferTooSmall _ _ => bufferTooSmall
  | .truncated _ | .otherPort _ => discarded
  | _ => failed

end EntryStatus

/-! ## The firmware -/

/-- The board, the log, and the engine with the description that it was built from. -/
structure Firmware where
  board : Board
  events : List Event
  engine : Option (Description × Engine)

namespace Firmware

/-- Firmware that has just been loaded. -/
def fresh : Firmware := ⟨Board.zeroed, [], none⟩

/-- The engine on its hardware, if there is one yet. -/
def node? (p : Firmware) : Option (Node MappedHardware) :=
  p.engine.map fun (description, engine) => ⟨⟨description, p.board⟩, engine, p.events⟩

/-- The firmware around an engine on its hardware. -/
def ofNode (n : Node MappedHardware) : Firmware :=
  ⟨n.hardware.board, n.events, some (n.hardware.description, n.engine)⟩

/-- Run a routine on the engine, if there is one yet. -/
def run? {α : Type} (p : Firmware) (r : Routine α) : Option (α × Firmware) :=
  p.node?.map fun n => let result := r.run n; (result.1, ofNode result.2)

/-! ## Lifecycle -/

/-- Build the engine. A missing description is noticed before a second initialisation, and that before
    an incomplete description. -/
def initialise (description : Option Description) (p : Firmware) : EntryStatus × Firmware :=
  match description with
  | none => (.nullPointer, p)
  | some d =>
    if p.engine.isSome then
      (.alreadyInitialised, p)
    else if d.isComplete then
      (.ok, { p with engine := some (d, Engine.fresh EngineConfig.standard) })
    else
      (.nullPointer, p)

/-- Configure the hardware and enable the interrupts. -/
def startEngine (p : Firmware) : EntryStatus × Firmware :=
  match p.run? start with
  | some ((), p) => (.ok, p)
  | none => (.notInitialised, p)

/-- Whether there is an engine and it runs. -/
def isRunning (p : Firmware) : Bool :=
  p.engine.any fun (_, engine) => engine.running

/-- Sleep until the exit command arrives; the wakes are what the interrupts do meanwhile. -/
def runEngine {α : Type} (last : Firmware → α × Firmware) (wakes : List (Firmware → α × Firmware))
    (p : Firmware) : EntryStatus × List α × Firmware :=
  if p.engine.isSome then
    (.ok, idleLoop isRunning (fun p => ((p.run? Routine.waitForInterrupt).map (·.2)).getD p) last
      wakes p)
  else
    (.notInitialised, [], p)

/-! ## Interrupts and messages -/

/-- The entry of an interrupt line. -/
def interrupt (source : InterruptSource) (p : Firmware) : Firmware :=
  ((p.run? (dispatch source)).map (·.2)).getD p

/-- What handling a message left behind. -/
structure Handled where
  status : EntryStatus
  /-- The length of the reply, where one was written. -/
  replyLength : Option Nat
  buffer : List UInt8
  deriving DecidableEq

/-- Handle the frame in the first `length` bytes of a buffer and write the reply to its front. The
    caller may use `capacity` bytes of the buffer; a missing buffer or a missing place for the reply's
    length is noticed first. The frame is carried out before it is known whether its reply fits. -/
def handleMessage (hasBuffer hasLengthSlot : Bool) (buffer : List UInt8) (length capacity : Nat)
    (p : Firmware) : Handled × Firmware :=
  if !hasBuffer || !hasLengthSlot then
    (⟨.nullPointer, none, buffer⟩, p)
  else if length > capacity then
    (⟨.bufferTooSmall, none, buffer⟩, p)
  else
    match p.run? (handleFrame (buffer.take length)) with
    | none => (⟨.notInitialised, none, buffer⟩, p)
    | some (none, p) => (⟨.discarded, none, buffer⟩, p)
    | some (some reply, p) =>
      match reply.writeTo (buffer.take capacity) with
      | .ok (n, written) => (⟨.ok, some n, written ++ buffer.drop capacity⟩, p)
      | .error error => (⟨EntryStatus.ofError error, none, buffer⟩, p)

end Firmware

end PacketReinjection
