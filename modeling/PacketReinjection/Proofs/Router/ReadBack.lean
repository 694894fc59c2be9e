import PacketReinjection.Mapped.Hardware
import PacketReinjection.Proofs.Mapped.Memory
import PacketReinjection.Simulation.Hardware

/-!
# `Proofs.Router.ReadBack` — a control register that reads back what was written

What the router's monitor promises about the control register presupposes that the register keeps what is
written to it. The simulated router does, and so do memory-mapped registers over plain memory; a platform
with scripted answers does not.

## Contents
- **`ReadsBack`** — the control word of a platform, with its laws.
- **Instances.** Simulated nodes and memory-mapped hardware.
-/

namespace PacketReinjection.Router

/-- Hardware whose control register holds the word that was last written to it. -/
class ReadsBack (S : Type) [Platform S] where
  /-- The control word. -/
  control : S → UInt32
  /-- A read shows the word. -/
  read_control : ∀ s, (Platform.call (.readRouter .control) s).1 = control s
  /-- No read of a router register changes it. -/
  control_read : ∀ r s, control (Platform.call (.readRouter r) s).2 = control s
  /-- A write replaces it. -/
  control_write : ∀ value s, control (Platform.call (.writeRouter .control value) s).2 = value

instance : ReadsBack Simulation where
  control s := s.routerControl
  read_control _ := rfl
  control_read r _ := by cases r <;> rfl
  control_write _ _ := rfl

instance : ReadsBack Mapped.MappedHardware where
  control h := h.board.memory.read .router RouterRegister.control.offset
  read_control _ := rfl
  control_read _ _ := rfl
  control_write value h :=
    Mapped.Memory.read_write_self (by decide : RouterRegister.control.offset < Mapped.Block.router.size)
      h.board.memory value

end PacketReinjection.Router
