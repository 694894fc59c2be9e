import PacketReinjection.Proofs.Masks
import PacketReinjection.Proofs.Simulation.Registers

/-!
# `Proofs.Simulation.Startup` — start-up brings any state to the same configuration

A node may be started again in the middle of its work: with packets queued, the transmitter armed, a dump
latched and another lost, other wait fields and classes set by commands, or after an exit. What start-up
leaves is the configuration, whatever there was before; and what the configuration does not speak of is
as it was before. Once the node is configured, starting it again changes nothing.

## Contents
- **Numbers and bits.** `toNat_saturatingMul`; `withoutOwned_or_standing`, `configured_configured`.
- **`Simulation.started_started`** — the hardware after a second start-up.
- **`StartedFrom`** — what start-up leaves, and **`startedFrom_start`**.
- **`start_from_any_state`**.
-/

namespace PacketReinjection

open Routine

/-! ## Numbers and bits -/

/-- A product that does not fit is the largest word. -/
theorem toNat_saturatingMul (a b : UInt32) :
    (saturatingMul a b).toNat = min (a.toNat * b.toNat) (2 ^ 32 - 1) := by
  have hsize : UInt32.size = 2 ^ 32 := rfl
  unfold saturatingMul
  split
  · rename_i hfits
    rw [UInt32.toNat_mul, Nat.mod_eq_of_lt (by omega)]
    omega
  · rename_i hlarge
    rw [Nat.min_eq_right (by omega)]
    rfl

/-- The standing lines are enabled, the transmitter's is not, and no other line changes. -/
theorem withoutOwned_or_standing (mask : UInt32) :
    withoutOwned mask ||| InterruptSource.standingMask
      = (mask ||| InterruptSource.standingMask) &&& ~~~InterruptSource.transmitterReady.mask := by
  apply word_eq_of_bits
  intro i hi
  interval_cases i <;>
    simp [withoutOwned, InterruptSource.standingMask, InterruptSource.mask, InterruptSource.line]

/-- The enables after a second start-up. -/
theorem withoutOwned_or_standing_idem (mask : UInt32) :
    withoutOwned (withoutOwned mask ||| InterruptSource.standingMask) ||| InterruptSource.standingMask
      = withoutOwned mask ||| InterruptSource.standingMask := by
  apply word_eq_of_bits
  intro i hi
  interval_cases i <;>
    simp [withoutOwned, InterruptSource.standingMask, InterruptSource.mask, InterruptSource.line]

/-- Configuring once more makes no difference. -/
theorem Router.configured_configured (control : UInt32) (primary emergency : UInt8) :
    configured (configured control primary emergency) primary emergency
      = configured control primary emergency := by
  rw [configured, configured_and_preserved, configured, UInt32.or_assoc, UInt32.or_assoc, UInt32.or_assoc,
    UInt32.or_comm dumpEnableMask, UInt32.or_assoc, UInt32.or_self]

/-- **The hardware after a second start-up**: the handlers are installed once more, and that is all. -/
theorem Simulation.started_started (s : Simulation) (config : EngineConfig) :
    (s.started config).started config =
      { s.started config with bindings := ((s.started config).started config).bindings } := by
  have hselect (word : UInt32) :
      word ||| InterruptSource.droppedPacket.mask ||| InterruptSource.droppedPacket.mask
        = word ||| InterruptSource.droppedPacket.mask := by
    rw [UInt32.or_assoc, UInt32.or_self]
  simp only [started, released, Router.configured_configured, withoutOwned_or_standing_idem, hselect]

/-! ## After a start-up -/

/-- What start-up leaves of a node in any state. -/
structure StartedFrom (n n' : Node Simulation) : Prop where
  /-- The configured wait fields, counters at zero, and the configured classes. -/
  status : (reportStatus.run n').1.words =
    [n.engine.config.primaryWait.toUInt32, n.engine.config.emergencyWait.toUInt32, 0, 0, 0, 0,
      n.engine.config.classMask &&& 0xf]
  /-- Dumps raise an interrupt; the rest of the low half is as it was. -/
  control : n'.hardware.routerControl &&& 0x0000ffff = (n.hardware.routerControl &&& 0x0000ffff) ||| 4
  dump : n'.hardware.dump = none ∧ n'.hardware.dumpOverflow = false
  /-- The timer's line 4 and the line 17 of dropped packets are enabled, the transmitter's line 12 is
      not. -/
  enabled : n'.hardware.vicEnabled = (n.hardware.vicEnabled ||| 0x00020010) &&& ~~~(0x00001000 : UInt32)
  select : n'.hardware.vicSelect = n.hardware.vicSelect ||| 0x00020000
  load : n'.hardware.timer.load.toNat
    = min (n.hardware.clockMegahertz.toNat * n.engine.config.tickMicroseconds.toNat) (2 ^ 32 - 1)
  backgroundLoad : n'.hardware.timer.backgroundLoad.toNat
    = min (n.hardware.clockMegahertz.toNat * n.engine.config.tickMicroseconds.toNat) (2 ^ 32 - 1)
  ticking : n'.hardware.timer.control = 0xe2
  source : n'.engine.transmitSource = n.hardware.sourceAddress &&& 0x0000ffff
  /-- Packets stay queued, and a node that was stopped stays stopped. -/
  memory : n'.engine.queue = n.engine.queue ∧ n'.engine.running = n.engine.running
    ∧ n'.engine.config = n.engine.config
  /-- Nothing is sent, and no record of what was sent or lost is touched. -/
  hardware : n'.hardware.transmitted = n.hardware.transmitted
    ∧ n'.hardware.sourceAddress = n.hardware.sourceAddress
    ∧ n'.hardware.lossCounter = n.hardware.lossCounter
    ∧ n'.hardware.fastMasked = n.hardware.fastMasked

/-- **Start-up configures a node in any state.** -/
theorem startedFrom_start (n : Node Simulation) : StartedFrom n (start.run n).2 := by
  rw [Simulation.run_start]
  constructor
  case status =>
    have hwait (f : Router.WaitField) := Router.extract_configured f n.hardware.routerControl
      n.engine.config.primaryWait n.engine.config.emergencyWait
    show [(Router.WaitField.primary.extract (Router.configured _ _ _)).toUInt32,
      (Router.WaitField.emergency.extract (Router.configured _ _ _)).toUInt32, 0, 0, 0, 0,
      (ClassFilter.ofMask n.engine.config.classMask).mask] = _
    rw [hwait, hwait, ClassFilter.mask_ofMask]
    rfl
  case control => exact Router.configured_and_preserved _ _ _
  case dump => exact ⟨rfl, rfl⟩
  case enabled => exact withoutOwned_or_standing n.hardware.vicEnabled
  case select => rfl
  case load => exact toNat_saturatingMul _ _
  case backgroundLoad => exact toNat_saturatingMul _ _
  case ticking => rfl
  case source => rfl
  case memory => exact ⟨rfl, rfl, rfl⟩
  case hardware => exact ⟨rfl, rfl, rfl, rfl⟩

/-- **Start-up brings any state to the same configuration.** A node that was started in any state is
    configured, and starting it again changes neither memory nor hardware, but for the list of the handlers
    that were installed. -/
theorem start_from_any_state (n : Node Simulation) :
    let n' := (start.run n).2
    let n'' := (start.run n').2
    StartedFrom n n' ∧ n''.engine = n'.engine
      ∧ n''.hardware = { n'.hardware with bindings := n''.hardware.bindings } := by
  refine ⟨startedFrom_start n, ?_, ?_⟩
  · rw [Simulation.run_start, Simulation.run_start]
    rfl
  · rw [Simulation.run_start, Simulation.run_start]
    exact n.hardware.started_started n.engine.config

end PacketReinjection
