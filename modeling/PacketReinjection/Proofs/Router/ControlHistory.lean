import Mathlib.Data.List.Basic
import Mathlib.Data.List.Induction
import PacketReinjection.Proofs.Router.ReadBack
import PacketReinjection.Proofs.Router.WaitField
import PacketReinjection.Proofs.Routine.Trace

/-!
# `Proofs.Router.ControlHistory` — the control register tells what was asked of the monitor

Three kinds of requests share the control register: either wait field is set on its own, and start-up
writes both and the enable of dump interrupts. On hardware that keeps what is written, the register is at
any time the word that was there at first with the last value of each field put in, and with one bit set
if there was a start-up.

What a request does to the word is a function of the word (`Request.effect`), so that a sequence of
requests is a fold over words, and the rest is about bits.

## Contents
- **`Request`** with `routine`, and **`serve`** — requests one after the other.
- **`Request.effect`** and **`control_serve`** — what requests do to the word.
- **Parts of the word.** `effect_and_preserved`, `toUInt32_extract_effect`, for one request, and
  `foldl_effect_and_preserved`, `toUInt32_extract_foldl_effect`, for a sequence of them.
- **`Tells`** and **`control_tells_requests`**.
-/

namespace PacketReinjection.Router

open Routine ReadsBack

/-! ## Requests -/

/-- What can be asked of the monitor. -/
inductive Request where
  | setWait (f : WaitField) (value : UInt32)
  | configure (primary emergency : UInt8)
  | isBlocked
  | waitOf (f : WaitField)
  deriving DecidableEq

namespace Request

/-- The routine of a request, whatever it answers. -/
def routine : Request → Routine Unit
  | .setWait f value => do let _ ← Monitor.setWait f value
  | .configure primary emergency => Monitor.configure primary emergency
  | .isBlocked => do let _ ← Monitor.isBlocked
  | .waitOf f => do let _ ← Monitor.waitOf f

/-- Whether a request is the router's part of start-up. -/
def isConfigure : Request → Bool
  | .configure _ _ => true
  | .setWait _ _ | .isBlocked | .waitOf _ => false

/-- The value that a request leaves in a wait field, if it writes the field. -/
def given? (f : WaitField) : Request → Option UInt32
  | .setWait g value => if g = f ∧ value ≤ WaitField.maxValue then some value else none
  | .configure primary emergency => some (f.configuredValue primary emergency).toUInt32
  | .isBlocked | .waitOf _ => none

/-- The control word after a request. -/
def effect (control : UInt32) : Request → UInt32
  | .setWait f value => if value > WaitField.maxValue then control else f.replace control value
  | .configure primary emergency => configured control primary emergency
  | .isBlocked | .waitOf _ => control

end Request

/-- The value that requests leave in a wait field, if any of them writes the field: the last one given. -/
def lastGiven (f : WaitField) (requests : List Request) : Option UInt32 :=
  (requests.filterMap (·.given? f)).getLast?

section Serve

variable {S : Type} [Platform S]

/-- Serve requests one after the other. -/
def serve (requests : List Request) (n : Node S) : Node S :=
  requests.foldl (fun n r => (r.routine.run n).2) n

/-- A value that does not fit is refused without a step. -/
theorem setWait_of_large (f : WaitField) {value : UInt32} (h : value > WaitField.maxValue) :
    Monitor.setWait f value = return .error (.argumentOutOfRange value WaitField.maxValue) :=
  if_pos h

theorem setWait_of_fits (f : WaitField) {value : UInt32} (h : ¬value > WaitField.maxValue) :
    Monitor.setWait f value = do
      let control ← readRouter .control
      writeRouter .control (f.replace control value)
      return .ok () :=
  if_neg h

variable [ReadsBack S]

theorem control_setWait (f : WaitField) (value : UInt32) (n : Node S) :
    control ((Monitor.setWait f value).run n).2.hardware
      = (Request.setWait f value).effect (control n.hardware) := by
  by_cases hlarge : value > WaitField.maxValue
  · rw [setWait_of_large f hlarge, Request.effect, if_pos hlarge]
    rfl
  · rw [setWait_of_fits f hlarge, Request.effect, if_neg hlarge]
    simp [read_control, control_write]

theorem control_configure (primary emergency : UInt8) (n : Node S) :
    control ((Monitor.configure primary emergency).run n).2.hardware
      = configured (control n.hardware) primary emergency := by
  simp [Monitor.configure, read_control, control_read, control_write, configured]

/-- **One request** does to the control word what its effect says. -/
theorem control_request (r : Request) (n : Node S) :
    control (r.routine.run n).2.hardware = r.effect (control n.hardware) := by
  cases r with
  | setWait f value =>
    rw [Request.routine, run_bind]
    exact control_setWait f value n
  | configure primary emergency => exact control_configure primary emergency n
  | isBlocked => exact control_read .status n.hardware
  | waitOf f => exact control_read .control n.hardware

/-- **Requests in a row** fold their effects. -/
theorem control_serve (requests : List Request) (n : Node S) :
    control (serve requests n).hardware = requests.foldl Request.effect (control n.hardware) := by
  induction requests generalizing n with
  | nil => rfl
  | cons r rest ih =>
    change control (serve rest (r.routine.run n).2).hardware = _
    rw [ih, control_request, List.foldl_cons]

end Serve

/-! ## Parts of the word -/

section Parts

variable (r : Request) (requests : List Request) (f : WaitField) (word : UInt32)

/-- A request sets the enable of dump interrupts in the preserved half, or leaves that half alone. -/
theorem effect_and_preserved :
    r.effect word &&& preservedMask
      = (word &&& preservedMask) ||| (if r.isConfigure then dumpEnableMask else 0) := by
  cases r with
  | setWait g value =>
    rw [Request.effect]
    split
    · exact UInt32.or_zero.symm
    · rw [WaitField.replace_and_preserved]
      exact UInt32.or_zero.symm
  | configure primary emergency => exact configured_and_preserved word primary emergency
  | isBlocked => exact UInt32.or_zero.symm
  | waitOf g => exact UInt32.or_zero.symm

/-- A request gives a wait field its value, or leaves the field alone. -/
theorem toUInt32_extract_effect :
    (f.extract (r.effect word)).toUInt32 = (r.given? f).getD (f.extract word).toUInt32 := by
  cases r with
  | setWait g value =>
    rw [Request.effect, Request.given?]
    by_cases hlarge : value > WaitField.maxValue
    · rw [if_pos hlarge, if_neg fun h => absurd h.2 (UInt32.not_le.mpr hlarge)]
      rfl
    · have hfits := UInt32.not_lt.mp hlarge
      rw [if_neg hlarge]
      by_cases hsame : g = f
      · rw [if_pos ⟨hsame, hfits⟩, hsame, WaitField.extract_replace, WaitField.toUInt32_toUInt8 hfits]
        rfl
      · rw [if_neg fun h => hsame h.1, WaitField.extract_replace_of_ne (Ne.symm hsame)]
        rfl
  | configure primary emergency => exact congrArg UInt8.toUInt32 (extract_configured f word _ _)
  | isBlocked => rfl
  | waitOf g => rfl

/-- One more request: its own value counts, and where it has none the last one before. -/
theorem lastGiven_concat :
    lastGiven f (requests ++ [r]) = (r.given? f).or (lastGiven f requests) := by
  rw [lastGiven, List.filterMap_append, List.getLast?_append]
  congr 1
  cases hgiven : r.given? f <;> simp [hgiven]

/-- **The preserved half** after any requests. -/
theorem foldl_effect_and_preserved :
    requests.foldl Request.effect word &&& preservedMask
      = (word &&& preservedMask)
        ||| (if requests.any Request.isConfigure then dumpEnableMask else 0) := by
  induction requests using List.reverseRecOn with
  | nil => exact UInt32.or_zero.symm
  | append_singleton requests r ih =>
    rw [List.foldl_concat, effect_and_preserved, ih, UInt32.or_assoc, List.any_append]
    cases requests.any Request.isConfigure <;> cases hr : r.isConfigure <;> simp [hr]

/-- **A wait field** after any requests. -/
theorem toUInt32_extract_foldl_effect :
    (f.extract (requests.foldl Request.effect word)).toUInt32
      = (lastGiven f requests).getD (f.extract word).toUInt32 := by
  induction requests using List.reverseRecOn with
  | nil => rfl
  | append_singleton requests r ih =>
    rw [List.foldl_concat, toUInt32_extract_effect, ih, lastGiven_concat]
    cases r.given? f <;> rfl

/-- Setting one field and then the other: the order makes no difference to the word. -/
theorem effect_setWait_comm (first second : UInt32) :
    (Request.setWait .emergency second).effect ((Request.setWait .primary first).effect word)
      = (Request.setWait .primary first).effect ((Request.setWait .emergency second).effect word) := by
  simp only [Request.effect]
  split <;> split <;> first | rfl | exact WaitField.replace_comm (by decide) word first second

end Parts

/-! ## The register and the answers -/

section Tells

variable {S : Type} [Platform S] [ReadsBack S]

/-- What can be told of a node that served requests, from the control word before. -/
structure Tells (requests : List Request) (before : UInt32) (n : Node S) : Prop where
  /-- The low half is as it was, with bit 2 set if there was a start-up. -/
  low : control n.hardware &&& 0x0000ffff
    = (before &&& 0x0000ffff) ||| (if requests.any Request.isConfigure then (4 : UInt32) else 0)
  primary : (control n.hardware >>> 16) &&& (0xff : UInt32)
    = (lastGiven .primary requests).getD ((before >>> 16) &&& 0xff)
  emergency : control n.hardware >>> 24 = (lastGiven .emergency requests).getD (before >>> 24)
  /-- A reading gives what stands in the field. -/
  answered : ∀ f : WaitField, ((Monitor.waitOf f).run n).1.toUInt32
    = (lastGiven f requests).getD ((before >>> f.shift) &&& 0xff)
  /-- A value that fits is accepted. No bit outside its field changes. -/
  accepted : ∀ (f : WaitField) (value : UInt32), value ≤ 255 →
    ((Monitor.setWait f value).run n).1 = .ok ()
      ∧ control ((Monitor.setWait f value).run n).2.hardware &&& ~~~f.mask
          = control n.hardware &&& ~~~f.mask
  /-- A value that does not fit is refused, and the routine takes no step at all. -/
  refused : ∀ (f : WaitField) (value : UInt32), 255 < value →
    (Monitor.setWait f value).run n = (.error (.argumentOutOfRange value 255), n)
      ∧ (Monitor.setWait f value).trace n = []
  /-- The two fields can be set in either order. -/
  commutes : ∀ first second : UInt32,
    control (serve [.setWait .primary first, .setWait .emergency second] n).hardware
      = control (serve [.setWait .emergency second, .setWait .primary first] n).hardware

omit [ReadsBack S] in
theorem setWait_refused (f : WaitField) {value : UInt32} (h : 255 < value) (n : Node S) :
    (Monitor.setWait f value).run n = (.error (.argumentOutOfRange value 255), n)
      ∧ (Monitor.setWait f value).trace n = [] := by
  rw [setWait_of_large f h]
  exact ⟨rfl, rfl⟩

theorem setWait_accepted (f : WaitField) {value : UInt32} (h : value ≤ 255) (n : Node S) :
    ((Monitor.setWait f value).run n).1 = .ok ()
      ∧ control ((Monitor.setWait f value).run n).2.hardware &&& ~~~f.mask
          = control n.hardware &&& ~~~f.mask := by
  have hfits : ¬value > WaitField.maxValue := UInt32.not_lt.mpr h
  constructor
  · rw [setWait_of_fits f hfits]
    rfl
  · rw [control_setWait, Request.effect, if_neg hfits, WaitField.replace_and_not_mask]

theorem toUInt32_waitOf (f : WaitField) (n : Node S) :
    ((Monitor.waitOf f).run n).1.toUInt32 = (f.extract (control n.hardware)).toUInt32 := by
  simp [Monitor.waitOf, read_control]

/-- **After any requests, from any control word,** the register tells the last value given to each wait
    field and whether there was a start-up, and every other bit is as it was. -/
theorem control_tells_requests (requests : List Request) (n : Node S) :
    Tells requests (control n.hardware) (serve requests n) := by
  have hword := control_serve requests n
  have hfield := fun f : WaitField =>
    toUInt32_extract_foldl_effect requests f (control n.hardware)
  constructor
  · rw [hword]
    exact foldl_effect_and_preserved requests (control n.hardware)
  · have hprimary := hfield .primary
    rw [WaitField.toUInt32_extract, WaitField.toUInt32_extract, ← hword] at hprimary
    exact hprimary
  · have hemergency := hfield .emergency
    rw [WaitField.toUInt32_extract, WaitField.toUInt32_extract, WaitField.shiftRight_emergency,
      WaitField.shiftRight_emergency, ← hword] at hemergency
    exact hemergency
  · intro f
    rw [toUInt32_waitOf, hword, hfield, WaitField.toUInt32_extract]
    rfl
  · exact fun f value h => setWait_accepted f h _
  · exact fun f value h => setWait_refused f h _
  · intro first second
    simp only [control_serve]
    exact effect_setWait_comm (requests.foldl Request.effect (control n.hardware)) first second

/-- Simulated nodes and mapped memory alike: a start-up, a refused value, and two accepted ones. -/
theorem control_tells_requests_instances :
    let requests : List Request :=
      [.configure 0x4f 0, .setWait .primary 0x100, .setWait .emergency 0x12, .setWait .emergency 0x13]
    let d : Mapped.Description := ⟨true, true, true, true, true, true, true, true, 200, -1, 0, 0, 0, 0⟩
    let simulated : Node Simulation := Node.fresh Simulation.fresh EngineConfig.standard
    let mapped : Node Mapped.MappedHardware := Node.fresh ⟨d, Mapped.Board.zeroed⟩ EngineConfig.standard
    lastGiven .primary requests = some 0x4f ∧ lastGiven .emergency requests = some 0x13
      ∧ Tells requests (control simulated.hardware) (serve requests simulated)
      ∧ Tells requests (control mapped.hardware) (serve requests mapped) :=
  ⟨by decide, by decide, control_tells_requests _ _, control_tells_requests _ _⟩

end Tells

end PacketReinjection.Router
