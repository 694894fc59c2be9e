import PacketReinjection.Packet

/-!
# `ClassFilter` — which classes are re-injected

One flag per packet class. The command handler sets them, the capture handler reads them.

## Contents
- **`ClassFilter`** — the flags, with `isEnabled` and `set`.
- **Masks.** `ofMask` reads a class mask and ignores every bit above the four classes; `mask` writes
  the flags as one.
-/

namespace PacketReinjection

/-- One flag per packet class. -/
structure ClassFilter where
  multicast : Bool
  pointToPoint : Bool
  nearestNeighbour : Bool
  fixedRoute : Bool
  deriving DecidableEq, Inhabited

namespace ClassFilter

/-- Whether packets of a class are re-injected. -/
def isEnabled (f : ClassFilter) : PacketClass → Bool
  | .multicast => f.multicast
  | .pointToPoint => f.pointToPoint
  | .nearestNeighbour => f.nearestNeighbour
  | .fixedRoute => f.fixedRoute

/-- Set the flag of one class. -/
def set (f : ClassFilter) (c : PacketClass) (on : Bool) : ClassFilter :=
  match c with
  | .multicast => { f with multicast := on }
  | .pointToPoint => { f with pointToPoint := on }
  | .nearestNeighbour => { f with nearestNeighbour := on }
  | .fixedRoute => { f with fixedRoute := on }

/-- The filter that a class mask stands for. -/
def ofMask (mask : UInt32) : ClassFilter :=
  let has (c : PacketClass) : Bool := mask &&& c.maskBit != 0
  ⟨has .multicast, has .pointToPoint, has .nearestNeighbour, has .fixedRoute⟩

/-- The flags as a class mask. -/
def mask (f : ClassFilter) : UInt32 :=
  (PacketClass.all.filter f.isEnabled).foldl (fun acc c => acc ||| c.maskBit) 0

/-- Multicast packets only. -/
def standard : ClassFilter := ofMask PacketClass.multicast.maskBit

theorem isEnabled_set_self (f : ClassFilter) (c : PacketClass) (on : Bool) :
    (f.set c on).isEnabled c = on := by
  cases c <;> rfl

theorem isEnabled_ofMask (mask : UInt32) (c : PacketClass) :
    (ofMask mask).isEnabled c = (mask &&& c.maskBit != 0) := by
  cases c <;> rfl

end ClassFilter

end PacketReinjection
