import PacketReinjection.Text.Pattern.Program
import Std.Data.HashSet

/-!
# `Text.Pattern.Search` — finding a pattern in a text

A search follows the instructions of a pattern, the preferred way first, and turns to the next way when one
ends without a match. A way that comes to an instruction at a place where an earlier way has been cannot do
better than that one did, so it is given up: no instruction is looked at twice at one place.

## Contents
- **`Pattern.run`** — the first match that a list of ways leads to.
- **`Pattern.findFrom`**, **`Pattern.findAllFrom`** — the leftmost match, and all matches that do not overlap.
-/

namespace PacketReinjection.Text.Pattern

/-! ## Following ways -/

/-- The first match that a list of ways leads to, each given by the number of its next instruction and the
    spot it has come to. `seen` holds the pairs of instruction and place that have been looked at. -/
def run (program : Program) : Nat → List (Nat × Spot) → Std.HashSet Nat → Option Spot
  | 0, _, _ => none
  | _ + 1, [], _ => none
  | fuel + 1, (n, s) :: rest, seen =>
    let key := s.offset * program.size + n
    if seen.contains key then run program fuel rest seen
    else
      match program[n]? with
      | none => run program fuel rest seen
      | some .accept => some s
      | some i => run program fuel (i.successors s ++ rest) (seen.insert key)

/-- How many steps a search from the spots of a text takes at most: every instruction leads to two others at
    most, and is looked at once at every place. -/
def stepLimit (program : Program) (length : Nat) : Nat := (2 * program.size + 1) * (length + 1) + 1

/-! ## Searching a text -/

/-- The end of the leftmost match at or after a place. -/
def findFrom (code : Nat × Program) (s : Spot) : Option Spot :=
  run code.2 (stepLimit code.2 s.after.length)
    ((spotsFrom s.offset s.before s.after).map fun t => (code.1, t)) ∅

/-- The ends of `fuel` matches at most, from left to right and without overlap, each search starting where the
    last match ended. After an empty match the search goes on one character further, so there are no more
    matches than places. -/
def findAllFrom (code : Nat × Program) : Nat → Spot → List Spot
  | 0, _ => []
  | fuel + 1, s =>
    match findFrom code s with
    | none => []
    | some t =>
      if t.origin < t.offset then
        t :: findAllFrom code fuel t
      else
        match t.after with
        | [] => [t]
        | c :: rest => t :: findAllFrom code fuel (t.advance c rest)

end PacketReinjection.Text.Pattern
