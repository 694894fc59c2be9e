import PacketReinjection.Text.Unicode.Ranges

/-!
# `Text.Pattern.ByteRun` — characters as runs of bytes

In UTF-8 a range of code points is covered by runs of one to four ranges of bytes, each of which stands for all
code points whose bytes lie in the ranges one after the other.

## Contents
- **`byteRuns`** — the runs that cover ranges of code points, in their order.
- **`groupRuns`** — runs by the range that they begin with.
-/

namespace PacketReinjection.Text

/-- Ranges of bytes one after the other. -/
abbrev ByteRun := List (Nat × Nat)

/-! ## Covering ranges -/

/-- The bytes of a code point. -/
def utf8Bytes (n : Nat) : List Nat :=
  if n < 0x80 then [n]
  else if n < 0x800 then [0xc0 + n / 0x40, 0x80 + n % 0x40]
  else if n < 0x10000 then [0xe0 + n / 0x1000, 0x80 + n / 0x40 % 0x40, 0x80 + n % 0x40]
  else [0xf0 + n / 0x40000, 0x80 + n / 0x1000 % 0x40, 0x80 + n / 0x40 % 0x40, 0x80 + n % 0x40]

/-- Where a range is cut because its code points take more or fewer bytes: the last code point of the part in
    front. -/
def lengthCut? (first last : Nat) : Option Nat :=
  [0x7f, 0x7ff, 0xffff].find? fun limit => first ≤ limit && limit < last

/-- Where a range is cut because its code points differ before their last `6 * i` bits, although those do not
    take all values. -/
def alignCut? (first last : Nat) : Option Nat :=
  [0x40, 0x1000, 0x40000].findSome? fun size =>
    if first / size = last / size then none
    else if first % size ≠ 0 then some (first / size * size + size - 1)
    else if last % size ≠ size - 1 then some (last / size * size - 1)
    else none

/-- The runs that cover ranges; every cut leaves two shorter ranges. -/
def byteRunsFrom : Nat → Unicode.Ranges → List ByteRun
  | 0, _ => []
  | _, [] => []
  | fuel + 1, (first, last) :: rest =>
    if last < first then byteRunsFrom fuel rest
    else if first < 0xe000 && 0xd7ff < last then
      byteRunsFrom fuel ((first, 0xd7ff) :: (0xe000, last) :: rest)
    else
      match lengthCut? first last with
      | some cut => byteRunsFrom fuel ((first, cut) :: (cut + 1, last) :: rest)
      | none =>
        match if last < 0x80 then none else alignCut? first last with
        | some cut => byteRunsFrom fuel ((first, cut) :: (cut + 1, last) :: rest)
        | none => (utf8Bytes first).zip (utf8Bytes last) :: byteRunsFrom fuel rest

/-- The runs that cover ranges of code points. A range is cut into no more than 64 parts. -/
def byteRuns (ranges : Unicode.Ranges) : List ByteRun :=
  byteRunsFrom (128 * ranges.length) ranges

/-! ## Grouping -/

/-- Runs that begin with the same range and stand side by side, by that range. -/
def groupRuns : List ByteRun → List ((Nat × Nat) × List ByteRun)
  | [] => []
  | [] :: rest => groupRuns rest
  | (r :: tail) :: rest =>
    match groupRuns rest with
    | (s, tails) :: groups =>
      if r = s then (r, tail :: tails) :: groups else (r, [tail]) :: (s, tails) :: groups
    | [] => [(r, [tail])]

end PacketReinjection.Text
