/-!
# `Text.Unicode.Ranges` — sets of characters as ranges of code points

A set of characters is a list of ranges, both ends included. The sets made here are in order and apart: the
ranges come by their code points, and between two of them at least one code point is missing.

## Contents
- **`inRanges`** — membership.
- **`Ranges`** — `union`, `complement`, `intersection` and `difference`.
- **`Ranges.ofRows`** — sets as they are written in tables.
- **`NamedSet`** — a set with the names that it goes by; `find?` looks one up.
-/

namespace PacketReinjection.Text.Unicode

/-- Ranges of code points. -/
abbrev Ranges := List (Nat × Nat)

/-- Whether a character lies in one of the ranges, both ends included. -/
def inRanges (ranges : Ranges) (c : Char) : Bool :=
  ranges.any fun r => r.1 ≤ c.toNat && c.toNat ≤ r.2

theorem inRanges_iff (ranges : Ranges) (c : Char) :
    inRanges ranges c = true ↔ ∃ r ∈ ranges, r.1 ≤ c.toNat ∧ c.toNat ≤ r.2 := by
  simp [inRanges, List.any_eq_true]

theorem inRanges_append (a b : Ranges) (c : Char) :
    inRanges (a ++ b) c = (inRanges a c || inRanges b c) := by
  simp [inRanges]

/-! ## Combining sets -/

/-- The last code point of all. -/
def lastCodePoint : Nat := 0x10ffff

/-- The code points that stand for no character by themselves. -/
def surrogates : Nat × Nat := (0xd800, 0xdfff)

namespace Ranges

/-- Put ranges that come in the order of their starts together where they touch, `first` to `last` being
    the range before them. -/
def joinFrom (first last : Nat) : Ranges → Ranges
  | [] => [(first, last)]
  | r :: rest =>
    if r.1 ≤ last + 1 then joinFrom first (max last r.2) rest
    else (first, last) :: joinFrom r.1 r.2 rest

/-- The same set, in order and apart. -/
def normalize (ranges : Ranges) : Ranges :=
  match ranges.mergeSort fun r s => r.1 ≤ s.1 with
  | [] => []
  | r :: rest => joinFrom r.1 r.2 rest

/-- What is in one of two sets. -/
def union (a b : Ranges) : Ranges := normalize (a ++ b)

/-- What is in one of several sets. -/
def unionAll (sets : List Ranges) : Ranges := normalize sets.flatten

/-- The gaps of ranges that are in order and apart, from a code point on. -/
def gapsFrom (next : Nat) : Ranges → Ranges
  | [] => if next ≤ lastCodePoint then [(next, lastCodePoint)] else []
  | r :: rest =>
    if next < r.1 then (next, r.1 - 1) :: gapsFrom (r.2 + 1) rest else gapsFrom (r.2 + 1) rest

/-- The code points that are not in a set. -/
def complement (a : Ranges) : Ranges := gapsFrom 0 (normalize a)

/-- What is in both sets. -/
def intersection (a b : Ranges) : Ranges := complement (union (complement a) (complement b))

/-- What is in the first set and not in the second. -/
def difference (a b : Ranges) : Ranges := intersection a (complement b)

/-! ## Tables -/

/-- A number from its hexadecimal digits in small letters. -/
def ofHexDigits (digits : List Char) : Nat :=
  digits.foldl (fun n d => n * 16 + (if d.isDigit then d.toNat - 48 else d.toNat - 87)) 0

/-- The ranges of one entry of a row: a code point `a`, a range `a-b`, or every second code point of a
    range `a-b/2`. -/
def ofEntry (entry : List Char) : Ranges :=
  let first := ofHexDigits (entry.takeWhile (· ≠ '-'))
  match entry.dropWhile (· ≠ '-') with
  | [] => [(first, first)]
  | _ :: rest =>
    let last := ofHexDigits (rest.takeWhile (· ≠ '/'))
    if (rest.dropWhile (· ≠ '/')).isEmpty then [(first, last)]
    else (List.range ((last - first) / 2 + 1)).map fun i => (first + 2 * i, first + 2 * i)

/-- The ranges of the rows of a table, whose entries stand apart by spaces. -/
def ofRows (rows : List String) : Ranges :=
  rows.flatMap fun row => (row.splitOn " ").flatMap fun entry => ofEntry entry.toList

end Ranges

/-! ## Named sets -/

/-- A set of characters with the names that it goes by and the rows of its table. -/
structure NamedSet where
  names : List String
  rows : List String

/-- The characters of a named set. -/
def NamedSet.ranges (s : NamedSet) : Ranges := Ranges.ofRows s.rows

/-- The characters of the set that goes by a name. -/
def find? (table : List NamedSet) (name : String) : Option Ranges :=
  (table.find? fun s => s.names.contains name).map NamedSet.ranges

end PacketReinjection.Text.Unicode
