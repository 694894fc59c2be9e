import PacketReinjection.Text.Pattern.Basic

/-!
# `Text.Pattern.CodePoints` — the code points of a set of characters

One set can be written in many ways. Its ranges, in order and apart, are the same for all of them.

## Contents
- **`CharSet.toRanges`** — the code points of a set.
- **`CharSet.canonical`** — the same set in the form that all its spellings have in common.
-/

namespace PacketReinjection.Text

/-! ## Case -/

/-- Ranges with what differs from them in case only. -/
def withCaseVariants (r : Unicode.Ranges) : Unicode.Ranges :=
  let ofRun (run : Unicode.CaseRun) : Unicode.Ranges :=
    (List.range ((run.last - run.first) / run.step + 1)).flatMap fun i =>
      let n := run.first + i * run.step
      let holds (n : Nat) : Bool := r.any fun s => s.1 ≤ n && n ≤ s.2
      if holds n || holds (n + run.shift) then [(n, n), (n + run.shift, n + run.shift)] else []
  let ofFamily (family : List Nat) : Unicode.Ranges :=
    if family.any fun n => r.any fun s => s.1 ≤ n && n ≤ s.2 then family.map fun n => (n, n) else []
  r.union (Unicode.caseRuns.flatMap ofRun ++ Unicode.caseFamilies.flatMap ofFamily)

/-- Ranges with the other case of their letters of ASCII. -/
def withAsciiVariants (r : Unicode.Ranges) : Unicode.Ranges :=
  let capitals := r.intersection [(0x41, 0x5a)]
  let small := r.intersection [(0x61, 0x7a)]
  .unionAll [r, capitals.map fun s => (s.1 + 32, s.2 + 32), small.map fun s => (s.1 - 32, s.2 - 32)]

namespace CharSet

/-! ## Ranges -/

/-- The code points of a set, in order and apart. -/
def toRanges : CharSet → Unicode.Ranges
  | char c => [(c.toNat, c.toNat)]
  | range first last => [(first.toNat, last.toNat)]
  | any => [(0, Unicode.lastCodePoint)]
  | blank => blankRanges
  | decimal => decimalRanges
  | word => wordRanges
  | ranges r => r.normalize
  | complement s => s.toRanges.complement
  | union s t => s.toRanges.union t.toRanges
  | intersection s t => s.toRanges.intersection t.toRanges
  | caseless s => withCaseVariants s.toRanges
  | asciiCaseless s => withAsciiVariants s.toRanges
  | bytes s => s.toRanges

/-! ## Canonical form -/

/-- A set by its ranges, in order and apart. The sets that scanners know keep their own form, in which they
    are looked up faster. -/
def ofRanges (r : Unicode.Ranges) : CharSet :=
  match r with
  | [(first, last)] => if first = last then char (Char.ofNat first) else ranges r
  | r =>
    if r = blankRanges then blank
    else if r = decimalRanges then decimal
    else if r = wordRanges then word
    else ranges r

/-- The same set in the form that all its spellings have in common. Whether it is looked at as a set of bytes is
    kept, unless it is a single character or nothing. -/
def canonical (s : CharSet) : CharSet :=
  match s, ofRanges s.toRanges with
  | _, char c => char c
  | _, ranges [] => ranges []
  | bytes _, t => bytes t
  | _, t => t

end CharSet

end PacketReinjection.Text
