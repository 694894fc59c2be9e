import PacketReinjection.Text.Pattern.CodePoints

/-!
# `Text.Pattern.Normal` — putting patterns together

Patterns that are put together are kept in a normal form. Sequences hold no sequences and choices no choices.
A choice of characters, or of sets, is one set; and what all alternatives of a choice begin with stands in front
of the choice. The last rule decides matches: with `.*?b|.*?c` the first `b` or `c` ends a match.

## Contents
- **Views.** `parts`, `alternatives`, and `elements`, which takes neighbouring characters together;
  `isZeroWidth`.
- **`joined`** — patterns one after the other; `results_joined` says that flattening keeps the matches.
- **`either`** — one of several patterns.
-/

namespace PacketReinjection.Text.Pattern

/-! ## Views -/

/-- What stands one after the other. -/
def parts : Pattern → List Pattern
  | empty => []
  | seq p q => p.parts ++ q.parts
  | p => [p]

/-- The alternatives of a choice. -/
def alternatives : Pattern → List Pattern
  | alt p q => p.alternatives ++ q.alternatives
  | p => [p]

/-- A single character. -/
def char? : Pattern → Option Char
  | one (.char c) => some c
  | _ => none

/-- A set of characters, but not of a single one. -/
def set? : Pattern → Option CharSet
  | one (.char _) => none
  | one s => some s
  | _ => none

/-- What stands one after the other, neighbouring characters being taken as one element. -/
def elements (p : Pattern) : List (List Pattern) :=
  p.parts.splitBy fun a b => a.char?.isSome && b.char?.isSome

/-- Whether a pattern takes in no character, whatever it matches. -/
def isZeroWidth : Pattern → Bool
  | empty | anchor _ => true
  | one _ => false
  | seq p q | alt p q => p.isZeroWidth && q.isZeroWidth
  | repeated p _ _ _ | group _ p => p.isZeroWidth

/-! ## One after the other -/

/-- A sequence of parts. -/
def ofParts : List Pattern → Pattern
  | [] => empty
  | [p] => p
  | p :: rest => seq p (ofParts rest)

/-- Patterns one after the other. -/
def joined (ps : List Pattern) : Pattern := ofParts (ps.flatMap parts)

theorem results_ofParts_cons (p : Pattern) (ps : List Pattern) (s : Spot) :
    (ofParts (p :: ps)).results s = (p.results s).flatMap (ofParts ps).results := by
  cases ps with
  | nil => simp [ofParts, results]
  | cons q rest => rfl

theorem results_ofParts_append (ps qs : List Pattern) (s : Spot) :
    (ofParts (ps ++ qs)).results s = ((ofParts ps).results s).flatMap (ofParts qs).results := by
  induction ps generalizing s with
  | nil => simp [ofParts, results]
  | cons p rest ih =>
    simp only [List.cons_append, results_ofParts_cons, List.flatMap_assoc]
    congr 1
    funext t
    exact ih t

theorem results_ofParts_parts (p : Pattern) (s : Spot) : (ofParts p.parts).results s = p.results s := by
  induction p generalizing s with
  | seq p q ihp ihq =>
    rw [parts, results_ofParts_append, ihp, results]
    congr 1
    funext t
    exact ihq t
  | _ => rfl

/-- Patterns put together match what they match one after the other. -/
theorem results_joined (ps : List Pattern) (s : Spot) :
    (joined ps).results s = (sequence ps).results s := by
  induction ps generalizing s with
  | nil => rfl
  | cons p rest ih =>
    rw [joined, List.flatMap_cons, results_ofParts_append, results_ofParts_parts]
    show _ = (p.results s).flatMap (sequence rest).results
    congr 1
    funext t
    exact ih t

/-! ## One of several -/

/-- A choice of alternatives, rather the first. -/
def ofAlternatives : List Pattern → Pattern
  | [] => one (.ranges [])
  | [p] => p
  | p :: rest => alt p (ofAlternatives rest)

/-- What two lists begin with. -/
def sharedStart {α : Type} [DecidableEq α] : List α → List α → List α
  | a :: as, b :: bs => if a = b then a :: sharedStart as bs else []
  | _, _ => []

/-- What all alternatives begin with, if each of them has several elements. -/
def leading (rows : List (List (List Pattern))) : List (List Pattern) :=
  if rows.all (2 ≤ ·.length) then rows.tail.foldl sharedStart (rows.headD []) else []

/-- One of several alternatives, what they begin with being left where it is. -/
def merged (ps : List Pattern) : Pattern :=
  match ps with
  | [p] => p
  | ps =>
    if ps.all (·.char?.isSome) then one (CharSet.unionAll (ps.filterMap char? |>.map .char)).canonical
    else if ps.all (·.set?.isSome) then one (CharSet.unionAll (ps.filterMap set?)).canonical
    else ofAlternatives ps

/-- One of several patterns, rather the first. -/
def either (ps : List Pattern) : Pattern :=
  let ps := ps.flatMap alternatives
  let rows := ps.map elements
  let start := leading rows
  if ps.length ≤ 1 || start.isEmpty then merged ps
  else
    let ends := rows.map fun row => ofParts (row.drop start.length).flatten
    joined (start.flatten ++ [merged (ends.flatMap alternatives)])

end PacketReinjection.Text.Pattern
