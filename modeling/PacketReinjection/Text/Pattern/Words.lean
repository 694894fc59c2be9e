import PacketReinjection.Text.Pattern.Sharing

/-!
# `Text.Pattern.Words` — the states of a choice of words

A choice of words is laid out as a tree of their bytes: words that begin alike share their beginnings. A word
that ends where others go on is offered before those that come after it, so words on the two sides of it share
nothing from there on.

## Contents
- **`byFirst`** — words by their first byte.
- **`wordRoom`** — the room of a choice of words.
-/

namespace PacketReinjection.Text

/-- Put a word to those with the same first byte. -/
def putWord (first : Nat) (tail : List Nat) :
    List (Nat × List (List Nat)) → List (Nat × List (List Nat))
  | [] => [(first, [tail])]
  | (b, tails) :: rest =>
    if b = first then (b, tails ++ [tail]) :: rest else (b, tails) :: putWord first tail rest

/-- Words by their first byte. Words without one are left out. -/
def byFirst (words : List (List Nat)) : List (Nat × List (List Nat)) :=
  words.foldl (fun groups word =>
    match word with
    | [] => groups
    | first :: tail => putWord first tail groups) []

/-- The words between those that end here. -/
def betweenEnds (words : List (List Nat)) : List (List (List Nat)) :=
  words.foldr (fun word pieces =>
    match word, pieces with
    | [], _ => [] :: pieces
    | _, piece :: rest => (word :: piece) :: rest
    | _, [] => [[word]]) [[]]

/-- The room of words of `depth` bytes at most. Words that end here before any other goes on count as one. -/
def treeRoom : Nat → List (List Nat) → Room
  | 0, _ => ⟨0, 0⟩
  | depth + 1, words =>
    if words.all List.isEmpty then ⟨0, 0⟩
    else
      let onward := words.dropWhile List.isEmpty
      let pieces := betweenEnds onward
      let branching := pieces.map byFirst |>.filter (!·.isEmpty)
      let ends := (pieces.length - 1) + (if onward.length < words.length then 1 else 0)
      branching.foldl (fun room groups =>
        groups.foldl (fun room g => room + treeRoom depth g.2)
          (room + ⟨1, if groups.length = 1 then 0 else 8 * groups.length⟩))
        ⟨1, 4 * (ends + branching.length)⟩

/-- The room of a choice of words, with the state that all of them end in. -/
def wordRoom (words : List (List Nat)) : Room :=
  ⟨1, 0⟩ + treeRoom ((words.map List.length).foldl max 0 + 1) words

end PacketReinjection.Text
