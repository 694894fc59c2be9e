import PacketReinjection.Proofs.Text.Preferred

/-!
# `Proofs.Text.Searches` — libraries that find what patterns mean

What a library is taken to do with the text of an expression: the text stands for a pattern, and whatever the library
compiles it to finds the matches of that pattern, the leftmost one first and of those that begin at one place the
preferred one. Nothing is taken for granted of other texts, nor of matches of nothing one after the other.

## Contents
- **`Pattern.Successive`** — the matches of a text from a place on, none of which is empty.
- **`Regex.Searches`** — an expression that finds what a pattern means.
- **`RegexLibrary.Understands`**, **`RegexLibrary.Provides`** — a library for which a text stands for a pattern.
-/

namespace PacketReinjection.Text

/-- The matches from a place on: each search starts where the last match ended, and every match has moved on. -/
inductive Pattern.Successive (p : Pattern) : Spot → List Spot → Prop
  | done {s} : p.leftmost? s = none → Successive p s []
  | more {s t ts} : p.leftmost? s = some t → t.origin < t.offset → Successive p t ts → Successive p s (t :: ts)

/-- An expression finds what a pattern means. -/
structure Regex.Searches (re : Regex) (p : Pattern) : Prop where
  captures : ∀ text, re.captures text = (p.leftmost? (.start text)).map Spot.captures
  capturesIter : ∀ {text ts}, p.Successive (.start text) ts → re.capturesIter text = ts.map Spot.captures

namespace Regex.Searches

variable {re : Regex} {p : Pattern} {text : List Char} {t : Spot}

theorem captures_of_leftmost (h : re.Searches p) (ht : p.leftmost? (.start text) = some t) :
    re.captures text = some t.captures := by
  rw [h.captures, ht]
  rfl

theorem captures_eq_none (h : re.Searches p) (hnone : p.leftmost? (.start text) = none) :
    re.captures text = none := by
  rw [h.captures, hnone]
  rfl

/-- One match, and none behind it. -/
theorem capturesIter_eq_singleton (h : re.Searches p) (ht : p.leftmost? (.start text) = some t)
    (hoffset : t.origin < t.offset) (hnone : p.leftmost? t = none) : re.capturesIter text = [t.captures] :=
  h.capturesIter (.more ht hoffset (.done hnone))

end Regex.Searches

namespace RegexLibrary

variable [RegexLibrary]

/-- If the library compiles a text at all, it is to an expression that finds what the pattern means. -/
def Understands (text : String) (p : Pattern) : Prop := ∀ re, RegexLibrary.compile text = .ok re → re.Searches p

/-- The library compiles a text to an expression that finds what the pattern means. -/
def Provides (text : String) (p : Pattern) : Prop := ∃ re, RegexLibrary.compile text = .ok re ∧ re.Searches p

omit [RegexLibrary] in
theorem Provides.understands {_ : RegexLibrary} {text : String} {p : Pattern} (h : Provides text p) :
    Understands text p := by
  obtain ⟨re, hre, hsearches⟩ := h
  intro re' hre'
  obtain rfl := Except.ok.inj (hre.symm.trans hre')
  exact hsearches

end RegexLibrary

end PacketReinjection.Text
