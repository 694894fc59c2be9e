import PacketReinjection.Proofs.Text.Compile
import PacketReinjection.Proofs.Text.Searches
import PacketReinjection.Text.Pattern.Library

/-!
# `Proofs.Text.Library` — compiled patterns find what they mean

## Contents
- **`searches_toRegex`** — the expression that a pattern is compiled to.
- **`RegexLibrary.knowing`** — a library that knows some texts.
-/

namespace PacketReinjection.Text

namespace Pattern

variable {p : Pattern} {s : Spot} {ts : List Spot} {fuel : Nat}

/-- The matches of a text are found one after the other, and each of them takes at least one step. -/
theorem findAllFrom_eq (h : p.steady) (hts : p.Successive s ts) (hfuel : s.after.length < fuel) :
    findAllFrom p.toProgram fuel s = ts := by
  induction hts generalizing fuel with
  | done hnone =>
    obtain ⟨fuel, rfl⟩ : ∃ n, fuel = n + 1 := ⟨fuel - 1, by omega⟩
    rw [findAllFrom, findFrom_eq h, hnone]
  | @more s t ts hfirst hmoved _ ih =>
    obtain ⟨fuel, rfl⟩ : ∃ n, fuel = n + 1 := ⟨fuel - 1, by omega⟩
    obtain ⟨honward, horigin⟩ := leftmost?_onward hfirst
    have hlength := honward.offset_add_length
    rw [findAllFrom, findFrom_eq h, hfirst]
    -- The match has moved on, so less of the text is left than there is fuel.
    simp only [if_pos hmoved]
    rw [ih (by omega)]

/-- **A compiled pattern** finds what the pattern means. -/
theorem searches_toRegex (p : Pattern) (h : p.steady) : p.toRegex.Searches p where
  captures text := congrArg (Option.map Spot.captures) (findFrom_eq h (.start text))
  capturesIter hts := congrArg (List.map Spot.captures) (findAllFrom_eq h hts (Nat.lt_succ_self _))

end Pattern

namespace RegexLibrary

/-- A library that knows these texts and the patterns that they stand for, and no others. -/
@[reducible] def knowing (known : List (String × Pattern)) : RegexLibrary where
  compile text :=
    match known.lookup text with
    | some p => .ok p.toRegex
    | none => .error "unknown"

variable {known : List (String × Pattern)} {text : String} {p : Pattern}

theorem provides_knowing (h : known.lookup text = some p) (hsteady : p.steady) :
    @Provides (knowing known) text p :=
  ⟨p.toRegex, by simp only [compile, h], p.searches_toRegex hsteady⟩

end RegexLibrary

end PacketReinjection.Text
