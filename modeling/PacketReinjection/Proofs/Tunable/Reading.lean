import PacketReinjection.Proofs.Tunable.Invocation
import PacketReinjection.Proofs.Tunable.Syntax
import PacketReinjection.Tunable.Declaration

/-!
# `Proofs.Tunable.Reading` — what a declaration takes from an invocation

The reader of declarations takes one piece after the other, so for each of its rules there is a lemma about a row that
starts with the pieces that the rule takes: what it takes is what the pieces say, and the row goes on behind them.

## Contents
- **Rules.** `mark_eq_ok`, `key_eq_ok`, `number_eq_ok`, `leastValue_eq_ok`.
- **`Declares`** — what a declaration takes from an invocation.
- **`declares_of_ofText`** — what is read as a declaration declares its parts.
-/

namespace PacketReinjection.Tunable

open Text SyntaxLibrary

variable [SyntaxLibrary]

/-! ## Rules -/

namespace DeclarationReader

variable {α β : Type} {s t : Row} {pieces : List Piece}

theorem bind_eq_ok {g : DeclarationReader α} {f : α → DeclarationReader β} {b : β}
    (h : (g >>= f) s = .ok (b, t)) : ∃ a u, g s = .ok (a, u) ∧ f a u = .ok (b, t) := by
  cases hg : g s with
  | error e =>
    have hfail : (g >>= f) s = .error e := by
      show (g s >>= fun r => f r.1 r.2) = .error e
      rw [hg]
      rfl
    exact absurd (hfail.symm.trans h) (by simp)
  | ok r =>
    refine ⟨r.1, r.2, rfl, ?_⟩
    have hgo : (g >>= f) s = f r.1 r.2 := by
      show (g s >>= fun r => f r.1 r.2) = f r.1 r.2
      rw [hg]
      rfl
    rwa [hgo] at h

theorem throw_ne_ok {e : DeclarationError} {a : α} :
    (throw e : DeclarationReader α) s ≠ .ok (a, t) := by
  intro h
  have hfail : (.error e : Except DeclarationError (α × Row)) = .ok (a, t) := h
  exact absurd hfail (by simp)

theorem take_eq_ok {taken : Row → Option (α × Row)} {a : α} (h : take taken s = .ok (a, t)) :
    taken s = some (a, t) := by
  unfold take at h
  split at h
  · rename_i htaken
    rw [htaken, Except.ok.inj h]
  · exact absurd h (by simp)

theorem mark_eq_ok {c : Char} {hc : c = ',' ∨ c = ':' ∨ c = '='} (hs : ReadsAs (.mark c hc :: pieces) s)
    (h : mark c s = .ok ((), t)) : ReadsAs pieces t := by
  obtain ⟨u, hu, heq⟩ := Option.map_eq_some_iff.mp (take_eq_ok h)
  obtain ⟨-, rfl⟩ := Prod.mk.inj heq
  exact hs.2.2 u hu

theorem key_eq_ok {k : String} {w : Word} {hc : '=' = ',' ∨ '=' = ':' ∨ '=' = '='}
    (hs : ReadsAs (.word w :: .mark '=' hc :: pieces) s) (h : key k s = .ok ((), t)) : ReadsAs pieces t := by
  obtain ⟨a, u, hname, h⟩ := bind_eq_ok h
  obtain ⟨-, hafter⟩ := hs.2.2.1 a u (take_eq_ok hname)
  split at h
  · obtain ⟨_, v, hthrow, _⟩ := bind_eq_ok h
    exact absurd hthrow throw_ne_ok
  · exact mark_eq_ok hafter h

theorem number_eq_ok {n : IntegerSpelling} {a : Nat} (hs : ReadsAs (.number n :: pieces) s)
    (h : number s = .ok (a, t)) : a = n.value ∧ n.value < numberLimit ∧ ReadsAs pieces t := by
  obtain ⟨digits, u, hinteger, h⟩ := bind_eq_ok h
  obtain ⟨rfl, hafter⟩ := hs.2.2 digits u (take_eq_ok hinteger)
  rw [Nat.toList_repr, readNumber_repr] at h
  by_cases hlimit : n.value < numberLimit
  · rw [if_pos hlimit] at h
    obtain ⟨rfl, rfl⟩ := Prod.mk.inj (Except.ok.inj h)
    exact ⟨rfl, hlimit, hafter⟩
  · rw [if_neg hlimit] at h
    exact absurd h throw_ne_ok

/-- The least value of an ending is taken, and all of it. -/
theorem leastValue_eq_ok {e : Ending} {a : Nat} (hs : ReadsAs e.pieces s) (h : leastValue s = .ok (a, t)) :
    a = e.value := by
  obtain ⟨_, _, hget, h⟩ := bind_eq_ok h
  obtain ⟨rfl, rfl⟩ := Prod.mk.inj (Except.ok.inj hget)
  cases e with
  | bare =>
    have hcomma : startsWith ',' s = false := hs.2
    rw [hcomma] at h
    exact (Prod.mk.inj (Except.ok.inj h)).1.symm
  | comma =>
    have hcomma : startsWith ',' s = true := hs.2.1
    rw [hcomma] at h
    obtain ⟨⟨⟩, u, hmark, h⟩ := bind_eq_ok h
    have hafter := mark_eq_ok hs hmark
    obtain ⟨_, _, hget, h⟩ := bind_eq_ok h
    obtain ⟨rfl, rfl⟩ := Prod.mk.inj (Except.ok.inj hget)
    have hend : atEnd u = true := hafter.1
    rw [hend] at h
    exact (Prod.mk.inj (Except.ok.inj h)).1.symm
  | least n =>
    have hcomma : startsWith ',' s = true := hs.2.1
    rw [hcomma] at h
    obtain ⟨⟨⟩, u, hmark, h⟩ := bind_eq_ok h
    have hafter := mark_eq_ok hs hmark
    obtain ⟨_, _, hget, h⟩ := bind_eq_ok h
    obtain ⟨rfl, rfl⟩ := Prod.mk.inj (Except.ok.inj hget)
    have hmore : atEnd u = false := hafter.1
    rw [hmore] at h
    obtain ⟨⟨⟩, v, hkey, h⟩ := bind_eq_ok h
    exact (number_eq_ok (key_eq_ok hafter hkey) h).1

end DeclarationReader

/-! ## Declarations -/

/-- What a declaration takes from an invocation. -/
structure Declares (i : Invocation) (d : Declaration) : Prop where
  name : d.name = String.ofList i.name.chars
  setBy : '\r' ∉ i.setBy.chars → d.setBy = i.variableName
  standard : d.standard = i.standard.value
  least : d.least = i.ending.value
  fits : i.standard.value < numberLimit
  ordered : i.ending.value ≤ i.standard.value

open DeclarationReader in
/-- The reader takes the parts of an invocation. -/
theorem declares_of_declaration {i : Invocation} {s t : Row} {d : Declaration} (hs : ReadsAs i.pieces s)
    (h : declaration s = .ok (d, t)) : Declares i d := by
  -- One piece after the other, in the order in which the reader takes them.
  obtain ⟨name, s₁, hread, h⟩ := bind_eq_ok h
  obtain ⟨hname, h₁⟩ := hs.2.2.1 name s₁ (take_eq_ok hread)
  obtain ⟨⟨⟩, s₂, hread, h⟩ := bind_eq_ok h
  have h₂ := mark_eq_ok h₁ hread
  obtain ⟨type, s₃, hread, h⟩ := bind_eq_ok h
  have h₃ := h₂.2.2.2 type s₃ ⟨_, _, rfl⟩ (take_eq_ok hread)
  obtain ⟨⟨⟩, s₄, hread, h⟩ := bind_eq_ok h
  have h₄ := mark_eq_ok h₃ hread
  obtain ⟨⟨⟩, s₅, hread, h⟩ := bind_eq_ok h
  have h₅ := key_eq_ok h₄ hread
  obtain ⟨setBy, s₆, hread, h⟩ := bind_eq_ok h
  obtain ⟨hsetBy, h₆⟩ := h₅.2.2 setBy s₆ (take_eq_ok hread)
  obtain ⟨⟨⟩, s₇, hread, h⟩ := bind_eq_ok h
  have h₇ := mark_eq_ok h₆ hread
  obtain ⟨⟨⟩, s₈, hread, h⟩ := bind_eq_ok h
  have h₈ := key_eq_ok h₇ hread
  obtain ⟨standard, s₉, hread, h⟩ := bind_eq_ok h
  obtain ⟨hstandard, hlimit, h₉⟩ := number_eq_ok h₈ hread
  obtain ⟨least, s₁₀, hread, h⟩ := bind_eq_ok h
  have hleast := leastValue_eq_ok h₉ hread
  split at h
  · obtain ⟨_, _, hthrow, _⟩ := bind_eq_ok h
    exact absurd hthrow throw_ne_ok
  · rename_i hless
    obtain ⟨rfl, -⟩ := Prod.mk.inj (Except.ok.inj h)
    exact { name := hname i.isAscii_name, setBy := hsetBy, standard := hstandard, least := hleast, fits := hlimit,
            ordered := by omega }

/-- A row of tokens that makes up a declaration is read as one. -/
theorem Declaration.exists_of_ofRow {row : Row} {d : Declaration} (h : ofRow row = .ok d) :
    ∃ t, DeclarationReader.declaration row = .ok (d, t) := by
  cases hread : DeclarationReader.declaration row with
  | error e =>
    have hfail : ofRow row = .error e := by
      show (DeclarationReader.declaration row >>= _) = _
      rw [hread]
      rfl
    exact absurd (hfail.symm.trans h) (by simp)
  | ok r =>
    have hdone : ofRow row = if !finished r.2 then .error .illFormed else .ok r.1 := by
      show (DeclarationReader.declaration row >>= _) = _
      rw [hread]
      show (if !finished r.2 then _ else _) = _
      split <;> rfl
    rw [hdone] at h
    split at h
    · exact absurd h (by simp)
    · obtain rfl := Except.ok.inj h
      exact ⟨r.2, rfl⟩

/-- **An invocation that is read as a declaration** declares its parts. -/
theorem declares_of_ofText (hlibrary : SyntaxLibrary.Understands) {i : Invocation} {arguments : List Char}
    {d : Declaration} (hargs : i.WrittenAs arguments)
    (h : Declaration.ofText (String.ofList arguments) = .ok d) : Declares i d := by
  unfold Declaration.ofText at h
  split at h
  · rename_i row hrow
    obtain ⟨t, ht⟩ := Declaration.exists_of_ofRow h
    exact declares_of_declaration (hlibrary i.pieces arguments row i.apart hargs hrow) ht
  · exact absurd h (by simp)

end PacketReinjection.Tunable
