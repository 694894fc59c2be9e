import PacketReinjection.Text.CharClass

/-!
# `Proofs.Tunable.Spacing` — pieces with white space around them

A declaration is written as a row of pieces with any white space before, between and behind them. A piece ends where
white space or a mark begins, and neither of these is part of a word.

## Contents
- **Classes of characters.** `ne_of_class`, `not_mem_of_all_not`, `eq_false_of_imp`.
- **`separates`**, **`Detached`** — what ends a piece, and a text that starts with it.
- **Characters of words.** No separator is one, nor the start or a part of a name, nor a digit.
- **`Spaced`** — pieces and a text that they are written as, with `Spaced.of_gaps`.
-/

namespace PacketReinjection.Tunable

open Text

/-! ## Classes of characters -/

/-- A character of a class is none that is not in the class. -/
theorem ne_of_class {p : Char → Bool} {c d : Char} (h : p c) (hd : p d = false) : c ≠ d := by
  rintro rfl
  exact Bool.false_ne_true (hd.symm.trans h)

/-- A character of a class is not in a list without characters of the class. -/
theorem not_mem_of_all_not {p : Char → Bool} {c : Char} {chars : List Char} (h : p c)
    (hall : chars.all fun d => !p d) : c ∉ chars := by
  intro hmem
  have hc : p c = false := by simpa using List.all_eq_true.mp hall c hmem
  exact Bool.false_ne_true (hc.symm.trans h)

/-- What is not in a class is not in a smaller one. -/
theorem eq_false_of_imp {a b : Bool} (h : a → b) (hb : b = false) : a = false :=
  Bool.eq_false_iff.mpr (mt h (Bool.eq_false_iff.mp hb))

/-! ## Separators -/

/-- Whether a character ends a piece of a declaration. -/
def separates (c : Char) : Bool := isBlank c || c = ',' || c = ':' || c = '='

/-- A text that starts with a separator, or nothing. -/
def Detached (text : List Char) : Prop := ∀ c, text.head? = some c → separates c

theorem Detached.nil : Detached [] := by
  intro c h
  simp at h

theorem Detached.cons {c : Char} {rest : List Char} (h : separates c) : Detached (c :: rest) := by
  intro d hd
  obtain rfl := Option.some.inj hd
  exact h

theorem Detached.head {c : Char} {rest : List Char} (h : Detached (c :: rest)) : separates c := h c rfl

/-- The separators of ASCII. -/
def asciiSeparators : List Char := ['\t', '\n', '\x0b', '\x0c', '\r', ' ', ',', ':', '=']

theorem separates_cases {c : Char} (h : separates c) :
    c ∈ asciiSeparators ∨ 0x80 ≤ c.toNat ∧ isBlank c := by
  simp only [separates, Bool.or_eq_true, decide_eq_true_eq] at h
  rcases h with ((hblank | rfl) | rfl) | rfl
  · by_cases hascii : c.toNat < 0x80
    · simp only [isBlank, blankRanges, Unicode.inRanges, List.any_cons, List.any_nil, Bool.or_false,
        Bool.or_eq_true, Bool.and_eq_true, decide_eq_true_eq] at hblank
      have hvalue : c.toNat = 9 ∨ c.toNat = 10 ∨ c.toNat = 11 ∨ c.toNat = 12 ∨ c.toNat = 13 ∨
          c.toNat = 32 := by omega
      rw [← Char.ofNat_toNat c]
      rcases hvalue with h | h | h | h | h | h <;> rw [h] <;> decide
    · exact .inr ⟨by omega, hblank⟩
  all_goals decide

/-- A class that no separator of ASCII is in, and no blank beyond. -/
theorem eq_false_of_separates {p : Char → Bool} {c : Char} (h : separates c)
    (hascii : asciiSeparators.all fun d => !p d) (hlarge : 0x80 ≤ c.toNat → isBlank c → p c = false) :
    p c = false := by
  rcases separates_cases h with hmem | ⟨hle, hblank⟩
  · simpa using List.all_eq_true.mp hascii c hmem
  · exact hlarge hle hblank

theorem isNameStart_of_separates {c : Char} (h : separates c) : isNameStart c = false := by
  refine eq_false_of_separates h (by decide) fun hle hblank => ?_
  simp [isNameStart, Nat.not_lt.mpr hle, hblank]

theorem isNamePart_of_separates {c : Char} (h : separates c) : isNamePart c = false := by
  refine eq_false_of_separates h (by decide) fun hle hblank => ?_
  simp [isNamePart, Nat.not_lt.mpr hle, hblank]

theorem isDecimal_of_separates {c : Char} (h : separates c) : isDecimal c = false := by
  refine eq_false_of_separates h (by decide) fun hle hblank => ?_
  simp [isDecimal, Nat.not_lt.mpr hle, hblank]

/-! ### Characters of words -/

theorem isUpper_iff {c : Char} : c.isUpper ↔ 'A'.toNat ≤ c.toNat ∧ c.toNat ≤ 'Z'.toNat := by
  show decide (c.val ≥ 'A'.val ∧ c.val ≤ 'Z'.val) = true ↔ _
  rw [decide_eq_true_eq, ge_iff_le, UInt32.le_iff_toNat_le, UInt32.le_iff_toNat_le]
  rfl

theorem isLower_iff {c : Char} : c.isLower ↔ 'a'.toNat ≤ c.toNat ∧ c.toNat ≤ 'z'.toNat := by
  show (decide (c.val ≥ 'a'.val) && decide (c.val ≤ 'z'.val)) = true ↔ _
  rw [Bool.and_eq_true, decide_eq_true_eq, decide_eq_true_eq, ge_iff_le, UInt32.le_iff_toNat_le,
    UInt32.le_iff_toNat_le]
  rfl

theorem isAlpha_iff {c : Char} :
    c.isAlpha ↔ 'A'.toNat ≤ c.toNat ∧ c.toNat ≤ 'Z'.toNat ∨ 'a'.toNat ≤ c.toNat ∧ c.toNat ≤ 'z'.toNat := by
  show (c.isUpper || c.isLower) = true ↔ _
  rw [Bool.or_eq_true, isUpper_iff, isLower_iff]

theorem toNat_lt_of_isAsciiWord {c : Char} (h : isAsciiWord c) : c.toNat < 0x80 := by
  simp only [isAsciiWord, Char.isAlphanum, Bool.or_eq_true, decide_eq_true_eq] at h
  rcases h with (hletter | hdigit) | rfl
  · have hrange := isAlpha_iff.mp hletter
    have hZ : 'Z'.toNat = 90 := rfl
    have hz : 'z'.toNat = 122 := rfl
    omega
  · have hrange := Char.isDigit_iff_toNat.mp hdigit
    have h9 : '9'.toNat = 57 := rfl
    omega
  · decide

theorem isAsciiWord_of_isDigit {c : Char} (h : c.isDigit) : isAsciiWord c = true := by
  simp [isAsciiWord, Char.isAlphanum, h]

theorem isNamePart_of_isAsciiWord {c : Char} (h : isAsciiWord c) : isNamePart c = true := by
  rw [isNamePart, if_pos (toNat_lt_of_isAsciiWord h)]
  exact h

theorem isDigit_of_isNameStart {c : Char} (h : isNameStart c) : c.isDigit = false := by
  rw [Bool.eq_false_iff]
  intro hdigit
  have hlt := toNat_lt_of_isAsciiWord (isAsciiWord_of_isDigit hdigit)
  rw [isNameStart, if_pos hlt, Bool.or_eq_true, decide_eq_true_eq] at h
  rcases h with hletter | rfl
  · have hrange := isAlpha_iff.mp hletter
    have hdigits := Char.isDigit_iff_toNat.mp hdigit
    have h9 : '9'.toNat = 57 := rfl
    have hA : 'A'.toNat = 65 := rfl
    have ha : 'a'.toNat = 97 := rfl
    omega
  · simp at hdigit

/-- A name starts with no digit of any script. -/
theorem isDecimal_of_isNameStart {c : Char} (h : isNameStart c) : isDecimal c = false := by
  by_cases hascii : c.toNat < 0x80
  · rw [isDecimal, if_pos hascii]
    exact isDigit_of_isNameStart h
  · simp only [isNameStart, hascii, if_false, Bool.and_eq_true, Bool.not_eq_eq_eq_not, Bool.not_true] at h
    exact h.1.2

theorem isAsciiWord_of_separates {c : Char} (h : separates c) : isAsciiWord c = false :=
  eq_false_of_imp isNamePart_of_isAsciiWord (isNamePart_of_separates h)

theorem isDigit_of_separates {c : Char} (h : separates c) : c.isDigit = false :=
  eq_false_of_imp isAsciiWord_of_isDigit (isAsciiWord_of_separates h)

/-! ## Pieces in a text -/

/-- White space, or nothing. -/
def Blank (gap : List Char) : Prop := ∀ c ∈ gap, isBlank c

theorem separates_of_isBlank {c : Char} (h : isBlank c) : separates c = true := by
  simp [separates, h]

/-- White space in front of a text that starts with a separator. -/
theorem Blank.detached_append {gap rest : List Char} (h : Blank gap) (hrest : Detached rest) :
    Detached (gap ++ rest) := by
  cases gap with
  | nil => exact hrest
  | cons c gap => exact .cons (separates_of_isBlank (h c List.mem_cons_self))

/-- Pieces in a row, and a text that has them with white space before, between and behind them. -/
inductive Spaced : List (List Char) → List Char → Prop
  | done {gap} : Blank gap → Spaced [] gap
  | piece {gap piece pieces text} : Blank gap → Spaced pieces text →
      Spaced (piece :: pieces) (gap ++ (piece ++ text))

instance (gap : List Char) : Decidable (Blank gap) := decidable_of_iff (gap.all isBlank) List.all_eq_true

/-- Pieces with a gap in front of each. -/
theorem Spaced.of_gaps {gaps pieces : List (List Char)} (hlength : gaps.length = pieces.length)
    (hgaps : ∀ gap ∈ gaps, Blank gap) : Spaced pieces (List.zipWith (· ++ ·) gaps pieces).flatten := by
  induction pieces generalizing gaps with
  | nil =>
    obtain rfl := List.length_eq_zero_iff.mp hlength
    exact .done (by simp [Blank])
  | cons piece pieces ih =>
    match gaps with
    | [] => simp at hlength
    | gap :: gaps =>
      have hrest := ih (Nat.succ.inj hlength) fun g hg => hgaps g (List.mem_cons_of_mem gap hg)
      rw [List.zipWith_cons_cons, List.flatten_cons, List.append_assoc]
      exact .piece (hgaps gap List.mem_cons_self) hrest

/-- The first of several pieces, in a text that something follows. -/
theorem Spaced.uncons {piece : List Char} {pieces : List (List Char)} {text : List Char}
    (h : Spaced (piece :: pieces) text) (ending : List Char) :
    ∃ gap rest, Blank gap ∧ text ++ ending = gap ++ (piece ++ (rest ++ ending)) ∧ Spaced pieces rest := by
  cases h with
  | @piece gap _ _ rest hgap hrest => exact ⟨gap, rest, hgap, by simp only [List.append_assoc], hrest⟩

theorem Spaced.blank {text : List Char} (h : Spaced [] text) : Blank text := by
  cases h with
  | done hgap => exact hgap

/-- A character that is in no piece and no white space is not in a text of the pieces. -/
theorem Spaced.not_mem {pieces : List (List Char)} {text : List Char} {c : Char} (h : Spaced pieces text)
    (hblank : isBlank c = false) (hpieces : ∀ piece ∈ pieces, c ∉ piece) : c ∉ text := by
  induction h with
  | done hgap =>
    intro hc
    exact Bool.false_ne_true (hblank.symm.trans (hgap c hc))
  | piece hgap _ ih =>
    intro hc
    rcases List.mem_append.mp hc with hc | hc
    · exact Bool.false_ne_true (hblank.symm.trans (hgap c hc))
    · rcases List.mem_append.mp hc with hc | hc
      · exact hpieces _ List.mem_cons_self hc
      · exact ih (fun piece hpiece => hpieces piece (List.mem_cons_of_mem _ hpiece)) hc

/-- A text is detached if its first piece is. -/
theorem Spaced.detached {pieces : List (List Char)} {text : List Char} (h : Spaced pieces text)
    (hpiece : ∀ piece, pieces.head? = some piece → piece ≠ [] ∧ Detached piece) : Detached text := by
  cases h with
  | done hgap =>
    have hdetached := hgap.detached_append .nil
    rwa [List.append_nil] at hdetached
  | @piece _ piece _ text hgap _ =>
    obtain ⟨hne, hdetached⟩ := hpiece piece rfl
    refine hgap.detached_append ?_
    match piece with
    | [] => exact absurd rfl hne
    | c :: piece => exact .cons hdetached.head

end PacketReinjection.Tunable
