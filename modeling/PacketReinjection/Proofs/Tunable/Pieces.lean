import Mathlib.Data.List.TakeWhile
import PacketReinjection.Proofs.Text.Number
import PacketReinjection.Proofs.Tunable.Spacing

/-!
# `Proofs.Tunable.Pieces` — the pieces of a declaration

Words, marks, strings and integers, each with its characters. An integer is spelt with figures of its base, underscores
between them and a suffix behind them, and it has a value. The decimal digits that its spelling starts with have a
value of their own, which is never larger.

## Contents
- **`Word`**, **`Quotation`** — names and keywords, and strings without quotes and backslashes.
- **`Base`**, **`IntegerSpelling`** — integers. `digits` and `behind` are the decimal digits that a spelling starts with
  and what stands behind them; `shown_le` and `shown_of_plain` compare their value with the integer's.
- **`Piece`** — any of them, with `Piece.Apart` for pieces that do not run into each other.
-/

namespace PacketReinjection.Tunable

open Text

/-! ## Words -/

/-- A word, which is a name or a keyword. -/
structure Word where
  first : Char
  others : List Char
  starts : isNameStart first
  /-- Marks of writing direction and of byte order start no word. -/
  visible : first ∉ ['\u200e', '\u200f', '\ufeff']
  goesOn : ∀ c ∈ others, isNamePart c

namespace Word

/-- The characters of a word. -/
def chars (w : Word) : List Char := w.first :: w.others

/-- A word of ASCII. -/
def ofAscii (first : Char) (others : List Char) (hfirst : isAsciiWord first) (hdigit : first.isDigit = false)
    (hothers : others.all isAsciiWord) : Word where
  first := first
  others := others
  starts := by
    rw [isNameStart, if_pos (toNat_lt_of_isAsciiWord hfirst)]
    simpa [isAsciiWord, Char.isAlphanum, hdigit] using hfirst
  visible := not_mem_of_all_not hfirst (by decide)
  goesOn c hc := isNamePart_of_isAsciiWord (List.all_eq_true.mp hothers c hc)

/-- Whether a word is one of ASCII. -/
def isAscii (w : Word) : Bool := w.chars.all isAsciiWord

end Word

/-! ## Strings -/

/-- A string without quotes and backslashes. -/
structure Quotation where
  chars : List Char
  plain : ∀ c ∈ chars, c ≠ '"' ∧ c ≠ '\\'

/-- The string in its quotes. -/
def Quotation.quoted (q : Quotation) : List Char := '"' :: (q.chars ++ ['"'])

/-! ## Bases -/

/-- The base that an integer is spelt in. -/
inductive Base where
  | binary
  | octal
  | decimal
  | hexadecimal
  deriving DecidableEq

namespace Base

/-- How many figures a base has. -/
def radix : Base → Nat
  | binary => 2
  | octal => 8
  | decimal => 10
  | hexadecimal => 16

/-- What stands in front of the figures. -/
def mark : Base → List Char
  | binary => ['0', 'b']
  | octal => ['0', 'o']
  | decimal => []
  | hexadecimal => ['0', 'x']

/-- The value of a figure, which may be a small or a capital letter. -/
def figure? (b : Base) (c : Char) : Option Nat := ("0123456789abcdef".toList.take b.radix).idxOf? c.toLower

/-- The value of figures behind those of `n`. What is no figure does not count. -/
def valueFrom (b : Base) (n : Nat) : List Char → Nat
  | [] => n
  | c :: rest =>
    match b.figure? c with
    | some d => b.valueFrom (n * b.radix + d) rest
    | none => b.valueFrom n rest

/-- Whether a text can stand behind figures: it is a name that does not go on like them, or like an exponent, or like
    the mark of another base. -/
def endsBefore (b : Base) (figures : List Char) : List Char → Bool
  | [] => true
  | c :: rest =>
    isNameStart c && rest.all isNamePart && !(['_', 'e', 'E'].contains c) && (b.figure? c).isNone
      && !(b = decimal && figures = ['0'] && ['b', 'o', 'x'].contains c)

variable {b : Base} {c : Char}

/-- What is true of the characters of ASCII and of all others is true of every character. -/
theorem forall_of_ascii {p : Char → Prop} (hascii : ∀ n : Fin 0x80, p (Char.ofNat n))
    (hlarge : ∀ c, 0x80 ≤ c.toNat → p c) (c : Char) : p c := by
  by_cases hc : c.toNat < 0x80
  · have h := hascii ⟨c.toNat, hc⟩
    rwa [Char.ofNat_toNat] at h
  · exact hlarge c (Nat.not_lt.mp hc)

/-- Figures are characters of ASCII. -/
theorem figure?_of_le (b : Base) (h : 0x80 ≤ c.toNat) : b.figure? c = none := by
  have hsame : c.toLower = c := by
    have hcapital : ¬ (c.val ≥ 'A'.val ∧ c.val ≤ 'Z'.val) := by
      rintro ⟨-, hle⟩
      have hnat : c.toNat ≤ 'Z'.toNat := hle
      have hZ : 'Z'.toNat = 90 := rfl
      omega
    exact dif_neg hcapital
  rw [figure?, List.idxOf?_eq_none_iff, hsame]
  intro hmem
  have hall : "0123456789abcdef".toList.all fun d => d.toNat < 0x80 := by decide
  have hsmall := of_decide_eq_true (List.all_eq_true.mp hall c (List.mem_of_mem_take hmem))
  exact absurd hsmall (Nat.not_lt.mpr h)

/-- The decimal figures are the decimal digits of ASCII. -/
theorem figure?_decimal (c : Char) : decimal.figure? c = if c.isDigit then some (digitValue c) else none := by
  refine forall_of_ascii (p := fun c => decimal.figure? c = if c.isDigit then some (digitValue c) else none)
    (by decide +kernel) (fun c hc => ?_) c
  have hdigit : c.isDigit = false := by
    rw [Bool.eq_false_iff]
    intro hdigit
    exact absurd (toNat_lt_of_isAsciiWord (isAsciiWord_of_isDigit hdigit)) (Nat.not_lt.mpr hc)
  rw [figure?_of_le decimal hc, hdigit]
  rfl

theorem isAsciiWord_of_figure? (h : (b.figure? c).isSome) : isAsciiWord c = true := by
  revert h
  refine forall_of_ascii (p := fun c => (b.figure? c).isSome → isAsciiWord c = true) ?_ (fun c hc h => ?_) c
  · cases b <;> decide +kernel
  · rw [figure?_of_le b hc] at h
    exact absurd h Bool.false_ne_true

/-- The mark of a base is missing or is a zero and a letter. -/
theorem mark_cases (b : Base) : b = decimal ∨ ∃ c, c ∈ ['b', 'o', 'x'] ∧ b.mark = ['0', c] := by
  cases b with
  | binary => exact .inr ⟨'b', by decide, rfl⟩
  | octal => exact .inr ⟨'o', by decide, rfl⟩
  | decimal => exact .inl rfl
  | hexadecimal => exact .inr ⟨'x', by decide, rfl⟩

theorem le_valueFrom (b : Base) (n : Nat) (cs : List Char) : n ≤ b.valueFrom n cs := by
  induction cs generalizing n with
  | nil => exact Nat.le_refl n
  | cons c cs ih =>
    rw [valueFrom]
    split
    · rename_i d _
      have hradix : 0 < b.radix := by cases b <;> decide
      have hmul := Nat.le_mul_of_pos_right n hradix
      have hrest := ih (n * b.radix + d)
      omega
    · exact ih n

/-- The decimal digits in front are worth no more than all figures. -/
theorem ofDigitChars_takeWhile_le (n : Nat) (cs : List Char) :
    Nat.ofDigitChars 10 (cs.takeWhile Char.isDigit) n ≤ decimal.valueFrom n cs := by
  induction cs generalizing n with
  | nil => exact Nat.le_refl n
  | cons c cs ih =>
    cases hdigit : c.isDigit with
    | true =>
      rw [valueFrom, figure?_decimal, List.takeWhile_cons_of_pos hdigit, ofDigitChars_cons]
      simp only [hdigit, if_true]
      exact ih _
    | false =>
      rw [List.takeWhile_cons_of_neg (by simp [hdigit])]
      exact le_valueFrom decimal n (c :: cs)

theorem valueFrom_digits {n : Nat} {cs : List Char} (h : ∀ c ∈ cs, c.isDigit) :
    decimal.valueFrom n cs = Nat.ofDigitChars 10 cs n := by
  induction cs generalizing n with
  | nil => rfl
  | cons c cs ih =>
    have hdigit := h c List.mem_cons_self
    rw [valueFrom, figure?_decimal, ofDigitChars_cons]
    simp only [hdigit, if_true]
    exact ih fun d hd => h d (List.mem_cons_of_mem c hd)

end Base

/-! ## Integers -/

/-- An integer as it is spelt: the mark of its base, figures with underscores between them, and a suffix or none.
    Decimal figures start with a digit. -/
structure IntegerSpelling where
  base : Base
  figures : List Char
  suffix : List Char
  written : figures.all fun c => c = '_' || (base.figure? c).isSome
  valued : figures.any fun c => (base.figure? c).isSome
  leading : base = .decimal → figures.head? ≠ some '_'
  ends : base.endsBefore figures suffix

namespace IntegerSpelling

variable (n : IntegerSpelling)

/-- The characters of an integer. -/
def chars : List Char := n.base.mark ++ (n.figures ++ n.suffix)

/-- The integer. -/
def value : Nat := n.base.valueFrom 0 n.figures

/-- The decimal digits that the spelling starts with. -/
def digits : List Char := n.chars.takeWhile Char.isDigit

/-- What stands behind them. -/
def behind : List Char := n.chars.dropWhile Char.isDigit

/-- The value of the digits that the spelling starts with. -/
def shown : Nat := decimalValue n.digits

/-- Whether the spelling has nothing but decimal digits. -/
def plain : Bool := n.chars.all Char.isDigit

variable {n} {c : Char}

theorem digits_append_behind : n.digits ++ n.behind = n.chars := List.takeWhile_append_dropWhile

theorem behind_eq_nil : n.behind = [] ↔ n.plain := by
  rw [behind, List.dropWhile_eq_nil_iff, plain, List.all_eq_true]

theorem isDigit_of_mem_digits (h : c ∈ n.digits) : c.isDigit = true := List.mem_takeWhile_imp h

/-! ### Suffixes -/

/-- A suffix starts with a name that is neither digit nor underscore, and goes on like a name. -/
theorem suffix_spec {rest : List Char} (h : n.suffix = c :: rest) :
    isNameStart c ∧ (∀ d ∈ rest, isNamePart d) ∧ c ∉ ['_', 'e', 'E'] ∧ n.base.figure? c = none
      ∧ (n.base = .decimal → n.figures = ['0'] → c ∉ ['b', 'o', 'x']) := by
  have hends := n.ends
  rw [h, Base.endsBefore] at hends
  simp only [Bool.and_eq_true, Bool.not_eq_true', List.all_eq_true, Option.isNone_iff_eq_none,
    Bool.and_eq_false_iff, decide_eq_false_iff_not, List.contains_eq_mem] at hends
  obtain ⟨⟨⟨⟨hstart, hrest⟩, hsign⟩, hfigure⟩, hmark⟩ := hends
  refine ⟨hstart, hrest, hsign, hfigure, fun hbase hzero => ?_⟩
  rcases hmark with (hne | hne) | hmark
  · exact absurd hbase hne
  · exact absurd hzero hne
  · exact hmark

/-- No digit stands in front of a suffix. -/
theorem isDigit_head_suffix (h : n.suffix.head? = some c) : c.isDigit = false := by
  obtain ⟨rest, hsuffix⟩ := List.head?_eq_some_iff.mp h
  exact isDigit_of_isNameStart (suffix_spec hsuffix).1

/-! ### Spellings with and without a mark -/

/-- A run of digits does not go on in a text that starts with none. -/
theorem takeWhile_append_of_head {p : Char → Bool} {text rest : List Char}
    (h : ∀ c, rest.head? = some c → p c = false) :
    (text ++ rest).takeWhile p = text.takeWhile p ∧ (text ++ rest).dropWhile p = text.dropWhile p ++ rest := by
  induction text with
  | nil =>
    cases rest with
    | nil => exact ⟨rfl, rfl⟩
    | cons c rest => simp [h c rfl]
  | cons c text ih =>
    cases hc : p c with
    | true => simp [hc, ih]
    | false => simp [hc]

/-- A decimal spelling starts with the digits in front of its figures. -/
theorem digits_decimal (h : n.base = .decimal) :
    n.digits = n.figures.takeWhile Char.isDigit ∧ n.behind = n.figures.dropWhile Char.isDigit ++ n.suffix := by
  have hchars : n.chars = n.figures ++ n.suffix := by
    rw [chars, h]
    rfl
  rw [digits, behind, hchars]
  exact takeWhile_append_of_head fun c hc => isDigit_head_suffix hc

/-- Of a spelling with a mark, the zero of the mark is the only digit in front. -/
theorem digits_marked {m : Char} (hm : m ∈ ['b', 'o', 'x']) (h : n.base.mark = ['0', m]) :
    n.digits = ['0'] ∧ n.behind = m :: (n.figures ++ n.suffix) := by
  have hdigit : m.isDigit = false := by
    have hall : ['b', 'o', 'x'].all fun c => !c.isDigit := by decide
    simpa using List.all_eq_true.mp hall m hm
  rw [digits, behind, chars, h]
  simp [hdigit]

/-- The first of decimal figures is a digit. -/
theorem figures_decimal (h : n.base = .decimal) : ∃ c rest, n.figures = c :: rest ∧ c.isDigit := by
  cases hfigures : n.figures with
  | nil =>
    have hvalued := n.valued
    rw [hfigures] at hvalued
    exact absurd hvalued Bool.false_ne_true
  | cons c rest =>
    refine ⟨c, rest, rfl, ?_⟩
    have hwritten := List.all_eq_true.mp n.written c (by rw [hfigures]; exact List.mem_cons_self)
    have hleading := n.leading h
    rw [hfigures] at hleading
    have hgap : c ≠ '_' := fun hc => hleading (congrArg some hc)
    rw [h, Base.figure?_decimal] at hwritten
    by_contra hdigit
    simp [hgap, hdigit] at hwritten

/-- A spelling starts with a decimal digit. -/
theorem chars_spec : ∃ c rest, n.chars = c :: rest ∧ c.isDigit := by
  rcases n.base.mark_cases with hbase | ⟨m, -, hmark⟩
  · obtain ⟨c, rest, hfigures, hc⟩ := figures_decimal hbase
    exact ⟨c, rest ++ n.suffix, by rw [chars, hbase, hfigures]; rfl, hc⟩
  · exact ⟨'0', m :: (n.figures ++ n.suffix), by rw [chars, hmark]; rfl, by decide⟩

theorem digits_ne_nil : n.digits ≠ [] := by
  obtain ⟨c, rest, htext, hc⟩ := n.chars_spec
  simp [digits, htext, hc]

/-- The digits in front are worth no more than the integer. -/
theorem shown_le : n.shown ≤ n.value := by
  rcases n.base.mark_cases with hbase | ⟨m, hm, hmark⟩
  · rw [shown, (digits_decimal hbase).1, value, hbase]
    exact Base.ofDigitChars_takeWhile_le 0 n.figures
  · rw [shown, (digits_marked hm hmark).1]
    exact Nat.zero_le _

/-- Decimal digits alone are worth the integer. -/
theorem shown_of_plain (hplain : n.plain) : n.shown = n.value := by
  rcases n.base.mark_cases with hbase | ⟨m, hm, hmark⟩
  · obtain ⟨hdigits, hbehind⟩ := digits_decimal hbase
    rw [behind_eq_nil.mpr hplain] at hbehind
    obtain ⟨hnone, -⟩ := List.append_eq_nil_iff.mp hbehind.symm
    have hall := List.dropWhile_eq_nil_iff.mp hnone
    rw [shown, hdigits, List.takeWhile_eq_self_iff.mpr hall, value, hbase, Base.valueFrom_digits hall]
    rfl
  · have hbehind := (digits_marked hm hmark).2
    rw [behind_eq_nil.mpr hplain] at hbehind
    exact absurd hbehind.symm (List.cons_ne_nil _ _)

/-- The characters of a spelling are those of words and names. -/
theorem mem_chars (h : c ∈ n.chars) : isAsciiWord c ∨ isNameStart c ∨ isNamePart c := by
  rcases List.mem_append.mp h with hmark | h
  · have hall : n.base.mark.all isAsciiWord := by cases n.base <;> decide
    exact .inl (List.all_eq_true.mp hall c hmark)
  · rcases List.mem_append.mp h with hfigure | hsuffix
    · have hwritten := List.all_eq_true.mp n.written c hfigure
      rcases Bool.or_eq_true_iff.mp hwritten with hgap | hfigure
      · rw [of_decide_eq_true hgap]
        exact .inl (by decide)
      · exact .inl (Base.isAsciiWord_of_figure? hfigure)
    · cases hcase : n.suffix with
      | nil => simp [hcase] at hsuffix
      | cons d rest =>
        obtain ⟨hstart, hrest, -⟩ := suffix_spec hcase
        rw [hcase] at hsuffix
        rcases List.mem_cons.mp hsuffix with rfl | hmem
        · exact .inr (.inl hstart)
        · exact .inr (.inr (hrest c hmem))

/-- The digits in front do not go on with a digit of another script. -/
theorem isDecimal_head_behind (h : n.behind.head? = some c) : isDecimal c = false := by
  rcases n.base.mark_cases with hbase | ⟨m, hm, hmark⟩
  · rw [(digits_decimal hbase).2, List.head?_append] at h
    cases hdrop : (n.figures.dropWhile Char.isDigit).head? with
    | none =>
      rw [hdrop] at h
      obtain ⟨rest, hsuffix⟩ := List.head?_eq_some_iff.mp (show n.suffix.head? = some c from h)
      exact isDecimal_of_isNameStart (suffix_spec hsuffix).1
    | some d =>
      -- What is in front of the suffix and is no digit is an underscore.
      rw [hdrop] at h
      obtain rfl : d = c := Option.some.inj h
      have hdigit : d.isDigit = false := by
        have hhead := List.head?_dropWhile_not Char.isDigit n.figures
        rw [hdrop] at hhead
        simpa using hhead
      have hmem : d ∈ n.figures := List.dropWhile_subset _ (List.mem_of_head? hdrop)
      have hwritten := List.all_eq_true.mp n.written d hmem
      rw [hbase, Base.figure?_decimal] at hwritten
      obtain rfl : d = '_' := by simpa [hdigit] using hwritten
      decide
  · rw [(digits_marked hm hmark).2] at h
    obtain rfl : m = c := Option.some.inj h
    have hall : ['b', 'o', 'x'].all fun c => !isDecimal c := by decide
    simpa using List.all_eq_true.mp hall m hm

/-- A character that is in no word or name is in no spelling. -/
theorem not_mem_chars (hword : isAsciiWord c = false) (hstart : isNameStart c = false)
    (hpart : isNamePart c = false) : c ∉ n.chars := by
  intro h
  rcases mem_chars h with h | h | h
  · exact Bool.false_ne_true (hword.symm.trans h)
  · exact Bool.false_ne_true (hstart.symm.trans h)
  · exact Bool.false_ne_true (hpart.symm.trans h)

theorem separates_of_mem_chars (h : c ∈ n.chars) : separates c = false := by
  rw [Bool.eq_false_iff]
  intro hsep
  exact not_mem_chars (isAsciiWord_of_separates hsep) (isNameStart_of_separates hsep)
    (isNamePart_of_separates hsep) h

/-- The digits in front are read as their value. -/
theorem readNumber_digits (hlimit : n.value < numberLimit) : readNumber n.digits = .ok n.shown :=
  readNumber_eq n.digits_ne_nil (fun _ hc => isDigit_of_mem_digits hc)
    (Nat.lt_of_le_of_lt shown_le hlimit)

end IntegerSpelling

/-! ## Pieces -/

/-- A piece of a declaration. -/
inductive Piece where
  | word (w : Word)
  | mark (c : Char) (h : c = ',' ∨ c = ':' ∨ c = '=')
  | string (q : Quotation)
  | number (n : IntegerSpelling)

namespace Piece

/-- The characters of a piece. -/
def chars : Piece → List Char
  | word w => w.chars
  | mark c _ => [c]
  | string q => q.quoted
  | number n => n.chars

def isMark : Piece → Bool
  | mark _ _ => true
  | _ => false

/-- Of two pieces side by side one is a mark. -/
def Apart : List Piece → Prop
  | p :: q :: rest => (p.isMark ∨ q.isMark) ∧ Apart (q :: rest)
  | _ => True

/-- A piece starts with a character that is no white space. -/
theorem exists_first (p : Piece) : ∃ c text, p.chars = c :: text ∧ isBlank c = false := by
  cases p with
  | word w =>
    refine ⟨w.first, w.others, rfl, ?_⟩
    rw [Bool.eq_false_iff]
    intro hblank
    exact Bool.false_ne_true ((isNameStart_of_separates (separates_of_isBlank hblank)).symm.trans w.starts)
  | mark c h => exact ⟨c, [], rfl, by rcases h with rfl | rfl | rfl <;> decide⟩
  | string q => exact ⟨'"', q.chars ++ ['"'], rfl, by decide⟩
  | number n =>
    obtain ⟨c, text, htext, hc⟩ := n.chars_spec
    refine ⟨c, text, htext, ?_⟩
    rw [Bool.eq_false_iff]
    intro hblank
    exact Bool.false_ne_true ((isDigit_of_separates (separates_of_isBlank hblank)).symm.trans hc)

/-- A mark separates what stands around it. -/
theorem detached_of_isMark {p : Piece} (h : p.isMark) : p.chars ≠ [] ∧ Detached p.chars := by
  cases p with
  | mark c hc =>
    refine ⟨by simp [chars], ?_⟩
    rcases hc with rfl | rfl | rfl <;> exact .cons (by decide)
  | word w | string q | number n => exact absurd h Bool.false_ne_true

end Piece

end PacketReinjection.Tunable
