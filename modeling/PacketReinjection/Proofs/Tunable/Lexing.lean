import Mathlib.Data.List.Forall2
import PacketReinjection.Proofs.Tunable.Numeral
import PacketReinjection.Tunable.Token.Lexeme

/-!
# `Proofs.Tunable.Lexing` — the tokens of pieces with white space around them

Pieces that do not run into each other are one token each, whatever white space is around them.

## Contents
- **`Piece.token?`** — the token of a piece; `Piece.IsRead`, whatever follows it.
- **Leaves.** `leaf?_word`, `leaf?_quotation`, `leaf?_number`, `leaf?_mark`.
- **`lexemes?_spaced`** — the lexemes of a text of pieces.
- **`ofText?_spaced`** — its tokens.
-/

namespace PacketReinjection.Tunable

open Text Token

/-! ## Gaps -/

theorem isGap_of_isBlank {c : Char} (h : isBlank c) : isGap c = true := by
  unfold isGap
  split
  · rename_i hascii
    simp only [isBlank, blankRanges, Unicode.inRanges, List.any_cons, List.any_nil, Bool.or_false,
      Bool.or_eq_true, Bool.and_eq_true, decide_eq_true_eq] at h
    have hvalue : c.toNat = ' '.toNat ∨ 0x09 ≤ c.toNat ∧ c.toNat ≤ 0x0d := by
      have hspace : ' '.toNat = 32 := rfl
      omega
    rw [Char.toNat_inj] at hvalue
    simpa using hvalue
  · simp [h]

/-- Apart from blanks, marks of writing direction separate tokens. -/
theorem isBlank_of_isGap {c : Char} (h : isGap c) (hvisible : c ∉ ['\u200e', '\u200f']) : isBlank c = true := by
  simp only [List.mem_cons, List.not_mem_nil, or_false, not_or] at hvisible
  unfold isGap at h
  split at h
  · simp only [isBlank, blankRanges, Unicode.inRanges, List.any_cons, List.any_nil, Bool.or_false,
      Bool.or_eq_true, Bool.and_eq_true, decide_eq_true_eq] at h ⊢
    rcases h with rfl | hrange
    · simp
    · omega
  · simpa [hvisible] using h

/-! ## Strings -/

namespace Quotation

/-- What the string stands for. A carriage return has to end a line, and is left out. -/
def value? (q : Quotation) : Option (List Char) :=
  (quoted? characterRules '"' .plain (q.chars ++ ['"'])).map (·.1)

theorem quoted?_plain {chars : List Char} (hchars : ∀ c ∈ chars, c ≠ '"' ∧ c ≠ '\\') (hreturn : '\r' ∉ chars) :
    quoted? characterRules '"' .plain (chars ++ ['"']) = some (chars, []) := by
  induction chars with
  | nil => rfl
  | cons c chars ih =>
    obtain ⟨hquote, hslash⟩ := hchars c List.mem_cons_self
    have hfeed : c ≠ '\r' := fun h => hreturn (h ▸ List.mem_cons_self)
    have hrest := ih (fun d hd => hchars d (List.mem_cons_of_mem c hd))
      fun h => hreturn (List.mem_cons_of_mem c h)
    have hany : characterRules.plain c = true := rfl
    simp [quoted?, QuoteState.step, QuoteState.stepPlain, hfeed, hquote, hslash, hany, hrest]

/-- A string without carriage returns stands for itself. -/
theorem value?_eq (q : Quotation) (hreturn : '\r' ∉ q.chars) : q.value? = some q.chars := by
  rw [value?, quoted?_plain q.plain hreturn]
  rfl

end Quotation

/-! ## Pieces -/

/-- The token of a piece; `joint` says whether a mark follows it directly. -/
def Piece.token? (joint : Bool) : Piece → Option Token
  | word w => some (.name (String.ofList w.chars) false)
  | mark c _ => some (.mark c joint)
  | string q => q.value?.map fun value => .literal (String.ofList q.quoted) (.text (String.ofList value))
  | number n => some (.literal (String.ofList n.chars) (.integer n.value (0 < n.suffix.length)))

namespace Token

/-! ## The first character -/

theorem isDigit_of_hexValue? {c : Char} {d : Nat} (h : hexValue? c = some d) (hd : d < 10) : c.isDigit := by
  unfold hexValue? at h
  split at h
  · assumption
  · split at h
    · have heq := Option.some.inj h
      omega
    · split at h
      · have heq := Option.some.inj h
        omega
      · exact absurd h (by simp)

/-- A text that does not start with a digit starts with no number. -/
theorem numeral?_eq_none {c : Char} {rest : List Char} (h : c.isDigit = false) :
    numeral? (c :: rest) = none := by
  have hfraction : fraction? (c :: rest) = none := by simp [fraction?, afterFraction?, h]
  have hnatural : natural? (c :: rest) = none := by
    have hbase : baseOf (c :: rest) = (10, c :: rest) := by
      have hzero : c ≠ '0' := by
        rintro rfl
        exact absurd h (by decide)
      simp [baseOf, hzero]
    have hdigits : digitsValue? 10 none (c :: rest) = none := by
      simp only [digitsValue?]
      split
      · rfl
      · split
        · rename_i d hvalue
          have hlarge : ¬ d < 10 := fun hlt =>
            Bool.false_ne_true (h.symm.trans (isDigit_of_hexValue? hvalue hlt))
          simp [hlarge]
        · rfl
    simp [natural?, hbase, hdigits]
  simp [numeral?, hfraction, hnatural]

/-! ## Texts in quotes -/

/-- A text that does not go on with a quote or a number sign. -/
def Unquoted (text : List Char) : Prop := ∀ c, text.head? = some c → c ≠ '"' ∧ c ≠ '#' ∧ c ≠ '\''

variable {rest : List Char}

theorem Unquoted.append {others : List Char} (hothers : ∀ c ∈ others, isNamePart c) (h : Detached rest) :
    Unquoted (others ++ rest) := by
  intro c hc
  cases others with
  | nil =>
    have hsep : separates c := h c hc
    exact ⟨ne_of_class hsep (by decide), ne_of_class hsep (by decide),
      ne_of_class hsep (by decide)⟩
  | cons d others =>
    obtain rfl : d = c := Option.some.inj hc
    have hpart := hothers d List.mem_cons_self
    exact ⟨ne_of_class hpart (by decide), ne_of_class hpart (by decide),
      ne_of_class hpart (by decide)⟩

theorem Unquoted.tail {c : Char} {others text : List Char} (hothers : ∀ d ∈ others, isNamePart d)
    (h : Detached rest) (hc : isNamePart c) (heq : others ++ rest = c :: text) : Unquoted text := by
  cases others with
  | nil =>
    have hsep := h c (by rw [show rest = c :: text from heq]; rfl)
    rw [isNamePart_of_separates hsep] at hc
    exact absurd hc Bool.false_ne_true
  | cons d others =>
    obtain ⟨rfl, rfl⟩ := List.cons.inj heq
    exact .append (fun e he => hothers e (List.mem_cons_of_mem d he)) h

theorem rawQuoted?_eq_none {plain : Char → Bool} {text : List Char} (h : Unquoted text) :
    rawQuoted? plain text = none := by
  cases text with
  | nil => rfl
  | cons c text =>
    obtain ⟨hquote, hsign, -⟩ := h c rfl
    simp [rawQuoted?, hsign, hquote]

theorem quotedLiteral?_word (w : Word) (h : Detached rest) : quotedLiteral? (w.chars ++ rest) = none := by
  have hnext : Unquoted (w.others ++ rest) := .append w.goesOn h
  have hafter : ∀ text, w.others ++ rest = 'r' :: text → Unquoted text := fun text heq =>
    .tail w.goesOn h (by decide) heq
  have hquote : w.first ≠ '"' := ne_of_class w.starts (by decide)
  have hsingle : w.first ≠ '\'' := ne_of_class w.starts (by decide)
  simp only [Word.chars, List.cons_append]
  -- A word may begin with the letter of such a text, but then neither quote nor number sign follows.
  generalize w.others ++ rest = text at hnext hafter
  unfold quotedLiteral?
  split
  · rename_i heq; exact absurd (List.cons.inj heq).1 hquote
  · rename_i heq; exact absurd rfl (hnext '"' (by rw [(List.cons.inj heq).2]; rfl)).1
  · rename_i heq; simp [rawQuoted?_eq_none (hafter _ (List.cons.inj heq).2)]
  · rename_i heq; exact absurd rfl (hnext '"' (by rw [(List.cons.inj heq).2]; rfl)).1
  · rename_i heq; simp [rawQuoted?_eq_none (hafter _ (List.cons.inj heq).2)]
  · rename_i heq
    obtain ⟨-, rfl⟩ := List.cons.inj heq
    simp [rawQuoted?_eq_none hnext]
  · rename_i heq; exact absurd rfl (hnext '\'' (by rw [(List.cons.inj heq).2]; rfl)).2.2
  · rename_i heq; exact absurd (List.cons.inj heq).1 hsingle
  · rfl

/-- The starts of texts in quotes, written out. -/
theorem quoteStarts_eq : quoteStarts =
    [['r', '"'], ['r', '#', '"'], ['r', '#', '#'], ['b', '"'], ['b', '\''], ['b', 'r', '"'], ['b', 'r', '#'],
      ['c', '"'], ['c', 'r', '"'], ['c', 'r', '#']] := by
  decide

theorem isPrefixOf_unquoted {q : Char} {more text : List Char} (h : Unquoted text)
    (hq : q = '"' ∨ q = '#' ∨ q = '\'') : (q :: more).isPrefixOf text = false := by
  cases text with
  | nil => rfl
  | cons c text =>
    obtain ⟨hquote, hsign, hsingle⟩ := h c rfl
    have hne : q ≠ c := by
      rcases hq with rfl | rfl | rfl
      · exact hquote.symm
      · exact hsign.symm
      · exact hsingle.symm
    simp [List.isPrefixOf, hne]

theorem startsQuote_word (w : Word) (h : Detached rest) : startsQuote (w.chars ++ rest) = false := by
  have hnext : Unquoted (w.others ++ rest) := .append w.goesOn h
  have hafter : ∀ q more, q = '"' ∨ q = '#' ∨ q = '\'' →
      ('r' :: q :: more).isPrefixOf (w.others ++ rest) = false := by
    intro q more hq
    cases heq : w.others ++ rest with
    | nil => rfl
    | cons c text =>
      by_cases hc : c = 'r'
      · subst hc
        have htail : Unquoted text := .tail w.goesOn h (by decide) heq
        simp [isPrefixOf_unquoted htail hq]
      · have hne : 'r' ≠ c := fun h => hc h.symm
        simp [List.isPrefixOf, hne]
  simp only [Word.chars, List.cons_append, startsQuote, quoteStarts_eq]
  generalize w.others ++ rest = text at hnext hafter
  simp [List.isPrefixOf_cons_cons, isPrefixOf_unquoted hnext, hafter]

/-! ## Leaves -/

theorem takeWhile_others (w : Word) (h : Detached rest) :
    (w.others ++ rest).takeWhile isNamePart = w.others ∧ (w.others ++ rest).dropWhile isNamePart = rest := by
  have hstop : rest.takeWhile isNamePart = [] ∧ rest.dropWhile isNamePart = rest := by
    cases rest with
    | nil => exact ⟨rfl, rfl⟩
    | cons c rest => simp [isNamePart_of_separates h.head]
  rw [List.takeWhile_append_of_pos w.goesOn, List.dropWhile_append_of_pos w.goesOn, hstop.1, hstop.2,
    List.append_nil]
  exact ⟨rfl, rfl⟩

theorem anyName?_word (w : Word) (h : Detached rest) :
    anyName? (w.chars ++ rest) = some (String.ofList w.chars, false, rest) := by
  have hnext : Unquoted (w.others ++ rest) := .append w.goesOn h
  obtain ⟨htake, hdrop⟩ := takeWhile_others w h
  have hplain : plainName? (w.chars ++ rest) = some (w.chars, rest) := by
    simp [Word.chars, plainName?, w.starts, htake, hdrop]
  unfold anyName?
  split
  · rename_i heq
    have hsign := hnext '#' (congrArg List.head? (List.cons.inj heq).2)
    exact absurd rfl hsign.2.1
  · rw [hplain]
    rfl

/-- The punctuation characters, written out. -/
theorem markCharacters_eq : markCharacters =
    ['~', '!', '@', '#', '$', '%', '^', '&', '*', '-', '=', '+', '|', ';', ':', ',', '<', '.', '>', '/', '?',
      '\''] := by
  decide

theorem startsMark_eq_false {c : Char} (h : c ∉ markCharacters) : startsMark (c :: rest) = false := by
  have hslash : c ≠ '/' := by
    rintro rfl
    exact h (by decide)
  unfold startsMark
  split
  · rename_i heq; exact absurd (List.cons.inj heq).1 hslash
  · rename_i heq; exact absurd (List.cons.inj heq).1 hslash
  · rename_i heq
    obtain ⟨rfl, -⟩ := List.cons.inj heq
    simpa using h
  · rfl

theorem not_mem_markCharacters {c : Char} (h : isNameStart c) : c ∉ markCharacters :=
  not_mem_of_all_not h (by decide)

theorem leaf?_word (w : Word) (h : Detached rest) :
    leaf? (w.chars ++ rest) = some (.name (String.ofList w.chars) false, rest) := by
  have hsingle : w.first ≠ '\'' := ne_of_class w.starts (by decide)
  have hnumber : numberLiteral? (w.chars ++ rest) = none := by
    simp [numberLiteral?, Word.chars, numeral?_eq_none (isDigit_of_isNameStart w.starts)]
  have hlifetime : lifetime? (w.chars ++ rest) = none := by simp [lifetime?, Word.chars, hsingle]
  have hmark : mark? (w.chars ++ rest) = none := by
    simp [mark?, Word.chars, startsMark_eq_false (not_mem_markCharacters w.starts)]
  have hname : name? (w.chars ++ rest) = some (.name (String.ofList w.chars) false, rest) := by
    simp [name?, startsQuote_word w h, anyName?_word w h]
  simp [leaf?, quotedLiteral?_word w h, hnumber, hlifetime, hmark, hname]

theorem spelled_append (piece : List Char) : spelled (piece ++ rest) rest = String.ofList piece := by
  simp [spelled]

/-- A text that starts with none of the letters and quotes of texts in quotes. -/
theorem quotedLiteral?_eq_none {c : Char} (h : c ∉ ['"', '\'', 'b', 'c', 'r']) :
    quotedLiteral? (c :: rest) = none := by
  simp only [List.mem_cons, List.not_mem_nil, or_false, not_or] at h
  obtain ⟨hquote, hsingle, hb, hc, hr⟩ := h
  simp [quotedLiteral?, hquote, hsingle, hb, hc, hr]

theorem leaf?_number (n : IntegerSpelling) (h : Detached rest) :
    leaf? (n.chars ++ rest) = some (.literal (String.ofList n.chars) (.integer n.value (0 < n.suffix.length)), rest) := by
  obtain ⟨c, text, htext, hc⟩ := n.chars_spec
  have hquoted : quotedLiteral? (n.chars ++ rest) = none := by
    rw [htext]
    exact quotedLiteral?_eq_none (not_mem_of_all_not hc (by decide))
  have hnumber : numeral? (n.chars ++ rest) = some (.integer n.value (0 < n.suffix.length), rest) := by
    rw [numeral?_append n.chars h, numeral?_chars]
    rfl
  simp [leaf?, hquoted, numberLiteral?, hnumber, spelled_append]

theorem leaf?_mark {c : Char} (rest : List Char) (hc : c = ',' ∨ c = ':' ∨ c = '=') :
    ∃ joint, leaf? (c :: rest) = some (.mark c joint, rest) := by
  have hquoted : quotedLiteral? (c :: rest) = none := by
    refine quotedLiteral?_eq_none ?_
    rcases hc with rfl | rfl | rfl <;> decide
  have hnumber : numeral? (c :: rest) = none := by
    refine numeral?_eq_none ?_
    rcases hc with rfl | rfl | rfl <;> decide
  have hsingle : c ≠ '\'' := by rcases hc with rfl | rfl | rfl <;> decide
  have hmark : startsMark (c :: rest) = true := by
    rcases hc with rfl | rfl | rfl <;> simp [startsMark, markCharacters_eq]
  exact ⟨startsMark rest, by
    simp [leaf?, hquoted, numberLiteral?, hnumber, lifetime?, mark?, hsingle, hmark]⟩

/-- A string is read up to its closing quote, whatever follows. -/
theorem quoted?_append {state : QuoteState} (hstate : state = .plain ∨ state = .lineEnd) {chars : List Char}
    (hchars : ∀ c ∈ chars, c ≠ '"' ∧ c ≠ '\\') :
    quoted? characterRules '"' state (chars ++ '"' :: rest) =
      (quoted? characterRules '"' state (chars ++ ['"'])).map fun r => (r.1, rest) := by
  induction chars generalizing state with
  | nil =>
    rcases hstate with rfl | rfl
    · simp [quoted?, QuoteState.step, QuoteState.stepPlain]
    · simp [quoted?, QuoteState.step]
  | cons c chars ih =>
    obtain ⟨hquote, hslash⟩ := hchars c List.mem_cons_self
    have hrest : ∀ d ∈ chars, d ≠ '"' ∧ d ≠ '\\' := fun d hd => hchars d (List.mem_cons_of_mem c hd)
    have hplain := ih (.inl rfl) hrest
    have hline := ih (.inr rfl) hrest
    have hany : characterRules.plain c = true := rfl
    rcases hstate with rfl | rfl
    · by_cases hreturn : c = '\r'
      · simp only [List.cons_append, quoted?, QuoteState.step, QuoteState.stepPlain, if_neg hquote, if_pos hreturn, hline]
        cases quoted? characterRules '"' .lineEnd (chars ++ ['"']) <;> rfl
      · simp only [List.cons_append, quoted?, QuoteState.step, QuoteState.stepPlain, hreturn, hquote, hslash, hany,
          hplain, if_true, if_false]
        cases quoted? characterRules '"' .plain (chars ++ ['"']) <;> rfl
    · by_cases hfeed : c = '\n'
      · simp only [List.cons_append, quoted?, QuoteState.step, hfeed, hplain, if_true]
        cases quoted? characterRules '"' .plain (chars ++ ['"']) <;> rfl
      · simp [quoted?, QuoteState.step, hfeed]

theorem leaf?_quotation (q : Quotation) (h : Detached rest) :
    leaf? (q.quoted ++ rest) =
      q.value?.map fun value => (.literal (String.ofList q.quoted) (.text (String.ofList value)), rest) := by
  have htext : q.quoted ++ rest = '"' :: (q.chars ++ '"' :: rest) := by simp [Quotation.quoted]
  have hskip : skipSuffix rest = rest := by
    have happend := skipSuffix_append [] h
    simpa [skipSuffix] using happend
  have hspelled : spelled ('"' :: (q.chars ++ '"' :: rest)) rest = String.ofList q.quoted := by
    rw [← htext]
    exact spelled_append q.quoted
  have hquoted : quotedLiteral? ('"' :: (q.chars ++ '"' :: rest)) =
      q.value?.map fun value => (.literal (String.ofList q.quoted) (.text (String.ofList value)), rest) := by
    have hread : quotedLiteral? ('"' :: (q.chars ++ '"' :: rest)) =
        (quoted? characterRules '"' .plain (q.chars ++ '"' :: rest)).map fun r =>
          literalLeaf ('"' :: (q.chars ++ '"' :: rest)) (.text (String.ofList r.1)) r.2 := rfl
    rw [hread, quoted?_append (.inl rfl) q.plain, Quotation.value?]
    cases quoted? characterRules '"' .plain (q.chars ++ ['"']) with
    | none => rfl
    | some r => simp only [Option.map_some, literalLeaf, hskip, hspelled]
  rw [htext]
  cases hvalue : q.value? with
  | some value =>
    rw [leaf?, hquoted, hvalue]
    rfl
  | none =>
    -- A string without a value is no other leaf either.
    have hnumber : numeral? ('"' :: (q.chars ++ '"' :: rest)) = none := numeral?_eq_none (by decide)
    have hmark : startsMark ('"' :: (q.chars ++ '"' :: rest)) = false := startsMark_eq_false (by decide)
    have hname : name? ('"' :: (q.chars ++ '"' :: rest)) = none := by
      have hplain : plainName? ('"' :: (q.chars ++ '"' :: rest)) = none := by
        rw [plainName?, if_neg (by decide)]
      have hany : anyName? ('"' :: (q.chars ++ '"' :: rest)) = none := by
        unfold anyName?
        split
        · rename_i heq
          exact absurd (List.cons.inj heq).1 (by decide)
        · rw [hplain]
          rfl
      simp only [name?, hany, Option.map_none, ite_self]
    simp only [leaf?, hquoted, hvalue, numberLiteral?, hnumber, lifetime?, mark?, hmark, hname, Option.map_none,
      Bool.false_and]
    rfl

/-! ## Lexemes -/

/-- The characters that comments and brackets start with. -/
def openers : List Char := ['/', '(', ')', '[', ']', '\x7b', '\x7d']

theorem lexeme?_of_leaf {c : Char} (h : c ∉ openers) :
    lexeme? (c :: rest) = (leaf? (c :: rest)).map fun r => ([.token r.1], r.2) := by
  simp only [openers, List.mem_cons, List.not_mem_nil, or_false, not_or] at h
  obtain ⟨hslash, hround, hround', hsquare, hsquare', hcurly, hcurly'⟩ := h
  have hdoc : docComment? (c :: rest) = none := by
    simp [docComment?, Ne.symm hslash]
  have hfailed : failedLiteral.toList.isPrefixOf (c :: rest) = false := by
    have hlist : failedLiteral.toList = '(' :: "/*ERROR*/)".toList := by decide
    rw [hlist, List.isPrefixOf_cons_cons]
    simp [Ne.symm hround]
  have hopening : Delimiter.ofOpening? c = none := by
    simp [Delimiter.ofOpening?, Delimiter.all, Delimiter.characters, Ne.symm hround, Ne.symm hsquare,
      Ne.symm hcurly]
  have hclosing : Delimiter.ofClosing? c = none := by
    simp [Delimiter.ofClosing?, Delimiter.all, Delimiter.characters, Ne.symm hround', Ne.symm hsquare',
      Ne.symm hcurly']
  simp [lexeme?, hdoc, hfailed, hopening, hclosing]

/-- A piece starts with none of the marks that no word starts with. -/
theorem exists_visible (p : Piece) :
    ∃ c text, p.chars = c :: text ∧ c ∉ ['\u200e', '\u200f', '\ufeff'] ∧ c ∉ openers := by
  cases p with
  | word w => exact ⟨w.first, w.others, rfl, w.visible, not_mem_of_all_not w.starts (by decide)⟩
  | mark c h =>
    refine ⟨c, [], rfl, ?_, ?_⟩ <;> rcases h with rfl | rfl | rfl <;> decide
  | string q => exact ⟨'"', q.chars ++ ['"'], rfl, by decide, by decide⟩
  | number n =>
    obtain ⟨c, text, htext, hc⟩ := n.chars_spec
    exact ⟨c, text, htext, not_mem_of_all_not hc (by decide), not_mem_of_all_not hc (by decide)⟩

/-- What a piece starts with is neither a gap nor a bracket or comment. -/
theorem exists_start (p : Piece) : ∃ c text, p.chars = c :: text ∧ isGap c = false ∧ c ∉ openers := by
  obtain ⟨c, text, htext, hvisible, hopener⟩ := exists_visible p
  obtain ⟨d, tail, hchars, hblank⟩ := p.exists_first
  obtain ⟨rfl, -⟩ := List.cons.inj (htext.symm.trans hchars)
  refine ⟨c, text, htext, ?_, hopener⟩
  rw [Bool.eq_false_iff]
  intro hgap
  have hmark : c ∉ ['\u200e', '\u200f'] := fun h => hvisible (List.mem_append_left ['\ufeff'] h)
  exact Bool.false_ne_true (hblank.symm.trans (isBlank_of_isGap hgap hmark))

/-- A piece is one token, unless it is a string that has no value. -/
theorem lexeme?_piece (p : Piece) (h : p.isMark ∨ Detached rest) :
    ∃ joint, lexeme? (p.chars ++ rest) = (p.token? joint).map fun t => ([.token t], rest) := by
  obtain ⟨c, text, htext, -, hopener⟩ := exists_start p
  have hlexeme : lexeme? (p.chars ++ rest) = (leaf? (p.chars ++ rest)).map fun r => ([.token r.1], r.2) := by
    rw [htext, List.cons_append]
    exact lexeme?_of_leaf hopener
  rw [hlexeme]
  cases p with
  | word w =>
    have hrest : Detached rest := h.resolve_left Bool.false_ne_true
    exact ⟨false, by simp only [Piece.chars, leaf?_word w hrest]; rfl⟩
  | mark c hc =>
    obtain ⟨joint, hjoint⟩ := leaf?_mark rest hc
    exact ⟨joint, by simp only [Piece.chars, List.singleton_append, hjoint]; rfl⟩
  | string q =>
    have hrest : Detached rest := h.resolve_left Bool.false_ne_true
    refine ⟨false, ?_⟩
    simp only [Piece.chars, leaf?_quotation q hrest, Piece.token?]
    cases q.value? <;> rfl
  | number n =>
    have hrest : Detached rest := h.resolve_left Bool.false_ne_true
    exact ⟨false, by simp only [Piece.chars, leaf?_number n hrest]; rfl⟩

theorem skipGap?_blank {gap : List Char} (h : Blank gap) : skipGap? (gap ++ rest) = skipGap? rest := by
  induction gap with
  | nil => rfl
  | cons c gap ih =>
    have hc := isGap_of_isBlank (h c List.mem_cons_self)
    rw [List.cons_append, skipGap?, if_pos hc]
    exact ih fun d hd => h d (List.mem_cons_of_mem c hd)

theorem skipGap?_eq_self {c : Char} (hgap : isGap c = false) (hopener : c ∉ openers) :
    skipGap? (c :: rest) = some (c :: rest) := by
  have hslash : c ≠ '/' := by
    rintro rfl
    exact hopener (by decide)
  have hline : startsLineComment (c :: rest) = false := by simp [startsLineComment, Ne.symm hslash]
  have hblock : startsBlockComment (c :: rest) = false := by simp [startsBlockComment, Ne.symm hslash]
  rw [skipGap?]
  simp [hgap, hline, hblock]

theorem lexemes?_blank {gap : List Char} (h : Blank gap) : lexemes? gap = some [] := by
  have hskip : skipGap? gap = some [] := by
    have happend : skipGap? (gap ++ []) = skipGap? [] := skipGap?_blank h
    rw [List.append_nil] at happend
    rw [happend, skipGap?]
  rw [lexemes?, hskip]

/-- One piece after another. -/
theorem lexemes?_piece {gap : List Char} (hgap : Blank gap) (p : Piece) (h : p.isMark ∨ Detached rest) :
    ∃ joint, lexemes? (gap ++ (p.chars ++ rest)) =
      (p.token? joint).bind fun t => (lexemes? rest).map (.token t :: ·) := by
  obtain ⟨c, text, htext, hvisible, hopener⟩ := exists_start p
  obtain ⟨joint, hlexeme⟩ := lexeme?_piece p h
  refine ⟨joint, ?_⟩
  rw [htext, List.cons_append] at hlexeme ⊢
  rw [lexemes?, skipGap?_blank hgap, skipGap?_eq_self hvisible hopener]
  simp only [hlexeme]
  cases p.token? joint with
  | none => rfl
  | some t =>
    have hshorter : rest.length < (gap ++ c :: (text ++ rest)).length := by
      simp only [List.length_append, List.length_cons]
      omega
    simp only [Option.map_some, dif_pos hshorter, Option.bind_some, List.singleton_append]

end Token

/-! ## Texts of pieces -/

namespace Piece

/-- A token that a piece is read as, whatever follows. -/
def IsRead (p : Piece) (t : Token) : Prop := ∃ joint, p.token? joint = some t

theorem Apart.tail {p : Piece} {pieces : List Piece} (h : Apart (p :: pieces)) : Apart pieces := by
  cases pieces with
  | nil => trivial
  | cons q pieces => exact h.2

/-- What follows a piece other than a mark is detached. -/
theorem Apart.detached {p : Piece} {pieces : List Piece} {text : List Char} (h : Apart (p :: pieces))
    (htext : Spaced (pieces.map chars) text) : p.isMark ∨ Detached text := by
  by_cases hp : p.isMark
  · exact .inl hp
  · refine .inr (htext.detached fun piece hpiece => ?_)
    cases pieces with
    | nil => simp at hpiece
    | cons q pieces =>
      obtain rfl : q.chars = piece := by simpa using hpiece
      exact detached_of_isMark (h.1.resolve_left hp)

end Piece

/-- The lexemes of a text of pieces are a token for each. -/
theorem lexemes?_spaced {pieces : List Piece} {text : List Char} {lexemes : List Lexeme}
    (h : Spaced (pieces.map Piece.chars) text) (hapart : Piece.Apart pieces) (hread : lexemes? text = some lexemes) :
    ∃ row, lexemes = row.map .token ∧ List.Forall₂ Piece.IsRead pieces row := by
  induction pieces generalizing text lexemes with
  | nil =>
    obtain rfl := Option.some.inj ((lexemes?_blank h.blank).symm.trans hread)
    exact ⟨[], rfl, .nil⟩
  | cons p pieces ih =>
    cases h with
    | piece hgap hrest =>
      obtain ⟨joint, hpiece⟩ := lexemes?_piece hgap p (hapart.detached hrest)
      rw [hpiece] at hread
      obtain ⟨t, ht, hread⟩ := Option.bind_eq_some_iff.mp hread
      obtain ⟨more, hmore, rfl⟩ := Option.map_eq_some_iff.mp hread
      obtain ⟨row, rfl, hrow⟩ := ih hrest hapart.tail hmore
      exact ⟨t :: row, rfl, .cons ⟨joint, ht⟩ hrow⟩

/-- Tokens without brackets are a row as they stand. -/
theorem forestFrom?_tokens (row tokens : List Token) :
    forestFrom? [] row (tokens.map .token) = some (row.reverse ++ tokens) := by
  induction tokens generalizing row with
  | nil => simp [forestFrom?]
  | cons t tokens ih => simp [forestFrom?, ih]

/-- A text of pieces does not start with a mark of byte order. -/
theorem skipOrderMark_spaced {pieces : List Piece} {text : List Char} (h : Spaced (pieces.map Piece.chars) text) :
    skipOrderMark text = text := by
  have hhead : text.head? ≠ some '\ufeff' := by
    intro hmark
    have hblank {c : Char} {gap : List Char} (hgap : Blank (c :: gap)) : c ≠ '\ufeff' :=
      ne_of_class (p := isBlank) (hgap c List.mem_cons_self) (by decide)
    cases pieces with
    | nil =>
      cases text with
      | nil => simp at hmark
      | cons c text => exact hblank h.blank (Option.some.inj hmark)
    | cons p pieces =>
      cases h with
      | @piece gap _ _ rest hgap hrest =>
        cases gap with
        | cons c gap => exact hblank hgap (Option.some.inj hmark)
        | nil =>
          obtain ⟨c, tail, htext, hvisible, -⟩ := exists_visible p
          rw [htext] at hmark
          obtain rfl : c = '\ufeff' := Option.some.inj hmark
          exact hvisible (by decide)
  unfold skipOrderMark
  split
  · exact absurd rfl hhead
  · rfl

/-- A text of pieces that is read is a row of a token for each. -/
theorem ofText?_spaced {pieces : List Piece} {text : List Char} {row : List Token}
    (h : Spaced (pieces.map Piece.chars) text) (hapart : Piece.Apart pieces)
    (hread : Token.ofText? (String.ofList text) = some row) : List.Forall₂ Piece.IsRead pieces row := by
  rw [Token.ofText?, String.toList_ofList, skipOrderMark_spaced h] at hread
  obtain ⟨lexemes, hlexemes, hforest⟩ := Option.bind_eq_some_iff.mp hread
  obtain ⟨tokens, rfl, htokens⟩ := lexemes?_spaced h hapart hlexemes
  obtain rfl := Option.some.inj ((forestFrom?_tokens [] tokens).symm.trans hforest)
  exact htokens

end PacketReinjection.Tunable
