import PacketReinjection.Proofs.Tunable.Pieces
import PacketReinjection.Tunable.Token.Numeral

/-!
# `Proofs.Tunable.Numeral` — the lexer reads integers as they are spelt

A number is read up to the separator behind it whatever follows, and every spelling of an integer is read as its value.

## Contents
- **`numeral?_append`** — a number in front of a detached text.
- **`digitsValue?_figures`** — figures are read as their value.
- **`numeral?_chars`** — an integer in any spelling.
-/

namespace PacketReinjection.Tunable.Token

open Text

theorem isAsciiWord_of_hexValue? {c : Char} {d : Nat} (h : hexValue? c = some d) : isAsciiWord c = true := by
  unfold hexValue? at h
  split at h
  · rename_i hdigit
    exact isAsciiWord_of_isDigit hdigit
  · have hletter : c.isAlpha := by
      rw [isAlpha_iff]
      have hle : ∀ {a b : Char}, a ≤ b → a.toNat ≤ b.toNat := fun h => h
      split at h
      · rename_i hsmall
        exact .inr ⟨hle hsmall.1, (hle hsmall.2).trans (by decide)⟩
      · split at h
        · rename_i hcapital
          exact .inl ⟨hle hcapital.1, (hle hcapital.2).trans (by decide)⟩
        · exact absurd h (Option.some_ne_none d).symm
    simp [isAsciiWord, Char.isAlphanum, hletter]

theorem hexValue?_of_separates {c : Char} (h : separates c) : hexValue? c = none := by
  cases hvalue : hexValue? c with
  | none => rfl
  | some d =>
    have hword := isAsciiWord_of_hexValue? hvalue
    rw [isAsciiWord_of_separates h] at hword
    exact absurd hword Bool.false_ne_true

/-! ## Numbers in front of a separator -/

variable {rest : List Char}

/-- A run of characters ends where the text in front of a separator ends. -/
theorem dropWhile_append {p : Char → Bool} (text : List Char) (h : Detached rest)
    (hp : ∀ {c}, separates c → p c = false) :
    (text ++ rest).dropWhile p = text.dropWhile p ++ rest := by
  induction text with
  | nil =>
    cases rest with
    | nil => rfl
    | cons c rest => simp [hp h.head]
  | cons c text ih =>
    simp only [List.cons_append, List.dropWhile_cons]
    split
    · exact ih
    · rfl

theorem skipSuffix_append (text : List Char) (h : Detached rest) :
    skipSuffix (text ++ rest) = skipSuffix text ++ rest := by
  cases text with
  | nil =>
    cases rest with
    | nil => rfl
    | cons c rest => simp [skipSuffix, isNameStart_of_separates h.head]
  | cons c text =>
    simp only [List.cons_append, skipSuffix]
    split
    · exact dropWhile_append text h isNamePart_of_separates
    · rfl

theorem endsNumber_append (text : List Char) (h : Detached rest) :
    endsNumber (text ++ rest) = endsNumber text := by
  cases text with
  | nil =>
    cases rest with
    | nil => rfl
    | cons c rest => simp [endsNumber, isNamePart_of_separates h.head]
  | cons c text => rfl

theorem closeNumber?_append (text : List Char) (h : Detached rest) :
    closeNumber? (text ++ rest) = (closeNumber? text).map (· ++ rest) := by
  simp only [closeNumber?, skipSuffix_append text h, endsNumber_append _ h]
  split <;> rfl

theorem afterExponent?_append (signed valued : Bool) (text : List Char) (h : Detached rest) :
    afterExponent? signed valued (text ++ rest) = (afterExponent? signed valued text).map (· ++ rest) := by
  induction text generalizing signed valued with
  | nil =>
    cases rest with
    | nil => cases valued <;> rfl
    | cons c rest =>
      have hdigit := isDigit_of_separates h.head
      have hgap : c ≠ '_' := ne_of_class h.head (by decide)
      have hplus : c ≠ '+' := ne_of_class h.head (by decide)
      have hminus : c ≠ '-' := ne_of_class h.head (by decide)
      cases valued <;> simp [afterExponent?, hdigit, hgap, hplus, hminus]
  | cons c text ih =>
    simp only [List.cons_append, afterExponent?, ih]
    repeat' split
    all_goals rfl

theorem isDigitOrGap_of_separates {c : Char} (h : separates c) : isDigitOrGap c = false := by
  have hgap : c ≠ '_' := ne_of_class h (by decide)
  simp [isDigitOrGap, isDigit_of_separates h, hgap]

theorem exponent?_append (text : List Char) (h : Detached rest) :
    (behindLetter? (text ++ rest)).bind (afterExponent? false false) =
      ((behindLetter? text).bind (afterExponent? false false)).map (· ++ rest) := by
  cases text with
  | nil =>
    cases rest with
    | nil => rfl
    | cons c rest =>
      have he : c ≠ 'e' := ne_of_class h.head (by decide)
      have hE : c ≠ 'E' := ne_of_class h.head (by decide)
      simp [behindLetter?, he, hE]
  | cons c text =>
    simp only [List.cons_append, behindLetter?]
    split
    · exact afterExponent?_append false false text h
    · rfl

/-- Whether a point belongs to what follows it. -/
theorem startsMember_append (text : List Char) (h : Detached rest) :
    (text ++ rest).head?.any (fun c => c = '.' || isNameStart c) =
      text.head?.any fun c => c = '.' || isNameStart c := by
  cases text with
  | nil =>
    cases rest with
    | nil => rfl
    | cons c rest =>
      have hpoint : c ≠ '.' := ne_of_class h.head (by decide)
      simp [hpoint, isNameStart_of_separates h.head]
  | cons c text => rfl

theorem afterFraction?_append (text : List Char) (h : Detached rest) :
    afterFraction? (text ++ rest) = (afterFraction? text).map (· ++ rest) := by
  cases text with
  | nil =>
    cases rest with
    | nil => rfl
    | cons c rest => simp [afterFraction?, isDigit_of_separates h.head]
  | cons first text =>
    simp only [List.cons_append, afterFraction?]
    split
    · rw [dropWhile_append text h isDigitOrGap_of_separates]
      cases text.dropWhile isDigitOrGap with
      | nil =>
        cases rest with
        | nil => rfl
        | cons c rest =>
          have hpoint : c ≠ '.' := ne_of_class h.head (by decide)
          have hexponent := exponent?_append [] h
          simpa [hpoint] using hexponent
      | cons c text =>
        by_cases hpoint : c = '.'
        · subst hpoint
          simp only [List.cons_append, startsMember_append text h,
            dropWhile_append text h isDigitOrGap_of_separates, exponent?_append _ h]
          split
          · rfl
          · cases (behindLetter? (text.dropWhile isDigitOrGap)).bind (afterExponent? false false) <;> rfl
        · simpa [hpoint] using exponent?_append (c :: text) h
    · rfl

theorem fraction?_append (text : List Char) (h : Detached rest) :
    fraction? (text ++ rest) = (fraction? text).map (· ++ rest) := by
  simp only [fraction?, afterFraction?_append text h]
  cases afterFraction? text with
  | none => rfl
  | some after => exact closeNumber?_append after h

theorem digitsValue?_append (base : Nat) (value : Option Nat) (text : List Char) (h : Detached rest) :
    digitsValue? base value (text ++ rest) =
      (digitsValue? base value text).map fun (n, after) => (n, after ++ rest) := by
  induction text generalizing value with
  | nil =>
    cases rest with
    | nil => cases value <;> rfl
    | cons c rest =>
      have hgap : c ≠ '_' := ne_of_class h.head (by decide)
      cases value <;> simp [digitsValue?, hgap, hexValue?_of_separates h.head]
  | cons c text ih =>
    simp only [List.cons_append, digitsValue?, ih]
    repeat' split
    all_goals first | rfl | (cases value <;> rfl)

theorem baseOf_append (text : List Char) (h : Detached rest) :
    baseOf (text ++ rest) = ((baseOf text).1, (baseOf text).2 ++ rest) := by
  match text with
  | [] =>
    cases rest with
    | nil => rfl
    | cons c rest =>
      have hzero : c ≠ '0' := ne_of_class h.head (by decide)
      simp [baseOf, hzero]
  | [c] =>
    cases rest with
    | nil => simp
    | cons d rest =>
      have hx : d ≠ 'x' := ne_of_class h.head (by decide)
      have ho : d ≠ 'o' := ne_of_class h.head (by decide)
      have hb : d ≠ 'b' := ne_of_class h.head (by decide)
      simp [baseOf, hx, ho, hb]
  | c :: d :: text =>
    simp only [List.cons_append]
    unfold baseOf
    split <;> simp_all

theorem natural?_append (text : List Char) (h : Detached rest) :
    natural? (text ++ rest) =
      (natural? text).map fun (n, suffixed, after) => (n, suffixed, after ++ rest) := by
  simp only [natural?, baseOf_append text h, digitsValue?_append _ _ _ h]
  cases digitsValue? (baseOf text).1 none (baseOf text).2 with
  | none => rfl
  | some result =>
    obtain ⟨n, after⟩ := result
    simp only [Option.map_some, bind, Option.bind_some, closeNumber?_append after h]
    cases closeNumber? after with
    | none => rfl
    | some behind => simp [pure]

/-- A number is read up to the separator behind it, whatever follows. -/
theorem numeral?_append (text : List Char) (h : Detached rest) :
    numeral? (text ++ rest) = (numeral? text).map fun (value, after) => (value, after ++ rest) := by
  simp only [numeral?, fraction?_append text h, natural?_append text h]
  cases fraction? text with
  | none => cases natural? text <;> rfl
  | some behind => rfl

/-! ## Figures -/

/-- A figure of a base is one that the lexer knows and that is small enough. -/
theorem figure?_eq (b : Base) (c : Char) : b.figure? c = (hexValue? c).filter (· < b.radix) := by
  refine Base.forall_of_ascii (p := fun c => b.figure? c = (hexValue? c).filter (· < b.radix)) ?_
    (fun c hc => ?_) c
  · cases b <;> decide +kernel
  · have hnone : hexValue? c = none := by
      cases hvalue : hexValue? c with
      | none => rfl
      | some d =>
        have hword := isAsciiWord_of_hexValue? hvalue
        exact absurd (toNat_lt_of_isAsciiWord hword) (Nat.not_lt.mpr hc)
    rw [b.figure?_of_le hc, hnone]
    rfl

/-- What the lexer makes of a figure, which is not an underscore. -/
theorem hexValue?_of_figure? {b : Base} {c : Char} {d : Nat} (h : b.figure? c = some d) :
    hexValue? c = some d ∧ d < b.radix ∧ c ≠ '_' := by
  rw [figure?_eq, Option.filter_eq_some_iff] at h
  refine ⟨h.1, of_decide_eq_true h.2, ?_⟩
  rintro rfl
  have hnone : hexValue? '_' = none := by decide
  exact absurd (hnone.symm.trans h.1) (by simp)

variable {b : Base} {figures suffix : List Char}

/-- What may stand behind figures is left. -/
theorem digitsValue?_suffix (n : Nat)
    (hsuffix : ∀ c, suffix.head? = some c → c ≠ '_' ∧ c.isDigit = false ∧ b.figure? c = none) :
    digitsValue? b.radix (some n) suffix = some (n, suffix) := by
  cases suffix with
  | nil => rfl
  | cons c rest =>
    obtain ⟨hgap, hdigit, hfigure⟩ := hsuffix c rfl
    simp only [digitsValue?, if_neg hgap]
    cases hvalue : hexValue? c with
    | none => rfl
    | some d =>
      have hlarge : ¬ d < b.radix := by
        intro hlt
        rw [figure?_eq, hvalue] at hfigure
        simp [Option.filter, hlt] at hfigure
      simp [hlarge, hdigit]

/-- Figures behind a first one are read as their value. -/
theorem digitsValue?_more (n : Nat) (hfigures : ∀ c ∈ figures, c = '_' ∨ (b.figure? c).isSome)
    (hsuffix : ∀ c, suffix.head? = some c → c ≠ '_' ∧ c.isDigit = false ∧ b.figure? c = none) :
    digitsValue? b.radix (some n) (figures ++ suffix) = some (b.valueFrom n figures, suffix) := by
  induction figures generalizing n with
  | nil => exact digitsValue?_suffix n hsuffix
  | cons c figures ih =>
    have hrest := fun m => ih m fun d hd => hfigures d (List.mem_cons_of_mem c hd)
    rw [List.cons_append, Base.valueFrom]
    cases hfigure : b.figure? c with
    | none =>
      obtain rfl : c = '_' := (hfigures c List.mem_cons_self).resolve_right (by simp [hfigure])
      simpa [digitsValue?] using hrest n
    | some d =>
      obtain ⟨hvalue, hlt, hgap⟩ := hexValue?_of_figure? hfigure
      simpa [digitsValue?, hgap, hvalue, hlt] using hrest (n * b.radix + d)

/-- **Figures** are read as their value, if there is one among them and decimal ones start with a digit. -/
theorem digitsValue?_figures (hfigures : ∀ c ∈ figures, c = '_' ∨ (b.figure? c).isSome)
    (hvalued : ∃ c ∈ figures, (b.figure? c).isSome) (hleading : b = .decimal → figures.head? ≠ some '_')
    (hsuffix : ∀ c, suffix.head? = some c → c ≠ '_' ∧ c.isDigit = false ∧ b.figure? c = none) :
    digitsValue? b.radix none (figures ++ suffix) = some (b.valueFrom 0 figures, suffix) := by
  induction figures with
  | nil =>
    obtain ⟨c, hc, -⟩ := hvalued
    exact absurd hc List.not_mem_nil
  | cons c figures ih =>
    have hlater : ∀ d ∈ figures, d = '_' ∨ (b.figure? d).isSome := fun d hd =>
      hfigures d (List.mem_cons_of_mem c hd)
    rw [List.cons_append, Base.valueFrom]
    cases hfigure : b.figure? c with
    | none =>
      -- An underscore in front of the first figure, which only a base with a mark may have.
      obtain rfl : c = '_' := (hfigures c List.mem_cons_self).resolve_right (by simp [hfigure])
      have hbase : b ≠ .decimal := fun h => hleading h rfl
      have hradix : b.radix ≠ 10 := by cases b <;> simp_all [Base.radix]
      obtain ⟨d, hd, hsome⟩ := hvalued
      have hmem : d ∈ figures := by
        rcases List.mem_cons.mp hd with rfl | hd
        · simp [hfigure] at hsome
        · exact hd
      have hrest := ih hlater ⟨d, hmem, hsome⟩ fun h => absurd h hbase
      simpa [digitsValue?, hradix] using hrest
    | some d =>
      obtain ⟨hvalue, hlt, hgap⟩ := hexValue?_of_figure? hfigure
      have hmore := digitsValue?_more d hlater hsuffix
      simpa [digitsValue?, hgap, hvalue, hlt] using hmore

/-! ## Integers -/

variable (n : IntegerSpelling)

/-- A suffix does not go on like the figures. -/
theorem head?_suffix {c : Char} (h : n.suffix.head? = some c) :
    c ≠ '_' ∧ c.isDigit = false ∧ n.base.figure? c = none := by
  obtain ⟨rest, hsuffix⟩ := List.head?_eq_some_iff.mp h
  obtain ⟨-, -, hsign, hfigure, -⟩ := n.suffix_spec hsuffix
  exact ⟨fun hc => hsign (hc ▸ List.mem_cons_self), n.isDigit_head_suffix h, hfigure⟩

theorem baseOf_chars : baseOf n.chars = (n.base.radix, n.figures ++ n.suffix) := by
  rcases n.base.mark_cases with hbase | ⟨m, -, hmark⟩
  · obtain ⟨c, rest, hfigures, hc⟩ := n.figures_decimal hbase
    have hchars : n.chars = n.figures ++ n.suffix := by
      rw [IntegerSpelling.chars, hbase]
      rfl
    -- Behind a zero that stands alone, no suffix begins like a mark, and figures never do.
    have hnot : ∀ m tail, n.figures ++ n.suffix = '0' :: m :: tail → m ∉ ['b', 'o', 'x'] := by
      intro m tail htail hm
      rw [hfigures, List.cons_append] at htail
      obtain ⟨rfl, hnext⟩ := List.cons.inj htail
      cases rest with
      | nil => exact (n.suffix_spec hnext).2.2.2.2 hbase hfigures hm
      | cons d rest =>
        rw [List.cons_append] at hnext
        obtain ⟨rfl, -⟩ := List.cons.inj hnext
        have hwritten := List.all_eq_true.mp n.written d (by rw [hfigures]; simp)
        have hnone : ['b', 'o', 'x'].all fun c => !(c = '_' || (Base.decimal.figure? c).isSome) := by decide
        have hfalse := List.all_eq_true.mp hnone d hm
        rw [← hbase] at hfalse
        rw [hwritten] at hfalse
        exact absurd hfalse (by decide)
    rw [hchars, hbase]
    unfold baseOf
    split
    · rename_i heq; exact absurd (by decide) (hnot 'x' _ heq)
    · rename_i heq; exact absurd (by decide) (hnot 'o' _ heq)
    · rename_i heq; exact absurd (by decide) (hnot 'b' _ heq)
    · rfl
  · rw [IntegerSpelling.chars]
    cases hbase : n.base with
    | decimal =>
      rw [hbase] at hmark
      exact absurd hmark (List.cons_ne_nil _ _).symm
    | binary | octal | hexadecimal => rfl

theorem afterFraction?_eq_none {c : Char} {text : List Char}
    (hpoint : (text.dropWhile isDigitOrGap).head? ≠ some '.')
    (hletter : behindLetter? (text.dropWhile isDigitOrGap) = none) : afterFraction? (c :: text) = none := by
  simp only [afterFraction?]
  split
  · split
    · rename_i heq
      rw [heq] at hpoint
      exact absurd rfl hpoint
    · rw [hletter]
      rfl
  · rfl

/-- What stands behind the digits and underscores of an integer is its suffix, or the letter of its mark. -/
theorem dropWhile_chars : ∃ c text, n.chars = c :: text ∧ (text.dropWhile isDigitOrGap = n.suffix ∨
    ∃ m rest, m ∈ ['b', 'o', 'x'] ∧ text.dropWhile isDigitOrGap = m :: rest) := by
  rcases n.base.mark_cases with hbase | ⟨m, hm, hmark⟩
  · obtain ⟨c, rest, hfigures, hc⟩ := n.figures_decimal hbase
    refine ⟨c, rest ++ n.suffix, by rw [IntegerSpelling.chars, hbase, hfigures]; rfl, .inl ?_⟩
    have hrest : ∀ d ∈ rest, isDigitOrGap d := by
      intro d hd
      have hwritten := List.all_eq_true.mp n.written d (by rw [hfigures]; exact List.mem_cons_of_mem c hd)
      rw [hbase, Base.figure?_decimal] at hwritten
      cases hdigit : d.isDigit <;> simp_all [isDigitOrGap]
    rw [List.dropWhile_append_of_pos hrest]
    cases hcase : n.suffix with
    | nil => rfl
    | cons d suffix =>
      obtain ⟨hgap, hdigit, -⟩ := head?_suffix n (congrArg List.head? hcase)
      rw [List.dropWhile_cons_of_neg (by simp [isDigitOrGap, hgap, hdigit])]
  · have hstop : isDigitOrGap m = false := by
      have hall : ['b', 'o', 'x'].all fun c => !isDigitOrGap c := by decide
      simpa using List.all_eq_true.mp hall m hm
    refine ⟨'0', m :: (n.figures ++ n.suffix), by rw [IntegerSpelling.chars, hmark]; rfl,
      .inr ⟨m, n.figures ++ n.suffix, hm, ?_⟩⟩
    rw [List.dropWhile_cons_of_neg (by simp [hstop])]

/-- An integer has neither a point nor an exponent. -/
theorem fraction?_chars : fraction? n.chars = none := by
  obtain ⟨c, text, hchars, hafter⟩ := dropWhile_chars n
  have hnone : afterFraction? (c :: text) = none := by
    rcases hafter with hsuffix | ⟨m, rest, hm, hmark⟩
    · refine afterFraction?_eq_none ?_ ?_ <;> rw [hsuffix] <;> cases hcase : n.suffix with
      | nil => simp [behindLetter?]
      | cons d suffix =>
        obtain ⟨hstart, -, hsign, -⟩ := n.suffix_spec hcase
        have hpoint : d ≠ '.' := ne_of_class hstart (by decide)
        simp only [List.mem_cons, List.not_mem_nil, or_false, not_or] at hsign
        simp [behindLetter?, hsign, hpoint]
    · have hpoint : m ≠ '.' := by
        rintro rfl
        exact absurd hm (by decide)
      have he : m ≠ 'e' := by
        rintro rfl
        exact absurd hm (by decide)
      have hE : m ≠ 'E' := by
        rintro rfl
        exact absurd hm (by decide)
      refine afterFraction?_eq_none ?_ ?_ <;> rw [hmark] <;> simp [behindLetter?, hpoint, he, hE]
  rw [fraction?, hchars, hnone]
  rfl

/-- **An integer in any spelling** is read as its value. -/
theorem numeral?_chars : numeral? n.chars = some (.integer n.value (0 < n.suffix.length), []) := by
  have hdigits : digitsValue? n.base.radix none (n.figures ++ n.suffix) = some (n.value, n.suffix) := by
    refine digitsValue?_figures (fun c hc => ?_) ?_ n.leading fun c hc => head?_suffix n hc
    · simpa using List.all_eq_true.mp n.written c hc
    · simpa using List.any_eq_true.mp n.valued
  have hclose : closeNumber? n.suffix = some [] := by
    have hskip : skipSuffix n.suffix = [] := by
      cases hcase : n.suffix with
      | nil => rfl
      | cons c rest =>
        obtain ⟨hstart, hrest, -⟩ := n.suffix_spec hcase
        rw [skipSuffix, if_pos hstart, List.dropWhile_eq_nil_iff]
        exact hrest
    rw [closeNumber?, hskip]
    rfl
  rw [numeral?, fraction?_chars]
  simp [natural?, baseOf_chars, hdigits, hclose]

end PacketReinjection.Tunable.Token
