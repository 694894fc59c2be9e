import PacketReinjection.Header.Tunables
import PacketReinjection.Proofs.Header.Patterns
import PacketReinjection.Proofs.Text.Searches
import PacketReinjection.Proofs.Tunable.Invocation

/-!
# `Proofs.Tunable.Matching` — what a header takes from an invocation

The header's pattern finds the invocation and takes the name, the variable and the decimal digits that the default
starts with. It takes a minimum only where the default ends with these digits: whatever else belongs to the default
hides the rest from it.

## Contents
- **`tunablePattern`** — what the expression of the header stands for.
- **`Shows`** — the match of the pattern; `exists_shows`.
- **`tunables_text`** — the one tunable that the header takes from the text.
-/

namespace PacketReinjection.Tunable

open Text Header

/-! ## The pattern -/

/-- A comma with blanks around it. -/
def commaPattern : Pattern := .sequence [.blanks, .literal ",", .blanks]

/-- A key and an equals sign with blanks around that. -/
def keyPattern (key : String) : Pattern :=
  .sequence [.literal key, .blanks, .literal "=", .blanks]

/-- A minimum behind the default. -/
def minimumPattern : Pattern :=
  .sequence [commaPattern, keyPattern "min", .group 4 (.many1 .decimal)]

/-- The shape of a declaration: name (group 1), type of one word, variable (group 2), default (group 3), and a minimum
    (group 4) if there is one. -/
def tunablePattern : Pattern :=
  .sequence
    [.literal "define_env_constant!", .blanks, .literal "(", .blanks,
      .group 1 (.seq (.one capitalSet) (.many capitalPartSet)), .blanks, .literal ":", .blanks,
      .many1 .word, commaPattern,
      keyPattern "env", .literal "\"", .group 2 (.many1 (.complement (.char '"'))), .literal "\"",
      commaPattern,
      keyPattern "default", .group 3 (.many1 .decimal), .optional minimumPattern]

/-! ## Stretches of the pattern -/

section Stretches

variable {gap gap' rest : List Char}

theorem stops_blank (p : Piece) : Pattern.Stops .blank (p.chars ++ rest) := by
  obtain ⟨c, text, htext, hvisible⟩ := p.exists_first
  rw [htext, List.cons_append]
  exact .cons hvisible

theorem passes_blanks (hgap : Blank gap) (hstop : Pattern.Stops .blank rest) :
    Pattern.blanks.Passes gap rest :=
  .many hgap hstop

/-- A mark with blanks around it. -/
theorem passes_mark (mark : String) (hgap : Blank gap) (hmark : Pattern.Stops .blank (mark.toList ++ (gap' ++ rest)))
    (hgap' : Blank gap') (hstop : Pattern.Stops .blank rest) :
    (Pattern.sequence [.blanks, .literal mark, .blanks]).Passes (gap ++ (mark.toList ++ gap')) rest := by
  have hlast : (Pattern.sequence [.blanks]).Passes (gap' ++ []) rest := (passes_blanks hgap' hstop).seq .nothing
  rw [List.append_nil] at hlast
  rw [← List.append_assoc] at hmark
  exact (passes_blanks hgap hmark).seq ((Pattern.Passes.literal mark).seq hlast)

/-- A comma with blanks around it. -/
theorem passes_comma (hgap : Blank gap) (hgap' : Blank gap') (hstop : Pattern.Stops .blank rest) :
    commaPattern.Passes (gap ++ (',' :: gap')) rest :=
  passes_mark "," hgap (.cons (by decide)) hgap' hstop

/-- A key and its equals sign with blanks around that. -/
theorem passes_key (key : String) (hgap : Blank gap) (hgap' : Blank gap') (hstop : Pattern.Stops .blank rest) :
    (keyPattern key).Passes (key.toList ++ (gap ++ ('=' :: gap'))) rest :=
  (Pattern.Passes.literal key).seq (passes_mark "=" hgap (.cons (by decide)) hgap' hstop)

/-- A name in capital letters, up to a separator. -/
theorem passes_name (i : Invocation) (hrest : Detached rest) :
    (Pattern.seq (.one capitalSet) (.many capitalPartSet)).Passes i.name.chars rest := by
  have hfirst : (Pattern.one capitalSet).Passes [i.name.first] (i.name.others ++ rest) := fun s hafter =>
    .one hafter i.capital.1
  have hstop : Pattern.Stops capitalPartSet rest := by
    intro c hc
    exact eq_false_of_imp isAsciiWord_of_capitalPart (isAsciiWord_of_separates (hrest c hc))
  exact hfirst.seq (.many i.capital.2 hstop)

/-- A type of one word. White space that counts as part of words would be passed with it. -/
theorem passes_type (i : Invocation) :
    (Pattern.many1 .word).Passes (i.type.chars ++ gap.takeWhile isWord)
      (gap.dropWhile isWord ++ (',' :: rest)) := by
  refine .many1 (by simp [Word.chars]) ?_ ?_
  · intro c hc
    rcases List.mem_append.mp hc with hc | hc
    · exact i.oneWord c hc
    · exact List.mem_takeWhile_imp hc
  · cases hdrop : gap.dropWhile isWord with
    | nil => exact .cons (by decide)
    | cons c tail =>
      refine .cons ?_
      show isWord c = false
      have hhead := List.head?_dropWhile_not isWord gap
      rw [hdrop] at hhead
      simpa using hhead

/-- A string up to its closing quote. -/
theorem passes_variable (i : Invocation) :
    (Pattern.many1 (.complement (.char '"'))).Passes i.setBy.chars ('"' :: rest) := by
  refine .many1 i.named (fun c hc => ?_) (.cons (by decide))
  have hquote := (i.setBy.plain c hc).1
  simpa [CharSet.contains] using hquote

/-- No digit stands behind a number: white space, a mark or the closing bracket does. -/
theorem ends_digits (pieces : List Piece) {tail : List Char} (htail : Spaced (pieces.map Piece.chars) tail)
    (hmark : ∀ p, pieces.head? = some p → p.isMark) :
    ∀ c, (tail ++ closing).head? = some c → isDecimal c = false := by
  have hdetached : Detached tail := by
    refine htail.detached fun piece hpiece => ?_
    cases pieces with
    | nil => simp at hpiece
    | cons p pieces =>
      obtain rfl : p.chars = piece := by simpa using hpiece
      exact Piece.detached_of_isMark (hmark p rfl)
  intro c hc
  cases tail with
  | nil =>
    obtain rfl : ')' = c := Option.some.inj hc
    decide
  | cons d tail =>
    obtain rfl : d = c := Option.some.inj hc
    exact isDecimal_of_separates hdetached.head

/-- The digits of a number, whatever it goes on with. -/
theorem passes_digits (n : IntegerSpelling) (hrest : ∀ c, rest.head? = some c → isDecimal c = false) :
    (Pattern.many1 .decimal).Passes n.digits (n.behind ++ rest) := by
  refine .many1 n.digits_ne_nil (fun c hc => ?_) ?_
  · have hdigit := IntegerSpelling.isDigit_of_mem_digits hc
    show isDecimal c = true
    rw [isDecimal, if_pos (toNat_lt_of_isAsciiWord (isAsciiWord_of_isDigit hdigit))]
    exact hdigit
  · intro c hc
    show isDecimal c = false
    cases hbehind : n.behind with
    | nil =>
      rw [hbehind, List.nil_append] at hc
      exact hrest c hc
    | cons d tail =>
      refine n.isDecimal_head_behind ?_
      rw [← hc, hbehind]
      rfl

end Stretches

/-! ## What the header takes -/

namespace Ending

/-- The digits of the minimum, if there is one. -/
def digits? : Ending → Option (List Char)
  | least n => some n.digits
  | bare | comma => none

end Ending

/-- What the match of an invocation shows. -/
structure Shows (i : Invocation) (t : Spot) : Prop where
  name : t.group? 1 = some i.name.chars
  setBy : t.group? 2 = some i.setBy.chars
  standard : t.group? 3 = some i.standard.digits
  least : t.group? 4 = if i.standard.plain then i.ending.digits? else none
  moved : t.origin < t.offset
  rest : '!' ∉ t.after

/-- What else belongs to the default hides a minimum. -/
theorem commaPattern_eq_nil {s : Spot} {c : Char} {rest : List Char} (hafter : s.after = c :: rest)
    (hc : separates c = false) : commaPattern.results s = [] := by
  have hblank : isBlank c = false := eq_false_of_imp separates_of_isBlank hc
  have hcomma : c ≠ ',' := by
    rintro rfl
    exact absurd hc (by decide)
  have hstay : Pattern.blanks.results s = [s] := by
    have hstop : Pattern.Stops .blank s.after := by
      rw [hafter]
      exact .cons hblank
    rw [Pattern.blanks, Pattern.results_many, (Pattern.shortens_one _).further_eq, Pattern.results_one_of_stops hstop]
    rfl
  have hone : (Pattern.one (.char ',')).results s = [] := by
    refine Pattern.results_one_of_stops ?_
    rw [hafter]
    exact .cons (decide_eq_false hcomma)
  show (Pattern.blanks.results s).flatMap _ = []
  rw [hstay, List.flatMap_singleton]
  show (((Pattern.one (.char ',')).results s).flatMap _).flatMap _ = []
  rw [hone]
  rfl

theorem minimumPattern_eq_nil {s : Spot} (h : commaPattern.results s = [] ∨ 'm' ∉ s.after) :
    minimumPattern.results s = [] := by
  rcases h with h | h
  · show (commaPattern.results s).flatMap _ = []
    rw [h]
    rfl
  · exact Pattern.results_eq_nil (by decide) h

/-- Where there is no minimum, or none that is seen, nothing is taken behind the digits of the default. -/
theorem minimum_missing (i : Invocation) {s : Spot} {tail : List Char}
    (hafter : s.after = i.standard.behind ++ (tail ++ closing))
    (htail : Spaced (i.ending.pieces.map Piece.chars) tail)
    (h : i.standard.plain = false ∨ i.ending.digits? = none) : minimumPattern.results s = [] := by
  refine minimumPattern_eq_nil ?_
  cases hbehind : i.standard.behind with
  | nil =>
    -- The default ends here, so there is no minimum, and the first letter of its key is missing.
    have hplain := i.standard.behind_eq_nil.mp hbehind
    have hending : i.ending.digits? = none := by
      rcases h with h | h
      · exact absurd (h.symm.trans hplain) Bool.false_ne_true
      · exact h
    have hm : 'm' ∉ tail := by
      refine htail.not_mem (by decide) fun piece hpiece => ?_
      cases hcase : i.ending with
      | bare => simp [hcase, Ending.pieces] at hpiece
      | comma =>
        obtain rfl : piece = [','] := by simpa [hcase, Ending.pieces, Piece.chars] using hpiece
        decide
      | least n => simp [hcase, Ending.digits?] at hending
    right
    rw [hafter, hbehind, List.nil_append]
    intro hmem
    rcases List.mem_append.mp hmem with hmem | hmem
    · exact hm hmem
    · exact absurd hmem (by decide)
  | cons c behind =>
    -- The default goes on, and not with a comma.
    left
    have hmem : c ∈ i.standard.chars := by
      rw [← i.standard.digits_append_behind, hbehind]
      simp
    rw [hbehind, List.cons_append] at hafter
    exact commaPattern_eq_nil hafter (IntegerSpelling.separates_of_mem_chars hmem)

/-- No further invocation begins behind the digits of the default. -/
theorem bang_not_mem (i : Invocation) {tail : List Char}
    (htail : Spaced (i.ending.pieces.map Piece.chars) tail) :
    '!' ∉ i.standard.behind ++ (tail ++ closing) := by
  have hnumber : ∀ n : IntegerSpelling, '!' ∉ n.chars := fun n =>
    IntegerSpelling.not_mem_chars (by decide) (by decide) (by decide)
  have hpieces : '!' ∉ tail := by
    refine htail.not_mem (by decide) fun piece hpiece => ?_
    cases hcase : i.ending with
    | bare => simp [hcase, Ending.pieces] at hpiece
    | comma =>
      obtain rfl : piece = [','] := by simpa [hcase, Ending.pieces, Piece.chars] using hpiece
      decide
    | least n =>
      simp only [hcase, Ending.pieces, List.map_cons, List.map_nil, List.mem_cons, List.not_mem_nil,
        or_false] at hpiece
      rcases hpiece with rfl | rfl | rfl | rfl
      · decide
      · decide
      · decide
      · exact hnumber n
  intro hmem
  rcases List.mem_append.mp hmem with hmem | hmem
  · refine hnumber i.standard ?_
    rw [← i.standard.digits_append_behind]
    exact List.mem_append_right _ hmem
  · rcases List.mem_append.mp hmem with hmem | hmem
    · exact hpieces hmem
    · exact absurd hmem (by decide)

/-- A minimum behind a default of decimal digits alone is taken. -/
theorem minimum_taken {n : IntegerSpelling} {s : Spot} {tail : List Char} (hafter : s.after = tail ++ closing)
    (htail : Spaced ((Ending.least n).pieces.map Piece.chars) tail) :
    ∃ run rest, minimumPattern.Prefers s ((s.skip run (n.digits ++ rest)).capture 4 n.digits rest) ∧
      s.after = run ++ (n.digits ++ rest) := by
  obtain ⟨g₁, r₁, h₁, e₁, htail₁⟩ := htail.uncons closing
  obtain ⟨g₂, r₂, h₂, e₂, htail₂⟩ := htail₁.uncons closing
  obtain ⟨g₃, r₃, h₃, e₃, htail₃⟩ := htail₂.uncons closing
  obtain ⟨g₄, r₄, h₄, e₄, h₅⟩ := htail₃.uncons closing
  have hnumber : n.digits ++ (n.behind ++ (r₄ ++ closing)) = n.chars ++ (r₄ ++ closing) := by
    rw [← List.append_assoc, n.digits_append_behind]
  have hdigits := passes_digits n (ends_digits [] h₅ (by simp))
  have hkey : (keyPattern "min").Passes ("min".toList ++ (g₃ ++ ('=' :: g₄)))
      (n.digits ++ (n.behind ++ (r₄ ++ closing))) := by
    refine passes_key "min" h₃ h₄ ?_
    rw [hnumber]
    exact stops_blank (.number n)
  have hcomma : commaPattern.Passes (g₁ ++ (',' :: g₂)) (Ending.leastWord.chars ++ (r₂ ++ closing)) :=
    passes_comma h₁ h₂ (stops_blank (.word Ending.leastWord))
  have hafter₁ : s.after = g₁ ++ (',' :: g₂) ++ (Ending.leastWord.chars ++ (r₂ ++ closing)) := by
    rw [hafter, e₁, e₂]
    simp [Piece.chars]
  have hafter₂ : Ending.leastWord.chars ++ (r₂ ++ closing) =
      "min".toList ++ (g₃ ++ ('=' :: g₄)) ++ (n.digits ++ (n.behind ++ (r₄ ++ closing))) := by
    rw [hnumber, e₃, e₄]
    simp [Piece.chars, Ending.leastWord, Word.ofAscii, Word.chars]
  refine ⟨g₁ ++ (',' :: g₂) ++ ("min".toList ++ (g₃ ++ ('=' :: g₄))), n.behind ++ (r₄ ++ closing), ?_, ?_⟩
  · rw [← Spot.skip_skip]
    exact .pass hcomma hafter₁ (.pass hkey hafter₂ (.capture hdigits rfl .empty))
  · rw [hafter₁, hafter₂]
    simp only [List.append_assoc]

/-- What is taken behind the digits of the default. -/
theorem exists_minimum (i : Invocation) {s : Spot} {tail : List Char}
    (hafter : s.after = i.standard.behind ++ (tail ++ closing))
    (htail : Spaced (i.ending.pieces.map Piece.chars) tail) (hnone : s.group? 4 = none) :
    ∃ t, (Pattern.optional minimumPattern).Prefers s t ∧ (∀ j, j ≠ 4 → t.group? j = s.group? j) ∧
      (t.group? 4 = if i.standard.plain then i.ending.digits? else none) ∧ t.origin = s.origin ∧
      s.offset ≤ t.offset ∧ '!' ∉ t.after := by
  have hbang : '!' ∉ s.after := by
    rw [hafter]
    exact bang_not_mem i htail
  by_cases hmissing : i.standard.plain = false ∨ i.ending.digits? = none
  · refine ⟨s, .optional_of_none (minimum_missing i hafter htail hmissing), fun _ _ => rfl, ?_, rfl,
      Nat.le_refl _, hbang⟩
    rcases hmissing with hplain | hdigits
    · simp [hplain, hnone]
    · simp [hdigits, hnone]
  · simp only [not_or, Bool.not_eq_false] at hmissing
    obtain ⟨hplain, hdigits⟩ := hmissing
    cases hending : i.ending with
    | bare | comma => simp [hending, Ending.digits?] at hdigits
    | least n =>
      rw [i.standard.behind_eq_nil.mpr hplain, List.nil_append] at hafter
      rw [hending] at htail
      obtain ⟨run, rest, hprefers, hstart⟩ := minimum_taken hafter htail
      refine ⟨_, hprefers.optional, fun j hj => ?_, ?_, rfl, ?_, ?_⟩
      · rw [Spot.capture_group?_of_ne hj.symm, Spot.skip_group?]
      · rw [Spot.capture_group?_self rfl, hplain]
        rfl
      · simp only [Spot.capture_offset, Spot.skip_offset]
        omega
      · rw [hstart] at hbang
        intro hmem
        exact hbang (List.mem_append_right _ (List.mem_append_right _ hmem))

/-- What is taken from the word of the default on. -/
theorem exists_default (i : Invocation) {s : Spot} {r : List Char}
    (hafter : s.after = Invocation.standardWord.chars ++ (r ++ closing))
    (hr : Spaced (([Piece.mark '=' (by decide), Piece.number i.standard] ++ i.ending.pieces).map Piece.chars) r)
    (hnone : s.group? 4 = none) :
    ∃ t, (Pattern.sequence [keyPattern "default", .group 3 (.many1 .decimal), .optional minimumPattern]).Prefers
        s t ∧ t.group? 3 = some i.standard.digits ∧
      (t.group? 4 = if i.standard.plain then i.ending.digits? else none) ∧
      (∀ j, j < 3 → t.group? j = s.group? j) ∧ t.origin = s.origin ∧ s.offset ≤ t.offset ∧ '!' ∉ t.after := by
  obtain ⟨g₁, r₁, h₁, e₁, hr₁⟩ := hr.uncons closing
  obtain ⟨g₂, r₂, h₂, e₂, hr₂⟩ := hr₁.uncons closing
  have hnumber : i.standard.digits ++ (i.standard.behind ++ (r₂ ++ closing)) =
      i.standard.chars ++ (r₂ ++ closing) := by
    rw [← List.append_assoc, i.standard.digits_append_behind]
  have hkey : (keyPattern "default").Passes ("default".toList ++ (g₁ ++ ('=' :: g₂)))
      (i.standard.digits ++ (i.standard.behind ++ (r₂ ++ closing))) := by
    refine passes_key "default" h₁ h₂ ?_
    rw [hnumber]
    exact stops_blank (.number i.standard)
  have hdigits := passes_digits i.standard (ends_digits i.ending.pieces hr₂ i.ending.head_isMark)
  have hafter₁ : s.after = "default".toList ++ (g₁ ++ ('=' :: g₂)) ++
      (i.standard.digits ++ (i.standard.behind ++ (r₂ ++ closing))) := by
    rw [hafter, hnumber, e₁, e₂]
    simp [Piece.chars, Invocation.standardWord, Word.ofAscii, Word.chars]
  -- The spot behind the digits of the default.
  set u := (s.skip ("default".toList ++ (g₁ ++ ('=' :: g₂)))
    (i.standard.digits ++ (i.standard.behind ++ (r₂ ++ closing)))).capture 3 i.standard.digits
      (i.standard.behind ++ (r₂ ++ closing)) with hu
  obtain ⟨t, hoptional, hothers, hleast, horigin, hoffset, hbang⟩ :=
    exists_minimum i (s := u) rfl hr₂ (by rw [hu, Spot.capture_group?_of_ne (by decide)]; exact hnone)
  refine ⟨t, .pass hkey hafter₁ (.capture hdigits rfl (hoptional.seq .empty)), ?_, hleast, ?_, horigin, ?_, hbang⟩
  · rw [hothers 3 (by decide), hu, Spot.capture_group?_self rfl]
  · intro j hj
    rw [hothers j (by omega), hu, Spot.capture_group?_of_ne (by omega), Spot.skip_group?]
  · refine Nat.le_trans ?_ hoffset
    simp only [hu, Spot.capture_offset, Spot.skip_offset]
    omega

/-- What is taken from the word of the variable on. -/
theorem exists_variable (i : Invocation) {s : Spot} {r : List Char}
    (hafter : s.after = Invocation.variableWord.chars ++ (r ++ closing))
    (hr : Spaced (([Piece.mark '=' (by decide), Piece.string i.setBy, Piece.mark ',' (by decide),
      Piece.word Invocation.standardWord, Piece.mark '=' (by decide), Piece.number i.standard] ++
        i.ending.pieces).map Piece.chars) r)
    (hnone : s.group? 4 = none) :
    ∃ t, (Pattern.sequence [keyPattern "env", .literal "\"", .group 2 (.many1 (.complement (.char '"'))),
        .literal "\"", commaPattern, keyPattern "default", .group 3 (.many1 .decimal),
        .optional minimumPattern]).Prefers s t ∧
      t.group? 2 = some i.setBy.chars ∧ t.group? 3 = some i.standard.digits ∧
      (t.group? 4 = if i.standard.plain then i.ending.digits? else none) ∧
      t.group? 1 = s.group? 1 ∧ t.origin = s.origin ∧ s.offset ≤ t.offset ∧ '!' ∉ t.after := by
  obtain ⟨g₁, r₁, h₁, e₁, hr₁⟩ := hr.uncons closing
  obtain ⟨g₂, r₂, h₂, e₂, hr₂⟩ := hr₁.uncons closing
  obtain ⟨g₃, r₃, h₃, e₃, hr₃⟩ := hr₂.uncons closing
  obtain ⟨g₄, r₄, h₄, e₄, hr₄⟩ := hr₃.uncons closing
  have hquoted : i.setBy.quoted ++ (r₂ ++ closing) = '"' :: (i.setBy.chars ++ '"' :: (r₂ ++ closing)) := by
    simp [Quotation.quoted]
  have hkey : (keyPattern "env").Passes ("env".toList ++ (g₁ ++ ('=' :: g₂)))
      ('"' :: (i.setBy.chars ++ '"' :: (r₂ ++ closing))) := by
    refine passes_key "env" h₁ h₂ ?_
    rw [← hquoted]
    exact stops_blank (.string i.setBy)
  have hcomma : commaPattern.Passes (g₃ ++ (',' :: g₄)) (Invocation.standardWord.chars ++ (r₄ ++ closing)) :=
    passes_comma h₃ h₄ (stops_blank (.word Invocation.standardWord))
  have hafter₁ : s.after =
      "env".toList ++ (g₁ ++ ('=' :: g₂)) ++ ('"' :: (i.setBy.chars ++ '"' :: (r₂ ++ closing))) := by
    rw [hafter, ← hquoted, e₁, e₂]
    simp [Piece.chars, Invocation.variableWord, Word.ofAscii, Word.chars]
  have hafter₂ : r₂ ++ closing = g₃ ++ (',' :: g₄) ++ (Invocation.standardWord.chars ++ (r₄ ++ closing)) := by
    rw [e₃, e₄]
    simp [Piece.chars]
  -- The spot behind the variable, in front of the default.
  set u := ((((s.skip ("env".toList ++ (g₁ ++ ('=' :: g₂))) ('"' :: (i.setBy.chars ++ '"' :: (r₂ ++ closing)))).skip
    ['"'] (i.setBy.chars ++ '"' :: (r₂ ++ closing))).capture 2 i.setBy.chars ('"' :: (r₂ ++ closing))).skip ['"']
      (r₂ ++ closing)).skip (g₃ ++ (',' :: g₄)) (Invocation.standardWord.chars ++ (r₄ ++ closing)) with hu
  have hkept : ∀ j, j ≠ 2 → u.group? j = s.group? j := by
    intro j hj
    simp only [hu, Spot.skip_group?]
    rw [Spot.capture_group?_of_ne hj.symm]
    simp only [Spot.skip_group?]
  have hvariable : u.group? 2 = some i.setBy.chars := by
    simp only [hu, Spot.skip_group?]
    exact Spot.capture_group?_self rfl
  obtain ⟨t, hrest, hstandard, hleast, hothers, horigin, hoffset, hbang⟩ :=
    exists_default i (s := u) rfl hr₄ (by rw [hkept 4 (by decide)]; exact hnone)
  refine ⟨t, ?_, ?_, hstandard, hleast, ?_, ?_, ?_, hbang⟩
  · exact .pass hkey hafter₁ <| .pass (.literal "\"") rfl <| .capture (passes_variable i) rfl <|
      .pass (.literal "\"") rfl <| .pass hcomma hafter₂ hrest
  · rw [hothers 2 (by decide), hvariable]
  · rw [hothers 1 (by decide), hkept 1 (by decide)]
  · exact horigin
  · refine Nat.le_trans ?_ hoffset
    simp only [hu, Spot.capture_offset, Spot.skip_offset]
    omega

/-- From the start of an invocation up to the word of the variable, the name is taken. -/
theorem exists_name (i : Invocation) {gap arguments : List Char} (hgap : Blank gap)
    (hargs : i.WrittenAs arguments) :
    ∃ u r, u.after = Invocation.variableWord.chars ++ (r ++ closing) ∧
      Spaced (([Piece.mark '=' (by decide), Piece.string i.setBy, Piece.mark ',' (by decide),
        Piece.word Invocation.standardWord, Piece.mark '=' (by decide), Piece.number i.standard] ++
          i.ending.pieces).map Piece.chars) r ∧
      u.group? 1 = some i.name.chars ∧ u.group? 4 = none ∧ u.origin < u.offset ∧
      ∀ ps t, (Pattern.sequence ps).Prefers u t →
        (Pattern.sequence ([.literal "define_env_constant!", .blanks, .literal "(", .blanks,
          .group 1 (.seq (.one capitalSet) (.many capitalPartSet)), .blanks, .literal ":", .blanks,
          .many1 .word, commaPattern] ++ ps)).Prefers (Spot.start (invocation gap arguments)) t := by
  obtain ⟨g₁, r₁, h₁, e₁, hr₁⟩ := Spaced.uncons hargs closing
  obtain ⟨g₂, r₂, h₂, e₂, hr₂⟩ := hr₁.uncons closing
  obtain ⟨g₃, r₃, h₃, e₃, hr₃⟩ := hr₂.uncons closing
  obtain ⟨g₄, r₄, h₄, e₄, hr₄⟩ := hr₃.uncons closing
  obtain ⟨g₅, r₅, h₅, e₅, hr₅⟩ := hr₄.uncons closing
  have hbracket : Pattern.Stops .blank ('(' :: (arguments ++ closing)) := .cons (by decide)
  have hcolon : Pattern.Stops .blank (':' :: (r₂ ++ closing)) := .cons (by decide)
  have hdetached : Detached (r₁ ++ closing) := by
    rw [e₂]
    exact h₂.detached_append (.cons (by decide))
  have hname := passes_name i hdetached
  -- White space that counts as part of words goes with the type, and the rest of it with the comma.
  have htype : (Pattern.many1 .word).Passes (i.type.chars ++ g₄.takeWhile isWord)
      (g₄.dropWhile isWord ++ (',' :: (r₄ ++ closing))) := passes_type i
  have hcomma : commaPattern.Passes (g₄.dropWhile isWord ++ (',' :: g₅))
      (Invocation.variableWord.chars ++ (r₅ ++ closing)) :=
    passes_comma (fun c hc => h₄ c (List.dropWhile_subset _ hc)) h₅
      (stops_blank (.word Invocation.variableWord))
  have hafter₄ : i.type.chars ++ (r₃ ++ closing) =
      i.type.chars ++ g₄.takeWhile isWord ++ (g₄.dropWhile isWord ++ (',' :: (r₄ ++ closing))) := by
    rw [e₄, List.append_assoc, ← List.append_assoc (g₄.takeWhile isWord), List.takeWhile_append_dropWhile]
    rfl
  have hafter₅ : g₄.dropWhile isWord ++ (',' :: (r₄ ++ closing)) =
      g₄.dropWhile isWord ++ (',' :: g₅) ++ (Invocation.variableWord.chars ++ (r₅ ++ closing)) := by
    rw [e₅]
    simp [Piece.chars]
  refine ⟨_, r₅, ?_, hr₅, ?_, ?_, ?_, fun ps t hrest =>
    .pass (.literal "define_env_constant!") rfl <| .pass (passes_blanks hgap hbracket) rfl <|
    .pass (.literal "(") rfl <| .pass (passes_blanks h₁ (stops_blank (.word i.name))) e₁ <|
    .capture hname rfl <| .pass (passes_blanks h₂ hcolon) e₂ <| .pass (.literal ":") rfl <|
    .pass (passes_blanks h₃ (stops_blank (.word i.type))) e₃ <| .pass htype hafter₄ <|
    .pass hcomma hafter₅ hrest⟩
  · rfl
  · simp only [Spot.skip_group?]
    exact Spot.capture_group?_self rfl
  · simp only [Spot.skip_group?]
    rw [Spot.capture_group?_of_ne (by decide)]
    rfl
  · simp only [Spot.skip_origin, Spot.skip_offset, Spot.capture_origin, Spot.capture_offset]
    have hlength : 0 < "define_env_constant!".toList.length := by decide
    have hstart : (Spot.start (invocation gap arguments)).origin = (Spot.start (invocation gap arguments)).offset := rfl
    omega

/-- The pattern matches every invocation, from its start on. -/
theorem exists_shows (i : Invocation) {gap arguments : List Char} (hgap : Blank gap)
    (hargs : i.WrittenAs arguments) :
    ∃ t, tunablePattern.Prefers (Spot.start (invocation gap arguments)) t ∧ Shows i t := by
  obtain ⟨u, r, hafter, hr, hname, hnone, hmoved, hprefers⟩ := exists_name i hgap hargs
  obtain ⟨t, hrest, hvariable, hstandard, hleast, hkept, horigin, hoffset, hbang⟩ :=
    exists_variable i hafter hr hnone
  refine ⟨t, hprefers _ t hrest, ?_⟩
  exact { name := hkept.trans hname, setBy := hvariable, standard := hstandard, least := hleast,
          moved := by omega, rest := hbang }

/-- The digits of a declaration are taken as their value. -/
theorem declaredNumber_digits {n : IntegerSpelling} (hlimit : n.value < numberLimit) :
    declaredNumber n.digits = .ok n.shown := by
  rw [declaredNumber, n.readNumber_digits hlimit]
  rfl

/-- What is made of a match. -/
theorem tunableAt_of_shows {i : Invocation} {t : Spot} (h : Shows i t)
    (hstandard : i.standard.value < numberLimit) (hleast : i.ending.value < numberLimit) (env : Environment) :
    tunableAt env t.captures = .ok ⟨String.ofList i.name.chars,
      resolve (env.lookup? i.variableName) i.standard.shown i.shownLeast⟩ := by
  have hfour : t.captures 4 = if i.standard.plain then i.ending.digits? else none := h.least
  simp only [tunableAt, groupOf_captures h.name, groupOf_captures h.setBy, groupOf_captures h.standard, hfour, bind,
    Except.bind, declaredNumber_digits hstandard, Invocation.shownLeast]
  cases i.standard.plain with
  | false => rfl
  | true =>
    cases hending : i.ending with
    | bare | comma => rfl
    | least n =>
      rw [hending] at hleast
      simp only [Ending.digits?, if_true, declaredNumber_digits (n := n) hleast]
      rfl

/-- The one tunable that the header takes from an invocation. -/
theorem tunables_text [RegexLibrary] (hpattern : RegexLibrary.Provides tunablePatternText tunablePattern)
    (i : Invocation) {gap arguments : List Char} (hgap : Blank gap) (hargs : i.WrittenAs arguments)
    (hstandard : i.standard.value < numberLimit) (hleast : i.ending.value < numberLimit) (path : String)
    (env : Environment) :
    tunables (String.ofList (invocation gap arguments)) path env =
      .ok [⟨String.ofList i.name.chars, resolve (env.lookup? i.variableName) i.standard.shown i.shownLeast⟩] := by
  obtain ⟨re, hcompile, hsearches⟩ := hpattern
  obtain ⟨t, hprefers, hshows⟩ := exists_shows i hgap hargs
  have hnone : tunablePattern.leftmost? t = none := Pattern.leftmost?_eq_none (c := '!') (by decide) hshows.rest
  have hfound : re.capturesIter (invocation gap arguments) = [t.captures] :=
    hsearches.capturesIter_eq_singleton (Pattern.leftmost?_of_prefers hprefers) hshows.moved hnone
  simp only [tunables, compiled, hcompile, Except.mapError, bind, Except.bind, String.toList_ofList, hfound,
    List.mapM_cons, List.mapM_nil, tunableAt_of_shows hshows hstandard hleast env]
  rfl

end PacketReinjection.Tunable
