import PacketReinjection.Proofs.Header.Declaration
import PacketReinjection.Proofs.Text.Lines
import PacketReinjection.Proofs.Text.Searches

/-!
# `Proofs.Header.Body` — the members that are read from a body

Every line of a body is told for what it is, also without the carriage return that may be missing at its end: a line of
documentation whatever its text, and the line of a variant if the name is plain. Any other name makes the line one that
is passed over, and the documentation above it is dropped with it.

## Contents
- **Matches.** `ofLine_of_doc`, `ofLine_of_member`, `ofLine_of_none`: how a line is told, by its match.
- **Other lines.** `ofLine_other`.
- **Documentation.** `ofLine_doc`.
- **Variants.** `ofLine_plain`, `ofLine_not_plain`.
- **`Told`** — several lines that are told for what they are.
- **`membersOf_body`** — the members of a declaration's body.
-/

namespace PacketReinjection.Header

open Text Pattern Tunable

variable {member doc : Regex} (hmember : member.Searches memberPattern) (hdoc : doc.Searches docPattern)

/-! ## Matches -/

/-- How a line of documentation is told, by the match that it has. -/
theorem ofLine_of_doc {line run : List Char} {t : Spot} (hfind : doc.captures line = some t.captures)
    (hgroup : t.group? 1 = some run) : BodyLine.ofLine member doc line = .ok (.doc (trim run)) := by
  rw [BodyLine.ofLine, hfind]
  simp only [groupOf_captures hgroup]
  rfl

/-- How the line of a member is told. -/
theorem ofLine_of_member {line name value : List Char} {t : Spot} (hnone : doc.captures line = none)
    (hfind : member.captures line = some t.captures) (hname : t.group? 1 = some name)
    (hvalue : t.group? 2 = some value) : BodyLine.ofLine member doc line = .ok (.member name value) := by
  rw [BodyLine.ofLine, hnone, hfind]
  simp only [groupOf_captures hname, groupOf_captures hvalue]
  rfl

theorem ofLine_of_none {line : List Char} (hnone : doc.captures line = none)
    (hnone' : member.captures line = none) : BodyLine.ofLine member doc line = .ok .other := by
  rw [BodyLine.ofLine, hnone, hnone']
  rfl

include hdoc

/-! ## Other lines -/

theorem captures_doc_eq_none {line : List Char} (h : '/' ∉ line) : doc.captures line = none :=
  hdoc.captures_eq_none (leftmost?_eq_none (c := '/') (by decide) h)

include hmember in
/-- A line without slashes and equals signs is neither documentation nor a member. -/
theorem ofLine_other {line : List Char} (hslash : '/' ∉ line) (hequals : '=' ∉ line) :
    BodyLine.ofLine member doc line = .ok .other := by
  have hnone : member.captures line = none :=
    hmember.captures_eq_none (leftmost?_eq_none (c := '=') (by decide) hequals)
  exact ofLine_of_none (captures_doc_eq_none hdoc hslash) hnone

/-! ## Documentation -/

omit hdoc in
/-- One blank may stand in front of a text, which makes no difference when it is trimmed. -/
theorem exists_passes_blank (text : List Char) :
    ∃ gap run, text = gap ++ run ∧ (Pattern.optional (.one .blank)).Passes gap run ∧ trim run = trim text := by
  by_cases hstop : Stops .blank text
  · refine ⟨[], text, rfl, .optional_of_none fun s hafter => ?_, rfl⟩
    exact results_one_of_stops (hafter ▸ hstop)
  · cases text with
    | nil => exact absurd .nil hstop
    | cons c text =>
      have hc : isBlank c = true := by
        by_contra hblank
        exact hstop (.cons (Bool.eq_false_iff.mpr hblank))
      exact ⟨[c], text, rfl, .optional (.one hc), (trim_cons_blank hc text).symm⟩

/-- **A line of documentation** is taken with its text. -/
theorem ofLine_doc (indent : Indent) {text : List Char} (htext : '\n' ∉ text) :
    BodyLine.ofLine member doc (indent.chars ++ ("///".toList ++ text)) = .ok (.doc (trim text)) := by
  obtain ⟨gap, run, rfl, hgap, htrim⟩ := exists_passes_blank text
  have hrun : ∀ c ∈ run, CharSet.inLine.contains c := by
    intro c hc
    have hne : c ≠ '\n' := by
      rintro rfl
      exact htext (List.mem_append_right gap hc)
    simpa [CharSet.inLine, CharSet.contains] using hne
  have hindent : Pattern.blanks.Passes indent.chars ("///".toList ++ (gap ++ run)) :=
    .many indent.blank (.cons (by decide))
  obtain ⟨t, hprefers, hgroup⟩ : ∃ t, docPattern.Prefers (Spot.start (indent.chars ++ ("///".toList ++ (gap ++ run)))) t
      ∧ t.group? 1 = some run := by
    refine ⟨_, (Prefers.anchor rfl).seq <| .pass hindent rfl <| .pass (.literal "///") rfl <| .pass hgap rfl <|
      .capture (.many hrun .nil) (List.append_nil run).symm <| (Prefers.anchor rfl).seq .empty, ?_⟩
    exact Spot.capture_group?_self (List.append_nil run).symm
  rw [← htrim]
  exact ofLine_of_doc (hdoc.captures_of_leftmost (leftmost?_of_prefers hprefers)) hgroup

/-- The same where the line was ended, and a carriage return at the end of the text taken for a part of that. -/
theorem ofLine_ended_doc (d : DocLine) :
    BodyLine.ofLine member doc (ended d.chars) = .ok (.doc (trim d.text)) := by
  have hwhole : BodyLine.ofLine member doc d.chars = .ok (.doc (trim d.text)) := ofLine_doc hdoc d.indent d.inLine
  rcases List.eq_nil_or_concat' d.text with hempty | ⟨front, c, hfront⟩
  · have hchars : d.chars = (d.indent.chars ++ ['/', '/']) ++ ['/'] := by simp [DocLine.chars, hempty]
    rw [hchars, ended_append (by decide), ← hchars]
    exact hwhole
  · have hchars : d.chars = (d.indent.chars ++ ("///".toList ++ front)) ++ [c] := by simp [DocLine.chars, hfront]
    by_cases hc : c = '\r'
    · subst hc
      have hinLine : '\n' ∉ front := fun hmem => d.inLine (hfront ▸ List.mem_append_left _ hmem)
      rw [hchars, ended_append_return, ofLine_doc hdoc d.indent hinLine, hfront, trim_append_blank (by decide)]
    · rw [hchars, ended_append hc, ← hchars]
      exact hwhole

/-! ## Variants -/

omit hdoc

theorem passes_plain_name {i : Identifier} {rest : List Char} (h : i.isPlain) (hrest : Stops namePartSet rest) :
    (Pattern.seq (.one nameStartSet) (.many namePartSet)).Passes i.chars rest := by
  obtain ⟨hfirst, hothers⟩ := Bool.and_eq_true_iff.mp h
  have hstart : (Pattern.one nameStartSet).Passes [i.first] (i.others ++ rest) := .one hfirst
  exact hstart.seq (.many (List.all_eq_true.mp hothers) hrest)

theorem passes_sign (v : ValueSpelling) :
    (Pattern.optional (.literal "-")).Passes (if v.negative then ['-'] else []) (v.magnitude ++ [',']) := by
  cases hnegative : v.negative with
  | true => exact .optional (.literal "-")
  | false =>
    refine .optional_of_none fun s hafter => results_eq_nil (c := '-') (by decide) ?_
    have hdigits : '-' ∉ v.digits := v.not_mem_digits (by decide) (by decide)
    rw [hafter]
    cases hcase : v.hexadecimal <;> simp [ValueSpelling.magnitude, hcase, hdigits]

theorem passes_magnitude (v : ValueSpelling) :
    (Pattern.alt (.seq (.literal "0x") (.many1 hexadecimalSet)) (.many1 .decimal)).Passes v.magnitude [','] := by
  have hdigit := v.digit
  unfold ValueSpelling.magnitude
  cases hcase : v.hexadecimal with
  | true =>
    rw [hcase] at hdigit
    have hdigits : (many1 hexadecimalSet).Passes v.digits [','] :=
      .many1 v.digits_ne_nil hdigit (.cons (by decide))
    exact .alt_left ((Passes.literal "0x").seq hdigits)
  | false =>
    rw [hcase] at hdigit
    have hdigits : (many1 .decimal).Passes v.digits [','] := .many1 v.digits_ne_nil hdigit (.cons (by decide))
    -- Decimal digits hold no mark of hexadecimal ones.
    refine .alt_right (fun s hafter => results_eq_nil (c := 'x') (by decide) ?_) hdigits
    have hmark : 'x' ∉ v.digits := v.not_mem_digits (by decide) (by decide)
    simp [hafter, hmark]

/-- A number up to the comma behind it. -/
theorem passes_value (v : ValueSpelling) :
    (Pattern.seq (.optional (.literal "-"))
      (.alt (.seq (.literal "0x") (.many1 hexadecimalSet)) (.many1 .decimal))).Passes v.chars [','] :=
  (passes_sign v).seq (passes_magnitude v)

theorem stops_value (v : ValueSpelling) : Stops .blank (v.chars ++ [',']) := by
  intro c hc
  rw [List.head?_append] at hc
  cases hhead : v.chars.head? with
  | none =>
    obtain rfl : ',' = c := by simpa [hhead] using hc
    decide
  | some d =>
    obtain rfl : d = c := by simpa [hhead] using hc
    exact isBlank_of_isNumeral (v.isNumeral_of_mem_chars (List.mem_of_head? hhead))

theorem stops_name (i : Identifier) (rest : List Char) : Stops .blank (i.chars ++ rest) :=
  .cons (i.stands i.first List.mem_cons_self).2

/-- No line of a variant is one of documentation. -/
theorem slash_not_mem_line (v : Variant) : '/' ∉ v.line :=
  v.not_mem_line (v.indent.not_mem (by decide)) (by decide) (by decide) (by decide)

include hmember hdoc in
/-- **The line of a variant with a plain name** is taken with the name and the number as they are written. -/
theorem ofLine_plain (v : Variant) (hplain : v.name.isPlain) :
    BodyLine.ofLine member doc v.line = .ok (.member v.name.chars v.value.chars) := by
  have hspace : ∀ c ∈ [' '], CharSet.blank.contains c := List.forall_mem_singleton.mpr (by decide)
  have hgap {rest : List Char} (h : Stops .blank rest) : Pattern.blanks.Passes [' '] rest := .many hspace h
  have hnothing {rest : List Char} (h : Stops .blank rest) : Pattern.blanks.Passes [] rest := .many (by simp) h
  have hindent : Pattern.blanks.Passes v.indent.chars
      (v.name.chars ++ (' ' :: '=' :: ' ' :: (v.value.chars ++ [',']))) := .many v.indent.blank (stops_name _ _)
  obtain ⟨t, hprefers, hname, hvalue⟩ : ∃ t, memberPattern.Prefers (Spot.start v.line) t
      ∧ t.group? 1 = some v.name.chars ∧ t.group? 2 = some v.value.chars := by
    refine ⟨_, (Prefers.anchor rfl).seq <| .pass hindent rfl <|
      .capture (passes_plain_name hplain (.cons (by decide))) rfl <| .pass (hgap (.cons (by decide))) rfl <|
      .pass (.literal "=") rfl <| .pass (hgap (stops_value _)) rfl <| .capture (passes_value _) rfl <|
      .pass (hnothing (.cons (by decide))) rfl <| .pass (.optional (.literal ",")) rfl <|
      .pass (hnothing .nil) rfl <| (Prefers.anchor rfl).seq .empty, ?_, ?_⟩
    · simp only [Spot.skip_group?, Spot.capture_group?_of_ne (show 2 ≠ 1 by decide)]
      exact Spot.capture_group?_self rfl
    · simp only [Spot.skip_group?]
      exact Spot.capture_group?_self rfl
  exact ofLine_of_member (captures_doc_eq_none hdoc (slash_not_mem_line v))
    (hmember.captures_of_leftmost (leftmost?_of_prefers hprefers)) hname hvalue

/-- What stands in front of the first equals sign, without white space. -/
theorem filter_takeWhile_eq {gap name gap' : List Char} (rest : List Char) (hgap : Blank gap) (hgap' : Blank gap')
    (hname : ∀ c ∈ name, isBlank c = false ∧ c ≠ '=') :
    ((gap ++ (name ++ (gap' ++ '=' :: rest))).takeWhile (· ≠ '=')).filter (!isBlank ·) = name := by
  have hne {g : List Char} (hg : Blank g) : ∀ c ∈ g, decide (c ≠ '=') = true := by
    intro c hc
    exact decide_eq_true (ne_of_class (hg c hc) (by decide))
  have hkeep : name.filter (!isBlank ·) = name := filter_visible fun c hc => (hname c hc).1
  rw [List.takeWhile_append_of_pos (hne hgap),
    List.takeWhile_append_of_pos fun c hc => decide_eq_true (hname c hc).2,
    List.takeWhile_append_of_pos (hne hgap')]
  simp [filter_blank hgap, filter_blank hgap', hkeep]

theorem isAsciiWord_of_namePart {c : Char} (h : namePartSet.contains c) : isAsciiWord c = true := by
  simp only [namePartSet, nameStartSet, CharSet.contains, Bool.or_eq_true, Bool.and_eq_true, decide_eq_true_eq] at h
  rcases h with ((hupper | hlower) | rfl) | hdigit
  · have hletter : c.isAlpha = true := isAlpha_iff.mpr (.inl hupper)
    simp [isAsciiWord, Char.isAlphanum, hletter]
  · have hletter : c.isAlpha = true := isAlpha_iff.mpr (.inr hlower)
    simp [isAsciiWord, Char.isAlphanum, hletter]
  · decide
  · exact isAsciiWord_of_isDigit (Char.isDigit_iff_toNat.mpr hdigit)

/-- What is taken for a member has a plain name. -/
theorem isPlain_of_mem_results {v : Variant} {s t : Spot} (hafter : s.after = v.line)
    (ht : t ∈ memberPattern.results s) : v.name.isPlain = true := by
  obtain ⟨-, ht⟩ := satisfies_of_mem_sequence ht
  obtain ⟨gap, s₁, h₁, hgap, ht⟩ := exists_of_mem_sequence admits_many ht
  obtain ⟨name, s₂, h₂, ⟨first, others, rfl, ⟨c, rfl, hc⟩, hothers⟩, ht⟩ :=
    exists_of_mem_sequence (admits_one.seq admits_many).group ht
  obtain ⟨gap', s₃, h₃, hgap', ht⟩ := exists_of_mem_sequence admits_many ht
  obtain ⟨_, s₄, h₄, rfl, -⟩ := exists_of_mem_sequence (admits_literal "=") ht
  have hmatched : ∀ d ∈ c :: others, isBlank d = false ∧ d ≠ '=' := by
    intro d hd
    have hpart : namePartSet.contains d = true := by
      rcases List.mem_cons.mp hd with rfl | hd
      · simp only [namePartSet, CharSet.contains, Bool.or_eq_true] at hc ⊢
        exact .inl hc
      · exact hothers d hd
    have hword := isNamePart_of_isAsciiWord (isAsciiWord_of_namePart hpart)
    exact ⟨isBlank_of_isNamePart hword, ne_of_class hword (by decide)⟩
  have hwritten : ∀ d ∈ v.name.chars, isBlank d = false ∧ d ≠ '=' := by
    intro d hd
    exact ⟨(v.name.stands d hd).2, ne_of_class (v.name.isNameChar_of_mem d hd) (by decide)⟩
  have hfound := filter_takeWhile_eq s₄.after hgap hgap' hmatched
  have hgiven := filter_takeWhile_eq (' ' :: (v.value.chars ++ [','])) v.indent.blank
    (show Blank [' '] by decide) hwritten
  -- Both are read off the same line.
  have hline : v.line = gap ++ (c :: others ++ (gap' ++ '=' :: s₄.after)) := by
    rw [← hafter, h₁, h₂, h₃, h₄]
    rfl
  have hchars : v.name.chars = c :: others := by
    rw [← hgiven, ← hfound, ← hline]
    rfl
  obtain ⟨hfirst, hrest⟩ := List.cons.inj hchars
  rw [Identifier.isPlain, hfirst, hrest, Bool.and_eq_true_iff]
  exact ⟨hc, List.all_eq_true.mpr hothers⟩

include hmember hdoc in
/-- **The line of a variant with any other name** is no member. -/
theorem ofLine_not_plain (v : Variant) (hplain : v.name.isPlain = false) :
    BodyLine.ofLine member doc v.line = .ok .other := by
  have hnone : memberPattern.leftmost? (.start v.line) = none :=
    leftmost?_eq_none_of_start fun s t hafter ht =>
      Bool.false_ne_true (hplain.symm.trans (isPlain_of_mem_results hafter ht))
  exact ofLine_of_none (captures_doc_eq_none hdoc (slash_not_mem_line v)) (hmember.captures_eq_none hnone)

/-! ## Members -/

/-- What the lines of a variant are told for. -/
def Variant.bodyLines (v : Variant) : List BodyLine :=
  v.docs.map (fun d => .doc (trim d.text))
    ++ [if v.name.isPlain then .member v.name.chars v.value.chars else .other]

/-- Several lines are told for what they are. -/
def Told (member doc : Regex) (lines : List (List Char)) (told : List BodyLine) : Prop :=
  lines.mapM (BodyLine.ofLine member doc) = .ok told

namespace Told

variable {lines lines' : List (List Char)} {told told' : List BodyLine}

theorem nothing : Told member doc [] [] := rfl

theorem line {l : List Char} {b : BodyLine} (h : BodyLine.ofLine member doc l = .ok b) : Told member doc [l] [b] := by
  simp only [Told, List.mapM_cons, h]
  rfl

theorem append (h : Told member doc lines told) (h' : Told member doc lines' told') :
    Told member doc (lines ++ lines') (told ++ told') := by
  unfold Told at h h' ⊢
  rw [List.mapM_append, h, h']
  rfl

theorem flatMap {α : Type} {xs : List α} {f : α → List (List Char)} {g : α → List BodyLine}
    (h : ∀ x ∈ xs, Told member doc (f x) (g x)) : Told member doc (xs.flatMap f) (xs.flatMap g) := by
  induction xs with
  | nil => exact .nothing
  | cons x xs ih => exact (h x List.mem_cons_self).append (ih fun y hy => h y (List.mem_cons_of_mem x hy))

end Told

section Reading

variable (carriageReturns : Bool)

include hdoc

include hmember in
theorem ofLine_line (v : Variant) : BodyLine.ofLine member doc (ended (withReturn carriageReturns v.line)) =
    .ok (if v.name.isPlain then .member v.name.chars v.value.chars else .other) := by
  have hended : ended (withReturn carriageReturns v.line) = v.line := by
    have hcomma : ended v.line = v.line := by
      have hline : v.line = (v.indent.chars ++ (v.name.chars ++ (' ' :: '=' :: ' ' :: v.value.chars))) ++ [','] := by
        simp [Variant.line]
      rw [hline, ended_append (by decide)]
    cases carriageReturns with
    | true => exact ended_append_return v.line
    | false => exact hcomma
  rw [hended]
  cases hplain : v.name.isPlain with
  | true => exact ofLine_plain hmember hdoc v hplain
  | false => exact ofLine_not_plain hmember hdoc v hplain

theorem ofLine_docLine (d : DocLine) :
    BodyLine.ofLine member doc (ended (withReturn carriageReturns d.chars)) = .ok (.doc (trim d.text)) := by
  cases carriageReturns with
  | true =>
    rw [withReturn, if_pos rfl, ended_append_return]
    exact ofLine_doc hdoc d.indent d.inLine
  | false => exact ofLine_ended_doc hdoc d

include hmember in
/-- The lines of a variant, told for what they are. -/
theorem told_lines (v : Variant) :
    Told member doc (v.lines.map fun l => ended (withReturn carriageReturns l)) v.bodyLines := by
  have hdocs : Told member doc (v.docs.map fun d => ended (withReturn carriageReturns d.chars))
      (v.docs.map fun d => .doc (trim d.text)) := by
    rw [List.map_eq_flatMap, List.map_eq_flatMap]
    exact .flatMap fun d _ => .line (ofLine_docLine hdoc carriageReturns d)
  rw [Variant.lines, List.map_append, List.map_map, List.map_singleton]
  exact hdocs.append (.line (ofLine_line hmember hdoc carriageReturns v))

end Reading

theorem membersFrom_docs (docs texts : List (List Char)) (rest : List BodyLine) :
    membersFrom docs (texts.map .doc ++ rest) = membersFrom (docs ++ texts) rest := by
  induction texts generalizing docs with
  | nil => simp
  | cons text texts ih =>
    rw [List.map_cons, List.cons_append, membersFrom, ih, List.append_assoc]
    rfl

theorem joinDoc_docs (v : Variant) : joinDoc (v.docs.map fun d => trim d.text) = v.doc := by
  simp only [joinDoc, Variant.doc, List.isEmpty_map, List.map_map]
  rfl

/-- A variant with a plain name is a member with its own documentation, and none of it is left for the next variant. -/
theorem membersFrom_bodyLines (v : Variant) (rest : List BodyLine) :
    membersFrom [] (v.bodyLines ++ rest) =
      (if v.name.isPlain then [v.member] else []) ++ membersFrom [] rest := by
  have hdocs : v.docs.map (fun d => BodyLine.doc (trim d.text)) = (v.docs.map fun d => trim d.text).map .doc := by
    rw [List.map_map]
    rfl
  rw [Variant.bodyLines, hdocs, List.append_assoc, membersFrom_docs]
  cases v.name.isPlain with
  | true =>
    show _ :: _ = _
    rw [List.nil_append, joinDoc_docs]
    rfl
  | false => rfl

theorem membersFrom_variants (vs : List Variant) (rest : List BodyLine) :
    membersFrom [] (vs.flatMap Variant.bodyLines ++ rest) =
      (vs.filter (·.name.isPlain)).map Variant.member ++ membersFrom [] rest := by
  induction vs with
  | nil => rfl
  | cons v vs ih =>
    rw [List.flatMap_cons, List.append_assoc, membersFrom_bodyLines, ih, List.filter_cons]
    cases v.name.isPlain <;> simp

include hmember hdoc in
/-- **The members of a body** are those of the variants with plain names. -/
theorem membersOf_body (d : Declaration) : membersOf member doc d.body = .ok d.members := by
  have hlines : lines d.body = ended (withReturn d.carriageReturns []) ::
      (d.variants.flatMap fun v => v.lines.map fun l => ended (withReturn d.carriageReturns l))
        ++ lines d.closing.chars := by
    have hall : lines d.body = (d.lines.map (withReturn d.carriageReturns)).map ended ++ lines d.closing.chars :=
      lines_flatMap d.newline_not_mem_lines d.closing.chars
    rw [hall, List.map_map, Declaration.lines, List.map_cons, List.map_flatMap]
    rfl
  have hfirst : Told member doc [ended (withReturn d.carriageReturns [])] [.other] := by
    have hempty : ended (withReturn d.carriageReturns []) = [] := by
      cases d.carriageReturns <;> rfl
    rw [hempty]
    exact .line (ofLine_other hmember hdoc List.not_mem_nil List.not_mem_nil)
  have hvariants : Told member doc
      (d.variants.flatMap fun v => v.lines.map fun l => ended (withReturn d.carriageReturns l))
      (d.variants.flatMap Variant.bodyLines) := .flatMap fun v _ => told_lines hmember hdoc d.carriageReturns v
  have hclosing : ∃ told, Told member doc (lines d.closing.chars) told ∧ membersFrom [] told = [] := by
    rw [lines_of_not_mem d.closing.inLine]
    cases d.closing.chars.isEmpty with
    | true => exact ⟨[], .nothing, rfl⟩
    | false =>
      have hother := ofLine_other hmember hdoc (d.closing.not_mem (c := '/') (by decide))
        (d.closing.not_mem (c := '=') (by decide))
      exact ⟨[.other], .line hother, rfl⟩
  obtain ⟨told, hlast, hnothing⟩ := hclosing
  have hwhole : Told member doc (lines d.body) (.other :: d.variants.flatMap Variant.bodyLines ++ told) := by
    rw [hlines]
    exact (hfirst.append hvariants).append hlast
  unfold Told at hwhole
  rw [membersOf, hwhole]
  show Except.ok (membersFrom [] (d.variants.flatMap Variant.bodyLines ++ told)) = _
  rw [membersFrom_variants, hnothing, List.append_nil]
  rfl

end PacketReinjection.Header
