import Mathlib.Tactic.FinCases
import PacketReinjection.Proofs.Tunable.Lexing
import PacketReinjection.Proofs.Tunable.Syntax
import PacketReinjection.Tunable.Library

/-!
# `Proofs.Tunable.Library` — the library that runs reads pieces as what they are

The rules of the grammar are functions of what is left to be read, and each of the basic ones has an equation that
says so. Of the types only those of one word are read here: such a type is a path of that word, or the row is
refused, and what stands behind it is left.

## Contents
- **Rules as functions.** An equation for each basic rule of the grammar.
- **`typeForm_word`** — a type of one word in front of a comma.
- **`readsAs_of_forall₂`** — tokens that pieces are read as.
- **`understands`** — the library takes texts of pieces as the pieces.
-/

namespace PacketReinjection.Tunable

open Text Token

/-! ## Rules as functions -/

namespace Reading

/-- The reading with `n` tokens taken. -/
def taking (n : Nat) (s : Reading) : Reading :=
  { s with rest := s.rest.drop n, text := s.text ++ renderAll (s.rest.take n) }

@[simp] theorem taking_rest (n : Nat) (s : Reading) : (s.taking n).rest = s.rest.drop n := rfl

end Reading

namespace Grammar

variable {α β : Type} (s : Reading)

theorem bind_apply (g : Grammar α) (f : α → Grammar β) :
    (g >>= f) s = (g s).bind fun r => f r.1 r.2 := rfl

theorem pure_apply (a : α) : (pure a : Grammar α) s = some (a, s) := rfl

theorem get_apply : (get : Grammar Reading) s = some (s, s) := rfl

theorem ahead_apply (p : List Token → Bool) : ahead p s = some (p s.rest, s) := rfl

theorem require_apply (p : List Token → Bool) : require p s = if p s.rest then some ((), s) else none := by
  unfold require
  rw [bind_apply, ahead_apply]
  cases p s.rest <;> rfl

theorem one_apply (p : List Token → Bool) : one p s = if p s.rest then some ((), s.taking 1) else none := by
  unfold one
  rw [bind_apply, require_apply]
  cases p s.rest <;> rfl

theorem optionalOne_apply (p : List Token → Bool) :
    optionalOne p s = some (if p s.rest then (true, s.taking 1) else (false, s)) := by
  unfold optionalOne
  rw [bind_apply, ahead_apply]
  cases p s.rest <;> rfl

theorem marks_apply (text : String) :
    marks text s = if startsWith text s.rest then some ((), s.taking text.length) else none := by
  unfold marks
  rw [bind_apply, require_apply]
  cases startsWith text s.rest <;> rfl

theorem optionalMarks_apply (text : String) :
    optionalMarks text s = some (if startsWith text s.rest then (true, s.taking text.length) else (false, s)) := by
  unfold optionalMarks
  rw [bind_apply, ahead_apply]
  cases startsWith text s.rest <;> rfl

theorem captured_apply (g : Grammar α) :
    captured g s = (g { s with text := "" }).map fun r => ((r.1, r.2.text), { r.2 with text := s.text }) := rfl

theorem write_apply (text : String) : write text s = some ((), { s with text := s.text ++ text }) := rfl

/-- Nothing is gathered where the first step has no result. -/
theorem gather_of_none {step : Grammar (Option α)} (h : step s = some (none, s)) : gather step s = some ([], s) := by
  unfold gather
  rw [bind_apply, get_apply]
  simp only [Option.bind_some, gatherUpTo]
  rw [bind_apply, h]
  rfl

end Grammar

/-! ## Types of one word -/

namespace Rules

open Grammar

variable (r : Rules) {s : Reading} {w : String} {joint : Bool} {row : List Token}

/-- A word of a path in front of a comma is taken alone. -/
theorem segment_word (hs : s.rest = .name w false :: .mark ',' joint :: row)
    (hname : startsName [.name w false]) : r.segment false s = some (.none, s.taking 1) := by
  have hstart : startsName s.rest = true := by
    rw [hs]
    exact hname
  have hangled : startsAngled false (s.taking 1).rest = false := by
    rw [Reading.taking_rest, hs]
    rfl
  unfold segment
  simp only [bind_apply, optionalOne_apply, Option.bind_some]
  split
  · rfl
  · simp only [bind_apply, one_apply, hstart, ahead_apply, hangled, pure_apply, Bool.true_or, if_true, if_false,
      Bool.false_eq_true, Option.bind_some]

/-- A comma ends a path. -/
theorem pathTail_comma (hs : s.rest = .mark ',' joint :: row) : r.pathTail false s = some ([], s) := by
  refine gather_of_none s ?_
  have hcolons : startsWith "::" s.rest = false := by
    rw [hs]
    rfl
  simp only [nextSegment, bind_apply, ahead_apply, hcolons, pure_apply, Option.bind_some, Bool.false_and,
    Bool.false_eq_true, if_false]

theorem anyPath_word (hs : s.rest = .name w false :: .mark ',' joint :: row)
    (hname : startsName [.name w false]) :
    r.anyPath false s = some ((false, ⟨false, [.none]⟩), s.taking 1) := by
  have hangle : startsWith "<" s.rest = false := by
    rw [hs]
    rfl
  have hcolons : startsWith "::" s.rest = false := by
    rw [hs]
    rfl
  have hafter : (s.taking 1).rest = .mark ',' joint :: row := by
    rw [Reading.taking_rest, hs]
    rfl
  have hpath : r.path false s = some (⟨false, [.none]⟩, s.taking 1) := by
    simp only [path, bind_apply, optionalMarks_apply, hcolons, r.segment_word hs hname,
      r.pathTail_comma hafter, pure_apply, Option.bind_some, Bool.false_eq_true, if_false]
  simp only [anyPath, bind_apply, ahead_apply, hangle, hpath, pure_apply, Option.bind_some, Bool.false_eq_true,
    if_false]

/-- A name in front of a comma is a type. -/
theorem typeRule_name (hs : s.rest = .name w false :: .mark ',' joint :: row)
    (hname : startsName [.name w false]) :
    ∃ t, r.typeRule true s = some (.path ⟨false, [.none]⟩, t) ∧ t.rest = .mark ',' joint :: row := by
  have hfor : startsWord "for" s.rest = false := by
    rw [hs, Bool.eq_false_iff]
    intro h
    obtain rfl : w = "for" := by simpa [startsWord] using h
    exact absurd hname (by decide)
  have hgroup : startsGroup .parenthesis s.rest = false := by
    rw [hs]
    rfl
  have hpath : startsPath s.rest = true := by
    have hstart : startsName s.rest = true := by
      rw [hs]
      exact hname
    simp only [startsPath, hstart, Bool.true_or]
  have hafter : (({ s with text := "" } : Reading).taking 1).rest = .mark ',' joint :: row := by
    rw [Reading.taking_rest]
    simp only [hs, List.drop_succ_cons, List.drop_zero]
  have hbang : startsBang (({ s with text := "" } : Reading).taking 1).rest = false := by
    rw [hafter]
    rfl
  have hplus : startsWith "+" (({ s with text := "" } : Reading).taking 1).rest = false := by
    rw [hafter]
    rfl
  have hany : r.anyPath false { s with text := "" } =
      some ((false, ⟨false, [.none]⟩), ({ s with text := "" } : Reading).taking 1) := r.anyPath_word hs hname
  have hbare : PathForm.isBare ⟨false, [.none]⟩ = true := rfl
  have hempty : ("" : String).isEmpty = true := rfl
  simp only [typeRule, bind_apply, get_apply, Option.bind_some, hfor, hgroup, hpath, if_true, if_false,
    Bool.false_eq_true, pathType, captured_apply, hany, Option.map_some, ahead_apply, hbare, hbang, hplus,
    write_apply, pure_apply, Bool.and_false, hempty]
  exact ⟨_, rfl, hafter⟩

/-- Words that are no names are refused, or read like one. -/
theorem typeRule_keyword (hword : w ∈ keywords) (text : String) (loose : Bool) :
    (r.typeRule true ⟨.name w false :: .mark ',' joint :: row, text, loose⟩).map (·.2.rest) = none ∨
      (r.typeRule true ⟨.name w false :: .mark ',' joint :: row, text, loose⟩).map (·.2.rest) =
        some (.mark ',' joint :: row) := by
  fin_cases hword <;> first | exact .inl rfl | exact .inr rfl

end Rules

/-- What a type of one word leaves, if it is one. -/
theorem typeForm_word {s t : Reading} {w : String} {joint : Bool} {row : List Token} {form : Form}
    (hs : s.rest = .name w false :: .mark ',' joint :: row) (h : typeForm s = some (form, t)) :
    t.rest = .mark ',' joint :: row := by
  have hrule : (Rules.upTo (countAll s.rest)).typeRule true s = some (form, t) := h
  -- Keywords are few and are tried out one by one; any other word is a path.
  by_cases hword : w ∈ keywords
  · obtain ⟨rest, text, loose⟩ := s
    obtain rfl : rest = _ := hs
    rcases Rules.typeRule_keyword (Rules.upTo (countAll _)) hword text loose with hnone | hsome
    · rw [hrule] at hnone
      exact absurd hnone (by simp)
    · rw [hrule] at hsome
      exact Option.some.inj hsome
  · have hname : startsName [.name w false] = true := by simpa [startsName] using hword
    obtain ⟨u, hu, hrest⟩ := Rules.typeRule_name (Rules.upTo (countAll s.rest)) hs hname
    obtain ⟨-, rfl⟩ := Prod.mk.inj (Option.some.inj (hu.symm.trans hrule))
    exact hrest

/-! ## Rows of pieces -/

theorem take?_eq_some {α : Type} {select : Token → Option α} {s t : Reading} {token : Token} {row : List Token} {a : α}
    (hs : s.rest = token :: row) (h : s.take? select = some (a, t)) : select token = some a ∧ t.rest = row := by
  rw [Reading.take?, hs] at h
  obtain ⟨b, hb, heq⟩ := Option.map_eq_some_iff.mp h
  obtain ⟨rfl, rfl⟩ := Prod.mk.inj heq
  exact ⟨hb, rfl⟩

/-- A single mark is taken. -/
theorem marks_eq_some {c : Char} {s t : Reading} {token : Token} {row : List Token} (hs : s.rest = token :: row)
    (h : Grammar.marks c.toString s = some ((), t)) : t.rest = row := by
  rw [Grammar.marks_apply] at h
  obtain ⟨-, heq⟩ := Option.ite_none_right_eq_some.mp h
  obtain ⟨-, rfl⟩ := Prod.mk.inj (Option.some.inj heq)
  have hlength : c.toString.length = 1 := by simp
  rw [Reading.taking_rest, hlength, hs]
  rfl

/-- What the library sees of the token in front. -/
theorem front_of_cons {s : Reading} {token : Token} {row : List Token} (hs : s.rest = token :: row) :
    SyntaxLibrary.atEnd s = false
      ∧ SyntaxLibrary.startsWith ',' s = Token.startsWith ','.toString (token :: row) := by
  rw [← hs]
  exact ⟨by show s.rest.isEmpty = false; rw [hs]; rfl, rfl⟩

/-- **Tokens** that pieces are read as are taken as the pieces. -/
theorem readsAs_of_forall₂ {pieces : List Piece} {s : Reading} (h : List.Forall₂ Piece.IsRead pieces s.rest) :
    ReadsAs pieces s := by
  generalize hs : s.rest = row at h
  induction h generalizing s with
  | nil =>
    have hempty : SyntaxLibrary.atEnd s = s.rest.isEmpty := rfl
    have hcomma : SyntaxLibrary.startsWith ',' s = Token.startsWith ','.toString s.rest := rfl
    rw [ReadsAs, hempty, hcomma, hs]
    exact ⟨rfl, rfl⟩
  | @cons p token pieces row hp hrest ih =>
    obtain ⟨hmore, hfront⟩ := front_of_cons hs
    obtain ⟨joint, htoken⟩ := hp
    cases p with
    | word w =>
      obtain rfl := Option.some.inj htoken
      refine ⟨hmore, hfront, fun name t hname => ?_, fun type t hnext htype => ?_⟩
      · obtain ⟨hselect, hafter⟩ := take?_eq_some hs hname
        obtain ⟨-, heq⟩ := Option.ite_none_right_eq_some.mp hselect
        exact ⟨fun _ => by simpa [render] using (Option.some.inj heq).symm, ih hafter⟩
      · obtain ⟨⟨⟨form, text⟩, u⟩, hform, heq⟩ := Option.map_eq_some_iff.mp htype
        obtain ⟨-, rfl⟩ := Prod.mk.inj heq
        rw [Grammar.captured_apply] at hform
        obtain ⟨⟨form', u'⟩, htypeForm, heq⟩ := Option.map_eq_some_iff.mp hform
        obtain ⟨-, rfl⟩ := Prod.mk.inj heq
        obtain ⟨hcomma, rest, rfl⟩ := hnext
        -- The comma behind the word is a token of its own.
        obtain ⟨_, row, ⟨joint, hnext⟩, -, rfl⟩ := List.forall₂_cons_left_iff.mp hrest
        obtain rfl := Option.some.inj hnext
        have hleft : u'.rest = .mark ',' joint :: row := typeForm_word (s := { s with text := "" }) hs htypeForm
        exact ih hleft
    | mark c hc =>
      obtain rfl := Option.some.inj htoken
      refine ⟨hmore, hfront.trans ?_, fun t hmark => ?_⟩
      · simp [Token.startsWith, startsWithMarks, eq_comm]
      · obtain ⟨⟨⟨⟩, u⟩, hmarks, rfl⟩ := Option.map_eq_some_iff.mp hmark
        exact ih (marks_eq_some hs hmarks)
    | string q =>
      obtain ⟨value, hvalue, rfl⟩ := Option.map_eq_some_iff.mp htoken
      refine ⟨hmore, hfront, fun text t hstring => ?_⟩
      obtain ⟨hselect, hafter⟩ := take?_eq_some hs hstring
      obtain rfl := Option.some.inj hselect
      refine ⟨fun hreturn => ?_, ih hafter⟩
      rw [q.value?_eq hreturn] at hvalue
      rw [Option.some.inj hvalue]
    | number n =>
      obtain rfl := Option.some.inj htoken
      refine ⟨hmore, hfront, fun digits t hinteger => ?_⟩
      obtain ⟨hselect, hafter⟩ := take?_eq_some hs hinteger
      exact ⟨(Option.some.inj hselect).symm, ih hafter⟩

/-- **The library** takes texts of pieces as the pieces. -/
theorem understands : SyntaxLibrary.Understands := by
  intro pieces text row hapart htext hrow
  obtain ⟨tokens, htokens, rfl⟩ := Option.map_eq_some_iff.mp hrow
  exact readsAs_of_forall₂ (s := ⟨tokens, "", false⟩) (ofText?_spaced htext hapart htokens)

end PacketReinjection.Tunable
