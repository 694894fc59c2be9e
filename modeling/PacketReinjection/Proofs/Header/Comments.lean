import Mathlib.Data.List.Infix
import PacketReinjection.Proofs.Header.Listing

/-!
# `Proofs.Header.Comments` — documentation stays inside its comment

A comment in C goes on to the first star with a slash behind it. A text that is put into a comment has a space put into
each such pair, and since a space is neither a star nor a slash, nothing that stands around it can make another pair. So
the only end of a comment on its line is the one that was written there, at the end of the line.

## Contents
- **`occurrences`** — how often a marker occurs; a character that is not in it parts a text in two.
- **`Spaced`** — a text and the same with its ends of comments opened, one character after the other.
- **Lines.** `commentLine`, and `splitOn_renderEnumeration` for the lines of a whole enumeration.
- **`comments_stay_closed`**.
-/

namespace PacketReinjection.Header

open Text

/-! ## Occurrences -/

/-- How often a marker occurs in a text. -/
def occurrences (marker text : List Char) : Nat := text.tails.countP marker.isPrefixOf

section Occurrences

variable {marker : List Char} {c : Char}

theorem occurrences_cons (marker : List Char) (c : Char) (text : List Char) : occurrences marker (c :: text) =
    occurrences marker text + if marker.isPrefixOf (c :: text) then 1 else 0 := by
  rw [occurrences, List.tails_cons, List.countP_cons]
  rfl

theorem occurrences_eq_zero_iff {text : List Char} : occurrences marker text = 0 ↔ ¬ marker <:+: text := by
  rw [occurrences, List.countP_eq_zero, List.infix_iff_prefix_suffix]
  simp only [List.mem_tails, List.isPrefixOf_iff_prefix, not_exists, not_and]
  exact ⟨fun h t hprefix hsuffix => h t hsuffix hprefix, fun h t hsuffix hprefix => h t hprefix hsuffix⟩

/-- A marker does not reach over a character that it does not have. -/
theorem isPrefixOf_append_of_not_mem (hc : c ∉ marker) (front rest : List Char) :
    marker.isPrefixOf (front ++ c :: rest) = marker.isPrefixOf front := by
  induction marker generalizing front with
  | nil => rfl
  | cons d marker ih =>
    obtain ⟨hd, hmarker⟩ := not_or.mp (List.mem_cons.not.mp hc)
    cases front with
    | nil => simp [List.isPrefixOf, Ne.symm hd]
    | cons e front => simp only [List.cons_append, List.isPrefixOf, ih hmarker]

/-- **Such a character parts a text in two.** -/
theorem occurrences_append_of_not_mem (hne : marker ≠ []) (hc : c ∉ marker) (front rest : List Char) :
    occurrences marker (front ++ c :: rest) = occurrences marker front + occurrences marker rest := by
  have hempty : marker.isPrefixOf [] = false := by
    cases marker with
    | nil => exact absurd rfl hne
    | cons d marker => rfl
  induction front with
  | nil =>
    have hhere := isPrefixOf_append_of_not_mem hc [] rest
    rw [List.nil_append] at hhere
    have hnone : occurrences marker [] = 0 := by simp [occurrences, hempty]
    rw [List.nil_append, occurrences_cons, hhere, hempty, hnone, Nat.zero_add]
    rfl
  | cons d front ih =>
    have hhere := isPrefixOf_append_of_not_mem hc (d :: front) rest
    rw [List.cons_append] at hhere
    rw [List.cons_append, occurrences_cons, occurrences_cons, hhere, ih, Nat.add_right_comm]

end Occurrences

/-! ## Opened ends -/

/-- The end of a comment. -/
def commentEnd : List Char := ['*', '/']

/-- The end of a comment with a space inside. -/
def openedEnd : List Char := ['*', ' ', '/']

theorem isPrefixOf_commentEnd (c : Char) (text : List Char) :
    commentEnd.isPrefixOf (c :: text) = (c = '*' && text.head? = some '/') := by
  cases text with
  | nil => simp [commentEnd, List.isPrefixOf]
  | cons d text =>
    rw [Bool.eq_iff_iff]
    simp [commentEnd, List.isPrefixOf, @eq_comm _ c '*', @eq_comm _ d '/']

/-- The second text is the first with a space put into each end of a comment. -/
inductive Spaced : List Char → List Char → Prop where
  | nil : Spaced [] []
  | ending {text safe : List Char} (h : Spaced text safe) :
      Spaced ('*' :: '/' :: text) ('*' :: ' ' :: '/' :: safe)
  | other {c : Char} {text safe : List Char} (hc : commentEnd.isPrefixOf (c :: text) = false)
      (h : Spaced text safe) : Spaced (c :: text) (c :: safe)

/-- Behind the characters that belong to an end already opened, the rest of the text is treated in the same way. -/
theorem spaced_replaceFrom (text : List Char) (skipped : Nat) :
    Spaced (text.drop skipped) (replaceFrom commentEnd openedEnd skipped text) := by
  induction text generalizing skipped with
  | nil =>
    rw [List.drop_nil]
    exact .nil
  | cons c text ih =>
    cases skipped with
    | succ skipped => exact ih skipped
    | zero =>
      rw [List.drop_zero, replaceFrom]
      cases hprefix : commentEnd.isPrefixOf (c :: text) with
      | false => exact .other hprefix (ih 0)
      | true =>
        obtain ⟨hc, hslash⟩ : c = '*' ∧ text.head? = some '/' := by simpa [isPrefixOf_commentEnd] using hprefix
        obtain ⟨rest, rfl⟩ := List.head?_eq_some_iff.mp hslash
        subst hc
        exact .ending (ih 1)

theorem spaced_sanitizeComment (text : String) : Spaced text.toList (sanitizeComment text).toList := by
  rw [sanitizeComment, String.toList_ofList, replaceAll, if_neg (by decide)]
  exact spaced_replaceFrom text.toList 0

theorem cons_intercalate (separator : List Char) (c : Char) (piece : List Char) (pieces : List (List Char)) :
    separator.intercalate ((c :: piece) :: pieces) = c :: separator.intercalate (piece :: pieces) := by
  cases pieces with
  | nil => simp
  | cons next pieces => simp [List.intercalate_cons_cons]

namespace Spaced

variable {text safe : List Char}

/-- The first character stays. -/
theorem head?_eq (h : Spaced text safe) : safe.head? = text.head? := by
  cases h <;> rfl

/-- **No end of a comment is left**, and none has come up. -/
theorem occurrences_eq_zero (h : Spaced text safe) : occurrences commentEnd safe = 0 := by
  induction h with
  | nil => rfl
  | ending h ih => simp [occurrences_cons, isPrefixOf_commentEnd, ih]
  | other hc h ih =>
    -- A star that was in front of no slash is not in front of one now.
    rw [isPrefixOf_commentEnd, ← h.head?_eq, ← isPrefixOf_commentEnd] at hc
    rw [occurrences_cons, ih, hc]
    rfl

/-- **Each occurrence is opened, and nothing else changes**: both are the same pieces, with ends of comments between
    them in one and opened ends in the other, and there are no ends of comments but these. -/
theorem exists_pieces (h : Spaced text safe) : ∃ pieces : List (List Char),
    pieces.length = occurrences commentEnd text + 1 ∧ commentEnd.intercalate pieces = text
      ∧ openedEnd.intercalate pieces = safe := by
  induction h with
  | nil => exact ⟨[[]], rfl, rfl, rfl⟩
  | ending h ih =>
    obtain ⟨pieces, hlength, rfl, rfl⟩ := ih
    have hne : pieces ≠ [] := List.ne_nil_of_length_eq_add_one hlength
    refine ⟨[] :: pieces, ?_, ?_, ?_⟩
    · rw [List.length_cons, hlength, occurrences_cons, occurrences_cons]
      simp [isPrefixOf_commentEnd]
    · rw [List.intercalate_cons_of_ne_nil hne]
      rfl
    · rw [List.intercalate_cons_of_ne_nil hne]
      rfl
  | @other c _ _ hc h ih =>
    obtain ⟨pieces, hlength, rfl, rfl⟩ := ih
    cases pieces with
    | nil => exact absurd hlength (by simp)
    | cons piece pieces =>
      refine ⟨(c :: piece) :: pieces, ?_, cons_intercalate _ _ _ _, cons_intercalate _ _ _ _⟩
      rw [occurrences_cons, hc, List.length_cons, ← List.length_cons, hlength]
      rfl

/-- A text that ends no comment stays as it is. -/
theorem eq_of_not_infix (h : Spaced text safe) (hnone : ¬ commentEnd <:+: text) : safe = text := by
  obtain ⟨pieces, hlength, rfl, rfl⟩ := h.exists_pieces
  rw [occurrences_eq_zero_iff.mpr hnone] at hlength
  obtain ⟨piece, rfl⟩ := List.length_eq_one_iff.mp hlength
  simp

end Spaced

/-! ## Lines -/

/-- The line of a member's documentation. -/
def commentLine (doc : String) : String := "  /* " ++ sanitizeComment doc ++ " */"

/-- **A comment ends at the end of its line and nowhere before.** -/
theorem commentLine_closed (doc : String) :
    occurrences commentEnd (commentLine doc).toList = 1 ∧ commentEnd <:+ (commentLine doc).toList := by
  have hchars : (commentLine doc).toList =
      "  /*".toList ++ ' ' :: ((sanitizeComment doc).toList ++ ' ' :: commentEnd) := by
    simp [commentLine, commentEnd, String.toList_append]
  refine ⟨?_, ?_⟩
  · rw [hchars, occurrences_append_of_not_mem (by decide) (by decide),
      occurrences_append_of_not_mem (by decide) (by decide), (spaced_sanitizeComment doc).occurrences_eq_zero]
    decide
  · rw [hchars, ← List.cons_append, ← List.append_assoc, List.append_cons]
    exact List.suffix_append _ _

theorem newline_not_mem_commentLine {doc : String} (h : '\n' ∉ doc.toList) : '\n' ∉ (commentLine doc).toList := by
  simp [commentLine, String.toList_append, newline_not_mem_sanitizeComment h]

/-- What is joined by a separator is split into the pieces of its parts. -/
theorem splitOn_intercalate_eq_flatMap {α : Type} [DecidableEq α] (x : α) {parts : List (List α)} (hne : parts ≠ []) :
    ([x].intercalate parts).splitOn x = parts.flatMap (List.splitOn x) := by
  induction parts with
  | nil => exact absurd rfl hne
  | cons part parts ih =>
    cases hparts : parts with
    | nil => simp
    | cons next later =>
      have hrest : parts ≠ [] := by simp [hparts]
      rw [← hparts, List.intercalate_cons_of_ne_nil hrest, List.append_assoc, List.singleton_append,
        List.splitOn_append_cons_self, ih hrest, List.flatMap_cons]

/-- The lines of an enumeration. A member has one line for its documentation, if it has some, and then its enumerator.
    Only where a name or a number has line feeds of its own is there more than one line for it. -/
def enumerationLines (typeName namePrefix : String) (members : List EnumMember) : List (List Char) :=
  ("typedef enum " ++ typeName ++ " \x7b").toList.splitOn '\n'
    ++ members.flatMap (fun m => (m.doc.map fun doc => (commentLine doc).toList).toList
      ++ (enumeratorLine namePrefix m).toList.splitOn '\n')
    ++ ("\x7d " ++ typeName ++ ";").toList.splitOn '\n'

/-- **Each comment is a line of its own**, whatever the names and numbers are spelt with. -/
theorem splitOn_renderEnumeration (typeName namePrefix : String) {members : List EnumMember}
    (hdocs : ∀ m ∈ members, ∀ doc, m.doc = some doc → '\n' ∉ doc.toList) :
    (renderEnumeration typeName namePrefix members).toList.splitOn '\n' =
      enumerationLines typeName namePrefix members := by
  have hmember : ∀ m ∈ members, ((memberLines namePrefix m).map String.toList).flatMap (List.splitOn '\n') =
      (m.doc.map fun doc => (commentLine doc).toList).toList
        ++ (enumeratorLine namePrefix m).toList.splitOn '\n' := by
    intro m hm
    have henumerator : ((memberLines namePrefix m).map String.toList).flatMap (List.splitOn '\n') =
        ((m.doc.map commentLine).toList.map String.toList).flatMap (List.splitOn '\n')
          ++ (enumeratorLine namePrefix m).toList.splitOn '\n' := by
      show (((m.doc.map commentLine).toList ++ [enumeratorLine namePrefix m]).map String.toList).flatMap _ = _
      rw [List.map_append, List.flatMap_append, List.map_singleton, List.flatMap_singleton]
    rw [henumerator]
    cases hdoc : m.doc with
    | none => rfl
    | some doc =>
      have hline : (commentLine doc).toList.splitOn '\n' = [(commentLine doc).toList] :=
        List.splitOn_eq_singleton (newline_not_mem_commentLine (hdocs m hm doc hdoc))
      rw [Option.map_some, Option.map_some, Option.toList_some, Option.toList_some, List.map_singleton,
        List.flatMap_singleton, hline]
  rw [enumerationLines, renderEnumeration, joinLines, String.toList_intercalate, show "\n".toList = ['\n'] from rfl,
    splitOn_intercalate_eq_flatMap '\n' (by simp), List.map_append, List.map_append, List.flatMap_append,
    List.flatMap_append, List.map_singleton, List.map_singleton, List.flatMap_singleton, List.flatMap_singleton,
    List.map_flatMap, List.flatMap_assoc, List.flatMap_congr hmember]

/-- **Documentation stays inside its comment.** A text that is put into a comment has no end of a comment left. Where it
    had none it is the same text; else a space has come into each of them and nothing else has changed. And in an
    enumeration whose documentation has no line feeds, each comment is a line of its own and ends at the end of its
    line, and nowhere before. -/
theorem comments_stay_closed :
    (∀ text : String,
      let safe := (sanitizeComment text).toList
      ¬ commentEnd <:+: safe ∧ (¬ commentEnd <:+: text.toList → sanitizeComment text = text)
        ∧ ∃ pieces : List (List Char), pieces.length = occurrences commentEnd text.toList + 1
          ∧ commentEnd.intercalate pieces = text.toList ∧ openedEnd.intercalate pieces = safe)
    ∧ ∀ (typeName namePrefix : String) (members : List EnumMember),
      (∀ m ∈ members, ∀ doc, m.doc = some doc → '\n' ∉ doc.toList) →
        (renderEnumeration typeName namePrefix members).toList.splitOn '\n' =
          enumerationLines typeName namePrefix members
        ∧ ∀ m ∈ members, ∀ doc, m.doc = some doc →
          occurrences commentEnd (commentLine doc).toList = 1 ∧ commentEnd <:+ (commentLine doc).toList := by
  refine ⟨fun text => ?_, fun typeName namePrefix members hdocs => ?_⟩
  · have hspaced := spaced_sanitizeComment text
    exact ⟨occurrences_eq_zero_iff.mp hspaced.occurrences_eq_zero,
      fun hnone => String.toList_injective (hspaced.eq_of_not_infix hnone), hspaced.exists_pieces⟩
  · exact ⟨splitOn_renderEnumeration typeName namePrefix hdocs, fun _ _ doc _ => commentLine_closed doc⟩

/-- Stars and slashes in a row: when a space has come between two of them, those around it still do not meet. -/
theorem comments_stay_closed_stars_and_slashes :
    let members : List EnumMember := [⟨"Exit", "6", some "a **// b */"⟩, ⟨"Stop", "7", some "none"⟩, ⟨"Off", "8", none⟩]
    (∀ m ∈ members, ∀ doc, m.doc = some doc → '\n' ∉ doc.toList)
    ∧ sanitizeComment "none" = "none"
    ∧ (renderEnumeration "T" "P_" members).toList.splitOn '\n' =
      ["typedef enum T \x7b".toList, "  /* a ** // b * / */".toList, "  P_EXIT = 6,".toList, "  /* none */".toList,
        "  P_STOP = 7,".toList, "  P_OFF = 8,".toList, "\x7d T;".toList]
    ∧ occurrences commentEnd "  /* a ** // b * / */".toList = 1 := by
  intro members
  have hdocs : ∀ m ∈ members, ∀ doc, m.doc = some doc → '\n' ∉ doc.toList := by simp [members]
  obtain ⟨hlines, hclosed⟩ := comments_stay_closed.2 "T" "P_" members hdocs
  refine ⟨hdocs, (comments_stay_closed.1 "none").2.1 (by decide), hlines.trans (by decide), ?_⟩
  exact (hclosed _ List.mem_cons_self "a **// b */" rfl).1

end PacketReinjection.Header
