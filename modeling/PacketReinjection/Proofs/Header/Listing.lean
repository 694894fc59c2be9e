import PacketReinjection.Header.Render
import PacketReinjection.Proofs.Text.Lines

/-!
# `Proofs.Header.Listing` — what a C enumeration lists

An enumeration in C is a text of lines, and the lines with a comma at their end are those of its enumerators. There is
one for every member, in the same order, if nothing that the text is put together from has a line feed.

## Contents
- **Characters.** Writing words in capitals and keeping a text from ending a comment put no line feed into it.
- **`enumeratorLines`** — the lines of a text that an enumerator is on.
- **`enumeratorLines_renderEnumeration`** — those of an enumeration.
-/

namespace PacketReinjection.Header

open Text

/-! ## Characters -/

theorem toUpper_ne_newline {c : Char} (h : c ≠ '\n') : c.toUpper ≠ '\n' := by
  intro heq
  unfold Char.toUpper at heq
  split at heq
  · rename_i hlower
    have hval := congrArg Char.val heq
    dsimp only at hval
    have hback : c.val = '\n'.val - ('A'.val - 'a'.val) := by rw [← hval, UInt32.add_sub_cancel]
    rw [hback] at hlower
    exact absurd hlower (by decide)
  · exact h heq

theorem newline_not_mem_snakeFrom (afterSmall : Bool) (name : List Char) : '\n' ∉ snakeFrom afterSmall name := by
  induction name generalizing afterSmall with
  | nil => exact List.not_mem_nil
  | cons c name ih =>
    rw [snakeFrom]
    split
    · rename_i hupper
      have hc : '\n' ≠ c := by
        rintro rfl
        exact absurd hupper (by decide)
      cases afterSmall <;> simp [hc, ih]
    · split
      · rename_i hletter
        have hc : c ≠ '\n' := by
          rintro rfl
          exact absurd hletter (by decide)
        simp [ih, (toUpper_ne_newline hc).symm]
      · exact ih afterSmall

theorem newline_not_mem_screamingSnake (name : String) : '\n' ∉ (screamingSnake name).toList := by
  unfold screamingSnake
  dsimp only
  split
  · decide
  · rw [String.toList_ofList]
    exact newline_not_mem_snakeFrom false name.toList

/-- A replaced text has characters of its own and of the replacement. -/
theorem mem_replaceFrom {marker replacement text : List Char} {skipped : Nat} {c : Char}
    (h : c ∈ replaceFrom marker replacement skipped text) : c ∈ replacement ∨ c ∈ text := by
  induction text generalizing skipped with
  | nil => exact .inr h
  | cons d text ih =>
    have hlater {skipped : Nat} (h : c ∈ replaceFrom marker replacement skipped text) :
        c ∈ replacement ∨ c ∈ d :: text := (ih h).imp_right (List.mem_cons_of_mem d)
    cases skipped with
    | succ skipped => exact hlater h
    | zero =>
      rw [replaceFrom] at h
      split at h
      · rcases List.mem_append.mp h with h | h
        · exact .inl h
        · exact hlater h
      · rcases List.mem_cons.mp h with rfl | h
        · exact .inr List.mem_cons_self
        · exact hlater h

theorem newline_not_mem_sanitizeComment {text : String} (h : '\n' ∉ text.toList) :
    '\n' ∉ (sanitizeComment text).toList := by
  rw [sanitizeComment, String.toList_ofList, replaceAll, if_neg (by decide)]
  intro hmem
  rcases mem_replaceFrom hmem with hreplacement | htext
  · exact absurd hreplacement (by decide)
  · exact h htext

/-! ## Enumerators -/

/-- Whether a line ends with a comma. -/
def endsWithComma (line : List Char) : Bool := line.getLast? = some ','

/-- The lines of a text that an enumerator is on. -/
def enumeratorLines (text : String) : List String := ((lines text.toList).filter endsWithComma).map String.ofList

/-- The line that lists a member. -/
def enumeratorLine (namePrefix : String) (m : EnumMember) : String :=
  "  " ++ namePrefix ++ screamingSnake m.name ++ " = " ++ m.value ++ ","

/-- A member whose number and documentation stay on their line. -/
def EnumMember.InLine (m : EnumMember) : Prop :=
  '\n' ∉ m.value.toList ∧ ∀ doc, m.doc = some doc → '\n' ∉ doc.toList

variable {namePrefix : String} {m : EnumMember}

theorem newline_not_mem_memberLines (hpre : '\n' ∉ namePrefix.toList) (hm : m.InLine) :
    ∀ l ∈ memberLines namePrefix m, '\n' ∉ l.toList := by
  intro l hl
  rcases List.mem_append.mp hl with hcomment | hline
  · obtain ⟨doc, hdoc, rfl⟩ : ∃ doc, m.doc = some doc ∧ "  /* " ++ sanitizeComment doc ++ " */" = l := by
      simpa using hcomment
    have htext := newline_not_mem_sanitizeComment (hm.2 doc hdoc)
    simp [String.toList_append, htext]
  · obtain rfl := List.mem_singleton.mp hline
    simp [String.toList_append, hpre, hm.1, newline_not_mem_screamingSnake]

/-- Of a line's last character it depends whether the line is kept. -/
theorem filter_line {line front : List Char} {c : Char} (hline : line = front ++ [c]) :
    [line].filter endsWithComma = if c = ',' then [line] else [] := by
  by_cases hc : c = ',' <;> simp [hline, endsWithComma, hc]

/-- Among the lines of a member, the enumerator's is the one with a comma at its end. -/
theorem filter_memberLines (namePrefix : String) (m : EnumMember) :
    ((memberLines namePrefix m).map (ended ·.toList)).filter endsWithComma =
      [(enumeratorLine namePrefix m).toList] := by
  have hcomment (doc : String) : ("  /* " ++ sanitizeComment doc ++ " */").toList =
      ("  /* ".toList ++ ((sanitizeComment doc).toList ++ " *".toList)) ++ ['/'] := by
    simp [String.toList_append]
  have hline : (enumeratorLine namePrefix m).toList = ("  ".toList ++ (namePrefix.toList ++
      ((screamingSnake m.name).toList ++ (" = ".toList ++ m.value.toList)))) ++ [','] := by
    simp [enumeratorLine, String.toList_append]
  have hended : ended (enumeratorLine namePrefix m).toList = (enumeratorLine namePrefix m).toList := by
    rw [hline, ended_append (by decide)]
  show ((_ ++ [enumeratorLine namePrefix m]).map _).filter _ = _
  rw [List.map_append, List.filter_append, List.map_singleton, hended, filter_line hline, if_pos rfl]
  cases m.doc with
  | none => rfl
  | some doc =>
    rw [Option.map_some, Option.toList_some, List.map_singleton, hcomment, ended_append (by decide),
      filter_line rfl, if_neg (by decide)]
    rfl

/-- **The enumerators of an enumeration**: one for each member, in their order. -/
theorem enumeratorLines_renderEnumeration {typeName : String} {members : List EnumMember}
    (htype : '\n' ∉ typeName.toList) (hpre : '\n' ∉ namePrefix.toList) (hmembers : ∀ m ∈ members, m.InLine) :
    enumeratorLines (renderEnumeration typeName namePrefix members) = members.map (enumeratorLine namePrefix) := by
  have hfirst : ("typedef enum " ++ typeName ++ " \x7b").toList = ("typedef enum ".toList ++ (typeName.toList ++ [' ']))
      ++ ['\x7b'] := by
    simp [String.toList_append]
  have hlast : ("\x7d " ++ typeName ++ ";").toList = ("\x7d ".toList ++ typeName.toList) ++ [';'] := by
    simp [String.toList_append]
  have hnewline : ∀ l ∈ ("typedef enum " ++ typeName ++ " \x7b") :: members.flatMap (memberLines namePrefix),
      '\n' ∉ l.toList := by
    intro l hl
    rcases List.mem_cons.mp hl with rfl | hl
    · simp [hfirst, htype]
    · obtain ⟨m, hm, hl⟩ := List.mem_flatMap.mp hl
      exact newline_not_mem_memberLines hpre (hmembers m hm) l hl
  have hne : "\x7d " ++ typeName ++ ";" ≠ "" := by
    intro hempty
    rw [hempty] at hlast
    simp at hlast
  have hlines : lines (renderEnumeration typeName namePrefix members).toList =
      (("typedef enum " ++ typeName ++ " \x7b") :: members.flatMap (memberLines namePrefix)).map (ended ·.toList)
        ++ [("\x7d " ++ typeName ++ ";").toList] :=
    lines_joinLines hnewline (by simp [hlast, htype]) hne
  have hmiddle : ((members.flatMap (memberLines namePrefix)).map (ended ·.toList)).filter endsWithComma =
      members.map fun m => (enumeratorLine namePrefix m).toList := by
    rw [List.map_flatMap, List.filter_flatMap, List.map_eq_flatMap]
    congr 1
    funext m
    exact filter_memberLines namePrefix m
  rw [enumeratorLines, hlines, List.map_cons, ← List.singleton_append, List.filter_append, List.filter_append, hmiddle,
    filter_line hlast, hfirst, ended_append (by decide), filter_line rfl, if_neg (by decide), if_neg (by decide),
    List.nil_append, List.append_nil, List.map_map]
  exact List.map_congr_left fun m _ => String.ofList_toList

end PacketReinjection.Header
