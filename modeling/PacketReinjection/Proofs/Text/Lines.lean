import PacketReinjection.Text.Strings

/-!
# `Proofs.Text.Lines` — the lines of a text that is put together from lines

Lines that are each ended by a line feed are found again. One carriage return at the end of a line is taken for a part
of the line's ending, so a line of which one belongs to the line itself is found without it.

## Contents
- **`ended`** — a line as it is found where it was ended: without the carriage return at its end.
- **`lines_flatMap`** — the lines of a text of ended lines; `lines_joinLines`: and of lines that were joined.
- **`trim_append_blank`**, **`trim_cons_blank`** — white space at either end makes no difference to a trimmed text.
- **`not_mem_intercalate`** — joining texts adds the characters between them only.
-/

namespace PacketReinjection.Text

variable {line last : List Char} {ls : List (List Char)} {c : Char}

/-! ## Lines -/

/-- A line as it is found where it was ended: without a carriage return at its end. -/
def ended (line : List Char) : List Char := closeLine line.reverse

@[simp] theorem ended_append_return (line : List Char) : ended (line ++ ['\r']) = line := by
  simp [ended, closeLine]

theorem ended_append (hc : c ≠ '\r') : ended (line ++ [c]) = line ++ [c] := by
  simp only [ended, List.reverse_append, List.reverse_singleton, List.singleton_append]
  unfold closeLine
  split
  · rename_i heq
    exact absurd (List.cons.inj heq).1 hc
  · simp

theorem linesFrom_append (hline : '\n' ∉ line) (begun rest : List Char) :
    linesFrom begun (line ++ rest) = linesFrom (line.reverse ++ begun) rest := by
  induction line generalizing begun with
  | nil => rfl
  | cons c line ih =>
    have hc : c ≠ '\n' := fun heq => hline (heq ▸ List.mem_cons_self)
    have hrest := ih (fun hmem => hline (List.mem_cons_of_mem c hmem)) (c :: begun)
    rw [List.cons_append, linesFrom, if_neg hc, hrest]
    simp

theorem lines_append_newline (hline : '\n' ∉ line) (rest : List Char) :
    lines (line ++ '\n' :: rest) = ended line :: lines rest := by
  rw [lines, linesFrom_append hline, linesFrom, if_pos rfl, List.append_nil]
  rfl

/-- What no line feed ends is a line unless it is empty. -/
theorem lines_of_not_mem (hline : '\n' ∉ line) : lines line = if line.isEmpty then [] else [line] := by
  have hwhole := linesFrom_append hline [] []
  rw [List.append_nil, List.append_nil] at hwhole
  rw [lines, hwhole, linesFrom, List.isEmpty_reverse, List.reverse_reverse]

/-- Lines that are each ended by a line feed, and what is behind them. -/
theorem lines_flatMap (hls : ∀ l ∈ ls, '\n' ∉ l) (rest : List Char) :
    lines (ls.flatMap (· ++ ['\n']) ++ rest) = ls.map ended ++ lines rest := by
  induction ls with
  | nil => rfl
  | cons l ls ih =>
    have hrest := ih fun k hk => hls k (List.mem_cons_of_mem l hk)
    rw [List.flatMap_cons, List.append_assoc, List.append_assoc, List.singleton_append,
      lines_append_newline (hls l List.mem_cons_self), hrest]
    rfl

theorem toList_joinLines (ls : List String) (last : String) :
    (joinLines (ls ++ [last])).toList = (ls.map String.toList).flatMap (· ++ ['\n']) ++ last.toList := by
  rw [joinLines, String.toList_intercalate, List.map_append]
  induction ls with
  | nil => simp
  | cons l ls ih =>
    have hne : ls.map String.toList ++ [last].map String.toList ≠ [] := by simp
    rw [List.map_cons, List.cons_append, List.intercalate_cons_of_ne_nil hne, ih, List.flatMap_cons,
      List.append_assoc (l.toList ++ _)]
    rfl

/-- Lines that were joined, the last of which is not empty. -/
theorem lines_joinLines {ls : List String} {last : String} (hls : ∀ l ∈ ls, '\n' ∉ l.toList)
    (hlast : '\n' ∉ last.toList) (hne : last ≠ "") :
    lines (joinLines (ls ++ [last])).toList = ls.map (ended ·.toList) ++ [last.toList] := by
  have hempty : last.toList.isEmpty = false := by simpa using hne
  have hnewline : ∀ l ∈ ls.map String.toList, '\n' ∉ l := by
    intro l hl
    obtain ⟨k, hk, rfl⟩ := List.mem_map.mp hl
    exact hls k hk
  rw [toList_joinLines, lines_flatMap hnewline, lines_of_not_mem hlast, List.map_map, hempty]
  rfl

/-! ## Trimmed texts -/

theorem trimEnd_append_blank (hc : isBlank c) (text : List Char) : trimEnd (text ++ [c]) = trimEnd text := by
  simp [trimEnd, hc]

theorem trim_append_blank (hc : isBlank c) (text : List Char) : trim (text ++ [c]) = trim text := by
  simp only [trim, List.dropWhile_append]
  split
  · rename_i hempty
    rw [List.isEmpty_iff.mp hempty]
    simp [hc]
  · exact trimEnd_append_blank hc _

theorem mem_of_mem_trim {text : List Char} (h : c ∈ trim text) : c ∈ text := by
  rw [trim, trimEnd, List.mem_reverse] at h
  have hend := (List.dropWhile_sublist isBlank).mem h
  exact (List.dropWhile_sublist isBlank).mem (List.mem_reverse.mp hend)

theorem trim_cons_blank (hc : isBlank c) (text : List Char) : trim (c :: text) = trim text := by
  simp [trim, hc]

/-! ## Joined texts -/

theorem not_mem_intercalate {separator : String} {texts : List String} (hseparator : c ∉ separator.toList)
    (htexts : ∀ t ∈ texts, c ∉ t.toList) : c ∉ (separator.intercalate texts).toList := by
  rw [String.toList_intercalate]
  induction texts with
  | nil => simp
  | cons t texts ih =>
    have hrest := ih fun u hu => htexts u (List.mem_cons_of_mem t hu)
    have hfirst := htexts t List.mem_cons_self
    cases texts with
    | nil => simpa using hfirst
    | cons u texts =>
      rw [List.map_cons, List.map_cons, List.intercalate_cons_cons]
      simp only [List.mem_append, not_or]
      exact ⟨⟨hfirst, hseparator⟩, hrest⟩

end PacketReinjection.Text
