import Mathlib
import PacketReinjection.Header.Render

/-!
# `Proofs.Header.Words` — words are kept apart in capitals

A name in Pascal case begins each of its words with a capital and is otherwise of small letters and digits. Written in
capitals, its words are told apart by the underscores between them: the text is split there into exactly the words of
the name. So the name can be read back from the text, and names that are written alike are the same name.

A word of one capital stands only at the end of such a name, since before another word it would bring two capitals
together. Where two capitals do stand together, no underscore comes between them.

## Contents
- **Words.** `PascalCase`, `words`, `IsWord` and `isWord_of_mem_words`.
- **Writing.** `snakeFrom_word_append` for a word in front of another, `snakeFrom_flatten` for words in a row.
- **Splitting.** `splitOn_screamingSnake`, and `edges_of_splitOn` for a text of no empty piece.
- **Reading back.** `lowered` undoes the capitals of a word.
- **`screamingSnake_keeps_words`**.
-/

namespace PacketReinjection.Header

/-! ## Words -/

/-- No two capitals stand side by side. -/
def CapitalsApart (chars : List Char) : Prop :=
  chars.IsChain fun c next => ¬ (c.isUpper = true ∧ next.isUpper = true)

/-- A name in Pascal case: letters and digits of ASCII, a capital in front, and no two capitals side by side. -/
structure PascalCase (name : List Char) : Prop where
  alphanum : ∀ c ∈ name, c.isAlphanum = true
  capital : name.head?.any Char.isUpper = true
  apart : CapitalsApart name

/-- The words of a name. Each capital begins a word. -/
def words (name : List Char) : List (List Char) := name.splitBy fun _ next => !next.isUpper

/-- A small letter or a digit of ASCII. -/
def IsSmall (c : Char) : Prop := c.isAlphanum = true ∧ c.isUpper = false

/-- A word: a capital, and small letters and digits behind it. -/
def IsWord (w : List Char) : Prop :=
  ∃ c small, w = c :: small ∧ c.isUpper = true ∧ ∀ d ∈ small, IsSmall d

/-- What holds of the first member of a list, and of every member that another one stands in front of, holds of all. -/
theorem forall_mem_of_isChain {α : Type} {p : α → Prop} {l : List α} (hfirst : ∀ a ∈ l.head?, p a)
    (hnext : l.IsChain fun _ b => p b) : ∀ a ∈ l, p a := by
  induction l with
  | nil => exact fun _ h => absurd h List.not_mem_nil
  | cons a l ih =>
    obtain ⟨hhead, htail⟩ := List.isChain_cons.mp hnext
    exact List.forall_mem_cons.mpr ⟨hfirst a rfl, ih hhead htail⟩

theorem flatten_words (name : List Char) : (words name).flatten = name := List.flatten_splitBy _ name

/-- **The words of a name in Pascal case are words.** -/
theorem isWord_of_mem_words {name : List Char} (hname : PascalCase name) : ∀ w ∈ words name, IsWord w := by
  -- The first word begins where the name begins, and the others where the name was split.
  have hcapital : ∀ w ∈ words name, w.head?.any Char.isUpper = true := by
    refine forall_mem_of_isChain (fun w hw => ?_) ?_
    · obtain ⟨ws, hws⟩ := List.head?_eq_some_iff.mp hw
      have hne : w ≠ [] := List.ne_nil_of_mem_splitBy (List.mem_of_mem_head? hw)
      have hhead : name.head? = w.head? := by
        rw [← flatten_words name, hws, List.flatten_cons, List.head?_append_of_ne_nil _ hne]
      rw [← hhead]
      exact hname.capital
    · refine (List.isChain_getLast_head_splitBy _ name).imp ?_
      rintro v w ⟨-, hw, hbreak⟩
      rw [List.head?_eq_some_head hw]
      simpa using hbreak
  intro w hw
  obtain ⟨c, small, rfl⟩ := List.exists_cons_of_ne_nil (List.ne_nil_of_mem_splitBy hw)
  -- Behind the first character of a word there is no capital, as the name would have been split there.
  obtain ⟨hfirst, hnext⟩ := List.isChain_cons.mp (List.isChain_of_mem_splitBy hw)
  have hsmall : ∀ d ∈ small, d.isUpper = false :=
    forall_mem_of_isChain (by simpa using hfirst) (by simpa using hnext)
  have hmem : ∀ d ∈ small, d ∈ name := fun d hd =>
    flatten_words name ▸ List.mem_flatten.mpr ⟨_, hw, List.mem_cons_of_mem c hd⟩
  exact ⟨c, small, rfl, by simpa using hcapital _ hw, fun d hd => ⟨hname.alphanum d (hmem d hd), hsmall d hd⟩⟩

/-! ## Writing -/

/-- Small letters and digits are written one for one. -/
theorem snakeFrom_small {small : List Char} (hsmall : ∀ d ∈ small, IsSmall d) (afterSmall : Bool)
    (rest : List Char) : snakeFrom afterSmall (small ++ rest) =
      small.map Char.toUpper ++ snakeFrom (afterSmall || !small.isEmpty) rest := by
  induction small generalizing afterSmall with
  | nil => simp
  | cons d small ih =>
    obtain ⟨⟨hd, hcapital⟩, hrest⟩ := List.forall_mem_cons.mp hsmall
    rw [List.cons_append, snakeFrom, if_neg (by simp [hcapital]), if_pos hd, ih hrest]
    simp

/-- A capital is written as it is, and behind something small with an underscore in front. -/
theorem snakeFrom_capital {c : Char} (hc : c.isUpper = true) (afterSmall : Bool) (rest : List Char) :
    snakeFrom afterSmall (c :: rest) = (if afterSmall then ['_'] else []) ++ c.toUpper :: snakeFrom false rest := by
  rw [snakeFrom, if_pos hc, Char.toUpper_eq_of_not_isLower (Char.not_isLower_of_isUpper hc)]
  cases afterSmall <;> rfl

/-- A word at the end of a name is written in capitals. -/
theorem snakeFrom_word {w : List Char} (hw : IsWord w) : snakeFrom false w = w.map Char.toUpper := by
  obtain ⟨c, small, rfl, hc, hsmall⟩ := hw
  have hrest := snakeFrom_small hsmall false []
  rw [List.append_nil] at hrest
  rw [snakeFrom_capital hc, hrest]
  simp [snakeFrom]

/-- A word in front of another is written in capitals with an underscore behind it, if no two capitals come together. -/
theorem snakeFrom_word_append {w : List Char} (hw : IsWord w) {d : Char} (hd : d.isUpper = true) {rest : List Char}
    (hapart : CapitalsApart (w ++ d :: rest)) :
    snakeFrom false (w ++ d :: rest) = w.map Char.toUpper ++ '_' :: snakeFrom false (d :: rest) := by
  obtain ⟨c, small, rfl, hc, hsmall⟩ := hw
  -- A word of one capital would bring it together with the next.
  have hne : small.isEmpty = false := by
    cases small with
    | nil => exact absurd ⟨hc, hd⟩ (List.isChain_cons_cons.mp hapart).1
    | cons e small => rfl
  rw [List.cons_append, snakeFrom_capital hc, snakeFrom_small hsmall, hne, snakeFrom_capital hd,
    snakeFrom_capital hd false]
  simp

/-- **Words in a row** are written in capitals with underscores between them, if no two capitals come together. -/
theorem snakeFrom_flatten {ws : List (List Char)} (hws : ∀ w ∈ ws, IsWord w)
    (hapart : CapitalsApart ws.flatten) :
    snakeFrom false ws.flatten = ['_'].intercalate (ws.map (List.map Char.toUpper)) := by
  induction ws with
  | nil => rfl
  | cons w ws ih =>
    obtain ⟨hw, hrest⟩ := List.forall_mem_cons.mp hws
    cases ws with
    | nil => simp [snakeFrom_word hw]
    | cons v ws =>
      obtain ⟨d, others, rfl, hd, -⟩ := hrest v List.mem_cons_self
      have hlater := ih hrest (List.isChain_append.mp hapart).2.1
      have hjoined : ['_'].intercalate ((w :: (d :: others) :: ws).map (List.map Char.toUpper)) =
          w.map Char.toUpper ++ ['_'] ++ ['_'].intercalate (((d :: others) :: ws).map (List.map Char.toUpper)) :=
        List.intercalate_cons_of_ne_nil (by simp)
      calc snakeFrom false (w :: (d :: others) :: ws).flatten
          = w.map Char.toUpper ++ '_' :: snakeFrom false ((d :: others) :: ws).flatten :=
            snakeFrom_word_append hw hd hapart
        _ = ['_'].intercalate ((w :: (d :: others) :: ws).map (List.map Char.toUpper)) := by
            rw [hlater, hjoined, List.append_assoc, List.singleton_append]

/-! ## Splitting -/

theorem toUpper_ne_underscore {c : Char} (hc : c.isAlphanum = true) : c.toUpper ≠ '_' := by
  intro heq
  have halpha : c.isAlpha = false := by rw [← Char.isUpper_toUpper_eq_isAlpha, heq]; rfl
  have hlower : ¬ c.isLower = true := fun h => absurd halpha (by simp [Char.isAlpha, h])
  rw [Char.toUpper_eq_of_not_isLower hlower] at heq
  exact absurd (heq ▸ hc) (by decide)

/-- The characters of a word are letters and digits. -/
theorem IsWord.alphanum {w : List Char} (hw : IsWord w) : ∀ c ∈ w, c.isAlphanum = true := by
  obtain ⟨c, small, rfl, hc, hsmall⟩ := hw
  refine List.forall_mem_cons.mpr ⟨?_, fun d hd => (hsmall d hd).1⟩
  simp [Char.isAlphanum, Char.isAlpha, hc]

section Splitting

variable {name : String} (hname : PascalCase name.toList)

include hname

theorem words_ne_nil : words name.toList ≠ [] := by
  refine List.splitBy_ne_nil.mpr fun hnil => ?_
  exact absurd (hnil ▸ hname.capital) (by decide)

theorem toList_screamingSnake :
    (screamingSnake name).toList = ['_'].intercalate ((words name.toList).map (List.map Char.toUpper)) := by
  have hapart := hname.apart
  rw [← flatten_words name.toList] at hapart
  have hsnake := snakeFrom_flatten (isWord_of_mem_words hname) hapart
  rw [flatten_words] at hsnake
  -- The capital in front is written, so the name is not unknown.
  have hne : (snakeFrom false name.toList).isEmpty = false := by
    cases hchars : name.toList with
    | nil => exact absurd (hchars ▸ hname.capital) (by decide)
    | cons c rest =>
      have hc : c.isUpper = true := by simpa [hchars] using hname.capital
      rw [snakeFrom, if_pos hc]
      rfl
  rw [screamingSnake, hne, if_neg (by decide), String.toList_ofList, hsnake]

/-- **The words are what stands between the underscores.** -/
theorem splitOn_screamingSnake :
    (screamingSnake name).toList.splitOn '_' = (words name.toList).map (List.map Char.toUpper) := by
  rw [toList_screamingSnake hname]
  refine List.splitOn_intercalate '_' (fun w hw => ?_) (by simpa using words_ne_nil hname)
  obtain ⟨v, hv, rfl⟩ := List.mem_map.mp hw
  rw [List.mem_map]
  rintro ⟨c, hc, heq⟩
  exact toUpper_ne_underscore ((isWord_of_mem_words hname v hv).alphanum c hc) heq

end Splitting

/-- A text of no empty piece has a separator neither at an end nor beside another. -/
theorem edges_of_splitOn {α : Type} [DecidableEq α] {x : α} {text : List α} (h : [] ∉ text.splitOn x) :
    ¬ [x] <+: text ∧ ¬ [x] <:+ text ∧ ¬ [x, x] <:+: text := by
  -- A separator cuts a text in two, and what is cut off in front of the first character is empty.
  have hfirst (rest : List α) : [] ∈ (x :: rest).splitOn x := by
    rw [← List.nil_append (x :: rest), List.splitOn_append_cons_self, List.splitOn_nil]
    exact List.mem_cons_self
  refine ⟨?_, ?_, ?_⟩
  · rintro ⟨rest, rfl⟩
    exact h (hfirst rest)
  · rintro ⟨front, rfl⟩
    rw [List.splitOn_append_cons_self] at h
    exact h (List.mem_append_right _ List.mem_cons_self)
  · rintro ⟨front, rest, rfl⟩
    rw [List.append_assoc, List.cons_append, List.splitOn_append_cons_self] at h
    exact h (List.mem_append_right _ (hfirst rest))

/-! ## Reading back -/

/-- A word with all but its first letter made small. -/
def lowered : List Char → List Char
  | [] => []
  | c :: small => c :: small.map Char.toLower

theorem lowered_map_toUpper {w : List Char} (hw : IsWord w) : lowered (w.map Char.toUpper) = w := by
  obtain ⟨c, small, rfl, hc, hsmall⟩ := hw
  have hfirst : c.toUpper = c := Char.toUpper_eq_of_not_isLower (Char.not_isLower_of_isUpper hc)
  have hothers : ∀ d ∈ small, (Char.toLower ∘ Char.toUpper) d = id d := by
    intro d hd
    have hd' : ¬ d.isUpper = true := by simp [(hsmall d hd).2]
    rw [Function.comp_apply, Char.toLower_toUpper_eq_toLower, Char.toLower_eq_of_not_isUpper hd', id_eq]
  rw [List.map_cons, lowered, hfirst, List.map_map, List.map_congr_left hothers, List.map_id]

/-- The words of a name from those written in capitals. -/
theorem map_lowered_words {name : List Char} (hname : PascalCase name) :
    ((words name).map (List.map Char.toUpper)).map lowered = words name := by
  have hwords : ∀ w ∈ words name, (lowered ∘ List.map Char.toUpper) w = id w := fun w hw =>
    lowered_map_toUpper (isWord_of_mem_words hname w hw)
  rw [List.map_map, List.map_congr_left hwords, List.map_id]

/-- **Names that are written alike are the same name.** -/
theorem eq_of_screamingSnake_eq {name other : String} (hname : PascalCase name.toList)
    (hother : PascalCase other.toList) (heq : screamingSnake name = screamingSnake other) : name = other := by
  have hpieces :
      (words name.toList).map (List.map Char.toUpper) = (words other.toList).map (List.map Char.toUpper) := by
    rw [← splitOn_screamingSnake hname, ← splitOn_screamingSnake hother, heq]
  have hwords : words name.toList = words other.toList := by
    rw [← map_lowered_words hname, ← map_lowered_words hother, hpieces]
  apply String.toList_injective
  rw [← flatten_words name.toList, ← flatten_words other.toList, hwords]

/-- **Words are kept apart in capitals.** A name in Pascal case is written as its words, each in capitals, with single
    underscores between them and nowhere else, and no other such name is written in the same way. -/
theorem screamingSnake_keeps_words {name : String} (hname : PascalCase name.toList) :
    let snake := (screamingSnake name).toList
    snake.splitOn '_' = (words name.toList).map (List.map Char.toUpper)
    ∧ ¬ ['_'] <+: snake ∧ ¬ ['_'] <:+ snake ∧ ¬ ['_', '_'] <:+: snake
    ∧ ∀ other : String, PascalCase other.toList → screamingSnake other = screamingSnake name → other = name := by
  intro snake
  have hsplit : snake.splitOn '_' = (words name.toList).map (List.map Char.toUpper) := splitOn_screamingSnake hname
  have hpieces : [] ∉ snake.splitOn '_' := by
    rw [hsplit, List.mem_map]
    rintro ⟨w, hw, hnil⟩
    exact absurd (List.map_eq_nil_iff.mp hnil) (List.ne_nil_of_mem_splitBy hw)
  obtain ⟨hfront, hend, hdoubled⟩ := edges_of_splitOn hpieces
  exact ⟨hsplit, hfront, hend, hdoubled, fun other hother heq => eq_of_screamingSnake_eq hother hname heq⟩

/-- A digit inside a word, a digit at its end, and a word of one capital. Where only the case of a letter differs, the
    underscores do. -/
theorem screamingSnake_keeps_words_digits :
    PascalCase "Md5HashOfRow2X".toList ∧ PascalCase "Md5hashOfRow2X".toList
    ∧ (screamingSnake "Md5HashOfRow2X").toList.splitOn '_' =
      ["MD5".toList, "HASH".toList, "OF".toList, "ROW2".toList, "X".toList]
    ∧ screamingSnake "Md5hashOfRow2X" ≠ screamingSnake "Md5HashOfRow2X" := by
  have hname : PascalCase "Md5HashOfRow2X".toList := ⟨by simp, by decide, by simp [CapitalsApart]⟩
  have hother : PascalCase "Md5hashOfRow2X".toList := ⟨by simp, by decide, by simp [CapitalsApart]⟩
  obtain ⟨hsplit, -, -, -, hsame⟩ := screamingSnake_keeps_words hname
  refine ⟨hname, hother, ?_, fun heq => absurd (hsame _ hother heq) (by decide)⟩
  rw [hsplit]
  rfl

end PacketReinjection.Header
