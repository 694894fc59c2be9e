import PacketReinjection.Proofs.Header.Patterns
import PacketReinjection.Proofs.Text.Matched
import PacketReinjection.Proofs.Tunable.Spacing

/-!
# `Proofs.Header.HeadPattern` — where the pattern of a name matches

The pattern finds the first head of an enumeration of the name, and its group holds what is between the braces.

## Contents
- **`IsHead`** — a head in any spacing; `no_head_of_squeezed`: how to see that a text has none;
  `exists_head_of_mem`: where a match begins there is one.
- **`leftmost?_enumeration`** — the match in a text that has no head before.
-/

namespace PacketReinjection.Header

open Text Pattern Tunable

/-! ## Heads -/

/-- The head of an enumeration, up to its opening brace, in any spacing. -/
def IsHead (name head : List Char) : Prop :=
  ∃ g₁ g₂ g₃, (g₁ ≠ [] ∧ Blank g₁) ∧ (g₂ ≠ [] ∧ Blank g₂) ∧ Blank g₃
    ∧ head = "pub".toList ++ (g₁ ++ ("enum".toList ++ (g₂ ++ (name ++ (g₃ ++ ['\x7b'])))))

variable {name : List Char}

/-- Nothing is left of white space. -/
theorem filter_blank {gap : List Char} (h : Blank gap) : gap.filter (!isBlank ·) = [] := by
  rw [List.filter_eq_nil_iff]
  intro c hc
  simp [h c hc]

/-- A text without white space stays as it is. -/
theorem filter_visible {text : List Char} (h : ∀ c ∈ text, isBlank c = false) : text.filter (!isBlank ·) = text := by
  rw [List.filter_eq_self]
  intro c hc
  simp [h c hc]

/-- A text has no head of a name if it has none in one piece after its white space is taken out. -/
theorem no_head_of_squeezed {before : List Char} (hname : ∀ c ∈ name, isBlank c = false)
    (h : ¬ "pubenum".toList ++ (name ++ ['\x7b']) <:+: before.filter (!isBlank ·)) :
    ∀ head, IsHead name head → ¬ head <:+: before := by
  rintro head ⟨g₁, g₂, g₃, ⟨-, hg₁⟩, ⟨-, hg₂⟩, hg₃, rfl⟩ hinfix
  have hsqueezed := hinfix.filter (!isBlank ·)
  have hpub : "pub".toList.filter (!isBlank ·) = "pub".toList := by decide
  have henum : "enum".toList.filter (!isBlank ·) = "enum".toList := by decide
  have hbrace : ['\x7b'].filter (!isBlank ·) = ['\x7b'] := by decide
  simp only [List.filter_append, hpub, henum, hbrace, filter_blank hg₁, filter_blank hg₂, filter_blank hg₃,
    filter_visible hname, List.nil_append] at hsqueezed
  exact h hsqueezed

/-- Where a match begins, a head begins. -/
theorem exists_head_of_mem {s t : Spot} (ht : t ∈ (enumerationPattern name).results s) :
    ∃ head more, IsHead name head ∧ s.after = head ++ more := by
  obtain ⟨-, ht⟩ := satisfies_of_mem_sequence ht
  obtain ⟨_, s₁, h₁, rfl, ht⟩ := exists_of_mem_sequence (admits_literal "pub") ht
  obtain ⟨g₁, s₂, h₂, hg₁, ht⟩ := exists_of_mem_sequence admits_many1 ht
  obtain ⟨_, s₃, h₃, rfl, ht⟩ := exists_of_mem_sequence (admits_literal "enum") ht
  obtain ⟨g₂, s₄, h₄, hg₂, ht⟩ := exists_of_mem_sequence admits_many1 ht
  obtain ⟨_, s₅, h₅, hname, ht⟩ := exists_of_mem_sequence (admits_chars name) ht
  obtain ⟨g₃, s₆, h₆, hg₃, ht⟩ := exists_of_mem_sequence admits_many ht
  obtain ⟨_, s₇, h₇, ⟨c, rfl, hc⟩, -⟩ := exists_of_mem_sequence admits_one ht
  obtain rfl : c = '\x7b' := of_decide_eq_true hc
  refine ⟨_, s₇.after, ⟨g₁, g₂, g₃, hg₁, hg₂, hg₃, rfl⟩, ?_⟩
  rw [h₁, h₂, h₃, h₄, h₅, h₆, h₇, hname]
  simp only [List.append_assoc]

/-- What ends in a line feed ends behind a stretch without one that it begins with. -/
theorem behind_of_append_eq {d tail token rest : List Char} (hd : d.getLast? = some '\n') (htoken : '\n' ∉ token)
    (h : d ++ tail = token ++ rest) : ∃ d', d = token ++ d' ∧ d'.getLast? = some '\n' ∧ d' ++ tail = rest := by
  rcases List.append_eq_append_iff.mp h with ⟨more, rfl, -⟩ | ⟨d', rfl, hrest⟩
  · exact absurd (List.mem_append_left more (List.mem_of_getLast? hd)) htoken
  · refine ⟨d', rfl, ?_, hrest.symm⟩
    cases d' with
    | nil => exact absurd (List.mem_of_getLast? (by simpa using hd)) htoken
    | cons c d' => simpa [List.getLast?_append] using hd

/-- What ends in a line feed ends behind the white space that it begins with, or within it. -/
theorem within_or_behind_gap {d tail gap rest : List Char} (hd : d.getLast? = some '\n')
    (h : d ++ tail = gap ++ rest) :
    (∃ d', d = gap ++ d' ∧ d'.getLast? = some '\n' ∧ d' ++ tail = rest)
      ∨ ∃ gap', gap = d ++ gap' ∧ tail = gap' ++ rest := by
  rcases List.append_eq_append_iff.mp h with ⟨gap', hgap, htail⟩ | ⟨d', rfl, hrest⟩
  · exact .inr ⟨gap', hgap, htail⟩
  · cases d' with
    | nil => exact .inr ⟨[], by simp, by simpa using hrest.symm⟩
    | cons c d' => exact .inl ⟨c :: d', rfl, by simpa [List.getLast?_append] using hd, hrest.symm⟩

/-- A text that starts with no white space starts with none in front of a character either. -/
theorem head_eq_of_gap {gap rest text : List Char} {c d : Char} (hgap : Blank gap) (hd : isBlank d = false)
    (h : d :: text = gap ++ c :: rest) : d = c ∧ gap = [] := by
  cases gap with
  | nil => exact ⟨(List.cons.inj h).1, rfl⟩
  | cons e gap =>
    obtain ⟨rfl, -⟩ := List.cons.inj h
    exact absurd (hgap d List.mem_cons_self) (by simp [hd])

/-- Whether a character belongs to what stands in front of white space or a brace. -/
def isBare (c : Char) : Bool := !isBlank c && c ≠ '\x7b'

/-- A name with a brace behind it does not read `pub`, with a keyword behind it. -/
theorem name_ne_pub {gap rest text : List Char} (hplain : ∀ c ∈ name, c ≠ '\x7b' ∧ isBlank c = false)
    (hgap : Blank gap) (h : "pub".toList ++ (' ' :: ("enum".toList ++ text)) = name ++ (gap ++ '\x7b' :: rest)) :
    False := by
  have hname : (name ++ (gap ++ '\x7b' :: rest)).takeWhile isBare = name := by
    rw [List.takeWhile_append_of_pos]
    · cases gap with
      | nil => simp [isBare]
      | cons c gap => simp [isBare, hgap c List.mem_cons_self]
    · intro c hc
      obtain ⟨hbrace, hblank⟩ := hplain c hc
      simp [isBare, hblank, hbrace]
  have hpub : ("pub".toList ++ (' ' :: ("enum".toList ++ text))).takeWhile isBare = "pub".toList := by rfl
  rw [h, hname] at hpub
  rw [hpub] at h
  have hbehind := List.append_cancel_left h
  cases gap with
  | nil => exact absurd (List.cons.inj hbehind).1 (by decide)
  | cons c gap =>
    have hgap' : Blank gap := fun d hd => hgap d (List.mem_cons_of_mem c hd)
    exact absurd (head_eq_of_gap hgap' (by decide) (List.cons.inj hbehind).2).1 (by decide)

/-- A head that begins in front of another one ends there, if what is in front ends in a line feed: the line feed
    would have to be white space within the head, and what is behind it does not go on like a head. -/
theorem head_within {d head more text : List Char} (hplain : ∀ c ∈ name, c ≠ '\x7b' ∧ isBlank c = false)
    (hd : d.getLast? = some '\n') (hhead : IsHead name head)
    (h : d ++ ("pub".toList ++ (' ' :: ("enum".toList ++ text))) = head ++ more) : ∃ e, d = head ++ e := by
  obtain ⟨g₁, g₂, g₃, ⟨-, hg₁⟩, ⟨-, hg₂⟩, hg₃, rfl⟩ := hhead
  have hname : '\n' ∉ name := fun hmem => absurd (hplain _ hmem).2 (by decide)
  simp only [List.append_assoc] at h
  -- Word by word: the line feed is further behind, unless it is in the white space behind the word.
  obtain ⟨d₁, rfl, hd₁, h₁⟩ := behind_of_append_eq hd (by decide) h
  obtain ⟨d₂, rfl, hd₂, h₂⟩ | ⟨gap, rfl, hwithin⟩ := within_or_behind_gap hd₁ h₁
  · obtain ⟨d₃, rfl, hd₃, h₃⟩ := behind_of_append_eq hd₂ (by decide) h₂
    obtain ⟨d₄, rfl, hd₄, h₄⟩ | ⟨gap, rfl, hwithin⟩ := within_or_behind_gap hd₃ h₃
    · obtain ⟨d₅, rfl, hd₅, h₅⟩ := behind_of_append_eq hd₄ hname h₄
      obtain ⟨d₆, rfl, hd₆, h₆⟩ | ⟨gap, rfl, hwithin⟩ := within_or_behind_gap hd₅ h₅
      · cases d₆ with
        | nil => simp at hd₆
        | cons c e =>
          obtain ⟨rfl, -⟩ := List.cons.inj h₆
          exact ⟨e, by simp only [List.append_assoc, List.cons_append, List.nil_append]⟩
      · have hgap : Blank gap := fun c hc => hg₃ c (List.mem_append_right _ hc)
        exact absurd (head_eq_of_gap hgap (by decide) hwithin).1 (by decide)
    · have hgap : Blank gap := fun c hc => hg₂ c (List.mem_append_right _ hc)
      cases gap with
      | nil => exact (name_ne_pub hplain hg₃ hwithin).elim
      | cons c gap =>
        obtain ⟨rfl, -⟩ := List.cons.inj hwithin
        exact absurd (hgap _ List.mem_cons_self) (by decide)
  · have hgap : Blank gap := fun c hc => hg₁ c (List.mem_append_right _ hc)
    exact absurd (head_eq_of_gap hgap (by decide) hwithin).1 (by decide)

/-! ## The match -/

/-- Where the head of an enumeration of this name stands, its body is what the pattern takes up to the first closing
    brace. -/
theorem exists_prefers_head {s : Spot} {body rest : List Char} (hname : name ≠ [])
    (hplain : ∀ c ∈ name, c ≠ '\x7b' ∧ isBlank c = false) (hbody : '\x7d' ∉ body)
    (hbefore : s.before.head?.any isWord = false)
    (hafter : s.after = "pub".toList ++ (' ' :: ("enum".toList ++ (' ' :: (name ++ (' ' :: '\x7b' ::
      (body ++ '\x7d' :: rest))))))) :
    ∃ t, (enumerationPattern name).Prefers s t ∧ t.group? 1 = some body := by
  have hspace : ∀ c ∈ [' '], CharSet.blank.contains c := List.forall_mem_singleton.mpr (by decide)
  have hstop : Stops .blank (name ++ (' ' :: '\x7b' :: (body ++ '\x7d' :: rest))) := by
    cases name with
    | nil => exact absurd rfl hname
    | cons c cs => exact .cons (hplain c List.mem_cons_self).2
  have hedge : s.satisfies (.word .edge) = true := by
    have hfirst : s.after.head? = some 'p' := by rw [hafter]; rfl
    have hp : isWord 'p' = true := by decide
    simp [Spot.satisfies, Anchor.holds, WordPlace.holds, hbefore, hfirst, hp]
  have hgap {tail : List Char} (h : Stops .blank tail) : (many1 .blank).Passes [' '] tail :=
    .many1 (List.cons_ne_nil _ _) hspace h
  have hspaces {tail : List Char} (h : Stops .blank tail) : blanks.Passes [' '] tail := .many hspace h
  have hbrace (c : Char) {tail : List Char} : (Pattern.one (.char c)).Passes [c] tail := .one (decide_eq_true rfl)
  refine ⟨_, (Prefers.anchor hedge).seq <| .pass (.literal "pub") hafter <|
    .pass (hgap (.cons (by decide))) rfl <| .pass (.literal "enum") rfl <| .pass (hgap hstop) rfl <|
    .pass (.chars name) rfl <| .pass (hspaces (.cons (by decide))) rfl <| .pass (hbrace _) rfl <|
    .captureUntil rfl (fun _ _ => rfl) hbody <| .pass (hbrace _) rfl .empty, ?_⟩
  rw [Spot.skip_group?]
  exact Spot.capture_group?_self rfl

/-- **The match** in a text with an enumeration of this name, in front of which there is no other: its group holds what
    stands between the braces. -/
theorem leftmost?_enumeration {before body : List Char} (rest : List Char) (hname : name ≠ [])
    (hplain : ∀ c ∈ name, c ≠ '\x7b' ∧ isBlank c = false) (hbody : '\x7d' ∉ body)
    (hbefore : before = [] ∨ before.getLast? = some '\n') (hother : ∀ head, IsHead name head → ¬ head <:+: before) :
    ∃ t, (enumerationPattern name).leftmost? (.start (before ++ ("pub".toList ++ (' ' :: ("enum".toList ++ (' ' :: (name ++
      (' ' :: '\x7b' :: (body ++ '\x7d' :: rest))))))))) = some t ∧ t.group? 1 = some body := by
  have hedge : before.reverse.head?.any isWord = false := by
    rcases hbefore with rfl | hlast
    · rfl
    · rw [List.head?_reverse, hlast]
      decide
  obtain ⟨t, hprefers, hgroup⟩ := exists_prefers_head
    (s := ⟨before.length, before.reverse, _, before.length, []⟩) hname hplain hbody hedge rfl
  refine ⟨t, leftmost?_behind (fun front back hsplit hback => ?_) hprefers, hgroup⟩
  -- A match that begins in front would have its head there.
  refine List.eq_nil_iff_forall_not_mem.mpr fun u hu => ?_
  obtain ⟨head, more, hhead, hafter⟩ := exists_head_of_mem hu
  have hlast : back.getLast? = some '\n' := by
    rcases hbefore with rfl | hlast
    · simp [hback] at hsplit
    · rwa [hsplit, List.getLast?_append_of_ne_nil _ hback] at hlast
  obtain ⟨e, rfl⟩ := head_within hplain hlast hhead hafter
  exact hother head hhead ⟨front, e, by rw [hsplit, List.append_assoc]⟩

end PacketReinjection.Header
