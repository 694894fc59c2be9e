import Mathlib.Tactic.ByContra
import PacketReinjection.Proofs.Text.Number
import PacketReinjection.Proofs.Tunable.Spacing
import PacketReinjection.Tunable.Environment

/-!
# `Proofs.Tunable.Environment` — what tells two tunables of one variable apart

A variable can hold every number of 64 bits, so that two tunables that it sets are told apart by a number that one of
them takes and the other one refuses, or by their defaults.

## Contents
- **`lookup?_single`**, **`numberOf?_repr`** — a variable that is set, and the number in it.
- **`resolve_agree_iff`** — when two tunables of one variable have the same value whatever it holds.
-/

namespace PacketReinjection.Tunable

open Text

/-! ## Variables -/

/-- A variable that is set is found. -/
theorem lookup?_single {name : String} (value : String) (h : canBeSet name) :
    Environment.lookup? [(name, value)] name = some value := by
  have hset := h
  simp only [canBeSet, Bool.and_eq_true, Bool.not_eq_eq_eq_not, Bool.not_true, List.all_eq_true,
    decide_eq_true_eq] at h
  obtain ⟨hname, hplain⟩ := h
  have hnull : name.toList.contains '\x00' = false := by
    rw [Bool.eq_false_iff]
    intro hmem
    exact (hplain _ (List.contains_iff_mem.mp hmem)).2 rfl
  have hstart : name.toList ++ '=' :: value.toList = name.toList ++ ['='] ++ value.toList := by simp
  have hbehind : valueBehind? name (name, value) = some value := by
    simp only [valueBehind?, hstart]
    rw [if_pos (List.isPrefixOf_iff_prefix.mpr (List.prefix_append _ _)), List.drop_left, String.ofList_toList]
  simp only [Environment.lookup?, hname, hnull, Bool.or_self, Bool.false_eq_true, if_false, List.filter_cons,
    hset, if_true, List.filter_nil, List.findSome?_cons, hbehind]

/-- Without variables, none is found. -/
theorem lookup?_nil (name : String) : Environment.lookup? [] name = none := by
  simp [Environment.lookup?]

/-! ## Numbers in variables -/

theorem isBlank_of_isDigit {c : Char} (h : c.isDigit) : isBlank c = false := by
  rw [Bool.eq_false_iff]
  intro hblank
  have hdigit := isDigit_of_separates (separates_of_isBlank hblank)
  exact Bool.false_ne_true (hdigit.symm.trans h)

/-- A text without blanks stays as it is. -/
theorem trim_eq_self {text : List Char} (h : ∀ c ∈ text, isBlank c = false) : trim text = text := by
  have hdrop : ∀ l : List Char, (∀ c ∈ l, isBlank c = false) → l.dropWhile isBlank = l := by
    intro l hl
    cases l with
    | nil => rfl
    | cons c l => simp [hl c List.mem_cons_self]
  rw [trim, hdrop text h, trimEnd, hdrop _ (fun c hc => h c (List.mem_reverse.mp hc)), List.reverse_reverse]

/-- A variable can hold every number of 64 bits. -/
theorem numberOf?_repr {n : Nat} (h : n < numberLimit) : numberOf? (Nat.repr n) = some n := by
  have hdigits : ∀ c ∈ Nat.toDigits 10 n, c.isDigit := fun c hc =>
    Nat.isDigit_of_mem_toDigits (by decide) (by decide) hc
  rw [numberOf?, Nat.toList_repr, trim_eq_self fun c hc => isBlank_of_isDigit (hdigits c hc), readNumber_repr, if_pos h]
  rfl

/-! ## Values -/

section Values

variable {standard standard' least least' : Nat}

theorem resolve_repr {n : Nat} (h : n < numberLimit) :
    resolve (some (Nat.repr n)) standard least = if least ≤ n then n else standard := by
  simp [resolve, numberOf?_repr h]

/-- Two tunables of one variable, of which the second takes its default, always agree if their defaults do and they
    take the same numbers. Where the default is 0, a minimum of 0 or 1 makes no difference. -/
theorem resolve_agree_iff (hlimit : standard < numberLimit) (hleast : least ≤ max 1 standard)
    (hleast' : least' ≤ standard') :
    (∀ value, resolve value standard least = resolve value standard' least') ↔
      standard = standard' ∧ (least = least' ∨ standard' = 0) := by
  constructor
  · intro h
    obtain rfl : standard = standard' := h none
    refine ⟨rfl, ?_⟩
    by_contra hne
    obtain ⟨hne, hpos⟩ := not_or.mp hne
    have hle : least ≤ standard := by omega
    -- The smaller minimum is a number that only one of the two takes.
    rcases Nat.lt_or_gt_of_ne hne with hlt | hlt
    · have heq := h (some (Nat.repr least))
      rw [resolve_repr (by omega), resolve_repr (by omega), if_pos (Nat.le_refl _), if_neg (by omega)] at heq
      omega
    · have heq := h (some (Nat.repr least'))
      rw [resolve_repr (by omega), resolve_repr (by omega), if_neg (by omega), if_pos (Nat.le_refl _)] at heq
      omega
  · rintro ⟨rfl, rfl | rfl⟩ value
    · rfl
    · have hzero : least' = 0 := by omega
      unfold resolve
      cases value.bind numberOf? with
      | none => rfl
      | some n =>
        simp only [hzero, Nat.zero_le, if_true]
        split <;> omega

end Values

end PacketReinjection.Tunable
