import PacketReinjection.Text.Number

/-!
# `Proofs.Text.Number` — decimal digits are read as their value

## Contents
- **`decimalValue`** — the value of decimal digits.
- **`readNumber_eq`** — digits whose value is small enough; `readNumber_repr`: a number in base 10.
-/

namespace PacketReinjection.Text

/-- The value of decimal digits. -/
def decimalValue (digits : List Char) : Nat := Nat.ofDigitChars 10 digits 0

theorem ofDigitChars_cons (n : Nat) (c : Char) (digits : List Char) :
    Nat.ofDigitChars 10 (c :: digits) n = Nat.ofDigitChars 10 digits (n * 10 + digitValue c) := by
  rw [Nat.ofDigitChars_cons, Nat.mul_comm]
  rfl

theorem le_ofDigitChars (n : Nat) (digits : List Char) : n ≤ Nat.ofDigitChars 10 digits n := by
  induction digits generalizing n with
  | nil => exact Nat.le_refl n
  | cons c digits ih =>
    rw [ofDigitChars_cons]
    have hnext : n ≤ n * 10 + digitValue c := by omega
    exact Nat.le_trans hnext (ih _)

/-- Digits are appended one by one as long as the number is small enough. -/
theorem foldlM_appendDigit {n : Nat} {digits : List Char} (hdigits : ∀ c ∈ digits, c.isDigit)
    (hlimit : Nat.ofDigitChars 10 digits n < numberLimit) :
    digits.foldlM appendDigit n = .ok (Nat.ofDigitChars 10 digits n) := by
  induction digits generalizing n with
  | nil => rfl
  | cons c digits ih =>
    rw [ofDigitChars_cons] at hlimit ⊢
    have hc := hdigits c List.mem_cons_self
    have hnext : n * 10 + digitValue c < numberLimit :=
      Nat.lt_of_le_of_lt (le_ofDigitChars _ digits) hlimit
    rw [List.foldlM_cons, appendDigit, if_pos hc, if_pos hnext]
    exact ih (fun d hd => hdigits d (List.mem_cons_of_mem c hd)) hlimit

/-- Digits are appended one by one until the number is too large. -/
theorem foldlM_appendDigit_of_le {n : Nat} {digits : List Char} (hdigits : ∀ c ∈ digits, c.isDigit)
    (hn : n < numberLimit) (hlimit : numberLimit ≤ Nat.ofDigitChars 10 digits n) :
    digits.foldlM appendDigit n = .error .tooLarge := by
  induction digits generalizing n with
  | nil => exact absurd hlimit (Nat.not_le.mpr hn)
  | cons c digits ih =>
    rw [ofDigitChars_cons] at hlimit
    have hc := hdigits c List.mem_cons_self
    rw [List.foldlM_cons, appendDigit, if_pos hc]
    by_cases hnext : n * 10 + digitValue c < numberLimit
    · rw [if_pos hnext]
      exact ih (fun d hd => hdigits d (List.mem_cons_of_mem c hd)) hnext hlimit
    · rw [if_neg hnext]
      rfl

theorem readNumber_of_isDigit {digits : List Char} (hne : digits ≠ []) (hdigits : ∀ c ∈ digits, c.isDigit) :
    readNumber digits = digits.foldlM appendDigit 0 := by
  match digits with
  | [] => exact absurd rfl hne
  | c :: digits =>
    have hplus : c ≠ '+' := by
      rintro rfl
      exact absurd (hdigits '+' List.mem_cons_self) (by decide)
    simp [readNumber, readDigits, hplus]

/-- Digits whose value is small enough are read. -/
theorem readNumber_eq {digits : List Char} (hne : digits ≠ []) (hdigits : ∀ c ∈ digits, c.isDigit)
    (hlimit : decimalValue digits < numberLimit) : readNumber digits = .ok (decimalValue digits) := by
  rw [readNumber_of_isDigit hne hdigits]
  exact foldlM_appendDigit hdigits hlimit

/-- A number in base 10 is read if it is small enough. -/
theorem readNumber_repr (n : Nat) :
    readNumber (Nat.toDigits 10 n) = if n < numberLimit then .ok n else .error .tooLarge := by
  have hdigits : ∀ c ∈ Nat.toDigits 10 n, c.isDigit := fun c hc =>
    Nat.isDigit_of_mem_toDigits (by decide) (by decide) hc
  have hvalue : Nat.ofDigitChars 10 (Nat.toDigits 10 n) 0 = n := by simp
  rw [readNumber_of_isDigit Nat.toDigits_ne_nil hdigits]
  by_cases hlimit : n < numberLimit
  · rw [if_pos hlimit, foldlM_appendDigit hdigits (by rwa [hvalue]), hvalue]
  · rw [if_neg hlimit]
    exact foldlM_appendDigit_of_le hdigits (by decide) (by rw [hvalue]; omega)

end PacketReinjection.Text
