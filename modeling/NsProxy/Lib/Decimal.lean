import Mathlib.Data.List.Basic
import Mathlib.Data.List.Induction

/-!
# Decimal texts

A number has one decimal text without leading zeros, and its other texts have zeros in front.
-/

namespace NsProxy.Decimal

/-- Every character is a digit. -/
def AllDigits (chars : List Char) : Prop := ∀ char ∈ chars, char.isDigit

/-- A digit is the character of its value. -/
theorem toDigits_digit {char : Char} (digit : char.isDigit) :
    char.toNat - '0'.toNat < 10 ∧ Nat.toDigits 10 (char.toNat - '0'.toNat) = [char] := by
  have range : 48 ≤ char.toNat ∧ char.toNat ≤ 57 := by
    rw [Char.isDigit, Bool.and_eq_true, decide_eq_true_eq, decide_eq_true_eq] at digit
    exact digit
  have known : ∀ value : Fin 10, Nat.digitChar value = Char.ofNat (48 + value) := by decide
  have small : char.toNat - '0'.toNat < 10 := by
    have zero : '0'.toNat = 48 := rfl
    omega
  refine ⟨small, ?_⟩
  have named := known ⟨char.toNat - '0'.toNat, small⟩
  have back : 48 + (char.toNat - '0'.toNat) = char.toNat := by
    have zero : '0'.toNat = 48 := rfl
    omega
  simp only at named
  rw [Nat.toDigits_of_lt_base small, named, back, Char.ofNat_toNat]

/-- Digits without a zero in front are the decimal text of their number. -/
theorem toDigits_ofDigitChars {digits : List Char} (all : AllDigits digits) (some : digits ≠ [])
    (first : digits.head? ≠ .some '0') :
    Nat.toDigits 10 (Nat.ofDigitChars 10 digits 0) = digits := by
  induction digits using List.reverseRecOn with
  | nil => exact absurd rfl some
  | append_singleton front last ih =>
    have digit := all last (List.mem_append_right front List.mem_cons_self)
    obtain ⟨small, written⟩ := toDigits_digit digit
    rw [Nat.ofDigitChars_append, Nat.ofDigitChars_cons, Nat.ofDigitChars_nil]
    by_cases alone : front = []
    · rw [alone, Nat.ofDigitChars_nil, Nat.mul_zero, Nat.zero_add, written]
      rfl
    · have leads : front.head? ≠ .some '0' := by
        rwa [List.head?_append_of_ne_nil front alone] at first
      have text := ih (fun char member => all char (List.mem_append_left _ member)) alone leads
      -- the number of the digits in front is not zero, or their text would start with one
      have positive : 0 < Nat.ofDigitChars 10 front 0 := by
        apply Nat.pos_of_ne_zero
        intro zero
        rw [zero, Nat.toDigits_zero] at text
        rw [← text] at leads
        exact leads rfl
      rw [← Nat.toDigits_append_toDigits (by decide) positive small, text, written]

/-- Digits are zeros in front of the decimal text of their number. -/
theorem eq_zeros_append {digits : List Char} (all : AllDigits digits) (some : digits ≠ []) :
    ∃ zeros, digits = List.replicate zeros '0' ++
      Nat.toDigits 10 (Nat.ofDigitChars 10 digits 0) := by
  induction digits with
  | nil => exact absurd rfl some
  | cons first rest ih =>
    by_cases zero : first = '0'
    · have skipped : Nat.ofDigitChars 10 (first :: rest) 0 = Nat.ofDigitChars 10 rest 0 := by
        rw [zero, Nat.ofDigitChars_cons]
        rfl
      by_cases alone : rest = []
      · refine ⟨0, ?_⟩
        rw [skipped, alone, zero, Nat.ofDigitChars_nil, Nat.toDigits_zero]
        rfl
      · obtain ⟨zeros, written⟩ :=
          ih (fun char member => all char (List.mem_cons_of_mem first member)) alone
        refine ⟨zeros + 1, ?_⟩
        rw [skipped, List.replicate_succ, List.cons_append, ← written, zero]
    · refine ⟨0, ?_⟩
      have leads : (first :: rest).head? ≠ .some '0' := by
        intro same
        exact zero (Option.some.inj same)
      rw [toDigits_ofDigitChars all some leads]
      rfl

/-- Zeros in front of a decimal text do not change its number. -/
theorem ofDigitChars_zeros_append (zeros value : Nat) :
    Nat.ofDigitChars 10 (List.replicate zeros '0' ++ Nat.toDigits 10 value) 0 = value := by
  rw [Nat.ofDigitChars_append, Nat.ofDigitChars_replicate_zero, Nat.mul_zero,
    Nat.ofDigitChars_ten_toDigits]

/-- Leading zeros before the digits of a number are digits too. -/
theorem allDigits_zeros_append (zeros value : Nat) :
    AllDigits (List.replicate zeros '0' ++ Nat.toDigits 10 value) := by
  intro char member
  rcases List.mem_append.mp member with zero | digit
  · rw [List.eq_of_mem_replicate zero]
    decide
  · exact Nat.isDigit_of_mem_toDigits (by decide) (by decide) digit

end NsProxy.Decimal
