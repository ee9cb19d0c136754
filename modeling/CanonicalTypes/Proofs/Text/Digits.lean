import CanonicalTypes.Text.Digits
import Mathlib.Tactic.IntervalCases

/-!
# Digits are read as they are written

The decimal digits of a natural denote it again, and do not start with a zero unless it is the only
one. Of the hexadecimal digits only those of the first control characters are needed.
-/
namespace CanonicalTypes.Text

/-! ## Decimal digits -/

theorem lt_of_mem_digits {n d : Nat} (hd : d ∈ digits n) : d < 10 := by
  induction n using digits.induct with
  | case1 n hn =>
    rw [digits, if_pos hn, List.mem_singleton] at hd
    exact hd ▸ hn
  | case2 n hn ih =>
    rw [digits, if_neg hn, List.mem_append, List.mem_singleton] at hd
    rcases hd with hd | rfl
    · exact ih hd
    · exact Nat.mod_lt n (by decide)

/-- More than one digit do not start with a zero. -/
theorem digits_cases (n : Nat) :
    n < 10 ∧ digits n = [n] ∨ ∃ d ds, d ≠ 0 ∧ ds ≠ [] ∧ digits n = d :: ds := by
  induction n using digits.induct with
  | case1 n hn => exact .inl ⟨hn, by rw [digits, if_pos hn]⟩
  | case2 n hn ih =>
    right
    rw [digits, if_neg hn]
    rcases ih with ⟨-, hone⟩ | ⟨d, ds, hd, -, hmore⟩
    · exact ⟨n / 10, [n % 10], by omega, by simp, by rw [hone]; rfl⟩
    · exact ⟨d, ds ++ [n % 10], hd, by simp, by rw [hmore]; rfl⟩

theorem ofDigits_digits (n : Nat) : ofDigits (digits n) = n := by
  induction n using digits.induct with
  | case1 n hn =>
    rw [digits, if_pos hn]
    exact Nat.zero_add n
  | case2 n hn ih =>
    rw [digits, if_neg hn]
    simp only [ofDigits, List.foldl_append, List.foldl_cons, List.foldl_nil] at ih ⊢
    rw [ih]
    omega

theorem digitValue?_digitChar {d : Nat} (hd : d < 10) : digitValue? (digitChar d) = some d := by
  interval_cases d <;> decide

/-- Numbers with the same decimal text are the same. -/
theorem toString_injective : Function.Injective (toString : Nat → String) := by
  have hread : ∀ n : Nat, Nat.ofDigitChars 10 (toString n).toList 0 = n := by
    intro n
    rw [Nat.toString_eq_repr, Nat.toList_repr, Nat.ofDigitChars_toDigits (by decide) (by decide)]
  intro m n h
  rw [← hread m, h, hread]

/-! ## Hexadecimal digits -/

theorem hexNatural?_hex {n : Nat} (hn : n < 0x20) : hexNatural? (hex 4 n) = some n := by
  interval_cases n <;> decide

end CanonicalTypes.Text
