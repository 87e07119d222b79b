import Mathlib.Algebra.Group.Nat.Defs
import Tillbook.Text.Digits

/-!
# Runs of digits

What is written for a number: digits only, and without a zero in front.  Filled up to a width
they denote the same number.

## Main definitions

* `Text.areDigits` — a text is a run of digits.

## Main statements

* `Text.areDigits_digits`, `Text.areDigits_padded` — nothing but digits is written.
* `Text.head?_digits_eq_zero` — only zero begins with a zero.
* `Text.value_padded` — zeros in front leave the value as it is.
* `Text.length_padded` — a short number fills its width.
-/

namespace Tillbook.Text

theorem isDigit_digit {d : Nat} (h : d < 10) : (digit d).isDigit = true := by
  revert h
  revert d
  decide

theorem digits_ne_nil (n : Nat) : digits n ≠ [] := by
  rw [digits]
  split <;> simp

theorem isDigit_of_mem_digits (n : Nat) : ∀ c ∈ digits n, c.isDigit = true := by
  fun_induction digits n with
  | case1 n small => simpa using isDigit_digit small
  | case2 n _ ih =>
    intro c hc
    rcases List.mem_append.1 hc with front | last
    · exact ih c front
    · rw [List.mem_singleton.1 last]
      exact isDigit_digit (Nat.mod_lt n (by decide))

/-- The digits of a number begin with a zero only if it is zero. -/
theorem head?_digits_eq_zero {n : Nat} (h : (digits n).head? = some '0') : n = 0 := by
  fun_induction digits n with
  | case1 n small =>
    have value := digitValue_digit small
    rw [List.head?_cons, Option.some.injEq] at h
    rw [h] at value
    exact value.symm
  | case2 n large ih =>
    rw [List.head?_append, Option.or_eq_some_iff] at h
    rcases h with front | ⟨none, -⟩
    · have := ih front
      omega
    · exact absurd (List.head?_eq_none_iff.1 none) (digits_ne_nil _)

/-- A number below a power of ten has no more digits than the exponent. -/
theorem length_digits_le {n k : Nat} (positive : 0 < k) (h : n < 10 ^ k) :
    (digits n).length ≤ k := by
  fun_induction digits n generalizing k with
  | case1 n small => exact positive
  | case2 n large ih =>
    obtain ⟨k, rfl⟩ : ∃ m, k = m + 1 := ⟨k - 1, by omega⟩
    have shorter : 0 < k := by
      rw [Nat.pos_iff_ne_zero]
      rintro rfl
      omega
    rw [List.length_append, List.length_singleton]
    exact Nat.succ_le_succ (ih shorter (by rw [Nat.pow_succ] at h; omega))

/-- A number that has no more digits than the width fills it. -/
theorem length_padded {width n : Nat} (positive : 0 < width) (h : n < 10 ^ width) :
    (padded width n).length = width := by
  have short := length_digits_le positive h
  rw [padded, List.length_append, List.length_replicate]
  omega

/-- Digits and nothing else, at least one of them. -/
def areDigits (cs : List Char) : Bool := !cs.isEmpty && cs.all (·.isDigit)

theorem areDigits_iff {cs : List Char} :
    areDigits cs = true ↔ cs ≠ [] ∧ ∀ c ∈ cs, c.isDigit = true := by
  simp [areDigits]

theorem areDigits_digits (n : Nat) : areDigits (digits n) = true :=
  areDigits_iff.2 ⟨digits_ne_nil n, isDigit_of_mem_digits n⟩

theorem areDigits_padded (width n : Nat) : areDigits (padded width n) = true := by
  rw [areDigits_iff]
  refine ⟨List.append_ne_nil_of_right_ne_nil _ (digits_ne_nil n), fun c hc => ?_⟩
  rcases List.mem_append.1 hc with filling | digit
  · rw [List.eq_of_mem_replicate filling]
    rfl
  · exact isDigit_of_mem_digits n c digit

/-- Zeros in front leave the value as it is. -/
theorem value_replicate_append (k : Nat) (cs : List Char) :
    value (List.replicate k '0' ++ cs) = value cs := by
  induction k with
  | zero => rfl
  | succ k ih =>
    rw [List.replicate_succ, List.cons_append, ← ih]
    rfl

@[simp] theorem value_padded (width n : Nat) : value (padded width n) = n := by
  rw [padded, value_replicate_append, value_digits]

end Tillbook.Text
