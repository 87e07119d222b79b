/-!
# Digits

Natural numbers as decimal digits without superfluous zeros, digits filled up to
a width, and the value of a run of digits.  Hexadecimal digits are read too.

## Main definitions

* `digits` — the decimal digits of a natural number.
* `padded`, `paddedInt` — the same, filled with zeros up to a width.
* `value` — the number that a run of digits denotes.
* `hexValue?` — the value of a hexadecimal digit.

## Main statements

* `value_digits` — reading the digits of a number gives it back.
-/

namespace Tillbook.Text

/-- The digit for a number below ten. -/
def digit (d : Nat) : Char := Char.ofNat (48 + d)

/-- The decimal digits of `n`, most significant first; zero is one digit. -/
def digits (n : Nat) : List Char :=
  if n < 10 then [digit n] else digits (n / 10) ++ [digit (n % 10)]
termination_by n
decreasing_by omega

/-- The digits of `n`, with zeros in front up to `width` characters. -/
def padded (width n : Nat) : List Char :=
  List.replicate (width - (digits n).length) '0' ++ digits n

/-- The digits of an integer; a negative one has a sign in front. -/
def ofInt (n : Int) : List Char :=
  if n < 0 then '-' :: digits n.natAbs else digits n.natAbs

/-- The digits of an integer, filled with zeros up to `width` characters.  The
sign is one of the characters and stands before the zeros. -/
def paddedInt (width : Nat) (n : Int) : List Char :=
  if n < 0 then '-' :: padded (width - 1) n.natAbs else padded width n.natAbs

/-- The number that a digit stands for. -/
def digitValue (c : Char) : Nat := c.toNat - 48

/-- The number that a run of digits denotes in base ten. -/
def value (cs : List Char) : Nat := cs.foldl (fun n c => 10 * n + digitValue c) 0

/-- The value of a hexadecimal digit. -/
def hexValue? (c : Char) : Option Nat :=
  if '0' ≤ c ∧ c ≤ '9' then some (c.toNat - 48)
  else if 'a' ≤ c ∧ c ≤ 'f' then some (c.toNat - 87)
  else if 'A' ≤ c ∧ c ≤ 'F' then some (c.toNat - 55)
  else none

theorem digitValue_digit {d : Nat} (h : d < 10) : digitValue (digit d) = d := by
  have : d = 0 ∨ d = 1 ∨ d = 2 ∨ d = 3 ∨ d = 4 ∨ d = 5 ∨ d = 6 ∨ d = 7 ∨ d = 8 ∨ d = 9 := by
    omega
  rcases this with rfl | rfl | rfl | rfl | rfl | rfl | rfl | rfl | rfl | rfl <;> rfl

theorem value_append_singleton (cs : List Char) (c : Char) :
    value (cs ++ [c]) = 10 * value cs + digitValue c := by
  simp [value]

/-- Reading the digits of a number gives it back. -/
@[simp] theorem value_digits (n : Nat) : value (digits n) = n := by
  fun_induction digits n with
  | case1 n h => simp [value, digitValue_digit h]
  | case2 n h ih =>
    rw [value_append_singleton, ih, digitValue_digit (Nat.mod_lt n (by decide))]
    omega

/-- An integer as text. -/
def int (n : Int) : String := String.ofList (ofInt n)

/-- A natural number as text. -/
def nat (n : Nat) : String := String.ofList (digits n)

end Tillbook.Text
