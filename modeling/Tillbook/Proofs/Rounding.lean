import Mathlib.Algebra.Order.Round
import Mathlib.Data.Rat.Floor
import Mathlib.Tactic.Linarith

/-!
# Rounding

A rational is rounded to the nearest integer, a half away from zero.  The rule is stated for all
integers at once and not by a formula; a quotient of integers meets it if half of the divisor is
added above zero, or taken off below, before the rest of the division is cut off.

## Main definitions

* `RoundsTo` — a rational rounded to an integer.

## Main statements

* `RoundsTo.le_of_le`, `RoundsTo.unique` — rounding keeps the order and has one result.
* `RoundsTo.neg` — rounding is the same on both sides of zero.
* `roundsTo_tdiv_of_nonneg`, `roundsTo_tdiv_of_nonpos` — quotients of integers.
* `tdiv_natCast_eq` — what is left where the rest is cut off.
-/

namespace Tillbook

/-- A rational rounded to an integer: to the nearest one, and of two that are equally near to the
one farther from zero. -/
structure RoundsTo (q : Rat) (n : Int) : Prop where
  nearest : ∀ k : Int, |q - n| ≤ |q - k|
  tie : ∀ k : Int, |q - k| = |q - n| → |k| ≤ |n|

namespace RoundsTo

variable {q r : Rat} {k m n : Int}

theorem abs_neg_sub (q : Rat) (k : Int) : |-q - k| = |q - (-k : Int)| := by
  rw [← abs_neg, neg_sub', neg_neg, Int.cast_neg]

/-- The opposite is rounded to the opposite. -/
theorem neg (h : RoundsTo q n) : RoundsTo (-q) (-n) where
  nearest k := by
    rw [abs_neg_sub, abs_neg_sub, neg_neg]
    exact h.nearest (-k)
  tie k same := by
    rw [abs_neg_sub, abs_neg_sub, neg_neg] at same
    rw [← abs_neg k, abs_neg n]
    exact h.tie (-k) same

/-- Where the greater of two integers is as near as the other, their middle is not above. -/
theorem middle_le (h : k < n) (near : |q - n| ≤ |q - k|) : (n + k : Rat) ≤ 2 * q := by
  have gap : (k : Rat) < n := Int.cast_lt.2 h
  rw [← sq_le_sq] at near
  nlinarith

theorem le_middle (h : k < n) (near : |q - k| ≤ |q - n|) : 2 * q ≤ (n + k : Rat) := by
  have mirrored : |-q - (-k : Int)| ≤ |-q - (-n : Int)| := by
    rwa [abs_neg_sub, abs_neg_sub, neg_neg, neg_neg]
  have middle := middle_le (neg_lt_neg h) mirrored
  push_cast at middle
  linarith

/-- Rounding keeps the order. -/
theorem le_of_le (hq : RoundsTo q m) (hr : RoundsTo r n) (order : q ≤ r) : m ≤ n := by
  by_contra! crossed
  -- Then both stand in the middle of the two integers, where only the tie decides.
  have above : (m + n : Rat) ≤ 2 * q := middle_le crossed (hq.nearest n)
  have below : 2 * r ≤ (m + n : Rat) := le_middle crossed (hr.nearest m)
  obtain rfl : q = r := by linarith
  have same : |q - m| = |q - n| := le_antisymm (hq.nearest n) (hr.nearest m)
  have sizes : |m| = |n| := le_antisymm (hr.tie m same) (hq.tie n same.symm)
  rcases abs_eq_abs.1 sizes with equal | opposite
  · exact crossed.ne' equal
  · subst opposite
    -- The middle is zero, which is an integer itself.
    have zero : q = 0 := by
      push_cast at above below
      linarith
    have least := hq.nearest 0
    rw [zero, Int.cast_zero, sub_self, abs_zero, abs_nonpos_iff, zero_sub, neg_eq_zero,
      Int.cast_eq_zero] at least
    omega

/-- There is one integer that a rational is rounded to. -/
theorem unique (hm : RoundsTo q m) (hn : RoundsTo q n) : m = n :=
  le_antisymm (hm.le_of_le hn le_rfl) (hn.le_of_le hm le_rfl)

/-- An integer at less than a half is nearer than all others. -/
theorem of_abs_sub_lt (near : |q - n| < 1 / 2) : RoundsTo q n := by
  have nearer (k : Int) (ne : k ≠ n) : |q - n| < |q - k| := by
    have apart : (1 : Rat) ≤ |(n : Rat) - k| := by
      exact_mod_cast Int.one_le_abs (sub_ne_zero.2 ne.symm)
    have path := abs_sub_abs_le_abs_sub ((n : Rat) - k) (n - q)
    rw [sub_sub_sub_cancel_left, abs_sub_comm (n : Rat) q] at path
    linarith
  refine ⟨fun k => ?_, fun k same => ?_⟩
  · rcases eq_or_ne k n with rfl | ne
    · exact le_rfl
    · exact (nearer k ne).le
  · rcases eq_or_ne k n with rfl | ne
    · exact le_rfl
    · exact absurd same (nearer k ne).ne'

theorem intCast (n : Int) : RoundsTo n n := of_abs_sub_lt (by norm_num)

/-- A rational that is not below zero is rounded half up. -/
theorem of_nonneg (h : 0 ≤ q) : RoundsTo q (round q) := by
  obtain ⟨low, high⟩ := round_eq_iff.1 (rfl : round q = _)
  refine ⟨round_le q, fun k same => ?_⟩
  generalize round q = n at *
  rcases abs_eq_abs.1 same with equal | opposite
  · have : k = n := by exact_mod_cast sub_right_injective equal
    rw [this]
  · have sum : (k : Rat) = 2 * q - n := by linarith
    have least : -n ≤ k := by
      have : (-n : Rat) ≤ k := by linarith
      exact_mod_cast this
    have most : k < n + 1 := by
      have : (k : Rat) < n + 1 := by linarith
      exact_mod_cast this
    exact abs_le_abs (Int.lt_add_one_iff.1 most) (neg_le.1 least)

end RoundsTo

/-! ## Quotients of integers -/

/-- A quotient is rounded half up by adding half of the divisor, also where that is odd. -/
theorem round_intCast_div (n : Int) {d : Int} (hd : 0 < d) :
    round ((n : Rat) / d) = (n + d / 2) / d := by
  have positive : (0 : Rat) < d := Int.cast_pos.2 hd
  rw [round_eq_iff, Set.mem_Ico, le_div_iff₀ positive, div_lt_iff₀ positive]
  have parts := Int.emod_add_mul_ediv (n + d / 2) d
  have low := Int.emod_nonneg (n + d / 2) hd.ne'
  have high := Int.emod_lt_of_pos (n + d / 2) hd
  generalize (n + d / 2) / d = t at *
  have below : (2 * (d * t) : Rat) ≤ 2 * n + d := by
    have : 2 * (d * t) ≤ 2 * n + d := by omega
    exact_mod_cast this
  have above : (2 * n + d : Rat) < 2 * (d * t) + 2 * d := by
    have : 2 * n + d < 2 * (d * t) + 2 * d := by omega
    exact_mod_cast this
  constructor <;> linarith

theorem roundsTo_tdiv_of_nonneg {n d : Int} (hn : 0 ≤ n) (hd : 0 < d) :
    RoundsTo ((n : Rat) / d) ((n + d / 2).tdiv d) := by
  have half : 0 ≤ d / 2 := Int.ediv_nonneg hd.le (by decide)
  rw [Int.tdiv_eq_ediv_of_nonneg (by omega), ← round_intCast_div n hd]
  exact .of_nonneg (div_nonneg (Int.cast_nonneg hn) (Int.cast_nonneg hd.le))

/-- Below zero half of the divisor is taken off, which mirrors the case above zero. -/
theorem roundsTo_tdiv_of_nonpos {n d : Int} (hn : n ≤ 0) (hd : 0 < d) :
    RoundsTo ((n : Rat) / d) ((n - d / 2).tdiv d) := by
  have mirrored := (roundsTo_tdiv_of_nonneg (neg_nonneg.2 hn) hd).neg
  rwa [Int.cast_neg, neg_div, neg_neg, ← Int.neg_tdiv, neg_add_rev, neg_neg, add_comm,
    ← sub_eq_add_neg] at mirrored

/-- Cutting off leaves the floor of what is not below zero, and else the ceiling. -/
theorem tdiv_natCast_eq (n : Int) {d : Nat} (hd : 0 < d) :
    n.tdiv d = if 0 ≤ (n : Rat) / d then ⌊(n : Rat) / d⌋ else ⌈(n : Rat) / d⌉ := by
  have sign : 0 ≤ (n : Rat) / d ↔ 0 ≤ n := by
    rw [le_div_iff₀ (Nat.cast_pos.2 hd), zero_mul, Int.cast_nonneg_iff]
  simp only [sign]
  split
  · next above => rw [Int.tdiv_eq_ediv_of_nonneg above, Rat.floor_intCast_div_natCast]
  · next below =>
    have mirrored : 0 ≤ -n := by omega
    rw [Rat.ceil_intCast_div_natCast, ← Int.tdiv_eq_ediv_of_nonneg mirrored, Int.neg_tdiv, neg_neg]

theorem ceil_eq_floor_iff {q : Rat} : ⌈q⌉ = ⌊q⌋ ↔ ∃ n : Int, q = n := by
  constructor
  · intro same
    exact ⟨⌊q⌋, le_antisymm (same ▸ Int.le_ceil q) (Int.floor_le q)⟩
  · rintro ⟨n, rfl⟩
    rw [Int.ceil_intCast, Int.floor_intCast]

end Tillbook
