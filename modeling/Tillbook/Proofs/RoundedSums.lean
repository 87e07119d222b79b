import Mathlib.Algebra.Group.Nat.Defs
import Mathlib.Algebra.Ring.Int.Defs
import Tillbook.Store.Tally

/-!
# Rounded sums

A sum beyond the words is kept rounded.  Rounding never brings it back among the
words, so a tally that can be read after one sum of a word is the exact sum.

## Main statements

* `Double.le_nearest_add` — a rounded sum beyond the words stays there.
* `Tally.add_exact_eq_exact_iff` — a sum that can be read is the exact one.
* `Tally.lt_value_add_iff` — a sum that cannot be read still compares as the exact one.
-/

namespace Tillbook

namespace Double

/-- The number of 53 bits that is nearest to a natural number in the binade of `2 ^ l`. -/
theorem nearest_of_log2 {m l unit : Nat} (log : m.log2 = l)
    (hunit : Nat.pow 2 (l + 1 - 53) = unit) :
    nearest m =
      ((if 2 * (m % unit) > unit ∨ (2 * (m % unit) = unit ∧ m / unit % 2 = 1) then m / unit + 1
        else m / unit) * unit : Nat) := by
  subst log hunit
  by_cases zero : m = 0
  · subst zero
    decide
  · have sign : Int.sign m = 1 := Int.sign_eq_one_of_pos (by omega)
    simp only [nearest, Int.natAbs_natCast, sign, Int.one_mul, Int.natCast_mul]

theorem nearest_neg (n : Int) : nearest (-n) = -nearest n := by
  simp only [nearest, Int.natAbs_neg, Int.sign_neg, Int.neg_mul]

theorem log2_eq {m l : Nat} (low : 2 ^ l ≤ m) (high : m < 2 ^ (l + 1)) : m.log2 = l := by
  have positive : m ≠ 0 := by
    have := Nat.two_pow_pos l
    omega
  exact (Nat.log2_eq_iff positive).2 ⟨low, high⟩

/-- Near the end of the words a number is rounded to a multiple of 1024. -/
theorem nearest_high {m : Nat} (low : 2 ^ 62 ≤ m) (high : m < 2 ^ 63) :
    ∃ k : Nat, nearest m = (1024 * k : Nat) ∧ m ≤ 1024 * k + 512 ∧ 2 ^ 62 ≤ 1024 * k ∧
      1024 * k ≤ 2 ^ 63 := by
  rw [nearest_of_log2 (log2_eq low high) rfl]
  refine ⟨_, congrArg Nat.cast (Nat.mul_comm ..), ?_⟩
  simp only [Nat.pow_eq, Nat.reduceAdd, Nat.reduceSub, Nat.reducePow] at low high ⊢
  split <;> omega

/-- Below, it is rounded to a multiple of 512 or of a smaller power of two. -/
theorem nearest_low {m : Nat} (high : m < 2 ^ 62) :
    ∃ e k : Nat, e ≤ 9 ∧ nearest m = (2 ^ e * k : Nat) ∧ 2 * m ≤ 2 * (2 ^ e * k) + 2 ^ e ∧
      2 ^ e * k ≤ 2 ^ 62 := by
  have binade : m.log2 ≤ 61 := by
    by_cases zero : m = 0
    · subst zero
      decide
    · exact Nat.le_of_lt_succ ((Nat.log2_lt zero).2 high)
  obtain ⟨e, he⟩ : ∃ e, m.log2 + 1 - 53 = e := ⟨_, rfl⟩
  have small : e ≤ 9 := by omega
  rw [nearest_of_log2 rfl (congrArg (Nat.pow 2) he)]
  refine ⟨e, _, small, congrArg Nat.cast (Nat.mul_comm ..), ?_⟩
  match e, small with
  | 0, _ | 1, _ | 2, _ | 3, _ | 4, _ | 5, _ | 6, _ | 7, _ | 8, _ | 9, _ =>
    simp only [Nat.pow_eq, Nat.reducePow] at high ⊢
    split <;> omega

/-- What is at least half a unit below the end of the words is rounded past it. -/
theorem le_nearest {m : Nat} (low : 2 ^ 63 - 512 ≤ m) (high : m < 2 ^ 65) : 2 ^ 63 ≤ nearest m := by
  by_cases inside : m < 2 ^ 63
  · rw [nearest_of_log2 (log2_eq (by omega) inside) rfl]
    simp only [Nat.pow_eq, Nat.reduceAdd, Nat.reduceSub, Nat.reducePow, Int.reducePow] at *
    split <;> omega
  · by_cases first : m < 2 ^ 64
    · rw [nearest_of_log2 (log2_eq (by omega) first) rfl]
      simp only [Nat.pow_eq, Nat.reduceAdd, Nat.reduceSub, Nat.reducePow, Int.reducePow] at *
      split <;> omega
    · rw [nearest_of_log2 (log2_eq (by omega) high) rfl]
      simp only [Nat.pow_eq, Nat.reduceAdd, Nat.reduceSub, Nat.reducePow, Int.reducePow] at *
      split <;> omega

theorem le_nearest_add_of_lt {a b : Nat} (ha : a < 2 ^ 63) (hb : b < 2 ^ 63)
    (beyond : 2 ^ 63 ≤ a + b) (order : b ≤ a) : 2 ^ 63 ≤ nearest (nearest a + nearest b) := by
  obtain ⟨ka, hka, errorA, lowA, highA⟩ := nearest_high (by omega) ha
  by_cases low : b < 2 ^ 62
  · obtain ⟨e, kb, small, hkb, errorB, highB⟩ := nearest_low low
    rw [hka, hkb, ← Int.natCast_add]
    apply le_nearest _ (by omega)
    -- Both are multiples of the power, so a miss by less than the power is no miss.
    match e, small with
    | 0, _ | 1, _ | 2, _ | 3, _ | 4, _ | 5, _ | 6, _ | 7, _ | 8, _ | 9, _ => omega
  · obtain ⟨kb, hkb, -, lowB, highB⟩ := nearest_high (by omega) hb
    rw [hka, hkb, ← Int.natCast_add]
    exact le_nearest (by omega) (by omega)

theorem nearest_le {m : Nat} (h : m ≤ 2 ^ 63) : ∃ k : Nat, nearest m = k ∧ k ≤ 2 ^ 63 := by
  rcases Nat.lt_or_eq_of_le h with inside | rfl
  · by_cases low : m < 2 ^ 62
    · obtain ⟨e, k, -, hk, -, small⟩ := nearest_low low
      exact ⟨_, hk, by omega⟩
    · obtain ⟨k, hk, -, -, small⟩ := nearest_high (by omega) inside
      exact ⟨_, hk, small⟩
  · exact ⟨2 ^ 63, by decide, Nat.le_refl _⟩

/-- A rounded sum beyond the words stays there. -/
theorem le_nearest_add {a b : Nat} (ha : a ≤ 2 ^ 63) (hb : b ≤ 2 ^ 63) (beyond : 2 ^ 63 ≤ a + b) :
    2 ^ 63 ≤ nearest (nearest a + nearest b) := by
  obtain ⟨ka, hka, smallA⟩ := nearest_le ha
  obtain ⟨kb, hkb, smallB⟩ := nearest_le hb
  have last : nearest (2 ^ 63 : Nat) = (2 ^ 63 : Nat) := by decide
  rcases Nat.lt_or_eq_of_le ha with insideA | rfl
  · rcases Nat.lt_or_eq_of_le hb with insideB | rfl
    · rcases Nat.le_total b a with order | order
      · exact le_nearest_add_of_lt insideA insideB beyond order
      · rw [Int.add_comm]
        exact le_nearest_add_of_lt insideB insideA (by omega) order
    · rw [last, hka, ← Int.natCast_add]
      exact le_nearest (by omega) (by omega)
  · rw [last, hkb, ← Int.natCast_add]
    exact le_nearest (by omega) (by omega)

/-- The same for words. -/
theorem le_nearest_add_toInt {a b : Int64} (beyond : Int64.maxValue.toInt < a.toInt + b.toInt) :
    2 ^ 63 ≤ nearest (nearest a.toInt + nearest b.toInt) := by
  have boundA := a.toInt_le
  have boundB := b.toInt_le
  simp only [Int64.toInt_maxValue] at beyond boundA boundB
  obtain ⟨m, hm⟩ := Int.eq_ofNat_of_zero_le (a := a.toInt) (by omega)
  obtain ⟨n, hn⟩ := Int.eq_ofNat_of_zero_le (a := b.toInt) (by omega)
  rw [hm, hn]
  exact le_nearest_add (by omega) (by omega) (by omega)

end Double

namespace Tally

/-- A rounded sum beyond the words cannot be read. -/
theorem addRounded_of_beyond {a b : Int64} (beyond : Word.ofInt? (a.toInt + b.toInt) = none) :
    ∃ n, addRounded a.toInt b.toInt = inexact n := by
  have boundA := And.intro a.minValue_le_toInt a.toInt_le
  have boundB := And.intro b.minValue_le_toInt b.toInt_le
  rw [Word.ofInt?_eq_none_iff] at beyond
  simp only [Int64.toInt_minValue, Int64.toInt_maxValue] at beyond boundA boundB
  refine ⟨_, if_neg ?_⟩
  simp only [Int64.toInt_minValue, Int64.toInt_maxValue]
  rcases beyond with below | above
  · obtain ⟨m, hm⟩ := Int.eq_ofNat_of_zero_le (a := -a.toInt) (by omega)
    obtain ⟨n, hn⟩ := Int.eq_ofNat_of_zero_le (a := -b.toInt) (by omega)
    have far := Double.le_nearest_add (a := m) (b := n) (by omega) (by omega) (by omega)
    rw [← hm, ← hn, Double.nearest_neg, Double.nearest_neg, ← Int.neg_add,
      Double.nearest_neg] at far
    omega
  · have far := Double.le_nearest_add_toInt (a := a) (b := b) above
    omega

/-- A sum that can be read is the exact one. -/
theorem add_exact_eq_exact_iff {w delta sum : Int64} :
    (exact w).add delta = exact sum ↔ sum.toInt = w.toInt + delta.toInt := by
  refine ⟨fun h => ?_, add_exact⟩
  unfold add at h
  cases total : Word.ofInt? (w.toInt + delta.toInt) with
  | some v =>
    simp only [total, exact.injEq] at h
    exact h ▸ Word.ofInt?_eq_some_iff.1 total
  | none =>
    obtain ⟨n, lost⟩ := addRounded_of_beyond total
    simp [total, lost] at h

/-- A sum above the words compares above them all. -/
theorem maxValue_lt_add {w delta : Int64} (beyond : Int64.maxValue.toInt < w.toInt + delta.toInt) :
    Int64.maxValue.toInt < ((exact w).add delta).value := by
  have far := Double.le_nearest_add_toInt beyond
  have rounded : (exact w).add delta =
      ofRounded (Double.nearest (Double.nearest w.toInt + Double.nearest delta.toInt)) := by
    simp only [add, Word.ofInt?_eq_none_iff.2 (.inr beyond), addRounded]
  rw [rounded, ofRounded, if_neg, value_inexact]
  all_goals
    simp only [Int64.toInt_minValue, Int64.toInt_maxValue]
    omega

/-- After a rise a tally compares with a word as the exact sum does. -/
theorem lt_value_add_iff {w delta limit : Int64} (rises : 0 < delta) :
    limit.toInt < ((exact w).add delta).value ↔ limit.toInt < w.toInt + delta.toInt := by
  cases total : Word.ofInt? (w.toInt + delta.toInt) with
  | some sum =>
    have exact_sum := Word.ofInt?_eq_some_iff.1 total
    rw [add_exact exact_sum, value_exact, exact_sum]
  | none =>
    -- A rise does not leave the words at their lower end.
    have above : Int64.maxValue.toInt < w.toInt + delta.toInt := by
      have bound := w.minValue_le_toInt
      rw [Int64.lt_iff_toInt_lt, Int64.toInt_zero] at rises
      rcases Word.ofInt?_eq_none_iff.1 total with below | above <;> omega
    have most := limit.toInt_le
    have far := maxValue_lt_add above
    omega

end Tally

end Tillbook
