/-!
# Words of sixty-four bits

Amounts, quantities and balances are signed words of sixty-four bits.  The core
operations on `Int64` wrap; here each operation goes through the exact integer
and says what happens when that integer is no word: it is named as an
`Overflow`, or it is clamped to the nearest word, or the caller is told `none`.

## Main definitions

* `Word.ofInt?` — the word of an integer, if it has one.
* `Word.add`, `Word.sub`, `Word.mul`, `Word.neg`, `Word.abs` — checked.
* `Word.addClamped`, `Word.subClamped` — clamped to the range.

## Main statements

* `Word.ofInt?_eq_some_iff` — a word stands for exactly one integer.
* `Word.exists_toInt_eq` — every integer within the range has a word.
* `Word.add_eq_ok_iff` and its companions — a checked result is the exact one.
-/

namespace Tillbook

/-- The ways an exact result can leave the range of a word. -/
inductive Overflow where
  | adding
  | subtracting
  | multiplying
  | negating
  deriving DecidableEq, Repr

/-- The wording of an overflow. -/
def Overflow.message : Overflow → String
  | .adding => "attempt to add with overflow"
  | .subtracting => "attempt to subtract with overflow"
  | .multiplying => "attempt to multiply with overflow"
  | .negating => "attempt to negate with overflow"

namespace Word

/-- The word that stands for `n`, if there is one. -/
def ofInt? (n : Int) : Option Int64 :=
  if Int64.minValue.toInt ≤ n ∧ n ≤ Int64.maxValue.toInt then some (Int64.ofInt n) else none

/-- A word stands for exactly one integer. -/
theorem ofInt?_eq_some_iff {n : Int} {w : Int64} : ofInt? n = some w ↔ w.toInt = n := by
  unfold ofInt?
  constructor
  · intro h
    split at h
    · next hn =>
      cases h
      simp only [Int64.toInt_minValue, Int64.toInt_maxValue] at hn
      exact Int64.toInt_ofInt_of_le hn.1 (by omega)
    · simp at h
  · rintro rfl
    rw [if_pos ⟨w.minValue_le_toInt, w.toInt_le⟩, Int64.ofInt_toInt]

/-- Every integer within the range has a word. -/
theorem exists_toInt_eq {n : Int} (low : Int64.minValue.toInt ≤ n)
    (high : n ≤ Int64.maxValue.toInt) : ∃ w : Int64, w.toInt = n :=
  ⟨Int64.ofInt n, ofInt?_eq_some_iff.1 (if_pos ⟨low, high⟩)⟩

/-- Only integers outside the range have no word. -/
theorem ofInt?_eq_none_iff {n : Int} :
    ofInt? n = none ↔ n < Int64.minValue.toInt ∨ Int64.maxValue.toInt < n := by
  unfold ofInt?
  split
  · simp only [reduceCtorEq, false_iff]; omega
  · simp only [true_iff]; omega

@[simp] theorem ofInt?_toInt (w : Int64) : ofInt? w.toInt = some w :=
  ofInt?_eq_some_iff.2 rfl

/-- The exact integer as a word, or the overflow `o`. -/
def checked (o : Overflow) (n : Int) : Except Overflow Int64 :=
  match ofInt? n with
  | some w => .ok w
  | none => .error o

theorem checked_eq_ok_iff {o : Overflow} {n : Int} {w : Int64} :
    checked o n = .ok w ↔ w.toInt = n := by
  rw [← ofInt?_eq_some_iff, checked]
  cases ofInt? n <;> simp

/-- The sum, if it is a word. -/
def add (a b : Int64) : Except Overflow Int64 := checked .adding (a.toInt + b.toInt)

/-- The difference, if it is a word. -/
def sub (a b : Int64) : Except Overflow Int64 := checked .subtracting (a.toInt - b.toInt)

/-- The product, if it is a word. -/
def mul (a b : Int64) : Except Overflow Int64 := checked .multiplying (a.toInt * b.toInt)

/-- The opposite, if it is a word: only the least word has none. -/
def neg (a : Int64) : Except Overflow Int64 := checked .negating (-a.toInt)

/-- The magnitude, if it is a word: taking it negates a negative word. -/
def abs (a : Int64) : Except Overflow Int64 := if a.toInt < 0 then neg a else .ok a

theorem add_eq_ok_iff {a b c : Int64} : add a b = .ok c ↔ c.toInt = a.toInt + b.toInt :=
  checked_eq_ok_iff

theorem sub_eq_ok_iff {a b c : Int64} : sub a b = .ok c ↔ c.toInt = a.toInt - b.toInt :=
  checked_eq_ok_iff

theorem mul_eq_ok_iff {a b c : Int64} : mul a b = .ok c ↔ c.toInt = a.toInt * b.toInt :=
  checked_eq_ok_iff

theorem neg_eq_ok_iff {a c : Int64} : neg a = .ok c ↔ c.toInt = -a.toInt :=
  checked_eq_ok_iff

theorem abs_eq_ok_iff {a c : Int64} : abs a = .ok c ↔ c.toInt = a.toInt.natAbs := by
  unfold abs
  split
  · rw [neg_eq_ok_iff]
    omega
  · rw [Except.ok.injEq, ← Int64.toInt_inj]
    omega

/-- Every word but the least one has an opposite. -/
theorem exists_neg_iff {a : Int64} : (∃ c, neg a = .ok c) ↔ a ≠ Int64.minValue := by
  have bottom := a.minValue_le_toInt
  have top := a.toInt_le
  have ends : Int64.maxValue.toInt = -Int64.minValue.toInt - 1 := by decide
  simp only [neg_eq_ok_iff, ne_eq, ← Int64.toInt_inj]
  constructor
  · rintro ⟨c, opposite⟩ least
    have most := c.toInt_le
    omega
  · intro above
    exact exists_toInt_eq (by omega) (by omega)

/-- The word nearest to an integer. -/
def clamp (n : Int) : Int64 :=
  Int64.ofInt (max Int64.minValue.toInt (min n Int64.maxValue.toInt))

/-- Clamping moves an integer to the nearer end of the range, or not at all. -/
theorem toInt_clamp (n : Int) :
    (clamp n).toInt = max Int64.minValue.toInt (min n Int64.maxValue.toInt) := by
  simp only [clamp, Int64.toInt_minValue, Int64.toInt_maxValue]
  exact Int64.toInt_ofInt_of_le (by omega) (by omega)

/-- The sum, or the end of the range that it passes. -/
def addClamped (a b : Int64) : Int64 := clamp (a.toInt + b.toInt)

/-- The difference, or the end of the range that it passes. -/
def subClamped (a b : Int64) : Int64 := clamp (a.toInt - b.toInt)

end Word

end Tillbook
