import Tillbook.Double
import Tillbook.Word

/-!
# Tallies

A stored number that statements add to.  As long as the sum is a word it is kept
exactly.  A sum that is no word is kept as the nearest number of 53 significant
bits; it still takes part in comparisons and further sums, but it cannot be read
as a word.

## Main definitions

* `Tally` — a stored number.
* `Tally.add` — the number after a statement has added to it.
* `Tally.word?` — the number as a word, while it is one.

## Main statements

* `Tally.add_exact` — a sum that is a word is kept exactly.
-/

namespace Tillbook

/-- A stored number that statements add to. -/
inductive Tally where
  /-- A word. -/
  | exact (word : Int64)
  /-- A number outside the range of a word, or at its very ends, rounded. -/
  | inexact (value : Int)
  deriving DecidableEq, Repr

namespace Tally

/-- The number that comparisons see. -/
def value : Tally → Int
  | exact w => w.toInt
  | inexact n => n

/-- The number as a word, while it is one. -/
def word? : Tally → Option Int64
  | exact w => some w
  | inexact _ => none

/-- A rounded sum is kept as a word again if it lies inside the range. -/
def ofRounded (n : Int) : Tally :=
  if Int64.minValue.toInt < n ∧ n ≤ Int64.maxValue.toInt then exact (Int64.ofInt n) else inexact n

/-- The sum of rounded numbers, rounded. -/
def addRounded (a b : Int) : Tally :=
  ofRounded (Double.nearest (Double.nearest a + Double.nearest b))

/-- The number after a statement has added `delta`. -/
def add (t : Tally) (delta : Int64) : Tally :=
  match t with
  | exact w =>
    match Word.ofInt? (w.toInt + delta.toInt) with
    | some sum => exact sum
    | none => addRounded w.toInt delta.toInt
  | inexact n => addRounded n delta.toInt

@[simp] theorem value_exact (w : Int64) : (exact w).value = w.toInt := rfl

@[simp] theorem value_inexact (n : Int) : (inexact n).value = n := rfl

@[simp] theorem word?_exact (w : Int64) : (exact w).word? = some w := rfl

@[simp] theorem word?_inexact (n : Int) : (inexact n).word? = none := rfl

/-- Only an exact tally can be read. -/
theorem word?_eq_some_iff {t : Tally} {w : Int64} : t.word? = some w ↔ t = exact w := by
  cases t <;> simp [word?]

/-- A sum that is a word is kept exactly. -/
theorem add_exact {w delta sum : Int64} (h : sum.toInt = w.toInt + delta.toInt) :
    (exact w).add delta = exact sum := by
  simp [add, Word.ofInt?_eq_some_iff.2 h]

end Tally

end Tillbook
