/-!
# Numbers of 53 bits

Integers that are held as floating numbers keep 53 significant bits.

## Main definitions

* `Double.nearest` — the integer of 53 significant bits that is nearest.
* `Double.isFinite` — whether an integer is below the largest floating number.
* `Double.isFiniteScaled` — the same for a decimal with an exponent.
-/

namespace Tillbook.Double

/-- The nearest integer with at most 53 significant bits; of two equally near
ones, the one with an even last bit. -/
def nearest (n : Int) : Int :=
  let m := n.natAbs
  let unit := Nat.pow 2 (m.log2 + 1 - 53)
  let q := m / unit
  let r := m % unit
  let q := if 2 * r > unit ∨ (2 * r = unit ∧ q % 2 = 1) then q + 1 else q
  n.sign * (q * unit)

/-- The least natural number that rounds up to infinity. -/
def limit : Nat := Nat.pow 2 1024 - Nat.pow 2 970

/-- A natural number that does not round up to infinity. -/
def isFinite (n : Nat) : Bool := n < limit

/-- A decimal `m * 10 ^ e` that does not round up to infinity.  No large power is
computed: above the exponent 308 only zero is finite, and a number is below one if
it has fewer bits than places. -/
def isFiniteScaled (m : Nat) (e : Int) : Bool :=
  if m = 0 ∨ e < -m.log2 then true
  else if e < 0 then m < limit * Nat.pow 10 (-e).toNat
  else e ≤ 308 && isFinite (m * Nat.pow 10 e.toNat)

end Tillbook.Double
