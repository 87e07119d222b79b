import Tillbook.Text.Digits
import Tillbook.Word

/-!
# Money and tax

Money is a whole number of cents.  Prices on the shelf include the tax, so there
are two tax computations: the tax to add to a net amount, and the tax contained
in a gross amount.  Both go through exact integers and round once.

## Main definitions

* `Money` — cents, signed.
* `TaxRate` — basis points.
* `Money.exclusiveTax`, `Money.inclusiveTax` — tax to add, tax contained.
* `Money.decimal`, `Money.display` — the two texts of an amount.
-/

namespace Tillbook

/-- A rate of tax in basis points: 1600 of them are sixteen percent. -/
structure TaxRate where
  bps : UInt32
  deriving DecidableEq, Repr

namespace TaxRate

/-- No tax. -/
def zero : TaxRate := ⟨0⟩

/-- The standard rate of sixteen percent. -/
def standard : TaxRate := ⟨1600⟩

/-- The rate in percent: whole, or with two places. -/
def percentLabel (r : TaxRate) : String :=
  let n := r.bps.toNat
  if n % 100 = 0 then Text.nat (n / 100)
  else String.ofList (Text.digits (n / 100) ++ '.' :: Text.padded 2 (n % 100))

end TaxRate

/-- An amount of money in cents. -/
abbrev Money := Int64

namespace Money

/-- The whole shillings, without the cents, towards zero. -/
def shillings (m : Money) : Int64 := Int64.ofInt (m.toInt.tdiv 100)

/-- The cents beside the whole shillings, without a sign. -/
def centsPart (m : Money) : Int64 := Int64.ofInt (m.toInt.tmod 100).natAbs

/-- Shillings and cents together.  Only the shillings carry a sign: the cents of
a negative amount make it more negative. -/
def ofShillings (major minor : Int64) : Except Overflow Money := do
  let cents ← Word.mul major 100
  if major.toInt < 0 then Word.sub cents minor else Word.add cents minor

/-- The price of `quantity` units. -/
def times (m : Money) (quantity : Int64) : Except Overflow Money := Word.mul m quantity

/-- The amount as a movement of the ledger: a return moves it backwards. -/
def signed (m : Money) (isReturn : Bool) : Except Overflow Money :=
  if isReturn then Word.neg m else .ok m

/-- The sum of a list, as long as no partial sum leaves the range. -/
def sum (ms : List Money) : Except Overflow Money := ms.foldlM Word.add 0

/-- The tax to add to a net amount: half a cent is added and the rest cut off. -/
def exclusiveTax (m : Money) (rate : TaxRate) : Money :=
  Int64.ofInt ((m.toInt * rate.bps.toNat + 5000).tdiv 10000)

/-- The tax contained in a gross amount, a half rounded away from zero. -/
def inclusiveTax (m : Money) (rate : TaxRate) : Money :=
  if rate.bps = 0 then 0
  else
    let divisor : Int := 10000 + rate.bps.toNat
    let numerator : Int := m.toInt * rate.bps.toNat
    if 0 ≤ numerator then Int64.ofInt ((numerator + divisor / 2).tdiv divisor)
    else Int64.ofInt ((numerator - divisor / 2).tdiv divisor)

/-- The sign of an amount, written only if it is negative. -/
def signChars (m : Money) : List Char := if m.toInt < 0 then ['-'] else []

/-- The amount as a decimal number with two places. -/
def decimal (m : Money) : String :=
  let cents := m.toInt.natAbs
  String.ofList (m.signChars ++ Text.digits (cents / 100) ++ '.' :: Text.padded 2 (cents % 100))

/-- The amount for people: the sign, the currency, the shillings and the cents. -/
def display (m : Money) : String :=
  String.ofList (m.signChars ++ ['K', 'S', 'h', ' '] ++ Text.digits m.shillings.toInt.natAbs
    ++ '.' :: Text.padded 2 m.centsPart.toInt.natAbs)

end Money

end Tillbook
