import Tillbook.Money
import Tillbook.Timestamp

/-!
# Products

A product has a retail price and may have a wholesale price from some quantity
on.  Its stock has no floor: selling more than there is drives it below zero.

## Main definitions

* `ProductCard` — all about a product but its stock; `Product` — with the stock.
* `ProductCard.priceFor` — the price of a unit when so many are bought.
* `StockAlert` — a line of the reorder list.
-/

namespace Tillbook

/-- What is known of a product apart from its stock. -/
structure ProductCard where
  id : String
  barcode : String
  name : String
  buyingPrice : Money
  sellingPrice : Money
  wholesalePrice : Option Money
  wholesaleThreshold : Option Int64
  taxRate : TaxRate
  minStock : Int64
  isActive : Bool
  createdAt : Timestamp
  updatedAt : Timestamp
  deriving DecidableEq, Repr

/-- A product with the units on hand. -/
structure Product extends ProductCard where
  stock : Int64
  deriving DecidableEq, Repr

/-- The level at which a new product is reordered. -/
def defaultMinStock : Int64 := 5

namespace ProductCard

/-- The price of a unit in a line of `quantity` units: the wholesale price from
the threshold on, if there are both, and the retail price otherwise. -/
def priceFor (p : ProductCard) (quantity : Int64) : Money :=
  match p.wholesalePrice, p.wholesaleThreshold with
  | some price, some threshold =>
    if 0 < threshold ∧ threshold ≤ quantity then price else p.sellingPrice
  | _, _ => p.sellingPrice

end ProductCard

namespace Product

/-- More was sold than there was. -/
def isOversold (p : Product) : Bool := p.stock < 0

/-- The stock has come down to the level at which to reorder. -/
def isLow (p : Product) : Bool := p.stock ≤ p.minStock

end Product

/-- A line of the reorder list. -/
structure StockAlert where
  productId : String
  barcode : String
  name : String
  stock : Int64
  minStock : Int64
  deriving DecidableEq, Repr

/-- More was sold than there was. -/
def StockAlert.isOversold (a : StockAlert) : Bool := a.stock < 0

end Tillbook
