import Tillbook.Payment
import Tillbook.Timestamp

/-!
# Receipts

A receipt records one sale or return: who rang it up, how it was paid, and its
lines.  Quantities and amounts never carry a sign; the mark of a return alone
gives the direction in which stock and money move.

## Main definitions

* `Receipt`, `SaleItem` — a receipt and its lines; `ReceiptHead` — it without the payment.
* `stockDelta` — the move of the stock by a line.
* `CommitRequest` — what the till submits.
* `Committed` — what comes of it.
-/

namespace Tillbook

/-- A sale takes units from the stock and a return puts them back. -/
def stockDelta (quantity : Int64) (isReturn : Bool) : Except Overflow Int64 :=
  if isReturn then .ok quantity else Word.neg quantity

/-- What is known of a receipt apart from its payment. -/
structure ReceiptHead where
  id : String
  /-- The number on the paper, such as `POS-01-00042`. -/
  number : String
  createdAt : Timestamp
  shiftId : Option String
  staffId : String
  customerId : Option String
  total : Money
  status : PaymentStatus
  /-- The confirmation code of a mobile payment. -/
  reference : Option String
  /-- The name under which the gateway later confirms the payment. -/
  checkoutId : Option String
  isReturn : Bool
  station : String
  deriving DecidableEq, Repr

/-- The record of a sale or a return. -/
structure Receipt extends ReceiptHead where
  payment : Payment
  deriving DecidableEq, Repr

/-- The total as a movement of the ledger. -/
def Receipt.signedTotal (r : Receipt) : Except Overflow Money := r.total.signed r.isReturn

/-- A line of a receipt, with the name and the price of the product at that time. -/
structure SaleItem where
  id : String
  receiptId : String
  productId : String
  staffId : String
  name : String
  quantity : Int64
  unitPrice : Money
  isReturn : Bool
  returnReason : Option String
  createdAt : Timestamp
  deriving DecidableEq, Repr

namespace SaleItem

/-- The price of the whole line. -/
def lineTotal (i : SaleItem) : Except Overflow Money := i.unitPrice.times i.quantity

/-- The move of the product's stock by this line. -/
def stockDelta (i : SaleItem) : Except Overflow Int64 :=
  Tillbook.stockDelta i.quantity i.isReturn

end SaleItem

/-- A line of the cart.  Without a price agreed at the till the catalog's counts. -/
structure CartLine where
  productId : String
  quantity : Int64
  unitPrice : Option Money
  returnReason : Option String
  deriving DecidableEq, Repr

namespace CartLine

/-- A line at the catalog's price. -/
def plain (productId : String) (quantity : Int64) : CartLine := ⟨productId, quantity, none, none⟩

/-- The line at an agreed price. -/
def atPrice (l : CartLine) (price : Money) : CartLine := { l with unitPrice := some price }

/-- The line with the reason for a return. -/
def because (l : CartLine) (reason : String) : CartLine := { l with returnReason := some reason }

end CartLine

/-- All that is needed to commit a receipt. -/
structure CommitRequest where
  staffId : String
  shiftId : Option String
  customerId : Option String
  payment : Payment
  items : List CartLine
  total : Money
  isReturn : Bool
  reference : Option String
  checkoutId : Option String
  /-- The station of a receipt that is keyed in elsewhere. -/
  originStation : Option String
  deriving DecidableEq, Repr

/-- A payment that the gateway has yet to confirm is pending. -/
def CommitRequest.initialStatus (r : CommitRequest) : PaymentStatus :=
  if r.checkoutId.isSome then .pending else .completed

/-- A product of which more was sold than there was. -/
structure OversoldProduct where
  productId : String
  stock : Int64
  deriving DecidableEq, Repr

/-- What comes of a commit. -/
structure Committed where
  receipt : Receipt
  items : List SaleItem
  oversold : List OversoldProduct
  deriving DecidableEq, Repr

end Tillbook
