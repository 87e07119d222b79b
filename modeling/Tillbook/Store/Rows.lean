import Tillbook.Customer
import Tillbook.Product
import Tillbook.Receipt
import Tillbook.Shift
import Tillbook.Staff
import Tillbook.Store.Tally

/-!
# Tables

The store keeps rows in the order in which they were inserted.  A receipt is kept
as a head with the kind and the subtype of its payment, and one row for each
tender.

## Main definitions

* `Store` — the tables.
* `Store.receipt` — a receipt put together from its rows.
-/

namespace Tillbook

/-- A product with its stock as stored. -/
structure ProductRow extends ProductCard where
  stock : Tally
  deriving DecidableEq, Repr

/-- A customer with the balance as stored. -/
structure CustomerRow extends CustomerCard where
  balance : Tally
  deriving DecidableEq, Repr

/-- A receipt without its tenders. -/
structure ReceiptRow extends ReceiptHead where
  kind : PaymentKind
  subtype : Option String
  deriving DecidableEq, Repr

/-- One tender of a receipt, at its place among the others. -/
structure TenderRow extends Tender where
  id : String
  receiptId : String
  position : Nat
  deriving DecidableEq, Repr

/-- The rows of the tenders of a receipt, the first at `position`; the row at a place has
the identity for that place. -/
def tenderRows (receiptId : String) (tenderId : Nat → String) (position : Nat) :
    List Tender → List TenderRow
  | [] => []
  | t :: rest =>
    { t with id := tenderId position, receiptId := receiptId, position := position }
      :: tenderRows receiptId tenderId (position + 1) rest

/-- The rows of the tenders of a receipt. -/
def Receipt.tenderRows (r : Receipt) (tenderId : Nat → String) : List TenderRow :=
  Tillbook.tenderRows r.id tenderId 0 (r.payment.tenders r.total)

/-- The last number that a station has given out. -/
structure Counter where
  station : String
  last : Tally
  deriving DecidableEq, Repr

/-- The tables. -/
structure Store where
  staff : List Staff := []
  products : List ProductRow := []
  customers : List CustomerRow := []
  shifts : List Shift := []
  receipts : List ReceiptRow := []
  tenders : List TenderRow := []
  items : List SaleItem := []
  counters : List Counter := []
  deriving DecidableEq, Repr

namespace Store

/-- The member of staff with an identity. -/
def staffMember? (s : Store) (id : String) : Option Staff := s.staff.find? (·.id == id)

/-- The product with an identity. -/
def product? (s : Store) (id : String) : Option ProductRow := s.products.find? (·.id == id)

/-- The customer with an identity. -/
def customer? (s : Store) (id : String) : Option CustomerRow := s.customers.find? (·.id == id)

/-- The shift with an identity. -/
def shift? (s : Store) (id : String) : Option Shift := s.shifts.find? (·.id == id)

/-- The running shift of a member of staff. -/
def openShift? (s : Store) (staffId : String) : Option Shift :=
  s.shifts.find? fun shift => shift.staffId == staffId && shift.isOpen

/-- The counter of a station. -/
def counter? (s : Store) (station : String) : Option Counter :=
  s.counters.find? (·.station == station)

/-- The tenders of a receipt, in their places. -/
def tendersOf (s : Store) (receiptId : String) : List Tender :=
  let rows := s.tenders.filter (·.receiptId == receiptId)
  (rows.mergeSort fun a b => a.position ≤ b.position).map (·.toTender)

/-- A receipt put together from its rows. -/
def receipt (s : Store) (row : ReceiptRow) : Receipt :=
  { row.toReceiptHead with payment := .ofStored row.kind row.subtype (s.tendersOf row.id) }

/-- The lines of a receipt. -/
def itemsOf (s : Store) (receiptId : String) : List SaleItem :=
  s.items.filter (·.receiptId == receiptId)

end Store

end Tillbook
