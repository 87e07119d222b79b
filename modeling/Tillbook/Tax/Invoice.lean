import Tillbook.Receipt
import Tillbook.Text.Blank

/-!
# Tax invoices

What the tax authority is told of a receipt.  Amounts are decimal texts; a return
is a credit note, with amounts that have no sign.

## Main definitions

* `TaxInvoice` — an invoice.
* `TaxInvoice.ofCommitted` — the invoice of a receipt.
-/

namespace Tillbook

/-- Whether an invoice adds or takes back. -/
inductive TransactionType where
  | sale
  | creditNote
  deriving DecidableEq, Repr

/-- The name of a transaction type. -/
def TransactionType.name : TransactionType → String
  | .sale => "sale"
  | .creditNote => "credit_note"

/-- The kind of receipt that is reported; there is but one. -/
inductive ReceiptType where
  | normal
  deriving DecidableEq, Repr

/-- The name of a receipt type. -/
def ReceiptType.name : ReceiptType → String
  | .normal => "normal"

/-- A line of an invoice. -/
structure InvoiceLine where
  description : String
  quantity : Int64
  unitPrice : String
  amount : String
  /-- The rate of tax in percent. -/
  taxRate : String
  deriving DecidableEq, Repr

/-- An invoice. -/
structure TaxInvoice where
  number : String
  date : String
  sellerPin : String
  buyerPin : Option String
  total : String
  tax : String
  items : List InvoiceLine
  receiptType : ReceiptType
  transactionType : TransactionType
  deriving DecidableEq, Repr

namespace InvoiceLine

/-- The line of an invoice for a line of a receipt. -/
def ofItem (rate : TaxRate) (item : SaleItem) : Except Overflow InvoiceLine := do
  let amount ← item.lineTotal
  return ⟨item.name, item.quantity, item.unitPrice.decimal, amount.decimal, rate.percentLabel⟩

end InvoiceLine

namespace TaxInvoice

/-- A number that identifies a buyer, unless it is blank. -/
def pin? (pin : Option String) : Option String :=
  (pin.map Text.trim).filter fun p => !p.isEmpty

/-- The invoice of a receipt. -/
def ofCommitted (c : Committed) (sellerPin : String) (buyerPin : Option String) (rate : TaxRate) :
    Except Overflow TaxInvoice := do
  let items ← c.items.mapM (InvoiceLine.ofItem rate)
  return {
    number := c.receipt.number
    date := c.receipt.createdAt.plain
    sellerPin := Text.trim sellerPin
    buyerPin := pin? buyerPin
    total := c.receipt.total.decimal
    tax := (c.receipt.total.inclusiveTax rate).decimal
    items := items
    receiptType := .normal
    transactionType := if c.receipt.isReturn then .creditNote else .sale }

end TaxInvoice

end Tillbook
