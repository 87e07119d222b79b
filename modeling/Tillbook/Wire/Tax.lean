import Tillbook.Tax.Invoice
import Tillbook.Tax.Settings
import Tillbook.Wire.Records

/-!
# Invoices on the wire

Invoices and the settings of their submission as values.
-/

namespace Tillbook

/-- The types of transaction by name. -/
def TransactionType.cases : List (String × TransactionType) :=
  [("sale", .sale), ("credit_note", .creditNote)]

/-- The types of receipt by name. -/
def ReceiptType.cases : List (String × ReceiptType) := [("normal", .normal)]

/-- The value of a line of an invoice. -/
def InvoiceLine.toJson (l : InvoiceLine) : Json :=
  .object [("description", .str l.description), ("quantity", .word l.quantity),
    ("unit_price", .str l.unitPrice), ("amount", .str l.amount), ("vat_rate", .str l.taxRate)]

/-- The line of an invoice of a value. -/
def InvoiceLine.ofJson? (j : Json) : Option InvoiceLine := do
  let f ← j.fields? ["description", "quantity", "unit_price", "amount", "vat_rate"]
  return {
    description := ← (f "description").required Json.str?
    quantity := ← (f "quantity").required Json.word?
    unitPrice := ← (f "unit_price").required Json.str?
    amount := ← (f "amount").required Json.str?
    taxRate := ← (f "vat_rate").required Json.str? }

/-- The value of an invoice. -/
def TaxInvoice.toJson (i : TaxInvoice) : Json :=
  .object [("invoice_number", .str i.number), ("invoice_date", .str i.date),
    ("seller_pin", .str i.sellerPin), ("buyer_pin", .optional .str i.buyerPin),
    ("total_amount", .str i.total), ("vat_amount", .str i.tax),
    ("items", .arr (i.items.map InvoiceLine.toJson)), ("receipt_type", .str i.receiptType.name),
    ("transaction_type", .str i.transactionType.name)]

/-- The invoice of a value. -/
def TaxInvoice.ofJson? (j : Json) : Option TaxInvoice := do
  let f ← j.fields? ["invoice_number", "invoice_date", "seller_pin", "buyer_pin", "total_amount",
    "vat_amount", "items", "receipt_type", "transaction_type"]
  return {
    number := ← (f "invoice_number").required Json.str?
    date := ← (f "invoice_date").required Json.str?
    sellerPin := ← (f "seller_pin").required Json.str?
    buyerPin := ← (f "buyer_pin").optional Json.str?
    total := ← (f "total_amount").required Json.str?
    tax := ← (f "vat_amount").required Json.str?
    items := ← (f "items").required (Json.list? InvoiceLine.ofJson?)
    receiptType := ← (f "receipt_type").required (Json.ofUnit? false ReceiptType.cases)
    transactionType :=
      ← (f "transaction_type").required (Json.ofUnit? false TransactionType.cases) }

/-- The value of the settings of tax submission. -/
def TaxSettings.toJson (s : TaxSettings) : Json :=
  .object [("enabled", .bool s.isEnabled), ("submission_url", .optional .str s.url),
    ("seller_pin", .str s.sellerPin), ("timeout_secs", .int s.timeout),
    ("vat_rate_bps", s.rate.toJson)]

/-- The settings of tax submission of a value. -/
def TaxSettings.ofJson? (j : Json) : Option TaxSettings := do
  let f ← j.fields? ["enabled", "submission_url", "seller_pin", "timeout_secs", "vat_rate_bps"]
  return {
    isEnabled := ← (f "enabled").orElse false Json.bool?
    url := ← (f "submission_url").optionalOr Json.str?
    sellerPin := ← (f "seller_pin").orElse "" Json.str?
    timeout := ← (f "timeout_secs").orElse 10 Json.nat64?
    rate := ← (f "vat_rate_bps").orElse .standard TaxRate.ofJson? }

end Tillbook
