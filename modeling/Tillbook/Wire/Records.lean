import Tillbook.Customer
import Tillbook.Product
import Tillbook.Reconciliation
import Tillbook.Staff
import Tillbook.Timestamp.Reader
import Tillbook.Wire.Payment

/-!
# Records on the wire

The objects of the shop as values: staff, products, customers, shifts, receipts
and reports.
-/

namespace Tillbook

/-- The value of a moment. -/
def Timestamp.toJson (t : Timestamp) : Json := .str t.wire

/-- The moment of a value. -/
def Timestamp.ofJson? : Json → Option Timestamp
  | .str s => Timestamp.read? s
  | _ => none

/-- The roles by name. -/
def StaffRole.cases : List (String × StaffRole) := [("admin", .admin), ("cashier", .cashier)]

/-- The states of a shift by name. -/
def ShiftState.cases : List (String × ShiftState) := [("open", .opened), ("closed", .closed)]

/-- The value of a member of staff. -/
def Staff.toJson (m : Staff) : Json :=
  .object [("id", .str m.id), ("username", .str m.username),
    ("full_name", .optional .str m.fullName), ("role", .str m.role.name),
    ("is_active", .bool m.isActive), ("created_at", m.createdAt.toJson)]

/-- The member of staff of a value. -/
def Staff.ofJson? (j : Json) : Option Staff := do
  let f ← j.fields? ["id", "username", "full_name", "role", "is_active", "created_at"]
  return {
    id := ← (f "id").required Json.str?
    username := ← (f "username").required Json.str?
    fullName := ← (f "full_name").optional Json.str?
    role := ← (f "role").required (Json.ofUnit? false StaffRole.cases)
    isActive := ← (f "is_active").required Json.bool?
    createdAt := ← (f "created_at").required Timestamp.ofJson? }

/-- The value of a rate. -/
def TaxRate.toJson (r : TaxRate) : Json := .int r.bps.toNat

/-- The rate of a value. -/
def TaxRate.ofJson? (j : Json) : Option TaxRate := (Json.nat32? j).map fun n => ⟨UInt32.ofNat n⟩

/-- The value of a product. -/
def Product.toJson (p : Product) : Json :=
  .object [("id", .str p.id), ("barcode", .str p.barcode), ("name", .str p.name),
    ("price_buying_cents", .word p.buyingPrice), ("price_selling_cents", .word p.sellingPrice),
    ("wholesale_price_cents", .optional .word p.wholesalePrice),
    ("wholesale_threshold", .optional .word p.wholesaleThreshold),
    ("tax_rate_bps", p.taxRate.toJson), ("stock_quantity", .word p.stock),
    ("min_stock_alert", .word p.minStock), ("is_active", .bool p.isActive),
    ("created_at", p.createdAt.toJson), ("updated_at", p.updatedAt.toJson)]

/-- The product of a value. -/
def Product.ofJson? (j : Json) : Option Product := do
  let f ← j.fields? ["id", "barcode", "name", "price_buying_cents", "price_selling_cents",
    "wholesale_price_cents", "wholesale_threshold", "tax_rate_bps", "stock_quantity",
    "min_stock_alert", "is_active", "created_at", "updated_at"]
  return {
    id := ← (f "id").required Json.str?
    barcode := ← (f "barcode").required Json.str?
    name := ← (f "name").required Json.str?
    buyingPrice := ← (f "price_buying_cents").required Json.word?
    sellingPrice := ← (f "price_selling_cents").required Json.word?
    wholesalePrice := ← (f "wholesale_price_cents").optional Json.word?
    wholesaleThreshold := ← (f "wholesale_threshold").optional Json.word?
    taxRate := ← (f "tax_rate_bps").required TaxRate.ofJson?
    stock := ← (f "stock_quantity").required Json.word?
    minStock := ← (f "min_stock_alert").required Json.word?
    isActive := ← (f "is_active").required Json.bool?
    createdAt := ← (f "created_at").required Timestamp.ofJson?
    updatedAt := ← (f "updated_at").required Timestamp.ofJson? }

/-- The value of a line of the reorder list. -/
def StockAlert.toJson (a : StockAlert) : Json :=
  .object [("product_id", .str a.productId), ("barcode", .str a.barcode), ("name", .str a.name),
    ("stock_quantity", .word a.stock), ("min_stock_alert", .word a.minStock)]

/-- The line of the reorder list of a value. -/
def StockAlert.ofJson? (j : Json) : Option StockAlert := do
  let f ← j.fields? ["product_id", "barcode", "name", "stock_quantity", "min_stock_alert"]
  return {
    productId := ← (f "product_id").required Json.str?
    barcode := ← (f "barcode").required Json.str?
    name := ← (f "name").required Json.str?
    stock := ← (f "stock_quantity").required Json.word?
    minStock := ← (f "min_stock_alert").required Json.word? }

/-- The value of a customer. -/
def Customer.toJson (c : Customer) : Json :=
  .object [("id", .str c.id), ("name", .str c.name), ("phone", .optional .str c.phone),
    ("email", .optional .str c.email), ("kra_pin", .optional .str c.taxPin),
    ("current_balance_cents", .word c.balance), ("debt_limit_cents", .word c.debtLimit),
    ("created_at", c.createdAt.toJson), ("updated_at", c.updatedAt.toJson)]

/-- The customer of a value. -/
def Customer.ofJson? (j : Json) : Option Customer := do
  let f ← j.fields? ["id", "name", "phone", "email", "kra_pin", "current_balance_cents",
    "debt_limit_cents", "created_at", "updated_at"]
  return {
    id := ← (f "id").required Json.str?
    name := ← (f "name").required Json.str?
    phone := ← (f "phone").optional Json.str?
    email := ← (f "email").optional Json.str?
    taxPin := ← (f "kra_pin").optional Json.str?
    balance := ← (f "current_balance_cents").required Json.word?
    debtLimit := ← (f "debt_limit_cents").required Json.word?
    createdAt := ← (f "created_at").required Timestamp.ofJson?
    updatedAt := ← (f "updated_at").required Timestamp.ofJson? }

/-- The value of a shift. -/
def Shift.toJson (s : Shift) : Json :=
  .object [("id", .str s.id), ("staff_id", .str s.staffId), ("opened_at", s.openedAt.toJson),
    ("opening_float_cents", .word s.openingFloat),
    ("closed_at", .optional Timestamp.toJson s.closedAt),
    ("closing_actual_cents", .optional .word s.closingActual),
    ("closing_expected_cents", .optional .word s.closingExpected)]

/-- The shift of a value. -/
def Shift.ofJson? (j : Json) : Option Shift := do
  let f ← j.fields? ["id", "staff_id", "opened_at", "opening_float_cents", "closed_at",
    "closing_actual_cents", "closing_expected_cents"]
  return {
    id := ← (f "id").required Json.str?
    staffId := ← (f "staff_id").required Json.str?
    openedAt := ← (f "opened_at").required Timestamp.ofJson?
    openingFloat := ← (f "opening_float_cents").required Json.word?
    closedAt := ← (f "closed_at").optional Timestamp.ofJson?
    closingActual := ← (f "closing_actual_cents").optional Json.word?
    closingExpected := ← (f "closing_expected_cents").optional Json.word? }

/-- The value of a receipt. -/
def Receipt.toJson (r : Receipt) : Json :=
  .object [("id", .str r.id), ("receipt_number", .str r.number),
    ("created_at", r.createdAt.toJson), ("shift_id", .optional .str r.shiftId),
    ("staff_id", .str r.staffId), ("customer_id", .optional .str r.customerId),
    ("total_cents", .word r.total), ("payment", r.payment.toJson),
    ("payment_status", .str r.status.name), ("reference_code", .optional .str r.reference),
    ("checkout_request_id", .optional .str r.checkoutId), ("is_return", .bool r.isReturn),
    ("origin_station", .str r.station)]

/-- The receipt of a value at a level of nesting. -/
def Receipt.ofJson? (level : Nat) (j : Json) : Option Receipt := do
  let f ← j.fields? ["id", "receipt_number", "created_at", "shift_id", "staff_id", "customer_id",
    "total_cents", "payment", "payment_status", "reference_code", "checkout_request_id",
    "is_return", "origin_station"]
  return {
    id := ← (f "id").required Json.str?
    number := ← (f "receipt_number").required Json.str?
    createdAt := ← (f "created_at").required Timestamp.ofJson?
    shiftId := ← (f "shift_id").optional Json.str?
    staffId := ← (f "staff_id").required Json.str?
    customerId := ← (f "customer_id").optional Json.str?
    total := ← (f "total_cents").required Json.word?
    payment := ← (f "payment").required (Payment.ofJson? (level + 1))
    status := ← (f "payment_status").required (Json.ofUnit? false PaymentStatus.cases)
    reference := ← (f "reference_code").optional Json.str?
    checkoutId := ← (f "checkout_request_id").optional Json.str?
    isReturn := ← (f "is_return").required Json.bool?
    station := ← (f "origin_station").required Json.str? }

/-- The value of a line of a receipt. -/
def SaleItem.toJson (i : SaleItem) : Json :=
  .object [("id", .str i.id), ("receipt_id", .str i.receiptId), ("product_id", .str i.productId),
    ("staff_id", .str i.staffId), ("name_snapshot", .str i.name), ("quantity", .word i.quantity),
    ("unit_price_cents", .word i.unitPrice), ("is_return", .bool i.isReturn),
    ("return_reason", .optional .str i.returnReason), ("created_at", i.createdAt.toJson)]

/-- The line of a receipt of a value. -/
def SaleItem.ofJson? (j : Json) : Option SaleItem := do
  let f ← j.fields? ["id", "receipt_id", "product_id", "staff_id", "name_snapshot", "quantity",
    "unit_price_cents", "is_return", "return_reason", "created_at"]
  return {
    id := ← (f "id").required Json.str?
    receiptId := ← (f "receipt_id").required Json.str?
    productId := ← (f "product_id").required Json.str?
    staffId := ← (f "staff_id").required Json.str?
    name := ← (f "name_snapshot").required Json.str?
    quantity := ← (f "quantity").required Json.word?
    unitPrice := ← (f "unit_price_cents").required Json.word?
    isReturn := ← (f "is_return").required Json.bool?
    returnReason := ← (f "return_reason").optional Json.str?
    createdAt := ← (f "created_at").required Timestamp.ofJson? }

/-- The value of a product that was sold beyond its stock. -/
def OversoldProduct.toJson (o : OversoldProduct) : Json :=
  .object [("product_id", .str o.productId), ("stock_quantity", .word o.stock)]

/-- The product that was sold beyond its stock of a value. -/
def OversoldProduct.ofJson? (j : Json) : Option OversoldProduct := do
  let f ← j.fields? ["product_id", "stock_quantity"]
  return {
    productId := ← (f "product_id").required Json.str?
    stock := ← (f "stock_quantity").required Json.word? }

/-- The value of a commit. -/
def Committed.toJson (c : Committed) : Json :=
  .object [("receipt", c.receipt.toJson), ("items", .arr (c.items.map SaleItem.toJson)),
    ("oversold", .arr (c.oversold.map OversoldProduct.toJson))]

/-- The commit of a value. -/
def Committed.ofJson? (j : Json) : Option Committed := do
  let f ← j.fields? ["receipt", "items", "oversold"]
  return {
    receipt := ← (f "receipt").required (Receipt.ofJson? 2)
    items := ← (f "items").required (Json.list? SaleItem.ofJson?)
    oversold := ← (f "oversold").required (Json.list? OversoldProduct.ofJson?) }

/-- The value of the takings of a shift. -/
def ShiftTotals.toJson (t : ShiftTotals) : Json :=
  .object [("cash_cents", .word t.cash), ("mobile_cents", .word t.mobile),
    ("credit_cents", .word t.credit), ("receipt_count", .word t.receiptCount)]

/-- The takings of a shift of a value. -/
def ShiftTotals.ofJson? (j : Json) : Option ShiftTotals := do
  let f ← j.fields? ["cash_cents", "mobile_cents", "credit_cents", "receipt_count"]
  return {
    cash := ← (f "cash_cents").required Json.word?
    mobile := ← (f "mobile_cents").required Json.word?
    credit := ← (f "credit_cents").required Json.word?
    receiptCount := ← (f "receipt_count").required Json.word? }

/-- The value of a report. -/
def ZReport.toJson (z : ZReport) : Json :=
  .object [("shift_id", .str z.shiftId), ("staff_id", .str z.staffId),
    ("status", .str z.state.name), ("opened_at", z.openedAt.toJson),
    ("closed_at", .optional Timestamp.toJson z.closedAt),
    ("opening_float_cents", .word z.openingFloat), ("total_cash_sales_cents", .word z.cashSales),
    ("total_mobile_sales_cents", .word z.mobileSales),
    ("total_credit_sales_cents", .word z.creditSales),
    ("transaction_count", .word z.transactionCount), ("closing_expected_cents", .word z.expected),
    ("closing_actual_cents", .word z.actual), ("variance_cents", .word z.variance)]

/-- The report of a value. -/
def ZReport.ofJson? (j : Json) : Option ZReport := do
  let f ← j.fields? ["shift_id", "staff_id", "status", "opened_at", "closed_at",
    "opening_float_cents", "total_cash_sales_cents", "total_mobile_sales_cents",
    "total_credit_sales_cents", "transaction_count", "closing_expected_cents",
    "closing_actual_cents", "variance_cents"]
  return {
    shiftId := ← (f "shift_id").required Json.str?
    staffId := ← (f "staff_id").required Json.str?
    state := ← (f "status").required (Json.ofUnit? false ShiftState.cases)
    openedAt := ← (f "opened_at").required Timestamp.ofJson?
    closedAt := ← (f "closed_at").optional Timestamp.ofJson?
    openingFloat := ← (f "opening_float_cents").required Json.word?
    cashSales := ← (f "total_cash_sales_cents").required Json.word?
    mobileSales := ← (f "total_mobile_sales_cents").required Json.word?
    creditSales := ← (f "total_credit_sales_cents").required Json.word?
    transactionCount := ← (f "transaction_count").required Json.word?
    expected := ← (f "closing_expected_cents").required Json.word?
    actual := ← (f "closing_actual_cents").required Json.word?
    variance := ← (f "variance_cents").required Json.word? }

/-- The value of a tender of a receipt, as it is read back for a shift. -/
def TenderLine.toJson (l : TenderLine) : Json :=
  .arr [.str l.receiptId, .str l.method.name, .word l.amount, .bool l.isReturn]

end Tillbook
