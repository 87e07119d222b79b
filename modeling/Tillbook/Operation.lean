import Tillbook.Ledger.Settlement
import Tillbook.Ledger.Sink

/-!
# Operations

Everything that can be asked of the store from outside a transaction, as data.
An operation is carried out whole: with no other transaction open, nothing comes
between its statements.

## Main definitions

* `Operation` — what can be asked.
* `Reply` — what is answered.
* `Operation.action` — the step on the store.
-/

namespace Tillbook

/-- What is answered to an operation or a statement. -/
inductive Reply where
  | done
  | flag (b : Bool)
  | number (n : Int64)
  | optionalNumber (n : Option Int64)
  | count (n : Nat)
  | text (s : String)
  | staff (m : Option Staff)
  | product (p : Option Product)
  | products (ps : List Product)
  | customer (c : Option Customer)
  | customers (cs : List Customer)
  | shift (s : Option Shift)
  | shifts (ss : List Shift)
  | receipt (r : Option Receipt)
  | receipts (rs : List Receipt)
  | items (is : List SaleItem)
  | tenders (ts : List Tender)
  | lines (ls : List TenderLine)
  | alerts (as : List StockAlert)
  | report (z : ZReport)
  | committed (c : Committed) (deliveries : List Delivery)
  deriving DecidableEq, Repr

/-- What can be asked of the store. -/
inductive Operation where
  | engageStaff (username : String) (fullName : Option String) (role : StaffRole)
  | findStaff (id : String)
  | findStaffByUsername (username : String)
  | setStaffActive (id : String) (isActive : Bool)
  | addProduct (p : Product)
  | findProduct (id : String)
  | findProductByBarcode (barcode : String)
  | listProducts (limit : Nat)
  | countProducts
  | adjustStock (id : String) (delta : Int64)
  | stockAlerts
  | openAccount (name : String) (phone : Option String) (debtLimit : Money)
  | addCustomer (c : Customer)
  | findCustomer (id : String)
  | setDebtLimit (id : String) (limit : Money)
  | debtors
  | findShift (id : String)
  | findOpenShift (staffId : String)
  | listShifts (staffId : String) (limit : Nat)
  | findReceipt (id : String)
  | findReceiptByNumber (number : String)
  | findReceiptByCheckout (checkoutId : String)
  | receiptItems (id : String)
  | listReceipts (shiftId : String)
  | countReceipts
  | lastNumber (station : String)
  | commit (request : CommitRequest)
  | nextNumber (station : String)
  | repay (customerId : String) (amount : Money)
  | settle (checkoutId : String) (status : PaymentStatus) (reference : Option String)
  | openShift (staffId : String) (openingFloat : Money)
  | currentShift (staffId : String)
  | zReport (shiftId : String)
  | closeShift (shiftId : String) (actual : Money)
  | receiptsForShift (shiftId : String)
  deriving DecidableEq, Repr

namespace Operation

/-- The step on the store, asked through a ledger. -/
def action (ledger : Ledger) (stamp : Stamp) : Operation → Action Reply
  | engageStaff username fullName role =>
    return .staff (some (← Roster.engage ⟨stamp.id, username, fullName, role, true, stamp.now⟩))
  | findStaff id => return .staff (← Roster.find id)
  | findStaffByUsername username => return .staff (← Roster.findByUsername username)
  | setStaffActive id isActive => do Roster.setActive id isActive; return .done
  | addProduct p => return .product (some (← Catalog.insert p))
  | findProduct id => return .product (← Catalog.find id)
  | findProductByBarcode barcode => return .product (← Catalog.findByBarcode barcode)
  | listProducts limit => return .products (← Catalog.list limit)
  | countProducts => return .count (← Catalog.count)
  | adjustStock id delta => return .number (← Catalog.adjust stamp.now id delta)
  | stockAlerts => return .alerts (← Catalog.alerts)
  | openAccount name phone debtLimit => do
    let card : CustomerCard :=
      ⟨stamp.id, name, phone, none, none, debtLimit, stamp.now, stamp.now⟩
    return .customer (some (← Accounts.insert { card with balance := 0 }))
  | addCustomer c => do let _ ← Accounts.insert c; return .done
  | findCustomer id => return .customer (← Accounts.find id)
  | setDebtLimit id limit => do Accounts.setLimit stamp.now id limit; return .done
  | debtors => return .customers (← Accounts.debtors)
  | findShift id => return .shift (← Shifts.find id)
  | findOpenShift staffId => return .shift (← Shifts.findOpen staffId)
  | listShifts staffId limit => return .shifts (← Shifts.list staffId limit)
  | findReceipt id => return .receipt (← Receipts.find id)
  | findReceiptByNumber number => return .receipt (← Receipts.findByNumber number)
  | findReceiptByCheckout checkoutId => return .receipt (← Receipts.findByCheckout checkoutId)
  | receiptItems id => return .items (← Receipts.items id)
  | listReceipts shiftId => return .receipts (← Receipts.ofShift shiftId)
  | countReceipts => return .count (← Receipts.count)
  | lastNumber station => return .number (← Counters.last station)
  | commit request => do
    let (committed, deliveries) ← ledger.commit stamp request
    return .committed committed deliveries
  | nextNumber station => return .text (← Settlement.nextNumber station)
  | repay customerId amount =>
    return .customer (some (← Settlement.repay stamp customerId amount))
  | settle checkoutId status reference =>
    return .receipt (some (← Settlement.settle checkoutId status reference))
  | openShift staffId openingFloat =>
    return .shift (some (← Till.openShift stamp staffId openingFloat))
  | currentShift staffId => return .shift (← Till.currentShift staffId)
  | zReport shiftId => return .report (← Till.zReport shiftId)
  | closeShift shiftId actual => return .report (← Till.closeShift stamp shiftId actual)
  | receiptsForShift shiftId => return .receipts (← Settlement.receiptsForShift shiftId)

end Operation

end Tillbook
