import Tillbook.Operation

/-!
# Statements in a transaction

What can be done inside a transaction that the caller opens.  Unlike an
operation, a statement is not all there is: it leaves its part to be kept or
dropped with the transaction.

## Main definitions

* `Statement` — what can be done.
* `Statement.writes` — whether it needs the lock.
* `Statement.action` — the step on the store as the transaction sees it.
-/

namespace Tillbook

/-- What can be done inside a transaction. -/
inductive Statement where
  | ensureCounter (station : String)
  | allocate (station : String)
  | nextReceiptNumber (station : String)
  | findStaff (id : String)
  | findProduct (id : String)
  | findCustomer (id : String)
  | findShift (id : String)
  | findOpenShift (staffId : String)
  | touchCustomer (id : String)
  | markClosed (shiftId : String)
  | moveStock (id : String) (delta : Int64)
  | moveBalance (id : String) (delta : Money)
  | setBalance (id : String) (balance : Money)
  | insertOpenShift (shift : Shift)
  | recordClose (shiftId : String) (actual expected : Money)
  | tenderLines (shiftId : String)
  | tenders (receiptId : String)
  | findByCheckout (checkoutId : String)
  | insertReceipt (receipt : Receipt)
  | insertItem (item : SaleItem)
  | settlePayment (checkoutId : String) (status : PaymentStatus) (reference : Option String)
  deriving DecidableEq, Repr

namespace Statement

/-- Whether the statement needs the lock. -/
def writes : Statement → Bool
  | findStaff _ | findProduct _ | findCustomer _ | findShift _ | findOpenShift _
  | tenderLines _ | tenders _ | findByCheckout _ => false
  | _ => true

/-- The step on the store as the transaction sees it. -/
def action (stamp : Stamp) : Statement → Action Reply
  | ensureCounter station => do Counters.ensure station; return .done
  | allocate station => return .number (← Counters.allocate station)
  | nextReceiptNumber station => return .text (← Counters.nextReceiptNumber station)
  | findStaff id => return .staff (← Roster.find id)
  | findProduct id => return .product (← Catalog.find id)
  | findCustomer id => return .customer (← Accounts.find id)
  | findShift id => return .shift (← Shifts.find id)
  | findOpenShift staffId => return .shift (← Shifts.findOpen staffId)
  | touchCustomer id => return .flag (← Accounts.touch stamp.now id)
  | markClosed shiftId => return .flag (← Shifts.markClosed stamp.now shiftId)
  | moveStock id delta => return .number (← Catalog.adjust stamp.now id delta)
  | moveBalance id delta => return .optionalNumber (← Accounts.moveBalance stamp.now id delta)
  | setBalance id balance => do Accounts.setBalance stamp.now id balance; return .done
  | insertOpenShift shift => return .flag (← Shifts.insertOpen shift)
  | recordClose shiftId actual expected => do
    Shifts.recordClose shiftId actual expected
    return .done
  | tenderLines shiftId => return .lines (← Shifts.tenderLines shiftId)
  | tenders receiptId => return .tenders (← Receipts.tenders receiptId)
  | findByCheckout checkoutId => return .receipt (← Receipts.findByCheckout checkoutId)
  | insertReceipt receipt => do Receipts.insert receipt stamp.tenderId; return .done
  | insertItem item => do Receipts.insertItem item; return .done
  | settlePayment checkoutId status reference =>
    return .flag (← Receipts.settle checkoutId status reference)

end Statement

end Tillbook
