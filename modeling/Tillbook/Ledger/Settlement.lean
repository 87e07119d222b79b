import Tillbook.Credit
import Tillbook.Ledger.Till
import Tillbook.Store.Accounts
import Tillbook.Store.Counters
import Tillbook.Store.Receipts

/-!
# Settlement

What happens to a receipt or an account after the sale: a customer pays back, the
gateway confirms a mobile payment.  Numbers can also be given out without a
receipt.

## Main definitions

* `Settlement.repay` — a customer pays back.
* `Settlement.settle` — a pending payment comes to its end.
* `Settlement.nextNumber` — the next receipt number of a station.
-/

namespace Tillbook.Settlement

open Till (check)

/-- A customer pays back; the balance comes down to zero at most.  The clock is read for the
lock on the row and again for the new balance; the answer has the first reading, the row the
second. -/
def repay (stamp : Stamp) (customerId : String) (amount : Money) : Action Customer := do
  check (Validation.present "customer_id" customerId)
  check (Validation.positive "repayment" amount)
  check (Validation.amount "repayment" amount)
  .atomically do
    let _ ← Accounts.touch stamp.now customerId
    match ← Accounts.find customerId with
    | none => .refuse (.customerNotFound customerId)
    | some customer =>
      let balance := Credit.repay customer.balance amount
      Accounts.setBalance stamp.later customerId balance
      return { customer with balance := balance }

/-- A pending payment comes to its end.  The gateway names it as it did when the
payment was begun. -/
def settle (checkoutId : String) (status : PaymentStatus) (reference : Option String) :
    Action Receipt := do
  check (Validation.present "checkout_request_id" checkoutId)
  if PaymentStatus.pending.canMoveTo status then
    .atomically do
      let moved ← Receipts.settle checkoutId status reference
      match ← Receipts.findByCheckout checkoutId with
      | none => .refuse (.receiptNotFound checkoutId)
      | some receipt =>
        if moved then return receipt else .refuse (.paymentMove receipt.status status)
  else .refuse (.paymentMove .pending status)

/-- The next receipt number of a station, which is then used up. -/
def nextNumber (station : String) : Action String := do
  check (Validation.station station)
  .atomically (Counters.nextReceiptNumber station)

/-- The receipts of a shift, by moment and number. -/
def receiptsForShift (shiftId : String) : Action (List Receipt) := do
  check (Validation.present "shift_id" shiftId)
  Receipts.ofShift shiftId

end Tillbook.Settlement
