import Tillbook.Store.Action

/-!
# Receipts in the store

Statements on receipts, their tenders and their lines.
-/

namespace Tillbook.Receipts

/-- The receipt with an identity. -/
def find (id : String) : Action (Option Receipt) :=
  .read "receipts" fun s => .ok ((s.receipts.find? (·.id == id)).map s.receipt)

/-- The receipt with a number. -/
def findByNumber (number : String) : Action (Option Receipt) :=
  .read "receipts" fun s => .ok ((s.receipts.find? (·.number == number)).map s.receipt)

/-- The receipt that the gateway knows by a name. -/
def findByCheckout (checkoutId : String) : Action (Option Receipt) :=
  .read "receipts" fun s => .ok ((s.receipts.find? (·.checkoutId == some checkoutId)).map s.receipt)

/-- The lines of a receipt, in the order of the cart. -/
def items (id : String) : Action (List SaleItem) :=
  .read "sale_items" fun s => .ok (s.itemsOf id)

/-- The tenders of a receipt, in their places. -/
def tenders (id : String) : Action (List Tender) :=
  .read "receipt_tenders" fun s => .ok (s.tendersOf id)

/-- The receipts of a shift, by moment and number. -/
def ofShift (shiftId : String) : Action (List Receipt) :=
  .read "receipts" fun s =>
    let own := s.receipts.filter (·.shiftId == some shiftId)
    let sorted := (own.mergeSort fun a b => a.number ≤ b.number).mergeSort fun a b =>
      a.createdAt.stored ≤ b.createdAt.stored
    .ok (sorted.map s.receipt)

/-- The number of receipts. -/
def count : Action Nat := .read "receipts" fun s => .ok s.receipts.length

/-- The store with one more receipt, without its tenders. -/
def addHead (r : Receipt) (s : Store) : Except StoreError Store :=
  if r.total < 0 then .error (.checkFailed "total_cents >= 0")
  else if r.checkoutId.isSome ∧ s.receipts.any (·.checkoutId == r.checkoutId) then
    .error (.taken "receipts.checkout_request_id")
  else if s.receipts.any (·.number == r.number) then .error (.taken "receipts.receipt_number")
  else if s.receipts.any (·.id == r.id) then .error (.taken "receipts.id")
  else if r.shiftId.any (fun id => (s.shift? id).isNone) ∨ (s.staffMember? r.staffId).isNone
      ∨ r.customerId.any (fun id => (s.customer? id).isNone) then
    .error .danglingReference
  else
    let row := { r.toReceiptHead with kind := r.payment.kind, subtype := r.payment.subtype }
    .ok { s with receipts := s.receipts ++ [row] }

/-- The store with one more tender of a receipt. -/
def addTender (t : TenderRow) (s : Store) : Except StoreError Store :=
  if t.amount < 0 then .error (.checkFailed "amount_cents >= 0")
  else if s.tenders.any fun row => row.receiptId == t.receiptId && row.position == t.position then
    .error (.taken "receipt_tenders.receipt_id, receipt_tenders.position")
  else if s.tenders.any (·.id == t.id) then .error (.taken "receipt_tenders.id")
  else if s.receipts.all (·.id != t.receiptId) then .error .danglingReference
  else .ok { s with tenders := s.tenders ++ [t] }

/-- Adds tenders, one statement for each. -/
def insertTenders : List TenderRow → Action Unit
  | [] => pure ()
  | t :: rest => do
    .put "receipt_tenders" fun s => do return ((), ← addTender t s)
    insertTenders rest

/-- Adds a receipt: its head, then its tenders, which get their identities by place. -/
def insert (r : Receipt) (tenderId : Nat → String) : Action Unit := do
  .put "receipts" fun s => do return ((), ← addHead r s)
  insertTenders (r.tenderRows tenderId)

/-- The store with one more line of a receipt. -/
def addItem (i : SaleItem) (s : Store) : Except StoreError Store :=
  if i.quantity ≤ 0 then .error (.checkFailed "quantity > 0")
  else if i.unitPrice < 0 then .error (.checkFailed "unit_price_cents >= 0")
  else if s.items.any (·.id == i.id) then .error (.taken "sale_items.id")
  else if s.receipts.all (·.id != i.receiptId) ∨ (s.product? i.productId).isNone
      ∨ (s.staffMember? i.staffId).isNone then
    .error .danglingReference
  else .ok { s with items := s.items ++ [i] }

/-- Adds a line of a receipt. -/
def insertItem (i : SaleItem) : Action Unit :=
  .put "sale_items" fun s => do return ((), ← addItem i s)

/-- Moves the payment of a pending receipt, and tells whether there was one.  A
confirmation code that is given takes the place of the old one. -/
def settle (checkoutId : String) (status : PaymentStatus) (reference : Option String) :
    Action Bool :=
  .put "receipts" fun s =>
    let isMeant (row : ReceiptRow) :=
      row.checkoutId == some checkoutId && row.status == .pending
    let move (row : ReceiptRow) :=
      if isMeant row then { row with status := status, reference := reference.or row.reference }
      else row
    .ok (s.receipts.any isMeant, { s with receipts := s.receipts.map move })

end Tillbook.Receipts
