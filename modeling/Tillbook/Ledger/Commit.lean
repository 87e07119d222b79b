import Tillbook.Credit
import Tillbook.Ledger.Stamp
import Tillbook.Store.Accounts
import Tillbook.Store.Catalog
import Tillbook.Store.Counters
import Tillbook.Store.Receipts
import Tillbook.Store.Roster
import Tillbook.Store.Shifts
import Tillbook.Validation

/-!
# Committing a receipt

A commit turns a cart into a receipt in one operation: it numbers the receipt,
writes it with its tenders and lines, moves the stock of every product in the
cart and the balance of a customer who buys on credit.  It does all of that or
nothing.

## Main definitions

* `Commit.run` — the operation.
* `Commit.noteOversold` — the report of what was sold beyond the stock.
-/

namespace Tillbook.Commit

/-- What a commit will move on a customer's account. -/
structure CreditMove where
  customer : Customer
  delta : Money
  deriving DecidableEq, Repr

/-- The staff of a receipt exists and is active. -/
def checkStaff (id : String) : Action Unit := do
  match ← Roster.find id with
  | some member => if member.isActive then pure () else .refuse (.invalidStaff id)
  | none => .refuse (.invalidStaff id)

/-- The shift of a receipt, if it names one, exists and still runs. -/
def checkShift (id : Option String) : Action Unit := do
  match id with
  | none => pure ()
  | some id =>
    match ← Shifts.find id with
    | none => .refuse (.shiftNotFound id)
    | some shift => if shift.isOpen then pure () else .refuse (.shiftAlreadyClosed id)

/-- What is billed to the customer of a request, if anything is, within the limit. -/
def checkCredit (request : CommitRequest) : Action (Option CreditMove) := do
  match request.customerId with
  | none => return none
  | some id =>
    match ← Accounts.find id with
    | none => .refuse (.customerNotFound id)
    | some customer =>
      let portion := request.payment.creditPortion request.total
      if 0 < portion then
        let delta ← .ofOverflow (Credit.delta portion request.isReturn)
        let _ ← Action.ofRefusal (Credit.checkLimit customer delta)
        return some ⟨customer, delta⟩
      else return none

/-- The line of a receipt for a line of the cart: the name and, unless one was
agreed, the price come from the catalog. -/
def price (request : CommitRequest) (stamp : Stamp) (position : Nat) (line : CartLine) :
    Action SaleItem := do
  match ← Catalog.find line.productId with
  | none => .refuse (.productNotFound line.productId)
  | some product =>
    return {
      id := stamp.itemId position
      receiptId := stamp.id
      productId := product.id
      staffId := request.staffId
      name := product.name
      quantity := line.quantity
      unitPrice := line.unitPrice.getD (product.priceFor line.quantity)
      isReturn := request.isReturn
      returnReason := line.returnReason
      createdAt := stamp.now }

/-- The lines of a receipt for those of the cart, the first at `position`. -/
def priceAll (request : CommitRequest) (stamp : Stamp) (position : Nat) :
    List CartLine → Action (List SaleItem)
  | [] => return []
  | line :: rest => do
    let item ← price request stamp position line
    return item :: (← priceAll request stamp (position + 1) rest)

/-- The receipt of a request. -/
def receiptOf (request : CommitRequest) (stamp : Stamp) (station number : String) : Receipt :=
  { id := stamp.id
    number := number
    createdAt := stamp.now
    shiftId := request.shiftId
    staffId := request.staffId
    customerId := request.customerId
    total := request.total
    payment := request.payment
    status := request.initialStatus
    reference := request.reference
    checkoutId := request.checkoutId
    isReturn := request.isReturn
    station := station }

/-- The report with the stock of a product that was sold beyond its stock: a
product that is already there keeps its place and gets the new stock. -/
def noteOversold (report : List OversoldProduct) (productId : String) (stock : Int64) :
    List OversoldProduct :=
  if 0 ≤ stock then report
  else if report.any (·.productId == productId) then
    report.map fun o => if o.productId == productId then { o with stock := stock } else o
  else report ++ [⟨productId, stock⟩]

/-- Writes the lines of a receipt, moves the stock for each, and reports what was
sold beyond the stock. -/
def writeItems (now : Timestamp) (report : List OversoldProduct) :
    List SaleItem → Action (List OversoldProduct)
  | [] => return report
  | item :: rest => do
    Receipts.insertItem item
    let delta ← .ofOverflow item.stockDelta
    let stock ← Catalog.adjust now item.productId delta
    writeItems now (noteOversold report item.productId stock) rest

/-- The refusal of a move that was let through before. -/
def overLimit (move : CreditMove) : Action Unit :=
  .refuse (.debtLimitExceeded move.customer.id move.customer.balance move.delta
    move.customer.debtLimit)

/-- Moves the balance of a customer who buys on credit, and goes on with `otherwise` if the move
is turned away. -/
def applyCreditOr (otherwise : CreditMove → Action Unit) (now : Timestamp) :
    Option CreditMove → Action Unit
  | none => pure ()
  | some move => do
    match ← Accounts.moveBalance now move.customer.id move.delta with
    | some _ => pure ()
    | none => otherwise move

/-- What a commit writes once the request is checked and the cart has its prices. -/
def recordOr (otherwise : CreditMove → Action Unit) (station : String) (stamp : Stamp)
    (request : CommitRequest) (credit : Option CreditMove) (items : List SaleItem) :
    Action Committed := do
  let number ← Counters.nextReceiptNumber station
  let receipt := receiptOf request stamp station number
  Receipts.insert receipt stamp.tenderId
  let oversold ← writeItems stamp.now [] items
  applyCreditOr otherwise stamp.now credit
  return ⟨receipt, items, oversold⟩

/-- The transaction of a commit, for a request in form, which goes on with `otherwise` where the
move of the balance is turned away. -/
def bodyOr (otherwise : CreditMove → Action Unit) (station : String) (stamp : Stamp)
    (request : CommitRequest) : Action Committed := do
  Counters.ensure station
  checkStaff request.staffId
  checkShift request.shiftId
  let credit ← checkCredit request
  let items ← priceAll request stamp 0 request.items
  recordOr otherwise station stamp request credit items

/-- The transaction of a commit: a move that is turned away is refused. -/
def body (station : String) (stamp : Stamp) (request : CommitRequest) : Action Committed :=
  bodyOr overLimit station stamp request

/-- Commits a receipt at a station; a request keyed in elsewhere names its own. -/
def run (station : String) (stamp : Stamp) (request : CommitRequest) : Action Committed := do
  .ofRefusal (Validation.commit request)
  .atomically (body (request.originStation.getD station) stamp request)

end Tillbook.Commit
