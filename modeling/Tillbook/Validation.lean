import Tillbook.Failure
import Tillbook.Receipt
import Tillbook.Text.Blank

/-!
# The form of requests

Checks that look at a request alone, before the store is asked.  They stop at the
first fault.

## Main definitions

* `Validation.station`, `Validation.present`, `Validation.quantity`,
  `Validation.amount` — single fields.
* `Validation.cart`, `Validation.payment` — the lines and the tenders.
* `Validation.commit` — a request to commit a receipt.
-/

namespace Tillbook.Validation

/-- The longest cart. -/
def maxCartItems : Nat := 100

/-- The largest quantity of a line. -/
def maxQuantity : Int64 := 999

/-- The largest amount that a caller may give. -/
def maxAmount : Money := 100000000000

/-- A letter, a digit or a hyphen. -/
def isStationChar (c : Char) : Bool := c.isAlphanum || c == '-'

/-- A station is named by one to sixteen letters, digits and hyphens. -/
def station (name : String) : Except Invalid Unit :=
  if name.isEmpty then .error (.required "station")
  else if 16 < name.utf8ByteSize then .error (.tooLong "station" 16)
  else if name.toList.all isStationChar then .ok ()
  else .error (.badFormat "station" "must contain only letters, digits and hyphens")

/-- A name is there: it is not blank. -/
def present (field value : String) : Except Invalid Unit :=
  if Text.Blank value then .error (.required field) else .ok ()

/-- A quantity is between one and `maxQuantity`. -/
def quantity (n : Int64) : Except Invalid Unit :=
  if n ≤ 0 then .error (.mustBePositive "quantity")
  else if maxQuantity < n then .error (.outOfRange "quantity" 1 maxQuantity)
  else .ok ()

/-- An amount that is not below zero. -/
def nonNegative (field : String) (m : Money) : Except Invalid Unit :=
  if m < 0 then .error (.mustNotBeNegative field) else .ok ()

/-- An amount above zero. -/
def positive (field : String) (m : Money) : Except Invalid Unit :=
  if m ≤ 0 then .error (.mustBePositive field) else .ok ()

/-- An amount between zero and `maxAmount`. -/
def amount (field : String) (m : Money) : Except Invalid Unit := do
  nonNegative field m
  if maxAmount < m then .error (.outOfRange field 0 maxAmount)

/-- A line names a product, has a quantity, and any agreed price is an amount. -/
def cartLine (line : CartLine) : Except Invalid Unit := do
  present "product_id" line.productId
  quantity line.quantity
  match line.unitPrice with
  | some price => amount "unit price" price
  | none => .ok ()

/-- A cart has between one and `maxCartItems` lines, each in form. -/
def cart (items : List CartLine) : Except Invalid Unit := do
  if items.isEmpty then .error (.required "items")
  if maxCartItems < items.length then
    .error (.outOfRange "cart items" 1 (Int64.ofNat maxCartItems))
  items.forM cartLine

/-- A fault in the form refuses the operation. -/
def orRefuse (check : Except Invalid α) : Except Refusal α := check.mapError .invalid

/-- A tender of a split is an amount above zero, and only a mobile one has a subtype. -/
def tender (t : Tender) : Except Refusal Unit := do
  if t.amount ≤ 0 then
    .error (.invalidPayment
      (t.method.name ++ " tender must be positive, got " ++ Text.int t.amount.toInt))
  orRefuse (amount "tender" t.amount)
  if t.method ≠ .mobile ∧ t.subtype.isSome then
    .error (.invalidPayment (t.method.name ++ " tender cannot carry a subtype"))

/-- The tenders of a split add up to the total; any other payment covers it by itself. -/
def payment (p : Payment) (total : Money) : Except Refusal Unit :=
  match p with
  | .split tenders => do
    if tenders.isEmpty then .error (.invalidPayment "split payment has no tenders")
    tenders.forM tender
    match Money.sum (tenders.map (·.amount)) with
    | .error _ => .error (.invalid (.outOfRange "split tenders" 0 maxAmount))
    | .ok sum =>
      if sum = total then .ok ()
      else .error (.invalid (.mismatch "split tenders" total sum))
  | _ => .ok ()

/-- A request to commit a receipt is in form. -/
def commit (r : CommitRequest) : Except Refusal Unit := do
  orRefuse (present "staff_id" r.staffId)
  orRefuse (cart r.items)
  orRefuse (amount "total" r.total)
  payment r.payment r.total
  if r.payment.involvesCredit ∧ r.customerId = none then .error .customerRequired
  match r.originStation with
  | some name => orRefuse (station name)
  | none => .ok ()

end Tillbook.Validation
