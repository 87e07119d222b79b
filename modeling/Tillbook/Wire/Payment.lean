import Tillbook.Json.Fields
import Tillbook.Receipt

/-!
# Payments and requests on the wire

A payment is an object with a member `kind`, which may stand anywhere, and what
belongs to that kind.

## Main definitions

* `Payment.toJson`, `Payment.ofJson?` — a payment.
* `CommitRequest.toJson`, `CommitRequest.ofJson?` — a request to commit a receipt.
-/

namespace Tillbook

/-- The methods by name. -/
def TenderMethod.cases : List (String × TenderMethod) :=
  [("CASH", .cash), ("MOBILE", .mobile), ("CREDIT", .credit)]

/-- The kinds by name. -/
def PaymentKind.cases : List (String × PaymentKind) :=
  [("CASH", .cash), ("MOBILE", .mobile), ("CREDIT", .credit), ("SPLIT", .split)]

/-- The statuses by name. -/
def PaymentStatus.cases : List (String × PaymentStatus) :=
  [("PENDING", .pending), ("COMPLETED", .completed), ("FAILED", .failed)]

/-- The value of a tender. -/
def Tender.toJson (t : Tender) : Json :=
  .object [("method", .str t.method.name), ("amount_cents", .word t.amount),
    ("subtype", .optional .str t.subtype)]

/-- The tender of a value. -/
def Tender.ofJson? (inPayment : Bool) (j : Json) : Option Tender := do
  let f ← j.fields? ["method", "amount_cents", "subtype"]
  return {
    method := ← (f "method").required (Json.ofUnit? inPayment TenderMethod.cases)
    amount := ← (f "amount_cents").required Json.word?
    subtype := ← (f "subtype").optionalOr Json.str? }

namespace Payment

/-- The value of a payment. -/
def toJson (p : Payment) : Json :=
  match p with
  | .cash | .credit => .object [("kind", .str p.kind.name)]
  | .mobile subtype => .object [("kind", .str p.kind.name), ("subtype", .optional .str subtype)]
  | .split tenders =>
    .object [("kind", .str p.kind.name), ("tenders", .arr (tenders.map Tender.toJson))]

/-- Values nested deeper than this are not looked into. -/
def maxDepth : Nat := 127

/-- What a payment at a level of nesting may hold, whether its kind uses it or not. -/
def isHarmless (level : Nat) (j : Json) : Bool := j.isPlain && level + j.depth ≤ maxDepth

/-- The kind of a payment, and the rest of the value. -/
def kindAndRest? (level : Nat) : Json → Option (String × Json)
  | .obj members =>
    let rest := members.filter fun m => m.1 != some "kind"
    match members.filter fun m => m.1 == some "kind" with
    | [(_, .str kind)] =>
      if rest.all fun m => m.1.isSome && isHarmless level m.2 then some (kind, .obj rest) else none
    | _ => none
  | .arr (.str kind :: rest) =>
    if rest.all (isHarmless level) then some (kind, .arr rest) else none
  | _ => none

/-- A kind to which nothing belongs. -/
def alone? (p : Payment) : Json → Option Payment
  | .arr (_ :: _) => none
  | _ => some p

/-- The payment of a value at a level of nesting. -/
def ofJson? (level : Nat) (j : Json) : Option Payment := do
  let (kind, rest) ← kindAndRest? level j
  match ← PaymentKind.cases.lookup kind with
  | .cash => alone? .cash rest
  | .credit => alone? .credit rest
  | .mobile =>
    let f ← rest.fields? ["subtype"]
    return .mobile (← (f "subtype").optionalOr Json.str?)
  | .split =>
    let f ← rest.fields? ["tenders"]
    return .split (← (f "tenders").required (Json.list? (Tender.ofJson? true)))

end Payment

/-- The value of a line of the cart. -/
def CartLine.toJson (l : CartLine) : Json :=
  .object [("product_id", .str l.productId), ("quantity", .word l.quantity),
    ("unit_price_cents", .optional .word l.unitPrice),
    ("return_reason", .optional .str l.returnReason)]

/-- The line of the cart of a value. -/
def CartLine.ofJson? (j : Json) : Option CartLine := do
  let f ← j.fields? ["product_id", "quantity", "unit_price_cents", "return_reason"]
  return {
    productId := ← (f "product_id").required Json.str?
    quantity := ← (f "quantity").required Json.word?
    unitPrice := ← (f "unit_price_cents").optionalOr Json.word?
    returnReason := ← (f "return_reason").optionalOr Json.str? }

namespace CommitRequest

/-- The value of a request. -/
def toJson (r : CommitRequest) : Json :=
  .object [("staff_id", .str r.staffId), ("shift_id", .optional .str r.shiftId),
    ("customer_id", .optional .str r.customerId), ("payment", r.payment.toJson),
    ("items", .arr (r.items.map CartLine.toJson)), ("total_cents", .word r.total),
    ("is_return", .bool r.isReturn), ("reference_code", .optional .str r.reference),
    ("checkout_request_id", .optional .str r.checkoutId),
    ("origin_station", .optional .str r.originStation)]

/-- The request of a value. -/
def ofJson? (j : Json) : Option CommitRequest := do
  let f ← j.fields? ["staff_id", "shift_id", "customer_id", "payment", "items", "total_cents",
    "is_return", "reference_code", "checkout_request_id", "origin_station"]
  return {
    staffId := ← (f "staff_id").required Json.str?
    shiftId := ← (f "shift_id").optionalOr Json.str?
    customerId := ← (f "customer_id").optionalOr Json.str?
    payment := ← (f "payment").required (Payment.ofJson? 2)
    items := ← (f "items").required (Json.list? CartLine.ofJson?)
    total := ← (f "total_cents").required Json.word?
    isReturn := ← (f "is_return").orElse false Json.bool?
    reference := ← (f "reference_code").optionalOr Json.str?
    checkoutId := ← (f "checkout_request_id").optionalOr Json.str?
    originStation := ← (f "origin_station").optionalOr Json.str? }

end CommitRequest

end Tillbook
