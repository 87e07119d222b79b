import Tillbook.Money

/-!
# Payments

A receipt is paid in one way — cash, mobile money, credit — or split over several
tenders.  Whatever the way, a payment comes down to a list of tenders that carry
the total; the store keeps the kind, the subtype and those tenders, and the
payment is put together again from them.

## Main definitions

* `Payment` — how a receipt was paid.
* `Payment.tenders` — its tenders for a total.
* `Payment.creditPortion` — what is billed to the customer.
* `Payment.ofStored` — the payment from what the store keeps.
* `PaymentStatus` — whether the money has arrived.

## Main statements

* `Payment.ofStored_tenders` — nothing is lost in the store.
* `Payment.involvesCredit_eq_any` — credit shows in the tenders.
-/

namespace Tillbook

/-- The way one tender is paid. -/
inductive TenderMethod where
  | cash
  | mobile
  | credit
  deriving DecidableEq, Repr

/-- The way a receipt is paid. -/
inductive PaymentKind where
  | cash
  | mobile
  | credit
  | split
  deriving DecidableEq, Repr

/-- The name of a method. -/
def TenderMethod.name : TenderMethod → String
  | .cash => "CASH"
  | .mobile => "MOBILE"
  | .credit => "CREDIT"

/-- The name of a kind. -/
def PaymentKind.name : PaymentKind → String
  | .cash => "CASH"
  | .mobile => "MOBILE"
  | .credit => "CREDIT"
  | .split => "SPLIT"

/-- One leg of a payment.  The amount has no sign: the receipt says whether it
is a return. -/
structure Tender where
  method : TenderMethod
  amount : Money
  /-- The mobile service, such as `MPESA`. -/
  subtype : Option String
  deriving DecidableEq, Repr

namespace Tender

/-- A tender without a subtype. -/
def plain (method : TenderMethod) (amount : Money) : Tender := ⟨method, amount, none⟩

/-- The tender with a subtype. -/
def withSubtype (t : Tender) (subtype : String) : Tender := { t with subtype := some subtype }

end Tender

/-- How a receipt was paid. -/
inductive Payment where
  | cash
  | mobile (subtype : Option String)
  | credit
  | split (tenders : List Tender)
  deriving DecidableEq, Repr

namespace Payment

/-- The kind that the store keeps. -/
def kind : Payment → PaymentKind
  | cash => .cash
  | mobile _ => .mobile
  | credit => .credit
  | split _ => .split

/-- The mobile service of a payment that is mobile throughout. -/
def subtype : Payment → Option String
  | mobile s => s
  | _ => none

/-- The tenders of a payment of `total`: one that covers it, or those of the split. -/
def tenders (p : Payment) (total : Money) : List Tender :=
  match p with
  | cash => [.plain .cash total]
  | mobile s => [⟨.mobile, total, s⟩]
  | credit => [.plain .credit total]
  | split ts => ts

/-- The amount that is billed to the customer, without a sign. -/
def creditPortion (p : Payment) (total : Money) : Money :=
  match p with
  | credit => total
  | split ts =>
    (ts.filter (·.method == .credit)).foldl (fun sum t => Word.addClamped sum t.amount) 0
  | _ => 0

/-- Whether some part of the payment is billed to the customer. -/
def involvesCredit : Payment → Bool
  | credit => true
  | split ts => ts.any (·.method == .credit)
  | _ => false

/-- The payment with the kind, subtype and tenders that the store keeps. -/
def ofStored (kind : PaymentKind) (subtype : Option String) (tenders : List Tender) : Payment :=
  match kind with
  | .cash => cash
  | .mobile => mobile subtype
  | .credit => credit
  | .split => split tenders

/-- Nothing is lost in the store. -/
@[simp] theorem ofStored_tenders (p : Payment) (total : Money) :
    ofStored p.kind p.subtype (p.tenders total) = p := by
  cases p <;> rfl

/-- A payment involves credit if one of its tenders does. -/
theorem involvesCredit_eq_any (p : Payment) (total : Money) :
    p.involvesCredit = (p.tenders total).any (·.method == .credit) := by
  cases p <;> rfl

end Payment

/-- Whether the money of a receipt has arrived. -/
inductive PaymentStatus where
  | pending
  | completed
  | failed
  deriving DecidableEq, Repr

namespace PaymentStatus

/-- The name of a status. -/
def name : PaymentStatus → String
  | .pending => "PENDING"
  | .completed => "COMPLETED"
  | .failed => "FAILED"

/-- Payments are complete unless something says otherwise. -/
def default : PaymentStatus := .completed

/-- Only a pending payment moves, and only to an end. -/
def canMoveTo (source target : PaymentStatus) : Bool := source == .pending && target != .pending

theorem canMoveTo_iff {source target : PaymentStatus} :
    source.canMoveTo target = true ↔ source = pending ∧ target ≠ pending := by
  simp [canMoveTo]

end PaymentStatus

end Tillbook
