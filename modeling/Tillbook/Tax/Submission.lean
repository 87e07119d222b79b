import Tillbook.Ledger.Sink
import Tillbook.Tax.Invoice
import Tillbook.Tax.Settings

/-!
# Submitting invoices

An invoice is built from a receipt and the buyer's number, and posted to the
endpoint of the tax authority.

## Main definitions

* `TaxSubmitter` — settings that have been checked.
* `TaxSubmitter.submit` — the submission of a receipt.
* `TaxSubmitter.sink` — the same, as one who is told of receipts.
-/

namespace Tillbook

/-- What the endpoint answers to an invoice. -/
structure TaxResponse where
  status : Nat
  body : String
  deriving DecidableEq, Repr

/-- What came of a submission. -/
inductive TaxOutcome where
  | skipped
  | submitted (status : Nat)
  deriving DecidableEq, Repr

/-- What a submission needs of the rest of the world: customers by identity, and
an endpoint, which may be out of reach for a reason. -/
structure TaxWorld where
  customer : String → Except StoreError (Option Customer)
  post : String → TaxInvoice → Except String TaxResponse

/-- Settings that have been checked. -/
structure TaxSubmitter where
  settings : TaxSettings
  checked : settings.check = .ok ()

namespace TaxSubmitter

/-- The submitter with the given settings. -/
def ofSettings (settings : TaxSettings) : Except TaxError TaxSubmitter :=
  match h : settings.check with
  | .ok () => .ok ⟨settings, h⟩
  | .error e => .error e

/-- The number of the buyer of a receipt. -/
def buyerPin (world : TaxWorld) (c : Committed) : Except TaxError (Option String) :=
  match c.receipt.customerId with
  | none => .ok none
  | some id =>
    match world.customer id with
    | .ok customer => .ok (customer.bind (·.taxPin))
    | .error why => .error (.database why)

/-- The invoice of a receipt.  A sum that leaves the range of a word is no failure that whoever
asks for the invoice could handle. -/
def invoice (s : TaxSubmitter) (world : TaxWorld) (c : Committed) :
    ExceptT TaxError (Except Overflow) TaxInvoice := do
  let pin ← buyerPin world c
  TaxInvoice.ofCommitted c s.settings.sellerPin pin s.settings.rate

/-- The submission of a receipt.  Only an answer between 200 and 299 is a success. -/
def submit (s : TaxSubmitter) (world : TaxWorld) (c : Committed) :
    ExceptT TaxError (Except Overflow) TaxOutcome := do
  match s.settings.url, s.settings.isEnabled with
  | some url, true =>
    let invoice ← s.invoice world c
    match world.post url invoice with
    | .error detail => throw (.unreachable detail)
    | .ok response =>
      if 200 ≤ response.status ∧ response.status ≤ 299 then return .submitted response.status
      else throw (.rejected invoice.number response.status response.body)
  | _, _ => return .skipped

/-- One who is told of receipts and submits their invoices. -/
def sink (s : TaxSubmitter) (world : TaxWorld) : Sink where
  name := "tax"
  deliver c := do
    let outcome ← (s.submit world c).run
    return (outcome.map fun _ => ()).mapError (·.message)

end TaxSubmitter

end Tillbook
