import Tillbook.Proofs.Balances
import Tillbook.Proofs.Products
import Tillbook.Proofs.StoredPayments

/-!
# What stands in the way of a commit

A request is checked against the store in a fixed order, and the first fault is the answer.
The faults are stated here one by one, without the steps that find them, and each check is
shown to find its own and no other.

## Main definitions

* `Commit.fault?` — the first fault of a request.

## Main statements

* `Commit.answers_checkStaff`, `Commit.answers_checkShift`, `Commit.answers_checkCredit`,
  `Commit.answers_priceAll` — the checks find their faults.
-/

namespace Tillbook

namespace Commit

/-! ## The faults -/

/-- The request is not in form. -/
def formFault? (request : CommitRequest) : Option LedgerError :=
  match Validation.commit request with
  | .ok _ => none
  | .error why => some (.refused why)

/-- The staff does not exist or is not active. -/
def staffFault? (request : CommitRequest) (s : Store) : Option LedgerError :=
  if (s.staffMember? request.staffId).any (·.isActive) then none
  else some (.refused (.invalidStaff request.staffId))

/-- The shift that is named does not exist or has ended. -/
def shiftFault? (request : CommitRequest) (s : Store) : Option LedgerError :=
  request.shiftId.bind fun id =>
    match s.shift? id with
    | none => some (.refused (.shiftNotFound id))
    | some shift => if shift.isOpen then none else some (.refused (.shiftAlreadyClosed id))

/-- The customer who is named does not exist. -/
def customerFault? (request : CommitRequest) (s : Store) : Option LedgerError :=
  request.customerId.bind fun id =>
    if (s.customer? id).isSome then none else some (.refused (.customerNotFound id))

/-- A sale bills something and the balance would pass the limit. -/
def limitFault? (request : CommitRequest) (s : Store) : Option LedgerError := do
  let id ← request.customerId
  let row ← s.customer? id
  let balance ← row.balance.word?
  let portion := request.payment.creditPortion request.total
  if request.isReturn = false ∧ 0 < portion ∧
      row.debtLimit.toInt < balance.toInt + portion.toInt then
    some (.refused (.debtLimitExceeded id balance portion row.debtLimit))
  else none

/-- The product of a line does not exist. -/
def productFault? (lines : List CartLine) (s : Store) : Option LedgerError :=
  (lines.find? fun line => (s.product? line.productId).isNone).map fun line =>
    .refused (.productNotFound line.productId)

/-- A receipt has the name under which the gateway should confirm the payment. -/
def checkoutFault? (request : CommitRequest) (s : Store) : Option LedgerError :=
  request.checkoutId.bind fun id =>
    if s.receipts.any (·.checkoutId == some id) then
      some (.store (.taken "receipts.checkout_request_id"))
    else none

/-- The first fault of a request. -/
def fault? (request : CommitRequest) (s : Store) : Option LedgerError :=
  (formFault? request).or <| (staffFault? request s).or <| (shiftFault? request s).or <|
    (customerFault? request s).or <| (limitFault? request s).or <|
      (productFault? request.items s).or (checkoutFault? request s)

variable {acc : Access} {s : Store} {request : CommitRequest}

/-! ## Staff and shift -/

theorem answers_checkStaff (readable : acc.Readable) :
    (checkStaff request.staffId).Answers acc s (staffFault? request s) := by
  refine .of_read readable rfl ?_
  unfold staffFault?
  cases s.staffMember? request.staffId with
  | none => exact Action.answers_refuse _
  | some member =>
    by_cases active : member.isActive = true
    · simpa [active] using Action.answers_pure ()
    · simpa [active] using Action.answers_refuse _

theorem answers_checkShift (readable : acc.Readable) :
    (checkShift request.shiftId).Answers acc s (shiftFault? request s) := by
  unfold shiftFault?
  cases request.shiftId with
  | none => exact Action.answers_pure ()
  | some id =>
    refine .of_read readable rfl ?_
    cases found : s.shift? id with
    | none => simpa [found] using Action.answers_refuse _
    | some shift =>
      by_cases running : shift.isOpen = true
      · simpa [found, running] using Action.answers_pure ()
      · simpa [found, running] using Action.answers_refuse _

/-! ## Credit -/

/-- No more is billed than the largest amount. -/
theorem creditPortion_le (form : Validation.commit request = .ok ()) :
    (request.payment.creditPortion request.total).toInt ≤ Validation.maxAmount.toInt := by
  obtain ⟨-, -, total, payment, -⟩ := Validation.commit_eq_ok_iff.1 form
  rw [Validation.amount_eq_ok_iff] at total
  exact (Payment.creditPortion_within payment total.1).2.trans total.2

/-- A moderate balance and an amount have a word for their sum and for their difference. -/
theorem checkLimit_of_bounds {c : Customer} (move : Money)
    (balance : c.balance.toInt.natAbs < 2 ^ 62) (most : move.toInt.natAbs ≤ 100000000000) :
    Credit.checkLimit c move =
      if 0 < move ∧ c.debtLimit.toInt < c.balance.toInt + move.toInt then
        .error (.debtLimitExceeded c.id c.balance move c.debtLimit)
      else .ok (Int64.ofInt (c.balance.toInt + move.toInt)) := by
  have sum : (Int64.ofInt (c.balance.toInt + move.toInt)).toInt = c.balance.toInt + move.toInt :=
    Int64.toInt_ofInt_of_le (by omega) (by omega)
  have word := Word.ofInt?_eq_some_iff.2 sum
  simp only [Credit.checkLimit, word, Int64.lt_iff_toInt_lt, sum]

/-- What is billed moves the balance, unless a sale passes the limit. -/
theorem answers_move {c : Customer} {portion : Money}
    (balance : c.balance.toInt.natAbs < 2 ^ 62) (something : 0 < portion)
    (most : portion.toInt ≤ 100000000000) (isReturn : Bool) :
    Action.Answers (do
      let delta ← .ofOverflow (Credit.delta portion isReturn)
      let _ ← Action.ofRefusal (Credit.checkLimit c delta)
      return some (⟨c, delta⟩ : CreditMove)) acc s
      (if isReturn = false ∧ c.debtLimit.toInt < c.balance.toInt + portion.toInt then
        some (.refused (.debtLimitExceeded c.id c.balance portion c.debtLimit)) else none) := by
  have positive := Int64.lt_iff_toInt_lt.1 something
  rw [Int64.toInt_zero] at positive
  cases isReturn with
  | true =>
    -- A return lowers the balance, so no limit is in its way.
    have word : (Int64.ofInt (-portion.toInt)).toInt = -portion.toInt :=
      Int64.toInt_ofInt_of_le (by omega) (by omega)
    have move : Credit.delta portion true = .ok (Int64.ofInt (-portion.toInt)) :=
      Word.neg_eq_ok_iff.2 word
    have falls : ¬0 < Int64.ofInt (-portion.toInt) := by
      rw [Int64.lt_iff_toInt_lt, word, Int64.toInt_zero]
      omega
    have within := checkLimit_of_bounds (Int64.ofInt (-portion.toInt)) balance (by omega)
    rw [if_neg fun rises => falls rises.1] at within
    rw [if_neg fun sale => nomatch sale.1]
    refine .bind_of_ok (Action.run_ofOverflow_eq_ok_iff.2 ⟨move, rfl⟩) ?_
    exact .bind_of_ok (Action.run_ofRefusal_eq_ok_iff.2 ⟨within, rfl⟩) (Action.answers_pure _)
  | false =>
    have limit := checkLimit_of_bounds portion balance (by omega)
    refine .bind_of_ok (Action.run_ofOverflow_eq_ok_iff.2 ⟨rfl, rfl⟩) ?_
    by_cases beyond : c.debtLimit.toInt < c.balance.toInt + portion.toInt
    · rw [if_pos ⟨something, beyond⟩] at limit
      rw [if_pos ⟨rfl, beyond⟩, limit]
      refine (?_ : (Action.refuse _ : Action (Option CreditMove)).Answers acc s _).of_fst rfl
      exact Action.answers_refuse _
    · rw [if_neg fun both => beyond both.2] at limit
      rw [if_neg fun both => beyond both.2]
      exact .bind_of_ok (Action.run_ofRefusal_eq_ok_iff.2 ⟨limit, rfl⟩) (Action.answers_pure _)

theorem answers_checkCredit (readable : acc.Readable)
    (balances : ∀ row ∈ s.customers, ∃ w, row.balance = .exact w ∧ w.toInt.natAbs < 2 ^ 62)
    (form : Validation.commit request = .ok ()) :
    (checkCredit request).Answers acc s
      ((customerFault? request s).or (limitFault? request s)) := by
  have most := creditPortion_le form
  have amount : Validation.maxAmount.toInt = 100000000000 := by decide
  rw [amount] at most
  unfold checkCredit customerFault? limitFault?
  cases request.customerId with
  | none => exact Action.answers_pure none
  | some id =>
    cases found : s.customer? id with
    | none =>
      have told : (s.customer? id).mapM (·.read) = .ok none := by
        rw [found]
        rfl
      exact .of_read readable told (by simpa [found] using Action.answers_refuse _)
    | some row =>
      have own : row.id = id := Store.id_of_customer? found
      obtain ⟨w, hw, small⟩ := balances row (List.mem_of_find?_eq_some found)
      have told : (s.customer? id).mapM (·.read) =
          .ok (some { row.toCustomerCard with balance := w }) :=
        mapM_eq_ok_some_iff.2 ⟨row, found, CustomerRow.read_eq_ok_iff.2 ⟨w, hw, rfl⟩⟩
      refine .of_read readable told ?_
      by_cases something : 0 < request.payment.creditPortion request.total
      · have moved : Action.Answers _ acc s _ :=
          answers_move (c := { row.toCustomerCard with balance := w }) small something most
            request.isReturn
        simpa [found, hw, something, own] using moved
      · simpa [found, hw, something] using Action.answers_pure none

/-! ## Prices -/

theorem answers_price (readable : acc.Readable)
    (stocks : ∀ row ∈ s.products, ∃ w, row.stock = .exact w) (stamp : Stamp) (position : Nat)
    (line : CartLine) :
    (price request stamp position line).Answers acc s
      (if (s.product? line.productId).isNone then
        some (.refused (.productNotFound line.productId)) else none) := by
  cases found : s.product? line.productId with
  | none =>
    have told : (s.product? line.productId).mapM (·.read) = .ok none := by
      rw [found]
      rfl
    exact .of_read readable told (Action.answers_refuse _)
  | some row =>
    obtain ⟨w, stock⟩ := stocks row (List.mem_of_find?_eq_some found)
    exact ⟨_, congrArg Prod.fst
      (run_price_eq_ok_iff.2 ⟨readable, rfl, row, w, found, stock, rfl⟩)⟩

/-- The first product that is missing is the fault of a cart. -/
theorem answers_priceAll (readable : acc.Readable)
    (stocks : ∀ row ∈ s.products, ∃ w, row.stock = .exact w) (stamp : Stamp) (position : Nat)
    (lines : List CartLine) :
    (priceAll request stamp position lines).Answers acc s (productFault? lines s) := by
  induction lines generalizing position with
  | nil => exact Action.answers_pure []
  | cons line rest ih =>
    have whole : productFault? (line :: rest) s =
        (if (s.product? line.productId).isNone then
          some (.refused (.productNotFound line.productId)) else none).or
          (productFault? rest s) := by
      unfold productFault?
      rw [List.find?_cons]
      cases s.product? line.productId <;> rfl
    rw [whole]
    refine (answers_price readable stocks stamp position line).bind fun item t run => ?_
    obtain ⟨-, rfl, -⟩ := run_price_eq_ok_iff.1 run
    exact (ih (position + 1)).bind_none fun _ _ _ => Action.answers_pure _

end Commit

end Tillbook
