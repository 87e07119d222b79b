import Tillbook.Customer
import Tillbook.Failure

/-!
# Credit

What a receipt bills to a customer, the limit that a balance may not be raised
above, and repayments.

## Main definitions

* `Credit.delta` — the move of the balance by a billed portion.
* `Credit.checkLimit` — the balance after a move, unless it passes the limit.
* `Credit.repay` — the balance after a repayment.

## Main statements

* `Credit.checkLimit_eq_ok_iff` — which moves are within the limit.
-/

namespace Tillbook.Credit

/-- The move of the balance by a billed portion: a return takes it back. -/
def delta (portion : Money) (isReturn : Bool) : Except Overflow Money :=
  if isReturn then Word.neg portion else .ok portion

/-- The balance of a customer after a move.  Only a rise is held against the
limit: a return may always bring a balance down, also one above a limit that was
lowered since.  A sum that is no word is above every limit. -/
def checkLimit (c : Customer) (move : Money) : Except Refusal Money :=
  let exceeded := Refusal.debtLimitExceeded c.id c.balance move c.debtLimit
  match Word.ofInt? (c.balance.toInt + move.toInt) with
  | none => .error exceeded
  | some balance => if 0 < move ∧ c.debtLimit < balance then .error exceeded else .ok balance

/-- A move is within the limit if its sum is a word and, for a rise, at most the limit. -/
theorem checkLimit_eq_ok_iff {c : Customer} {move balance : Money} :
    checkLimit c move = .ok balance ↔
      balance.toInt = c.balance.toInt + move.toInt ∧ ¬(0 < move ∧ c.debtLimit < balance) := by
  unfold checkLimit
  dsimp only
  split
  · next h =>
    refine ⟨nofun, fun ⟨sum, _⟩ => ?_⟩
    rw [Word.ofInt?_eq_some_iff.2 sum] at h
    cases h
  · next sum h =>
    have total := Word.ofInt?_eq_some_iff.1 h
    split
    · next beyond =>
      refine ⟨nofun, fun ⟨same, within⟩ => absurd beyond ?_⟩
      rwa [Int64.toInt_inj.1 (total.trans same.symm)]
    · next within =>
      constructor
      · rintro ⟨⟩
        exact ⟨total, within⟩
      · rintro ⟨same, _⟩
        rw [Int64.toInt_inj.1 (total.trans same.symm)]

/-- The balance after a repayment: the shop never owes the customer. -/
def repay (balance amount : Money) : Money :=
  let left := Word.subClamped balance amount
  if left < 0 then 0 else left

end Tillbook.Credit
