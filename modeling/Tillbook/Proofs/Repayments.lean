import Tillbook.Proofs.Balances

/-!
# Repayments

A repayment brings a balance down by what is paid, but not below zero.  What a customer owes
never falls by more than was paid, and it does not rise.  A return on credit can leave a balance
below zero, though, and this the next repayment brings up to zero: the shop does not owe the
customer any longer.

## Main definitions

* `Settlement.Repaid` — a customer has repaid an amount, and nothing else has changed.

## Main statements

* `Settlement.repaid_of_run` — what changes with a repayment.
* `Settlement.Repaid.fall_le`, `Settlement.Repaid.le_of_nonneg`, `Settlement.Repaid.eq_zero_of_neg`
  — how the balance moves.
* `History.balance_after_repayment` — the repayments of every run.
-/

namespace Tillbook

variable {acc : Access} {s s' : Store} {stamp : Stamp} {id : String} {amount : Money}
  {before c : Customer}

namespace Settlement

/-- A customer has repaid an amount.  The balance that is told is the one that is stored, while the
moment that is told is the one before the balance was set.  All other customers are what they
were. -/
structure Repaid (stamp : Stamp) (id : String) (amount : Money) (s : Store)
    (before c : Customer) (s' : Store) : Prop where
  positive : 0 < amount.toInt
  found : ∀ acc : Access, acc.Readable → (Accounts.find id).run acc s = (.ok (some before), s)
  stored : ∀ acc : Access, acc.Readable → (Accounts.find id).run acc s' =
    (.ok (some { before with updatedAt := stamp.later, balance := c.balance }), s')
  told : c = { before with updatedAt := stamp.now, balance := c.balance }
  balance : c.balance.toInt = max 0 (before.balance.toInt - amount.toInt)
  others : ∀ other, other ≠ id → s'.customer? other = s.customer? other

/-- What changes with a repayment. -/
theorem repaid_of_run (h : (repay stamp id amount).run acc s = (.ok c, s')) :
    ∃ before, Repaid stamp id amount s before c s' := by
  obtain ⟨-, -, positive, -, row, w, found, balance, rfl, rfl⟩ := run_repay_eq_ok_iff.1 h
  have own : row.id = id := Store.id_of_customer? found
  have kept : ∀ row, (repaid stamp.later w amount row).id = row.id := fun _ => rfl
  have stored : (Accounts.change id (repaid stamp.later w amount) s).customer? id =
      some (repaid stamp.later w amount row) := by
    rw [Accounts.customer?_change kept, found]
    simp [own]
  have reads : row.read = .ok { row.toCustomerCard with balance := w } :=
    CustomerRow.read_eq_ok_iff.2 ⟨w, balance, rfl⟩
  refine ⟨{ row.toCustomerCard with balance := w }, positive, fun acc readable => ?_,
    fun acc readable => ?_, rfl, Credit.toInt_repay positive, fun other ne => ?_⟩
  · exact Accounts.run_find_of_read readable found reads
  · exact Accounts.run_find_of_read readable stored rfl
  · rw [Accounts.customer?_change kept]
    cases there : s.customer? other with
    | none => rfl
    | some row' =>
      have named : row'.id = other := Store.id_of_customer? there
      simp [named, ne]

namespace Repaid

/-- A balance falls by what is paid at most. -/
theorem fall_le (h : Repaid stamp id amount s before c s') :
    before.balance.toInt - c.balance.toInt ≤ amount.toInt := by
  have balance := h.balance
  omega

/-- What is owed does not rise. -/
theorem le_of_nonneg (h : Repaid stamp id amount s before c s')
    (owing : 0 ≤ before.balance.toInt) : c.balance.toInt ≤ before.balance.toInt := by
  have balance := h.balance
  have positive := h.positive
  omega

/-- A balance below zero rises to zero. -/
theorem eq_zero_of_neg (h : Repaid stamp id amount s before c s')
    (owed : before.balance.toInt < 0) : c.balance = 0 := by
  have balance := h.balance
  have positive := h.positive
  rw [← Int64.toInt_inj, Int64.toInt_zero]
  omega

end Repaid

end Settlement

/-- The answer to the call tells the customer. -/
theorem Call.run_repay_eq_ok_iff {call : Call} {reply : Reply}
    (op : call.operation = .repay id amount) :
    call.run s = (.ok reply, s') ↔ ∃ c, reply = .customer (some c) ∧
      (Settlement.repay call.stamp id amount).run call.access s = (.ok c, s') :=
  run_eq_ok_iff_of_action (by rw [op]; rfl)

namespace History

/-- A repayment that succeeds tells the customer with the balance as stored, which is what is left
after the amount and zero at least.  The balance falls by the amount at most, and it does not
rise unless it was below zero; then it is zero. -/
theorem balance_after_repayment (calls : List Call) (call : Call) (id : String) (amount : Money)
    (op : call.operation = .repay id amount) (reply : Reply)
    (done : (call.run (of calls).store).1 = .ok reply) :
    let s := (of calls).store
    ∃ before c, reply = .customer (some c) ∧
      Settlement.Repaid call.stamp id amount s before c (call.run s).2 ∧
      before.balance.toInt - c.balance.toInt ≤ amount.toInt ∧
      (0 ≤ before.balance.toInt → c.balance.toInt ≤ before.balance.toInt) ∧
      (before.balance.toInt < 0 → c.balance = 0) := by
  intro s
  obtain ⟨c, told, run⟩ := (Call.run_repay_eq_ok_iff op).1 (Prod.ext done rfl)
  obtain ⟨before, repaid⟩ := Settlement.repaid_of_run run
  exact ⟨before, c, told, repaid, repaid.fall_le, repaid.le_of_nonneg, repaid.eq_zero_of_neg⟩

/-- Of four hundred on credit a hundred is repaid.  The row is noted a second after the answer. -/
theorem balance_after_repayment_of_debt :
    let calls := Day.opening ++ [Day.ask "r1" (.commit (Day.purchase .credit 2 400))]
    let asked := Day.ask "paid" (.repay "otieno" 100)
    let call :=
      { asked with stamp := { asked.stamp with later := { Day.moment with second := 1 } } }
    let s := (of calls).store
    let otieno (balance : Money) : Customer := ⟨(Day.otieno 1000 0).toCustomerCard, balance⟩
    (call.run s).1 = .ok (.customer (some (otieno 300))) ∧
      Settlement.Repaid call.stamp "otieno" 100 s (otieno 400) (otieno 300) (call.run s).2 := by
  intro calls asked call s otieno
  have done : (call.run s).1 = .ok (.customer (some (otieno 300))) := by decide +kernel
  have owing : ((Accounts.find "otieno").run call.access s).1 = .ok (some (otieno 400)) := by
    decide +kernel
  obtain ⟨before, c, same, repaid, -⟩ := balance_after_repayment calls call "otieno" 100 rfl _ done
  obtain rfl : otieno 300 = c := Option.some.inj (Reply.customer.inj same)
  rw [repaid.found call.access (by decide)] at owing
  obtain rfl : before = otieno 400 := Option.some.inj (Except.ok.inj owing)
  exact ⟨done, repaid⟩

/-- Four hundred are returned on credit, so that the shop owes them to the customer.  A hundred
more is repaid, and the shop owes nothing. -/
theorem balance_rises_by_repayment :
    let back := { Day.purchase .credit 2 400 with isReturn := true }
    let calls := Day.opening ++ [Day.ask "r1" (.commit back)]
    let call := Day.ask "paid" (.repay "otieno" 100)
    let s := (of calls).store
    s.customers = [Day.otieno 1000 (-400)] ∧
      (call.run s).1 = .ok (.customer (some ⟨(Day.otieno 1000 0).toCustomerCard, 0⟩)) ∧
      (call.run s).2.customers = [Day.otieno 1000 0] := by
  decide +kernel

end History

end Tillbook
