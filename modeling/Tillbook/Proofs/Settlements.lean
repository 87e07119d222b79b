import Tillbook.Ledger.Settlement
import Tillbook.Proofs.Payments
import Tillbook.Proofs.ReceiptWrites

/-!
# What the other operations do

A repayment, the end of a pending payment, a number without a receipt, and the two
ends of a shift: what each has found in the store when it succeeds, and the store
that it leaves.

## Main statements

* `Settlement.run_repay_eq_ok_iff` — a repayment takes the place of the balance.
* `Settlement.run_settle_eq_ok_iff` — the receipts that wait come to their end.
* `Till.run_openShift_eq_ok_iff` — a shift is begun, or one was running.
* `Till.run_closeShift_eq_ok_iff` — a shift ends with the cash that was expected.
* `Till.run_zReport_eq_ok_iff` — a running shift is reported on.
-/

namespace Tillbook

variable {acc : Access} {s s' : Store}

theorem Till.run_check_eq_ok_iff {check : Except Invalid Unit} {u : Unit} :
    (Till.check check).run acc s = (.ok u, s') ↔ check = .ok () ∧ s = s' := by
  rw [Till.check, Action.run_ofRefusal_eq_ok_iff, Validation.orRefuse_eq_ok_iff]

namespace Settlement

/-- The row of a customer after a repayment. -/
def repaid (now : Timestamp) (balance amount : Money) (row : CustomerRow) : CustomerRow :=
  { row with balance := .exact (Credit.repay balance amount), updatedAt := now }

/-- A repayment takes the place of the balance, which it brings down to zero at most.  The answer
has the moment before the balance was set. -/
theorem run_repay_eq_ok_iff {stamp : Stamp} {id : String} {amount : Money} {c : Customer} :
    (repay stamp id amount).run acc s = (.ok c, s') ↔
      acc.Writable ∧ Validation.present "customer_id" id = .ok () ∧ 0 < amount.toInt ∧
        amount.toInt ≤ Validation.maxAmount.toInt ∧ ∃ row w, s.customer? id = some row ∧
          row.balance = .exact w ∧
          c = { row.toCustomerCard with
            updatedAt := stamp.now, balance := Credit.repay w amount } ∧
          s' = Accounts.change id (repaid stamp.later w amount) s := by
  simp only [repay, Action.run_bind_eq_ok_iff, Till.run_check_eq_ok_iff,
    Action.run_atomically_eq_ok_iff, Accounts.run_touch_eq_ok_iff, Accounts.run_find_eq_ok_iff,
    Validation.positive_eq_ok_iff, Validation.amount_eq_ok_iff]
  have touched : ∀ row : CustomerRow,
      ({ row with updatedAt := stamp.now } : CustomerRow).id = row.id := fun _ => rfl
  constructor
  · rintro ⟨_, _, ⟨present, rfl⟩, _, _, ⟨positive, rfl⟩, _, _, ⟨⟨-, most⟩, rfl⟩, _, _,
      ⟨writable, -, rfl⟩, found, _, ⟨-, read, rfl⟩, h⟩
    cases found with
    | none => simp at h
    | some customer =>
      obtain ⟨row', hrow', hread⟩ := mapM_eq_ok_some_iff.1 read
      obtain ⟨w, balance, rfl⟩ := CustomerRow.read_eq_ok_iff.1 hread
      rw [Accounts.customer?_change touched] at hrow'
      obtain ⟨row, hrow, rfl⟩ := Option.map_eq_some_iff.1 hrow'
      have own : row.id = id := Store.id_of_customer? hrow
      subst own
      simp only [beq_self_eq_true, if_true] at balance h
      simp only [Action.run_bind_eq_ok_iff, Accounts.run_setBalance_eq_ok_iff,
        Action.run_pure_eq_ok_iff] at h
      obtain ⟨_, _, ⟨-, -, rfl⟩, rfl, rfl⟩ := h
      exact ⟨writable, present, positive, most, row, w, hrow, balance, rfl,
        Accounts.change_change touched row.id⟩
  · rintro ⟨writable, present, positive, most, row, w, hrow, balance, rfl, rfl⟩
    have own : row.id = id := Store.id_of_customer? hrow
    have hrow' :
        (Accounts.change id (fun row => { row with updatedAt := stamp.now }) s).customer? id =
          some { row with updatedAt := stamp.now } := by
      rw [Accounts.customer?_change touched, hrow]
      simp [own]
    have read : ({ row with updatedAt := stamp.now } : CustomerRow).read =
        .ok { row.toCustomerCard with updatedAt := stamp.now, balance := w } :=
      CustomerRow.read_eq_ok_iff.2 ⟨w, balance, rfl⟩
    refine ⟨(), s, ⟨present, rfl⟩, (), s, ⟨positive, rfl⟩, (), s, ⟨⟨positive.le, most⟩, rfl⟩, _, _,
      ⟨writable, rfl, rfl⟩, _, _,
      ⟨writable.1, mapM_eq_ok_some_iff.2 ⟨_, hrow', read⟩, rfl⟩, ?_⟩
    simp only [Action.run_bind_eq_ok_iff, Accounts.run_setBalance_eq_ok_iff,
      Action.run_pure_eq_ok_iff]
    exact ⟨(), _, ⟨writable, by rw [hrow']; rfl, rfl⟩, trivial, Accounts.change_change touched id⟩

/-- A station in form gives out its next number. -/
theorem run_nextNumber_eq_ok_iff {station number : String} :
    (nextNumber station).run acc s = (.ok number, s') ↔
      acc.Writable ∧ Validation.station station = .ok () ∧
        ∃ n, (s.lastNumber station).add 1 = .exact n ∧
          number = ReceiptNumber.format station n ∧ s' = Counters.issued station s := by
  simp only [nextNumber, Action.run_bind_eq_ok_iff, Till.run_check_eq_ok_iff,
    Action.run_atomically_eq_ok_iff, Counters.run_nextReceiptNumber_eq_ok_iff]
  constructor
  · rintro ⟨_, _, ⟨form, rfl⟩, writable, h⟩
    exact ⟨writable, form, h⟩
  · rintro ⟨writable, form, h⟩
    exact ⟨(), s, ⟨form, rfl⟩, writable, h⟩

/-- The receipts that wait for the gateway come to their end, and the first that the
gateway knows by the name is told. -/
theorem run_settle_eq_ok_iff {checkoutId : String} {status : PaymentStatus}
    {reference : Option String} {r : Receipt} :
    (settle checkoutId status reference).run acc s = (.ok r, s') ↔
      acc.Writable ∧ Validation.present "checkout_request_id" checkoutId = .ok () ∧
        status ≠ .pending ∧ s.receipts.any (·.awaits checkoutId) = true ∧
        s' = { s with receipts := s.receipts.map (·.settled checkoutId status reference) } ∧
        (s'.receipts.find? (·.checkoutId == some checkoutId)).map s'.receipt = some r := by
  simp only [settle, Action.run_bind_eq_ok_iff, Till.run_check_eq_ok_iff]
  constructor
  · rintro ⟨_, _, ⟨present, rfl⟩, h⟩
    by_cases ends : PaymentStatus.pending.canMoveTo status = true
    · simp only [ends, if_true, Action.run_atomically_eq_ok_iff, Action.run_bind_eq_ok_iff,
        Receipts.run_settle_eq_ok_iff, Receipts.findByCheckout, Action.run_read_eq_ok_iff] at h
      obtain ⟨moved, _, ⟨writable, waiting, rfl⟩, found, _, ⟨-, told, rfl⟩, h⟩ := h
      cases found with
      | none => simp at h
      | some receipt =>
        cases moved with
        | false => simp at h
        | true =>
          obtain ⟨rfl, rfl⟩ := Action.run_pure_eq_ok_iff.1 h
          exact ⟨writable, present, (PaymentStatus.canMoveTo_iff.1 ends).2, waiting, rfl,
            Except.ok.inj told⟩
    · simp [ends] at h
  · rintro ⟨writable, present, ends, waiting, rfl, told⟩
    refine ⟨(), s, ⟨present, rfl⟩, ?_⟩
    rw [if_pos (PaymentStatus.canMoveTo_iff.2 ⟨rfl, ends⟩), Action.run_atomically_eq_ok_iff]
    simp only [Action.run_bind_eq_ok_iff, Receipts.run_settle_eq_ok_iff, Receipts.findByCheckout,
      Action.run_read_eq_ok_iff]
    exact ⟨true, _, ⟨writable, waiting, rfl⟩, some r, _,
      ⟨writable.1, congrArg Except.ok told, rfl⟩, rfl⟩

end Settlement

/-- A shift after it has ended. -/
def Shift.ended (now : Timestamp) (actual expected : Money) (shift : Shift) : Shift :=
  { shift with
    closedAt := some now, closingActual := some actual, closingExpected := some expected }

namespace Till

/-- A running shift is told: the one that there was, or a new one. -/
theorem run_openShift_eq_ok_iff {stamp : Stamp} {staffId : String} {openingFloat : Money}
    {shift : Shift} :
    (openShift stamp staffId openingFloat).run acc s = (.ok shift, s') ↔
      acc.Writable ∧ Validation.present "staff_id" staffId = .ok () ∧ 0 ≤ openingFloat.toInt ∧
        openingFloat.toInt ≤ Validation.maxAmount.toInt ∧
        (∃ member, s.staffMember? staffId = some member ∧ member.isActive = true) ∧
        (s.openShift? staffId = some shift ∧ s' = s ∨
          s.openShift? staffId = none ∧ s.shift? stamp.id = none ∧
            shift = Shifts.begun stamp staffId openingFloat ∧
            s' = { s with shifts := s.shifts ++ [shift] }) := by
  have added (free : s.openShift? staffId = none) :
      Store.openShift? { s with shifts := s.shifts ++ [Shifts.begun stamp staffId openingFloat] }
        staffId = some (Shifts.begun stamp staffId openingFloat) := by
    rw [Store.openShift?, List.find?_append, ← Store.openShift?, free]
    simp [Shifts.begun, Shift.isOpen]
  simp only [openShift, Action.run_bind_eq_ok_iff, run_check_eq_ok_iff, Roster.find,
    Action.run_read_eq_ok_iff, Validation.amount_eq_ok_iff]
  constructor
  · rintro ⟨_, _, ⟨present, rfl⟩, _, _, ⟨⟨nonnegative, most⟩, rfl⟩, found, _, ⟨-, ⟨⟩, rfl⟩, h⟩
    cases hm : s.staffMember? staffId with
    | none => simp [hm, Action.run_bind_eq_ok_iff] at h
    | some member =>
      by_cases active : member.isActive = true
      · simp only [hm, active, if_true, Action.run_bind_eq_ok_iff,
          Action.run_atomically_eq_ok_iff, Shifts.findOpen, Action.run_read_eq_ok_iff] at h
        obtain ⟨_, t, inserted, running, _, ⟨-, ⟨⟩, rfl⟩, h⟩ := h
        obtain ⟨writable, inserted⟩ := Shifts.run_insertOpen_eq_ok_iff.1 inserted
        refine ⟨writable, present, nonnegative, most, ⟨member, rfl, active⟩, ?_⟩
        cases hrunning : t.openShift? staffId with
        | none => simp [hrunning] at h
        | some running =>
          rw [hrunning] at h
          obtain ⟨rfl, rfl⟩ := Action.run_pure_eq_ok_iff.1 h
          split at inserted
          · obtain ⟨-, rfl⟩ := inserted
            exact .inl ⟨hrunning, rfl⟩
          · next new =>
            obtain ⟨-, -, rfl⟩ := inserted
            simp only [not_or, Option.not_isSome_iff_eq_none] at new
            obtain ⟨-, fresh, free⟩ := new
            obtain rfl := Option.some.inj ((added free).symm.trans hrunning)
            exact .inr ⟨free, fresh, rfl, rfl⟩
      · simp [hm, active, Action.run_bind_eq_ok_iff] at h
  · rintro ⟨writable, present, nonnegative, most, ⟨member, hm, active⟩, h⟩
    refine ⟨(), s, ⟨present, rfl⟩, (), s, ⟨⟨nonnegative, most⟩, rfl⟩, _, s,
      ⟨writable.1, rfl, rfl⟩, ?_⟩
    simp only [hm, active, if_true, Action.run_bind_eq_ok_iff, Action.run_atomically_eq_ok_iff,
      Shifts.findOpen, Action.run_read_eq_ok_iff]
    rcases h with ⟨running, rfl⟩ | ⟨free, new, rfl, rfl⟩
    · refine ⟨false, _, Shifts.run_insertOpen_eq_ok_iff.2 ⟨writable, ?_⟩, some shift, _,
        ⟨writable.1, by rw [running], rfl⟩, rfl⟩
      rw [if_pos (by simp [running])]
      exact ⟨rfl, rfl⟩
    · refine ⟨true, _, Shifts.run_insertOpen_eq_ok_iff.2 ⟨writable, ?_⟩, some _, _,
        ⟨writable.1, by rw [added free], rfl⟩, rfl⟩
      have float : ¬openingFloat < 0 := by
        rw [Int64.lt_iff_toInt_lt, Int64.toInt_zero]
        omega
      rw [if_neg (by simp [float, new, free])]
      exact ⟨by simp [hm], rfl, rfl⟩

/-- A shift ends with the cash that was counted and the cash that was expected. -/
theorem run_closeShift_eq_ok_iff {stamp : Stamp} {shiftId : String} {actual : Money}
    {z : ZReport} :
    (closeShift stamp shiftId actual).run acc s = (.ok z, s') ↔
      acc.Writable ∧ Validation.present "shift_id" shiftId = .ok () ∧ 0 ≤ actual.toInt ∧
        actual.toInt ≤ Validation.maxAmount.toInt ∧
        ∃ shift totals, s.shift? shiftId = some shift ∧ shift.isOpen = true ∧
          ShiftTotals.ofLines (Shifts.linesOf shiftId s) = .ok totals ∧
          z = .ofTotals (shift.ended stamp.now actual (totals.expectedCash shift.openingFloat))
            totals actual ∧
          s' = Shifts.change shiftId
            (·.ended stamp.now actual (totals.expectedCash shift.openingFloat)) s := by
  obtain ⟨closing, hclosing⟩ : ∃ f, f = fun shift : Shift =>
      { shift with closedAt := some stamp.now } := ⟨_, rfl⟩
  have keeps : ∀ shift, (closing shift).id = shift.id := fun _ => by rw [hclosing]
  simp only [closeShift, Action.run_bind_eq_ok_iff, run_check_eq_ok_iff,
    Action.run_atomically_eq_ok_iff, Shifts.run_markClosed_eq_ok_iff, Shifts.find,
    Action.run_read_eq_ok_iff, Validation.amount_eq_ok_iff, ← hclosing]
  constructor
  · rintro ⟨_, _, ⟨present, rfl⟩, _, _, ⟨⟨nonnegative, most⟩, rfl⟩, closed, _,
      ⟨writable, wasOpen, rfl⟩, _, _, ⟨-, ⟨⟩, rfl⟩, h⟩
    cases closed with
    | false => cases hshift : s.shift? shiftId <;> simp [hshift] at h
    | true =>
      rw [if_pos rfl, Shifts.shift?_change keeps] at h
      cases hshift : s.shift? shiftId with
      | none => simp [hshift] at h
      | some shift =>
        have own : shift.id = shiftId := Table.key_of_find? (fun shift : Shift => shift.id) hshift
        subst own
        simp only [hshift, Option.map_some, beq_self_eq_true, if_true, Action.run_bind_eq_ok_iff,
          Action.run_ofOverflow_eq_ok_iff, Shifts.tenderLines, Action.run_read_eq_ok_iff,
          Shifts.run_recordClose_eq_ok_iff, Action.run_pure_eq_ok_iff] at h
        obtain ⟨_, _, ⟨-, ⟨⟩, rfl⟩, totals, _, ⟨sums, rfl⟩, _, _, ⟨-, rfl⟩, rfl, rfl⟩ := h
        have running : shift.isOpen = true := by simpa [hshift] using wasOpen
        refine ⟨writable, present, nonnegative, most, shift, totals, rfl, running, ?_⟩
        rw [Shifts.change_change keeps, hclosing]
        exact ⟨sums, rfl, rfl⟩
  · rintro ⟨writable, present, nonnegative, most, shift, totals, found, running, sums, rfl, rfl⟩
    have own : shift.id = shiftId := Table.key_of_find? (fun shift : Shift => shift.id) found
    have closed : (Shifts.change shiftId closing s).shift? shiftId = some (closing shift) := by
      rw [Shifts.shift?_change keeps, found]
      simp [own]
    refine ⟨(), s, ⟨present, rfl⟩, (), s, ⟨⟨nonnegative, most⟩, rfl⟩, true, _,
      ⟨writable, by simpa [found] using running, rfl⟩, _, _,
      ⟨writable.1, congrArg Except.ok closed, rfl⟩, ?_⟩
    simp only [if_true, Action.run_bind_eq_ok_iff, Action.run_ofOverflow_eq_ok_iff,
      Shifts.tenderLines, Action.run_read_eq_ok_iff, Shifts.run_recordClose_eq_ok_iff,
      Action.run_pure_eq_ok_iff]
    refine ⟨_, _, ⟨writable.1, rfl, rfl⟩, totals, _, ⟨sums, rfl⟩, (), _, ⟨writable, rfl⟩, ?_, ?_⟩
    · rw [hclosing]
      rfl
    · rw [Shifts.change_change keeps, hclosing]
      rfl

/-- A running shift is reported on before any cash is counted. -/
theorem run_zReport_eq_ok_iff {shiftId : String} {z : ZReport} :
    (zReport shiftId).run acc s = (.ok z, s') ↔
      acc.Readable ∧ Validation.present "shift_id" shiftId = .ok () ∧ s = s' ∧
        ∃ shift totals, s.shift? shiftId = some shift ∧ shift.isOpen = true ∧
          ShiftTotals.ofLines (Shifts.linesOf shiftId s) = .ok totals ∧
          z = .ofTotals shift totals (shift.closingActual.getD 0) := by
  simp only [zReport, Action.run_bind_eq_ok_iff, run_check_eq_ok_iff, Shifts.find,
    Action.run_read_eq_ok_iff]
  constructor
  · rintro ⟨_, _, ⟨present, rfl⟩, _, _, ⟨readable, ⟨⟩, rfl⟩, h⟩
    cases found : s.shift? shiftId with
    | none => simp [found] at h
    | some shift =>
      by_cases running : shift.isOpen = true
      · simp only [found, running, if_true, Action.run_bind_eq_ok_iff, Shifts.tenderLines,
          Action.run_ofOverflow_eq_ok_iff, Action.run_read_eq_ok_iff,
          Action.run_pure_eq_ok_iff] at h
        obtain ⟨_, _, ⟨-, ⟨⟩, rfl⟩, totals, _, ⟨sums, rfl⟩, rfl, rfl⟩ := h
        exact ⟨readable, present, rfl, shift, totals, rfl, running, sums, rfl⟩
      · simp [found, running] at h
  · rintro ⟨readable, present, rfl, shift, totals, found, running, sums, rfl⟩
    refine ⟨(), s, ⟨present, rfl⟩, _, s, ⟨readable, rfl, rfl⟩, ?_⟩
    simp only [found, running, if_true, Action.run_bind_eq_ok_iff, Shifts.tenderLines,
      Action.run_ofOverflow_eq_ok_iff, Action.run_read_eq_ok_iff, Action.run_pure_eq_ok_iff]
    exact ⟨_, s, ⟨readable, rfl, rfl⟩, totals, s, ⟨sums, rfl⟩, rfl, rfl⟩

/-- The report of a running shift whose lines can be summed. -/
theorem run_zReport_of_totals {shiftId : String} {shift : Shift} {totals : ShiftTotals}
    (readable : acc.Readable) (named : ¬Text.Blank shiftId) (found : s.shift? shiftId = some shift)
    (running : shift.isOpen = true)
    (sums : ShiftTotals.ofLines (Shifts.linesOf shiftId s) = .ok totals) :
    (zReport shiftId).run acc s =
      (.ok (.ofTotals shift totals (shift.closingActual.getD 0)), s) :=
  run_zReport_eq_ok_iff.2
    ⟨readable, Validation.present_eq_ok_iff.2 named, rfl, shift, totals, found, running, sums, rfl⟩

end Till

end Tillbook
