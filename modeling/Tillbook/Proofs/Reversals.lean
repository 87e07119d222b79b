import Tillbook.Proofs.CommitChanges
import Tillbook.Proofs.Orders
import Tillbook.Proofs.Returns

/-!
# Returns undo sales

The same request as a return takes back all that a sale has moved.  It always succeeds: what the
sale took out of the stocks has room there, and what it put on a balance can be taken off again.
The takings of the shift cancel, and the shift has two receipts more.

## Main definitions

* `CommitRequest.reversed` — the same request as a return.

## Main statements

* `Commit.Booked.returnable` — nothing stands in the way of a return of what was sold.
* `ProductRow.ChangedBy.reversed`, `CustomerRow.ChangedBy.reversed` — the rows are as they were.
* `Commit.Booked.exists_zReports` — so are the takings of the shift.
* `History.return_undoes_sale` — the sales and returns of every run.
-/

namespace Tillbook

/-! ## The reversed request -/

namespace CommitRequest

variable {request : CommitRequest}

/-- The same request as a return, which no gateway has to confirm. -/
def reversed (request : CommitRequest) : CommitRequest :=
  { request with isReturn := true, checkoutId := none }

theorem unitsOf_reversed (sells : request.isReturn = false) (productId : String) :
    request.reversed.unitsOf productId = -request.unitsOf productId := by
  simp [unitsOf, reversed, sells, List.sum_neg, Function.comp_def]

theorem billed_reversed (sells : request.isReturn = false) :
    request.reversed.billed = -request.billed := by
  simp [billed, reversed, sells]

theorem onCredit_reversed (sells : request.isReturn = false) :
    request.reversed.onCredit = -request.onCredit := by
  simp [onCredit, reversed, sells]

theorem takenIn_reversed (sells : request.isReturn = false) (shiftId : String)
    (m : TenderMethod) : request.reversed.takenIn shiftId m = -request.takenIn shiftId m := by
  unfold takenIn reversed
  split <;> simp [sells]

end CommitRequest

/-! ## Rows -/

/-- A row that a request has moved, and the reversed request moved again, is as it was. -/
theorem ProductRow.ChangedBy.reversed {request : CommitRequest} {before sold after : ProductRow}
    (sells : request.isReturn = false) (first : ChangedBy request before sold)
    (second : ChangedBy request.reversed sold after) :
    ∃ moment, after = { before with updatedAt := moment } := by
  by_cases named : ∃ line ∈ request.items, line.productId = before.id
  · obtain ⟨w, w', moment, stock, rfl, sum⟩ := first.moved named
    obtain ⟨v, v', moment', stock', rfl, sum'⟩ := second.moved named
    obtain rfl : w' = v := Tally.exact.inj stock'
    rw [CommitRequest.unitsOf_reversed sells] at sum'
    have same : v' = w := by
      rw [← Int64.toInt_inj, sum', sum]
      exact Int.add_neg_cancel_right ..
    exact ⟨moment', by rw [same, ← stock]⟩
  · have off : ∀ line ∈ request.items, line.productId ≠ before.id :=
      fun line hline same => named ⟨line, hline, same⟩
    obtain rfl := first.kept off
    obtain rfl := second.kept off
    exact ⟨_, rfl⟩

theorem CustomerRow.ChangedBy.reversed {request : CommitRequest} {before billed after : CustomerRow}
    (sells : request.isReturn = false) (first : ChangedBy request before billed)
    (second : ChangedBy request.reversed billed after) :
    ∃ moment, after = { before with updatedAt := moment } := by
  by_cases named : request.customerId = some before.id
  · obtain ⟨w, w', moment, balance, rfl, sum⟩ := first.moved named
    obtain ⟨v, v', moment', balance', rfl, sum'⟩ := second.moved named
    obtain rfl : w' = v := Tally.exact.inj balance'
    rw [CommitRequest.onCredit_reversed sells] at sum'
    have same : v' = w := by
      rw [← Int64.toInt_inj, sum', sum]
      exact Int.add_neg_cancel_right ..
    exact ⟨moment', by rw [same, ← balance]⟩
  · obtain rfl := first.kept named
    obtain rfl := second.kept named
    exact ⟨_, rfl⟩

/-- Lists that agree row by row with a third one agree with each other in what follows. -/
theorem forall₂_comp {α β γ : Type} {R : α → β → Prop} {S : β → γ → Prop} {T : α → γ → Prop}
    (step : ∀ a b c, R a b → S b c → T a c) {as : List α} {bs : List β} {cs : List γ}
    (first : as.Forall₂ R bs) (second : bs.Forall₂ S cs) : as.Forall₂ T cs := by
  induction first generalizing cs with
  | nil =>
    cases second
    exact .nil
  | cons ab rest ih =>
    cases second with
    | cons bc rest' => exact .cons (step _ _ _ ab bc) (ih rest')

namespace Commit.Booked

variable {station other : String} {stamp stamp' : Stamp} {request : CommitRequest}
  {s t u : Store} {c c' : Committed}

/-! ## The return succeeds -/

/-- After one receipt every station still has a next number, if none was at its end before. -/
theorem exists_next (h : Booked station stamp request s c t) (before : s.Numbered)
    (after : t.Numbered) (room : ∀ k ∈ s.counters, k.last.value < Int64.maxValue.toInt - 1)
    (other : String) : ∃ n, (t.lastNumber other).add 1 = .exact n := by
  apply after.exists_next
  have most := Store.lastNumber_lt (by decide) room other
  have moved := h.lastNumber_value before other
  split at moved <;> omega

/-- Nothing stands in the way of a return of what was sold, as long as the station that numbers it
has a next number. -/
theorem returnable (h : Booked station stamp request s c t) (sells : request.isReturn = false)
    (before : s.Sound) (after : t.Sound)
    (next : ∃ n, (t.lastNumber other).add 1 = .exact n) : Returnable other request.reversed t where
  form := h.form
  back := rfl
  staff := by
    rw [Store.staffMember?, h.staff_eq]
    exact h.staff
  shift := by
    intro id named
    rw [Store.shift?, h.shifts_eq]
    exact h.shift id named
  checkout := nofun
  number := next
  customer := by
    intro id named
    obtain ⟨n, -, receipt⟩ := h.number
    have known : (s.customer? id).isSome := h.fits.customer id (by rw [receipt]; exact named)
    obtain ⟨row, found⟩ := Option.isSome_iff_exists.1 known
    obtain ⟨row', found', -, moved⟩ := h.customer? before found
    obtain ⟨w, balance⟩ := (before.accounts row (List.mem_of_find?_eq_some found)).balance
    obtain ⟨w', balance'⟩ := (after.accounts row' (List.mem_of_find?_eq_some found')).balance
    have own : request.billedTo id = request.billed := if_pos named
    rw [balance, balance', Tally.value_exact, Tally.value_exact, own] at moved
    have low := w.minValue_le_toInt
    refine ⟨row', w', found', balance', ?_⟩
    rw [CommitRequest.billed_reversed sells]
    omega
  products := by
    intro line hline
    obtain ⟨n, there⟩ := List.mem_iff_getElem?.1 hline
    obtain ⟨row, w, found, stock, -⟩ := h.lines.getElem?_eq there
    obtain ⟨w', stock', sum⟩ := h.stock found stock
    have units : SaleItem.unitsOf c.items line.productId = request.unitsOf line.productId :=
      h.lines.unitsOf_eq line.productId
    have high := w.toInt_le
    refine ⟨_, w', by rw [h.product?_eq, found, Option.map_some], stock', ?_⟩
    rw [CommitRequest.unitsOf_reversed sells]
    omega

/-! ## The takings -/

/-- A return cancels the takings of a sale, and the shift has two receipts more. -/
theorem takings_reversed (first : Booked station stamp request s c t)
    (second : Booked other stamp' request.reversed t c' u) (sells : request.isReturn = false)
    (before : s.Sound) (between : t.Sound) {shiftId : String}
    (tied : request.shiftId = some shiftId) :
    (∀ m, u.takings shiftId m = s.takings shiftId m) ∧
      (u.receiptsOf shiftId).length = (s.receiptsOf shiftId).length + 2 := by
  have tied' : request.reversed.shiftId = some shiftId := tied
  refine ⟨fun m => ?_, ?_⟩
  · rw [second.takings_eq between, first.takings_eq before, CommitRequest.takenIn_reversed sells]
    exact Int.add_neg_cancel_right ..
  · rw [second.receiptsOf_eq, first.receiptsOf_eq]
    simp [tied, tied']

/-- The report of the shift tells the same takings as before the sale, with two receipts more. -/
theorem exists_zReports (first : Booked station stamp request s c t)
    (second : Booked other stamp' request.reversed t c' u) (sells : request.isReturn = false)
    (before : s.Sound) (between : t.Sound) (after : u.Sound) (carried : s.Carried)
    (carried' : u.Carried) {shiftId : String} (tied : request.shiftId = some shiftId)
    (named : ¬Text.Blank shiftId) (few : (s.receiptsOf shiftId).length < 90000000) {acc : Access}
    (readable : acc.Readable) :
    ∃ z z', (Till.zReport shiftId).run acc s = (.ok z, s) ∧
      (Till.zReport shiftId).run acc u = (.ok z', u) ∧
      z' = { z with transactionCount := z'.transactionCount } ∧
      z'.transactionCount.toInt = z.transactionCount.toInt + 2 := by
  obtain ⟨takings, more⟩ := first.takings_reversed second sells before between tied
  obtain ⟨shift, found, running⟩ := first.shift shiftId tied
  have found' : u.shift? shiftId = some shift := by
    rw [Store.shift?, second.shifts_eq, first.shifts_eq]
    exact found
  obtain ⟨totals, sums, exact, count⟩ := carried.exists_exact_totals before shiftId (by omega)
  obtain ⟨totals', sums', exact', count'⟩ := carried'.exists_exact_totals after shiftId (by omega)
  have same : totals' = { totals with receiptCount := totals'.receiptCount } := by
    refine ShiftTotals.eq_of_toInt_eq (fun m => ?_) rfl
    rw [exact', takings, ← exact]
    cases m <;> rfl
  refine ⟨.ofTotals shift totals (shift.closingActual.getD 0),
    .ofTotals shift totals' (shift.closingActual.getD 0),
    Till.run_zReport_of_totals readable named found running sums,
    Till.run_zReport_of_totals readable named found' running sums', ?_, ?_⟩
  · rw [same]
    rfl
  · change totals'.receiptCount.toInt = totals.receiptCount.toInt + 2
    rw [count, count', more]
    rfl

end Commit.Booked

namespace History

/-- A return undoes a sale.  If a sale succeeds, so does the same request handed in next as a
return, at whatever station.  Then the products and the customers are what they were before both,
but for the moments of their last change, and the report of the shift tells the same takings with
two receipts more.  Identities are given out: they are new and never blank. -/
theorem return_undoes_sale (calls : List Call) (sale back : Call) (request : CommitRequest)
    (named : ∀ call ∈ calls, ¬Text.Blank call.stamp.id)
    (counters : ∀ k ∈ (of calls).store.counters, k.last.value < Int64.maxValue.toInt - 1)
    (op : sale.operation = .commit request) (sells : request.isReturn = false) (reply : Reply)
    (done : (sale.run (of calls).store).1 = .ok reply)
    (op' : back.operation = .commit request.reversed) (writable : back.access.Writable)
    (fresh : back.stamp.Fresh (sale.run (of calls).store).2) :
    let s := (of calls).store
    let t := (sale.run s).2
    let u := (back.run t).2
    (∃ c, (back.run t).1 = .ok (.committed c (back.ledger.tell c))) ∧
      s.products.Forall₂ (fun row row' => ∃ moment, row' = { row with updatedAt := moment })
        u.products ∧
      s.customers.Forall₂ (fun row row' => ∃ moment, row' = { row with updatedAt := moment })
        u.customers ∧
      ∀ shiftId, request.shiftId = some shiftId → (s.receiptsOf shiftId).length < 90000000 →
        ∀ acc : Access, acc.Readable → ∃ z z', (Till.zReport shiftId).run acc s = (.ok z, s) ∧
          (Till.zReport shiftId).run acc u = (.ok z', u) ∧
          z' = { z with transactionCount := z'.transactionCount } ∧
          z'.transactionCount.toInt = z.transactionCount.toInt + 2 := by
  intro s t u
  have sold : (of (calls ++ [sale])).store = t := by
    rw [of_append_singleton]
    rfl
  have returned : (of (calls ++ [sale] ++ [back])).store = u := by
    rw [of_append_singleton, add, sold]
  have before : s.Sound := sound calls
  have between : t.Sound := sold ▸ sound (calls ++ [sale])
  have after : u.Sound := returned ▸ sound (calls ++ [sale] ++ [back])
  have numbered' : t.Numbered := sold ▸ numbered (calls ++ [sale])
  have carried' : u.Carried := returned ▸ carried (calls ++ [sale] ++ [back])
  have effect := sale.effect s
  rw [done] at effect
  obtain ⟨c, -, first⟩ := effect.booked_of_commit_ok op
  have free : Commit.Returnable (request.originStation.getD back.ledger.station)
      request.reversed t :=
    first.returnable sells before between
      (first.exists_next (numbered calls) numbered' counters _)
  have answers := Commit.answers_action op'
    (Commit.answers_of_returnable writable between (sold ▸ soundProducts (calls ++ [sale]))
      numbered' fresh free)
  obtain ⟨reply', told⟩ := answers
  change (back.run t).1 = .ok reply' at told
  have effect' := back.effect t
  rw [told] at effect'
  obtain ⟨c', rfl, second⟩ := effect'.booked_of_commit_ok op'
  refine ⟨⟨c', told⟩, ?_, ?_, ?_⟩
  · exact forall₂_comp (fun _ _ _ one two => one.reversed sells two)
      (first.products_changedBy before) (second.products_changedBy between)
  · exact forall₂_comp (fun _ _ _ one two => one.reversed sells two)
      (first.customers_changedBy before) (second.customers_changedBy between)
  · intro shiftId tied few acc readable
    obtain ⟨shift, found, -⟩ := first.shift shiftId tied
    obtain ⟨call, hcall, own⟩ := stamped_of_shift calls shift (List.mem_of_find?_eq_some found)
    have present : ¬Text.Blank shiftId := by
      rw [← Store.id_of_shift? found, ← own]
      exact named call hcall
    exact first.exists_zReports second sells before between after (carried calls) carried' tied
      present few readable

/-- Three bags are sold, in cash and on the tab, and come back. -/
theorem return_undoes_sale_of_mixed :
    let request : CommitRequest := { Day.mixed with shiftId := some "s1" }
    let sale := Day.ask "r5" (.commit request)
    let back := Day.ask "r6" (.commit request.reversed)
    let s := (of Day.shift).store
    let t := (sale.run s).2
    let u := (back.run t).2
    (∃ reply, (sale.run s).1 = .ok reply) ∧ (∃ c, (back.run t).1 = .ok (.committed c [])) ∧
      back.stamp.Fresh t ∧
      s.products.Forall₂ (fun row row' => ∃ moment, row' = { row with updatedAt := moment })
        u.products ∧
      s.customers.Forall₂ (fun row row' => ∃ moment, row' = { row with updatedAt := moment })
        u.customers ∧
      ∃ z z', (Till.zReport "s1").run {} s = (.ok z, s) ∧
        (Till.zReport "s1").run {} u = (.ok z', u) ∧
        z' = { z with transactionCount := z'.transactionCount } ∧
        z'.transactionCount.toInt = z.transactionCount.toInt + 2 := by
  intro request sale back s t u
  have named : ∀ call ∈ Day.shift, ¬Text.Blank call.stamp.id := by decide +kernel
  have counters : ∀ k ∈ (of Day.shift).store.counters,
      k.last.value < Int64.maxValue.toInt - 1 := by
    decide +kernel
  obtain ⟨reply, done⟩ : ∃ reply, (sale.run (of Day.shift).store).1 = .ok reply :=
    exists_ok_of_isOk (by decide +kernel)
  have new : back.stamp.Fresh (of Day.shift).store :=
    Day.fresh (by decide) (by decide +kernel) (by decide +kernel) (by decide +kernel) _
  have apart : sale.stamp.Apart back.stamp := Day.apart (by decide) (by decide) _ _
  have effect := sale.effect (of Day.shift).store
  rw [done] at effect
  obtain ⟨c, -, booked⟩ := effect.booked_of_commit_ok rfl
  have fresh : back.stamp.Fresh (sale.run (of Day.shift).store).2 := new.booked apart booked
  have few : ((of Day.shift).store.receiptsOf "s1").length < 90000000 := by
    have four : ((of Day.shift).store.receiptsOf "s1").length = 4 := by decide +kernel
    rw [four]
    decide
  obtain ⟨told, products, customers, reports⟩ := return_undoes_sale Day.shift sale back request
    named counters rfl rfl reply done rfl (by decide) fresh
  exact ⟨⟨reply, done⟩, told, fresh, products, customers, reports "s1" rfl few {} (by decide)⟩

end History

end Tillbook
