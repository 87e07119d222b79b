import Tillbook.Proofs.Numbering
import Tillbook.Proofs.Shifts
import Tillbook.Proofs.StoredReceipts

/-!
# Well-formed receipts

A stored receipt is spread over four tables, and two others give its number and what it names.
Its tenders carry the total, its lines are those of a cart, its number was given out by its
station, and all that it names is there.  This is checked once, at the commit, and no call
whatever breaks it later.

## Main definitions

* `ReceiptRow.Paid`, `ReceiptRow.Lined` — the tenders and the lines of a receipt.
* `ReceiptRow.WellFormed` — what holds of every stored receipt.
* `Store.Grows` — what was there is still there.

## Main statements

* `Effect.grows` — no call takes away what a receipt may name.
* `Effect.wellFormed_of_committed?` — a receipt that is committed is well formed.
* `Effect.keeps_wellFormed` — it stays so.
* `History.receipts_wellFormed` — the receipts of every run.
-/

namespace Tillbook

/-! ## A receipt -/

/-- The tenders of a receipt stand in their places and carry its total.  One that is not split
has a single tender of its kind, and credit needs a customer. -/
structure ReceiptRow.Paid (row : ReceiptRow) (tenders : List TenderRow) : Prop where
  tendered : tenders ≠ []
  positions : tenders.map (·.position) = List.range tenders.length
  amounts : ∀ t ∈ tenders, 0 ≤ t.amount.toInt
  split : row.kind = .split → ∀ t ∈ tenders, 0 < t.amount.toInt
  single : row.kind ≠ .split → ∃ t, tenders = [t] ∧ t.method.name = row.kind.name
  sum : (tenders.map (·.amount.toInt)).sum = row.total.toInt
  total : 0 ≤ row.total.toInt ∧ row.total.toInt ≤ Validation.maxAmount.toInt
  credit : ∀ t ∈ tenders, t.method = .credit → row.customerId.isSome

/-- The lines of a receipt are those of a cart, and they are sold or returned as the receipt
says. -/
structure ReceiptRow.Lined (row : ReceiptRow) (items : List SaleItem) : Prop where
  count : 1 ≤ items.length ∧ items.length ≤ Validation.maxCartItems
  quantity : ∀ i ∈ items, 1 ≤ i.quantity.toInt ∧ i.quantity.toInt ≤ Validation.maxQuantity.toInt
  unitPrice : ∀ i ∈ items, 0 ≤ i.unitPrice.toInt
  own : ∀ i ∈ items, i.staffId = row.staffId ∧ i.isReturn = row.isReturn

/-- What holds of every stored receipt. -/
structure ReceiptRow.WellFormed (row : ReceiptRow) (s : Store) : Prop where
  paid : row.Paid (s.tenders.filter (·.receiptId == row.id))
  lined : row.Lined (s.itemsOf row.id)
  checkout : row.status = .pending ∨ row.status = .failed → row.checkoutId.isSome
  number : ∃ n last, row.number = ReceiptNumber.format row.station n ∧ 1 ≤ n.toInt ∧
    n.toInt ≤ last.toInt ∧ s.counter? row.station = some ⟨row.station, .exact last⟩
  staff : (s.staffMember? row.staffId).isSome
  shift : ∀ id, row.shiftId = some id → (s.shift? id).isSome
  customer : ∀ id, row.customerId = some id → (s.customer? id).isSome
  products : ∀ i ∈ s.itemsOf row.id, (s.product? i.productId).isSome

/-! ## Tables that grow -/

/-- What a receipt may name and was there is still there. -/
structure Store.Grows (s s' : Store) : Prop where
  staff : ∀ id, (s.staffMember? id).isSome → (s'.staffMember? id).isSome
  shifts : ∀ id, (s.shift? id).isSome → (s'.shift? id).isSome
  customers : ∀ id, (s.customer? id).isSome → (s'.customer? id).isSome
  products : ∀ id, (s.product? id).isSome → (s'.product? id).isSome

/-- A station that has given out numbers has a counter. -/
theorem Store.counter?_of_lastNumber {s : Store} {station : String} {n : Int64}
    (h : s.lastNumber station = .exact n) (positive : 0 < n.toInt) :
    s.counter? station = some ⟨station, .exact n⟩ := by
  unfold lastNumber at h
  cases found : s.counter? station with
  | none =>
    rw [found] at h
    cases h
    exact absurd positive (by decide)
  | some c =>
    have own : c.station = station := Table.key_of_find? Counter.station found
    rw [found] at h
    rw [← own, ← show c.last = .exact n from h]

variable {s s' : Store}

namespace Effect

variable {call : Call} {answer : Except LedgerError Reply}

/-- No call takes away what a receipt may name. -/
theorem grows (h : Effect call s answer s') : s.Grows s' where
  staff id known := by
    obtain ⟨engaged, ids, -⟩ := h.ids_of_staff
    have before : id ∈ s.staff.map (·.id) := Table.isSome_find?_iff.1 known
    exact Table.isSome_find?_iff.2 (ids ▸ List.mem_append_left _ before)
  shifts id known := by
    cases h.on_shifts with
    | kept unclosed shifts => rwa [Store.shift?, shifts]
    | begun unclosed free new begun float shifts =>
      rw [Store.shift?, shifts, List.find?_append, Option.isSome_or, ← Store.shift?, known,
        Bool.true_or]
    | ended closed found running sums left =>
      rw [left, Shifts.shift?_change, Option.isSome_map]
      · exact known
      · intro shift
        rfl
  customers id := by
    have kept : s'.customer? id = none → s.customer? id = none := h.customer?_eq_none
    simpa only [Option.isSome_iff_ne_none] using mt kept
  products id := by
    have kept : s'.product? id = none → s.product? id = none := h.product?_eq_none
    simpa only [Option.isSome_iff_ne_none] using mt kept

/-- The counter of a station never moves back. -/
theorem counter?_le (h : Effect call s answer s') (numbered : s.Numbered) {station : String}
    {last : Int64} (positive : 0 < last.toInt)
    (found : s.counter? station = some ⟨station, .exact last⟩) :
    ∃ next : Int64, last.toInt ≤ next.toInt ∧
      s'.counter? station = some ⟨station, .exact next⟩ := by
  obtain ⟨n, n', before, after, -, moved⟩ := h.lastNumber_cases numbered station
  rw [Store.lastNumber, found] at before
  cases before
  have most : last.toInt ≤ n'.toInt := by rcases moved with rfl | moved <;> omega
  exact ⟨n', most, Store.counter?_of_lastNumber after (positive.trans_le most)⟩

end Effect

/-! ## At the commit -/

theorem map_position_tenderRows (receiptId : String) (tenderId : Nat → String) (position : Nat)
    (ts : List Tender) :
    (tenderRows receiptId tenderId position ts).map (·.position) =
      List.range' position ts.length := by
  induction ts generalizing position with
  | nil => rfl
  | cons t rest ih =>
    rw [tenderRows, List.map_cons, ih, List.length_cons, List.range'_succ]

theorem length_tenderRows (receiptId : String) (tenderId : Nat → String) (position : Nat)
    (ts : List Tender) : (tenderRows receiptId tenderId position ts).length = ts.length := by
  rw [← List.length_map (f := TenderRow.position), map_position_tenderRows, List.length_range']

/-- The tenders of a payment in form carry the total of its receipt. -/
theorem Receipt.paid {r : Receipt} (form : Validation.payment r.payment r.total = .ok ())
    (total : 0 ≤ r.total.toInt ∧ r.total.toInt ≤ Validation.maxAmount.toInt)
    (named : r.payment.involvesCredit = true → r.customerId ≠ none) (tenderId : Nat → String) :
    r.row.Paid (r.tenderRows tenderId) := by
  have tenders : (r.tenderRows tenderId).map (·.toTender) = r.payment.tenders r.total :=
    map_toTender_tenderRows ..
  have each {t : TenderRow} (ht : t ∈ r.tenderRows tenderId) :
      t.toTender ∈ r.payment.tenders r.total :=
    (of_mem_tenderRows ht).2
  refine ⟨?_, ?_, ?_, ?_, ?_, ?_, total, ?_⟩
  · intro none
    rw [none] at tenders
    exact Payment.tenders_ne_nil form tenders.symm
  · rw [tenderRows, map_position_tenderRows, length_tenderRows, List.range_eq_range']
  · exact fun t ht => Payment.tenders_nonneg form total.1 _ (each ht)
  · intro split t ht
    have listed := each ht
    cases payment : r.payment with
    | split ts =>
      rw [payment] at form listed
      exact (Validation.tender_eq_ok_iff.1
        ((Validation.payment_split_eq_ok_iff.1 form).2.1 _ listed)).1
    | cash | mobile | credit => simp [row, payment, Payment.kind] at split
  · intro whole
    cases payment : r.payment with
    | split ts => simp [row, payment, Payment.kind] at whole
    | cash | mobile | credit => simp [tenderRows, row, payment, Payment.tenders,
        Tillbook.tenderRows, Payment.kind, Tender.plain, TenderMethod.name, PaymentKind.name]
  · have sum := Payment.sum_tenders form
    rw [← tenders, List.map_map] at sum
    exact sum
  · intro t ht credit
    rw [Option.isSome_iff_ne_none]
    apply named
    rw [Payment.involvesCredit_eq_any _ r.total, List.any_eq_true]
    exact ⟨_, each ht, beq_iff_eq.2 credit⟩

namespace Commit

namespace Booked

variable {station : String} {stamp : Stamp} {request : CommitRequest} {c : Committed}

/-- The lines of a receipt that is committed are those of its cart. -/
theorem lined (h : Booked station stamp request s c s') : c.receipt.row.Lined c.items := by
  obtain ⟨n, -, receipt⟩ := h.number
  obtain ⟨t, written⟩ := h.written
  obtain ⟨filled, short, lines⟩ :=
    Validation.cart_eq_ok_iff.1 (Validation.commit_eq_ok_iff.1 h.form).2.1
  have cart := h.lines.cart_eq
  refine ⟨?_, fun i hi => ?_, fun i hi => ?_, fun i hi => ?_⟩
  · rw [h.lines.length_eq]
    exact ⟨List.length_pos_iff.2 filled, short⟩
  · have listed : (i.productId, i.quantity, i.isReturn) ∈
        request.items.map fun line => (line.productId, line.quantity, request.isReturn) := by
      rw [← cart]
      exact List.mem_map_of_mem hi
    obtain ⟨line, hline, same⟩ := List.mem_map.1 listed
    have quantity : line.quantity = i.quantity := congrArg (·.2.1) same
    rw [← quantity]
    exact Validation.quantity_eq_ok_iff.1 (Validation.cartLine_eq_ok_iff.1 (lines line hline)).2.1
  · exact Int64.le_iff_toInt_le.1 (written.of_mem hi).2
  · obtain ⟨-, back, staff, -⟩ := h.lines.of_mem hi
    rw [staff, back, receipt]
    exact ⟨rfl, rfl⟩

end Booked

end Commit

namespace Effect

variable {call : Call} {answer : Except LedgerError Reply}

/-- A receipt that is committed is well formed. -/
theorem wellFormed_of_committed? (h : Effect call s answer s') (sound : s.Sound)
    (receipts : s.SoundReceipts) (numbered : s.Numbered) {c : Committed}
    (made : Entry.committed? ⟨call, answer⟩ = some c) : c.receipt.row.WellFormed s' := by
  obtain ⟨request, op, booked⟩ := h.booked_of_committed? made
  have keeps := booked.keeps sound receipts
  have grows := h.grows
  have form := Validation.commit_eq_ok_iff.1 booked.form
  have fits := booked.fits
  obtain ⟨n, next, receipt⟩ := booked.number
  have tenders : s'.tenders.filter (·.receiptId == c.receipt.row.id) =
      c.receipt.tenderRows call.stamp.tenderId :=
    booked.filter_tenders sound
  have items : s'.itemsOf c.receipt.row.id = c.items := keeps.items
  refine ⟨?_, ?_, ?_, ?_, grows.staff _ fits.staff,
    fun id hid => grows.shifts _ (fits.shift id hid),
    fun id hid => grows.customers _ (fits.customer id hid), ?_⟩
  · rw [tenders]
    apply Receipt.paid
    · rw [receipt]
      exact form.2.2.2.1
    · rw [receipt]
      exact Validation.amount_eq_ok_iff.1 form.2.2.1
    · rw [receipt]
      exact fun involved unnamed => form.2.2.2.2.1 ⟨involved, unnamed⟩
  · rw [items]
    exact booked.lined
  · intro waiting
    rw [receipt] at waiting ⊢
    change request.initialStatus = .pending ∨ request.initialStatus = .failed at waiting
    unfold CommitRequest.initialStatus at waiting
    split at waiting
    · next given => exact given
    · simp at waiting
  · obtain ⟨last, hlast, nonnegative⟩ :=
      numbered.counters (request.originStation.getD call.ledger.station)
    have following := next
    rw [hlast, Tally.add_exact_eq_exact_iff, Int64.toInt_one] at following
    have now := booked.lastNumber_eq (request.originStation.getD call.ledger.station)
    rw [Counters.lastNumber_issued, if_pos rfl, next] at now
    rw [receipt]
    exact ⟨n, n, rfl, by omega, Int.le_refl _, Store.counter?_of_lastNumber now (by omega)⟩
  · intro i hi
    rw [items] at hi
    obtain ⟨-, -, -, row, w, found, -⟩ := booked.lines.of_mem hi
    exact grows.products _ (by rw [found]; rfl)

/-- A receipt that is well formed stays so. -/
theorem keeps_wellFormed (h : Effect call s answer s') (numbered : s.Numbered) {row : ReceiptRow}
    (hrow : row ∈ s.receipts) (wellFormed : row.WellFormed s) :
    (row.after ⟨call, answer⟩).WellFormed s' := by
  have grows := h.grows
  have tenders := h.tenderRows_of_mem hrow
  have items := h.itemsOf_of_mem hrow
  have checkout : (row.after ⟨call, answer⟩).status = .pending ∨
      (row.after ⟨call, answer⟩).status = .failed → row.checkoutId.isSome := by
    cases settled : Entry.settlement? ⟨call, answer⟩ row.checkoutId with
    | none =>
      rw [ReceiptRow.after_of_none settled]
      exact wellFormed.checkout
    | some settlement => exact fun _ => Entry.isSome_of_settlement? settled
  obtain ⟨n, last, number, positive, most, found⟩ := wellFormed.number
  obtain ⟨next, moved, now⟩ := h.counter?_le numbered (positive.trans most) found
  obtain ⟨status, reference, same⟩ := row.after_eq (e := ⟨call, answer⟩)
  rw [same] at checkout ⊢
  constructor
  · exact { tenders.symm ▸ wellFormed.paid with }
  · exact { items.symm ▸ wellFormed.lined with }
  · exact checkout
  · exact ⟨n, next, number, positive, most.trans moved, now⟩
  · exact grows.staff _ wellFormed.staff
  · exact fun id named => grows.shifts id (wellFormed.shift id named)
  · exact fun id named => grows.customers id (wellFormed.customer id named)
  · exact fun i hi => grows.products _ (wellFormed.products i (items ▸ hi))

end Effect

namespace History

/-- In every store, whatever calls have left it, every receipt is well formed. -/
theorem receipts_wellFormed (calls : List Call) :
    ∀ row ∈ (of calls).store.receipts, row.WellFormed (of calls).store := by
  induction calls using List.reverseRecOn with
  | nil => exact List.forall_mem_nil _
  | append_singleton calls call ih =>
    have effect := call.effect (of calls).store
    rw [of_append_singleton]
    intro row hrow
    rw [add, effect.receipts_eq (soundReceipts calls)] at hrow
    rcases List.mem_append.1 hrow with before | made
    · obtain ⟨old, hold, rfl⟩ := List.mem_map.1 before
      exact effect.keeps_wellFormed (numbered calls) hold (ih old hold)
    · obtain ⟨c, hc, rfl⟩ := List.mem_map.1 made
      exact effect.wellFormed_of_committed? (sound calls) (soundReceipts calls) (numbered calls)
        (Option.mem_toList.1 hc)

/-- A payment on three tenders, one of them on credit, has failed at the gateway. -/
theorem receipts_wellFormed_of_failed :
    let tenders := [.plain .cash 100, Tender.withSubtype (.plain .mobile 200) "MPESA",
      .plain .credit 300]
    let calls := Day.opening ++
      [Day.ask "s1" (.openShift "amina" 500), Day.ask "n" (.nextNumber "POS-02"),
        Day.ask "r1" (.commit
          { Day.purchase (.split tenders) 3 600 with
            shiftId := some "s1", checkoutId := some "ws-1", originStation := some "POS-02" }),
        Day.ask "ws" (.settle "ws-1" .failed none)]
    let row : ReceiptRow :=
      ⟨⟨"r1", "POS-02-00002", Day.moment, some "s1", "amina", some "otieno", 600, .failed, none,
        some "ws-1", false, "POS-02"⟩, .split, none⟩
    row ∈ (of calls).store.receipts ∧ row.WellFormed (of calls).store := by
  intro tenders calls row
  have there : row ∈ (of calls).store.receipts := by decide +kernel
  exact ⟨there, receipts_wellFormed calls row there⟩

end History

end Tillbook
