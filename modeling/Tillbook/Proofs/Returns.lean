import Tillbook.Proofs.Submissions

/-!
# When a return succeeds

A return puts units back and takes money off a balance, so no limit is in its way.  What can be in
its way are the ends of the range alone: the stock, the balance or the counter of the station may
have no word for what they would become.  Otherwise a return in form succeeds, whatever the store
holds besides.

## Main definitions

* `Commit.HasRoom` — the stocks have room for the lines that come back.
* `Commit.Returnable` — nothing stands in the way of a return.

## Main statements

* `Commit.exists_billed_of_return` — the limit is never in the way of a return.
* `Commit.HasRoom.step` — after a line is back, the stocks have room for the rest.
* `Commit.answers_of_returnable` — a return succeeds if nothing stands in its way.
-/

namespace Tillbook

/-- Units that come back never make a stock smaller. -/
theorem SaleItem.unitsOf_nonneg {items : List SaleItem} (h : ∀ i ∈ items, 0 ≤ i.units)
    (productId : String) : 0 ≤ unitsOf items productId := by
  apply List.sum_nonneg
  intro n hn
  obtain ⟨i, hi, rfl⟩ := List.mem_map.1 hn
  exact h i (List.mem_of_mem_filter hi)

namespace Commit

variable {acc : Access} {s t : Store} {request : CommitRequest} {stamp : Stamp} {station : String}

/-! ## Checks that are passed -/

theorem run_checkShift_of_running {shiftId : Option String} (readable : acc.Readable)
    (running : ∀ id, shiftId = some id → ∃ shift, s.shift? id = some shift ∧
      shift.isOpen = true) : (checkShift shiftId).run acc s = (.ok (), s) := by
  cases shiftId with
  | none => rfl
  | some id =>
    obtain ⟨shift, found, isOpen⟩ := running id rfl
    have told : (Shifts.find id).run acc s = (.ok (some shift), s) :=
      Action.run_read_eq_ok_iff.2 ⟨readable, by rw [found], rfl⟩
    refine (Action.run_bind_of_ok told).trans ?_
    simp [isOpen]

theorem run_checkCredit_of_billed {move : Option CreditMove} (readable : acc.Readable)
    (billed : Billed request s move) : (checkCredit request).run acc s = (.ok move, s) := by
  unfold checkCredit
  cases billed with
  | unnamed named =>
    rw [named]
    rfl
  | @nothing id row w named found balance portion =>
    have told := Accounts.run_find_of_read readable found
      (CustomerRow.read_eq_ok_iff.2 ⟨w, balance, rfl⟩)
    rw [named]
    refine (Action.run_bind_of_ok told).trans ?_
    simp [portion]
  | @something id row w delta sum named found balance portion signed limit =>
    have told := Accounts.run_find_of_read readable found
      (CustomerRow.read_eq_ok_iff.2 ⟨w, balance, rfl⟩)
    rw [named]
    refine (Action.run_bind_of_ok told).trans ?_
    simp only [portion, if_true, Action.run_bind_eq_ok_iff, Action.run_ofOverflow_eq_ok_iff,
      Action.run_ofRefusal_eq_ok_iff, Action.run_pure_eq_ok_iff]
    exact ⟨delta, s, ⟨signed, rfl⟩, sum, s, ⟨limit, rfl⟩, rfl, rfl⟩

theorem run_priceAll_of_priced {position : Nat} {lines : List CartLine} {items : List SaleItem}
    (readable : acc.Readable) (priced : Priced request stamp s position lines items) :
    (priceAll request stamp position lines).run acc s = (.ok items, s) := by
  induction priced with
  | nil => rfl
  | @cons position line lines items row w found stock rest ih =>
    simp only [priceAll, Action.run_bind_eq_ok_iff, run_price_eq_ok_iff, Action.run_pure_eq_ok_iff]
    exact ⟨_, s, ⟨readable, rfl, row, w, found, stock, rfl⟩, items, s, ih, rfl, rfl⟩

/-- A cart of products whose stocks can be read has its prices. -/
theorem exists_priced {lines : List CartLine} (known : ∀ line ∈ lines, ∃ row w,
      s.product? line.productId = some row ∧ row.stock = .exact w) (position : Nat) :
    ∃ items, Priced request stamp s position lines items := by
  induction lines generalizing position with
  | nil => exact ⟨[], .nil⟩
  | cons line rest ih =>
    rw [List.forall_mem_cons] at known
    obtain ⟨row, w, found, stock⟩ := known.1
    obtain ⟨items, priced⟩ := ih known.2 (position + 1)
    exact ⟨_, .cons found stock priced⟩

/-- The limit is never in the way of a return, however far the balance is above it. -/
theorem exists_billed_of_return (back : request.isReturn = true)
    (known : ∀ id, request.customerId = some id → ∃ row w, s.customer? id = some row ∧
      row.balance = .exact w ∧ Int64.minValue.toInt ≤ w.toInt + request.billed) :
    ∃ move, Billed request s move := by
  cases named : request.customerId with
  | none => exact ⟨none, .unnamed named⟩
  | some id =>
    obtain ⟨row, w, found, balance, room⟩ := known id named
    by_cases portion : 0 < request.payment.creditPortion request.total
    · have positive := Int64.lt_iff_toInt_lt.1 portion
      have most := w.toInt_le
      rw [Int64.toInt_zero] at positive
      rw [CommitRequest.billed, if_pos back] at room
      obtain ⟨delta, -, hdelta⟩ := Money.exists_signed positive.le true
      change delta.toInt = -(request.payment.creditPortion request.total).toInt at hdelta
      obtain ⟨sum, hsum⟩ : ∃ sum : Money, sum.toInt = w.toInt + delta.toInt :=
        Word.exists_toInt_eq (by omega) (by omega)
      have signed : Credit.delta (request.payment.creditPortion request.total) request.isReturn =
          .ok delta := by
        rw [Credit.delta, if_pos back]
        exact Word.neg_eq_ok_iff.2 hdelta
      have falls : ¬0 < delta := by
        rw [Int64.lt_iff_toInt_lt, Int64.toInt_zero]
        omega
      exact ⟨_, .something named found balance portion signed
        (Credit.checkLimit_eq_ok_iff.2 ⟨hsum, fun rises => falls rises.1⟩)⟩
    · exact ⟨none, .nothing named found balance portion⟩

/-! ## Lines that come back -/

/-- Each stock has a word for what it becomes when all the lines have come back. -/
def HasRoom (items : List SaleItem) (t : Store) : Prop :=
  ∀ i ∈ items, ∃ row w, t.product? i.productId = some row ∧ row.stock = .exact w ∧
    w.toInt + SaleItem.unitsOf items i.productId ≤ Int64.maxValue.toInt

/-- The lines of a return are lines of the request, in form, and put units back. -/
theorem Priced.units_nonneg {position : Nat} {lines : List CartLine} {items : List SaleItem}
    (h : Priced request stamp s position lines items) (back : request.isReturn = true)
    (form : ∀ line ∈ lines, Validation.cartLine line = .ok ()) : ∀ i ∈ items, 0 ≤ i.units := by
  induction h with
  | nil => exact List.forall_mem_nil _
  | @cons position line lines items row w found stock rest ih =>
    rw [List.forall_mem_cons] at form ⊢
    refine ⟨?_, ih form.2⟩
    have quantity := Validation.quantity_eq_ok_iff.1 (Validation.cartLine_eq_ok_iff.1 form.1).2.1
    simpa [SaleItem.units, itemOf, back] using quantity.1.le

/-- After a line is back, there is room for the rest. -/
theorem HasRoom.step {i : SaleItem} {items : List SaleItem} {row : ProductRow}
    (h : HasRoom (i :: items) t) (units : ∀ j ∈ i :: items, 0 ≤ j.units)
    (word : (Int64.ofInt i.units).toInt = i.units) (found : t.product? i.productId = some row)
    (now : Timestamp) :
    ∃ sum, row.stock.add (Int64.ofInt i.units) = .exact sum ∧ HasRoom items
      (Catalog.moveStock now i.productId (Int64.ofInt i.units)
        { t with items := t.items ++ [i] }) := by
  rw [List.forall_mem_cons] at units
  obtain ⟨row₀, w, found₀, stock, most⟩ := h i List.mem_cons_self
  obtain rfl : row = row₀ := Option.some.inj (found.symm.trans found₀)
  rw [SaleItem.unitsOf_cons, if_pos rfl] at most
  obtain ⟨sum, hsum⟩ : ∃ sum : Int64, sum.toInt = w.toInt + i.units := by
    have low := w.minValue_le_toInt
    have later := SaleItem.unitsOf_nonneg units.2 i.productId
    exact Word.exists_toInt_eq (by omega) (by omega)
  have added : row.stock.add (Int64.ofInt i.units) = .exact sum := by
    rw [stock]
    exact Tally.add_exact (by rw [hsum, word])
  refine ⟨sum, added, fun j hj => ?_⟩
  obtain ⟨row', w', found', stock', most'⟩ := h j (List.mem_cons_of_mem _ hj)
  have moved := Catalog.product?_moveStock_of_eq_some
    (s := { t with items := t.items ++ [i] }) now i.productId (Int64.ofInt i.units) found'
  rw [SaleItem.unitsOf_cons] at most'
  by_cases same : i.productId = j.productId
  · rw [← same] at found' moved ⊢
    obtain rfl : row = row' := Option.some.inj (found.symm.trans found')
    rw [Catalog.moved_eq found, added] at moved
    exact ⟨_, sum, moved, rfl, by omega⟩
  · have own : row'.id ≠ i.productId := fun h => same (h.symm.trans (Store.id_of_product? found'))
    rw [ProductRow.moved_of_ne own] at moved
    rw [if_neg same, Int.zero_add] at most'
    exact ⟨row', w', moved, stock', most'⟩

/-! ## The whole return -/

/-- Nothing stands in the way of a return that a station numbers: it is in form, what it names is
there, the name under which the gateway should confirm it is free, and the counter, the balance
and the stocks have words for what they become. -/
structure Returnable (station : String) (request : CommitRequest) (s : Store) : Prop where
  form : Validation.commit request = .ok ()
  back : request.isReturn = true
  staff : ∃ member, s.staffMember? request.staffId = some member ∧ member.isActive = true
  shift : ∀ id, request.shiftId = some id → ∃ shift, s.shift? id = some shift ∧ shift.isOpen = true
  checkout : ∀ id, request.checkoutId = some id → ∀ row ∈ s.receipts, row.checkoutId ≠ some id
  number : ∃ n, (s.lastNumber station).add 1 = .exact n
  customer : ∀ id, request.customerId = some id → ∃ row w, s.customer? id = some row ∧
    row.balance = .exact w ∧ Int64.minValue.toInt ≤ w.toInt + request.billed
  products : ∀ line ∈ request.items, ∃ row w, s.product? line.productId = some row ∧
    row.stock = .exact w ∧
    w.toInt + request.unitsOf line.productId ≤ Int64.maxValue.toInt

/-- A return succeeds if nothing stands in its way. -/
theorem answers_of_returnable (writable : acc.Writable) (sound : s.Sound)
    (products : s.SoundProducts) (numbered : s.Numbered) (fresh : stamp.Fresh s)
    (free : Returnable (request.originStation.getD station) request s) :
    (run station stamp request).Answers acc s none := by
  generalize hname : request.originStation.getD station = name at free
  obtain ⟨n, next⟩ := free.number
  obtain ⟨-, -, form⟩ :=
    Validation.cart_eq_ok_iff.1 (Validation.commit_eq_ok_iff.1 free.form).2.1
  obtain ⟨move, billed⟩ := exists_billed_of_return free.back free.customer
  have checked : Checked request s move := ⟨free.form, free.staff, free.shift, billed⟩
  obtain ⟨items, priced⟩ : ∃ items, Priced request stamp s 0 request.items items :=
    exists_priced (fun line hline => by
      obtain ⟨row, w, found, stock, -⟩ := free.products line hline
      exact ⟨row, w, found, stock⟩) 0
  have units := priced.units_nonneg free.back form
  have room : HasRoom items (withReceipt name stamp.tenderId
      (receiptOf request stamp name (ReceiptNumber.format name n)) s) := by
    intro i hi
    obtain ⟨line, hline, same⟩ := priced.exists_line hi
    rw [priced.unitsOf_eq, ← same]
    exact free.products line hline
  refine .bind_of_ok (Action.run_ofRefusal_eq_ok_iff.2 ⟨free.form, rfl⟩)
    (Action.Answers.atomically ?_)
  rw [hname]
  refine .bind_of_ok (Action.run_put_eq_ok_iff.2 ⟨writable, rfl⟩) ?_
  -- The counter that is made first is seen by none of the checks.
  rw [Counters.ensured_eq]
  refine .bind_of_ok (a := ()) (run_checkStaff_eq_ok_iff.2 ⟨writable.1, rfl, free.staff⟩) ?_
  refine .bind_of_ok (run_checkShift_of_running writable.1 free.shift) ?_
  refine .bind_of_ok (run_checkCredit_of_billed writable.1 (billed.of_customer? fun _ => rfl)) ?_
  refine .bind_of_ok (run_priceAll_of_priced writable.1 (priced.of_product? fun _ => rfl)) ?_
  rw [← Counters.ensured_eq, ← checkoutFault?_eq_none_iff.2 free.checkout]
  exact checked.answers_record writable sound numbered fresh next
    (exists_run_writeItems (fun items t => (∀ i ∈ items, 0 ≤ i.units) ∧ HasRoom items t)
      (fun _ fits found room => by
        obtain ⟨sum, added, left⟩ := room.2.step room.1 fits.toInt_units found stamp.now
        exact ⟨sum, added, (List.forall_mem_cons.1 room.1).2, left⟩)
      writable fresh.itemsApart products priced form (checked.listed fresh name _) ⟨units, room⟩
      (fun _ known => known) [])

end Commit

end Tillbook
