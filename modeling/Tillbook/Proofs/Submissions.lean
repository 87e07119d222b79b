import Tillbook.Proofs.CommitFaults
import Tillbook.Proofs.Takings

/-!
# What requests move

Each request that is booked moves the stocks of its products, the balance of its customer, the
counter of its station and the takings of its shift, by amounts that are read off the request.
So the store after some requests is the one before them with the sums of what they move, in
whatever order they came.

## Main definitions

* `Submission` — a request with the station that numbers its receipt.
* `CommitRequest.unitsOf`, `CommitRequest.billedTo`, `CommitRequest.takenIn` — what it moves.
* `Store.After` — a store after some requests.

## Main statements

* `Commit.Booked.after` — one more request.
-/

namespace Tillbook

/-- A request with the station that numbers its receipt. -/
structure Submission where
  station : String
  request : CommitRequest

/-! ## What a request moves -/

namespace CommitRequest

/-- The move of the stock of a product by a request. -/
def unitsOf (request : CommitRequest) (productId : String) : Int :=
  ((request.items.filter (·.productId == productId)).map fun line =>
    if request.isReturn then line.quantity.toInt else -line.quantity.toInt).sum

/-- The move of the balance of a customer by a request. -/
def billedTo (request : CommitRequest) (customerId : String) : Int :=
  if request.customerId = some customerId then request.billed else 0

/-- What a request brings into a shift by a method. -/
def takenIn (request : CommitRequest) (shiftId : String) (m : TenderMethod) : Int :=
  if request.shiftId = some shiftId then
    let amount := (((request.payment.tenders request.total).filter (·.method == m)).map
      (·.amount.toInt)).sum
    if request.isReturn then -amount else amount
  else 0

end CommitRequest

/-- The lines of a receipt move a stock as the lines of the cart say. -/
theorem Commit.Priced.unitsOf_eq {request : CommitRequest} {stamp : Stamp} {s : Store}
    {position : Nat} {lines : List CartLine} {items : List SaleItem}
    (h : Priced request stamp s position lines items) (productId : String) :
    SaleItem.unitsOf items productId =
      ((lines.filter (·.productId == productId)).map fun line =>
        if request.isReturn then line.quantity.toInt else -line.quantity.toInt).sum := by
  induction h with
  | nil => rfl
  | @cons position line lines items row w found stock rest ih =>
    have own : row.id = line.productId := Store.id_of_product? found
    rw [SaleItem.unitsOf_cons, ih, List.filter_cons]
    by_cases mine : line.productId = productId
    · simp [itemOf, own, mine, SaleItem.units]
    · simp [itemOf, own, mine]

/-- A product that is sold keeps all but its stock and the moment of its last change. -/
theorem ProductRow.sold_eq (now : Timestamp) (items : List SaleItem) (row : ProductRow) :
    ∃ moment, row.sold now items =
      { row with stock := (row.sold now items).stock, updatedAt := moment } := by
  induction items generalizing row with
  | nil => exact ⟨row.updatedAt, rfl⟩
  | cons i rest ih =>
    obtain ⟨moment, later⟩ := ih (row.moved now i.productId (Int64.ofInt i.units))
    refine ⟨moment, ?_⟩
    rw [sold_cons, later]
    unfold moved
    split <;> rfl

namespace Commit.Booked

variable {station : String} {stamp : Stamp} {request : CommitRequest} {s s' : Store} {c : Committed}

theorem staff_eq (h : Booked station stamp request s c s') : s'.staff = s.staff := by
  obtain ⟨customers, -, rfl⟩ := h.left
  rfl

theorem shifts_eq (h : Booked station stamp request s c s') : s'.shifts = s.shifts := by
  obtain ⟨customers, -, rfl⟩ := h.left
  rfl

/-- A product keeps all but its stock, which moves as the cart says. -/
theorem product? (h : Booked station stamp request s c s') {id : String} {row : ProductRow}
    {w : Int64} (found : s.product? id = some row) (exact : row.stock = .exact w) :
    ∃ moment stock, s'.product? id = some { row with stock := stock, updatedAt := moment } ∧
      stock.value = row.stock.value + request.unitsOf id := by
  obtain ⟨w', moved, sum⟩ := h.stock found exact
  obtain ⟨moment, same⟩ := row.sold_eq stamp.now c.items
  refine ⟨moment, _, by rw [h.product?_eq, found, Option.map_some, same], ?_⟩
  rw [moved, exact, Tally.value_exact, Tally.value_exact, sum, h.lines.unitsOf_eq]
  rfl

/-- An account keeps its limit, and its balance moves by what the request bills. -/
theorem customer? (h : Booked station stamp request s c s') (sound : s.Sound) {id : String}
    {row : CustomerRow} (found : s.customer? id = some row) :
    ∃ row', s'.customer? id = some row' ∧ row'.debtLimit = row.debtLimit ∧
      row'.balance.value = row.balance.value + request.billedTo id := by
  obtain ⟨w, balance⟩ := (sound.accounts row (List.mem_of_find?_eq_some found)).balance
  obtain ⟨row', w', found', balance', sum, limit, -⟩ := h.account found balance
  refine ⟨row', found', limit, ?_⟩
  rw [balance', balance, Tally.value_exact, Tally.value_exact, sum, h.billedTo_eq]
  rfl

theorem customer?_eq_none (h : Booked station stamp request s c s') {id : String}
    (absent : s.customer? id = none) : s'.customer? id = none := by
  obtain ⟨customers, credited, rfl⟩ := h.left
  rw [Store.customer?_eq_none_iff] at absent ⊢
  rwa [credited.ids_eq]

/-- The counter of the station moves on by one. -/
theorem lastNumber_value (h : Booked station stamp request s c s') (numbered : s.Numbered)
    (k : String) :
    (s'.lastNumber k).value = (s.lastNumber k).value + if station == k then 1 else 0 := by
  obtain ⟨n, next, -⟩ := h.number
  obtain ⟨last, hlast, -⟩ := numbered.counters station
  rw [h.lastNumber_eq, Counters.lastNumber_issued]
  by_cases own : k = station
  · have following := next
    rw [hlast, Tally.add_exact_eq_exact_iff, Int64.toInt_one] at following
    rw [if_pos own, next, own, hlast, Tally.value_exact, Tally.value_exact, following]
    simp
  · rw [if_neg own, if_neg (by simpa using Ne.symm own)]
    omega

/-- Tenders are read back as they were before, but for those of the new receipt. -/
theorem tendersOf_eq (h : Booked station stamp request s c s') (sound : s.Sound) :
    (∀ row ∈ s.receipts, s'.tendersOf row.id = s.tendersOf row.id) ∧
      s'.tendersOf c.receipt.id = request.payment.tenders request.total := by
  have fresh := h.fits.id_notMem
  obtain ⟨n, -, receipt⟩ := h.number
  constructor
  · intro row hrow
    have other : c.receipt.id ≠ row.id := fun same => fresh (same ▸ List.mem_map_of_mem hrow)
    rw [Store.tendersOf, h.tenders_eq, List.filter_append, Receipt.tenderRows,
      filter_tenderRows_of_ne other, List.append_nil]
    rfl
  · rw [Store.tendersOf_eq (h.filter_tenders sound), receipt]
    rfl

/-- The receipts of a shift are those before, and the new one if it belongs to the shift. -/
theorem receiptsOf_eq (h : Booked station stamp request s c s') (shiftId : String) :
    s'.receiptsOf shiftId =
      s.receiptsOf shiftId ++ if request.shiftId == some shiftId then [c.receipt.row] else [] := by
  obtain ⟨n, -, receipt⟩ := h.number
  have tied : c.receipt.row.shiftId = request.shiftId := by
    rw [receipt]
    rfl
  rw [Store.receiptsOf, h.receipts_eq, List.filter_append, List.filter_singleton, tied,
    Bool.cond_eq_ite]
  rfl

/-- The takings of a shift grow by what the request brings into it. -/
theorem takings_eq (h : Booked station stamp request s c s') (sound : s.Sound) (shiftId : String)
    (m : TenderMethod) :
    s'.takings shiftId m = s.takings shiftId m + request.takenIn shiftId m := by
  obtain ⟨before, own⟩ := h.tendersOf_eq sound
  obtain ⟨n, -, receipt⟩ := h.number
  have kept : (s.receiptsOf shiftId).map (s'.taken m) = (s.receiptsOf shiftId).map (s.taken m) := by
    apply List.map_congr_left
    intro row hrow
    rw [Store.taken, before row (List.mem_of_mem_filter hrow)]
    rfl
  rw [Store.takings, h.receiptsOf_eq, List.map_append, List.sum_append, kept, Store.takings,
    CommitRequest.takenIn]
  by_cases tied : request.shiftId = some shiftId
  · have returned : c.receipt.row.isReturn = request.isReturn := by
      rw [receipt]
      rfl
    have tenders : s'.tendersOf c.receipt.row.id = request.payment.tenders request.total := own
    simp [tied, Store.taken, tenders, returned]
  · simp [tied]

end Commit.Booked

/-! ## Stores after some requests -/

/-- A store is another one after some requests were booked, each in form: all but the receipts
is as it was, but for the sums of what the requests move. -/
structure Store.After (s t : Store) (done : List Submission) : Prop where
  form : ∀ x ∈ done, Validation.commit x.request = .ok ()
  staff : t.staff = s.staff
  shifts : t.shifts = s.shifts
  products : ∀ id row, s.product? id = some row → ∃ moment stock,
    t.product? id = some { row with stock := stock, updatedAt := moment } ∧
      stock.value = row.stock.value + (done.map (·.request.unitsOf id)).sum
  unknown : ∀ id, s.product? id = none → t.product? id = none
  customers : ∀ id row, s.customer? id = some row → ∃ row',
    t.customer? id = some row' ∧ row'.debtLimit = row.debtLimit ∧
      row'.balance.value = row.balance.value + (done.map (·.request.billedTo id)).sum
  strangers : ∀ id, s.customer? id = none → t.customer? id = none
  counters : ∀ station, (t.lastNumber station).value =
    (s.lastNumber station).value + done.countP (·.station == station)
  checkouts : t.receipts.map (·.checkoutId) =
    s.receipts.map (·.checkoutId) ++ done.map (·.request.checkoutId)
  receipts : ∀ shiftId, (t.receiptsOf shiftId).length =
    (s.receiptsOf shiftId).length + done.countP (·.request.shiftId == some shiftId)
  takings : ∀ shiftId m, t.takings shiftId m =
    s.takings shiftId m + (done.map (·.request.takenIn shiftId m)).sum

theorem Store.After.refl (s : Store) : s.After s [] where
  form := List.forall_mem_nil _
  staff := rfl
  shifts := rfl
  products := fun id row found => ⟨row.updatedAt, row.stock, found, by simp⟩
  unknown := fun _ absent => absent
  customers := fun id row found => ⟨row, found, rfl, by simp⟩
  strangers := fun _ absent => absent
  counters := fun _ => by simp
  checkouts := by simp
  receipts := fun _ => by simp
  takings := fun _ _ => by simp

/-- One more request adds what it moves. -/
theorem Commit.Booked.after {s t t' : Store} {done : List Submission} {station : String}
    {stamp : Stamp} {request : CommitRequest} {c : Committed} (after : s.After t done)
    (h : Booked station stamp request t c t') (sound : t.Sound) (numbered : t.Numbered)
    (stocks : ∀ row ∈ t.products, ∃ w, row.stock = .exact w) :
    s.After t' (done ++ [⟨station, request⟩]) where
  form := by
    intro x hx
    rcases List.mem_append.1 hx with before | own
    · exact after.form x before
    · rw [List.mem_singleton.1 own]
      exact h.form
  staff := h.staff_eq.trans after.staff
  shifts := h.shifts_eq.trans after.shifts
  products := by
    intro id row found
    obtain ⟨moment, stock, there, sum⟩ := after.products id row found
    obtain ⟨w, exact⟩ := stocks _ (List.mem_of_find?_eq_some there)
    obtain ⟨moment', stock', later, moved⟩ := h.product? there exact
    refine ⟨moment', stock', later, ?_⟩
    rw [moved, sum, List.map_append, List.sum_append]
    simp [Int.add_assoc]
  unknown := by
    intro id absent
    rw [h.product?_eq, after.unknown id absent, Option.map_none]
  customers := by
    intro id row found
    obtain ⟨row', there, limit, sum⟩ := after.customers id row found
    obtain ⟨row'', later, limit', moved⟩ := h.customer? sound there
    refine ⟨row'', later, limit'.trans limit, ?_⟩
    rw [moved, sum, List.map_append, List.sum_append]
    simp [Int.add_assoc]
  strangers := fun id absent => h.customer?_eq_none (after.strangers id absent)
  counters := by
    intro k
    rw [h.lastNumber_value numbered, after.counters, List.countP_append, List.countP_singleton,
      Int.add_assoc]
    congr 1
    split <;> simp
  checkouts := by
    obtain ⟨n, -, receipt⟩ := h.number
    have named : c.receipt.row.checkoutId = request.checkoutId := by
      rw [receipt]
      rfl
    rw [h.receipts_eq, List.map_append, after.checkouts, List.map_append, List.append_assoc]
    simp [named]
  receipts := by
    intro shiftId
    rw [h.receiptsOf_eq, List.length_append, after.receipts, List.countP_append,
      List.countP_singleton]
    split <;> simp [Nat.add_assoc]
  takings := by
    intro shiftId m
    rw [h.takings_eq sound, after.takings, List.map_append, List.sum_append]
    simp [Int.add_assoc]

end Tillbook
