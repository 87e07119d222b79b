import Tillbook.Ledger.Commit
import Tillbook.Proofs.Payments
import Tillbook.Proofs.ReceiptWrites
import Tillbook.Proofs.RoundedSums

/-!
# What a commit does

A commit that succeeds is described by what it found in the store and by the store
that it left.  Its loops over the cart become relations that follow the cart line
by line; the moves of the stock and of the balance are stated in exact integers.

## Main definitions

* `Commit.Priced` — the lines of a receipt come from the cart and the catalog.
* `Commit.Written` — the lines are written and the stock moves, one by one.
* `Commit.Credited` — what becomes of the customers.
* `Commit.Booked` — all that a commit found and left.
* `SaleItem.unitsOf` — the move of a stock by some lines.

## Main statements

* `Commit.booked_of_run` — a commit that succeeds is booked.
* `Commit.Booked.stock` — each stock moves by the units of its lines, exactly.
-/

namespace Tillbook

variable {acc : Access} {s s' : Store}

/-! ## Lines -/

namespace SaleItem

/-- The move of the stock by a line, as an integer. -/
def units (i : SaleItem) : Int := if i.isReturn then i.quantity.toInt else -i.quantity.toInt

/-- The move of the stock of a product by some lines. -/
def unitsOf (items : List SaleItem) (productId : String) : Int :=
  ((items.filter (·.productId == productId)).map units).sum

theorem stockDelta_eq_ok_iff {i : SaleItem} {delta : Int64} :
    i.stockDelta = .ok delta ↔ delta.toInt = i.units := by
  unfold stockDelta Tillbook.stockDelta units
  split
  · simp [← Int64.toInt_inj, eq_comm]
  · exact Word.neg_eq_ok_iff

/-- The move by a line that the table takes is a word. -/
theorem Fits.toInt_units {i : SaleItem} (h : i.Fits s) : (Int64.ofInt i.units).toInt = i.units := by
  have positive := Int64.lt_iff_toInt_lt.1 h.quantity
  have bound := i.quantity.toInt_le
  simp only [Int64.toInt_maxValue, Int64.toInt_zero] at positive bound
  apply Int64.toInt_ofInt_of_le
  all_goals
    unfold units
    split
  all_goals omega

theorem unitsOf_cons (i : SaleItem) (rest : List SaleItem) (productId : String) :
    unitsOf (i :: rest) productId =
      (if i.productId = productId then i.units else 0) + unitsOf rest productId := by
  unfold unitsOf
  by_cases own : i.productId = productId <;> simp [own]

theorem unitsOf_append (items rest : List SaleItem) (productId : String) :
    unitsOf (items ++ rest) productId = unitsOf items productId + unitsOf rest productId := by
  simp [unitsOf]

end SaleItem

/-- The row of a product after some lines have moved its stock. -/
def ProductRow.sold (now : Timestamp) (items : List SaleItem) (row : ProductRow) : ProductRow :=
  items.foldl (fun row i => row.moved now i.productId (Int64.ofInt i.units)) row

namespace ProductRow

theorem sold_cons (now : Timestamp) (i : SaleItem) (rest : List SaleItem) (row : ProductRow) :
    row.sold now (i :: rest) =
      (row.moved now i.productId (Int64.ofInt i.units)).sold now rest := rfl

@[simp] theorem id_sold (now : Timestamp) (items : List SaleItem) (row : ProductRow) :
    (row.sold now items).id = row.id := by
  induction items generalizing row with
  | nil => rfl
  | cons i rest ih => rw [sold_cons, ih, id_moved]

end ProductRow

/-- The move of the balance by what a request bills, as an integer. -/
def CommitRequest.billed (request : CommitRequest) : Int :=
  if request.isReturn then -(request.payment.creditPortion request.total).toInt
  else (request.payment.creditPortion request.total).toInt

theorem CommitRequest.toInt_of_delta {request : CommitRequest} {delta : Money}
    (h : Credit.delta (request.payment.creditPortion request.total) request.isReturn = .ok delta) :
    delta.toInt = request.billed := by
  unfold Credit.delta at h
  unfold billed
  split at h
  · next back => rw [if_pos back, Word.neg_eq_ok_iff.1 h]
  · next sale =>
    rw [if_neg sale]
    cases h
    rfl

namespace Commit

/-! ## Checks -/

theorem run_checkStaff_eq_ok_iff {id : String} {u : Unit} :
    (checkStaff id).run acc s = (.ok u, s') ↔
      acc.Readable ∧ s = s' ∧
        ∃ member, s.staffMember? id = some member ∧ member.isActive = true := by
  simp only [checkStaff, Roster.find, Action.run_bind_eq_ok_iff, Action.run_read_eq_ok_iff]
  constructor
  · rintro ⟨found, _, ⟨readable, ⟨⟩, rfl⟩, h⟩
    cases hm : s.staffMember? id with
    | none => simp [hm] at h
    | some member =>
      rw [hm] at h
      by_cases active : member.isActive = true
      · simp only [active, if_true, Action.run_pure_eq_ok_iff, true_and] at h
        exact ⟨readable, h, member, rfl, active⟩
      · simp [active] at h
  · rintro ⟨readable, rfl, member, hm, active⟩
    refine ⟨some member, s, ⟨readable, by rw [hm], rfl⟩, ?_⟩
    simp [active]

theorem shift_of_run_checkShift {id : Option String} {u : Unit}
    (h : (checkShift id).run acc s = (.ok u, s')) :
    s = s' ∧ ∀ i, id = some i → ∃ shift, s.shift? i = some shift ∧ shift.isOpen = true := by
  cases id with
  | none =>
    simp only [checkShift, Action.run_pure_eq_ok_iff, true_and] at h
    exact ⟨h, nofun⟩
  | some i =>
    simp only [checkShift, Shifts.find, Action.run_bind_eq_ok_iff, Action.run_read_eq_ok_iff] at h
    obtain ⟨found, _, ⟨readable, ⟨⟩, rfl⟩, h⟩ := h
    cases hshift : s.shift? i with
    | none => simp [hshift] at h
    | some shift =>
      rw [hshift] at h
      by_cases isOpen : shift.isOpen = true
      · simp only [isOpen, if_true, Action.run_pure_eq_ok_iff, true_and] at h
        refine ⟨h, ?_⟩
        rintro _ ⟨⟩
        exact ⟨shift, hshift, isOpen⟩
      · simp [isOpen] at h

/-- What a request will bill, as it was checked against the store. -/
inductive Billed (request : CommitRequest) (s : Store) : Option CreditMove → Prop
  | unnamed (h : request.customerId = none) : Billed request s none
  | nothing {id : String} {row : CustomerRow} {w : Money} (named : request.customerId = some id)
      (found : s.customer? id = some row) (balance : row.balance = .exact w)
      (portion : ¬0 < request.payment.creditPortion request.total) : Billed request s none
  | something {id : String} {row : CustomerRow} {w delta sum : Money}
      (named : request.customerId = some id) (found : s.customer? id = some row)
      (balance : row.balance = .exact w)
      (portion : 0 < request.payment.creditPortion request.total)
      (move : Credit.delta (request.payment.creditPortion request.total) request.isReturn
        = .ok delta)
      (limit : Credit.checkLimit { row.toCustomerCard with balance := w } delta = .ok sum) :
      Billed request s (some ⟨{ row.toCustomerCard with balance := w }, delta⟩)

theorem billed_of_run_checkCredit {request : CommitRequest} {move : Option CreditMove}
    (h : (checkCredit request).run acc s = (.ok move, s')) : s = s' ∧ Billed request s move := by
  unfold checkCredit at h
  cases named : request.customerId with
  | none =>
    simp only [named, Action.run_pure_eq_ok_iff] at h
    obtain ⟨rfl, rfl⟩ := h
    exact ⟨rfl, .unnamed named⟩
  | some id =>
    simp only [named, Action.run_bind_eq_ok_iff, Accounts.run_find_eq_ok_iff] at h
    obtain ⟨found, _, ⟨-, read, rfl⟩, h⟩ := h
    cases found with
    | none => simp at h
    | some customer =>
      obtain ⟨row, hrow, hread⟩ := mapM_eq_ok_some_iff.1 read
      obtain ⟨w, balance, rfl⟩ := CustomerRow.read_eq_ok_iff.1 hread
      by_cases portion : 0 < request.payment.creditPortion request.total
      · simp only [portion, if_true, Action.run_bind_eq_ok_iff, Action.run_ofOverflow_eq_ok_iff,
          Action.run_ofRefusal_eq_ok_iff, Action.run_pure_eq_ok_iff] at h
        obtain ⟨delta, _, ⟨hdelta, rfl⟩, sum, _, ⟨limit, rfl⟩, rfl, rfl⟩ := h
        exact ⟨rfl, .something named hrow balance portion hdelta limit⟩
      · simp only [portion, if_false, Action.run_pure_eq_ok_iff] at h
        obtain ⟨rfl, rfl⟩ := h
        exact ⟨rfl, .nothing named hrow balance portion⟩

theorem Billed.of_customer? {request : CommitRequest} {move : Option CreditMove} {t : Store}
    (h : Billed request s move) (same : ∀ id, t.customer? id = s.customer? id) :
    Billed request t move := by
  cases h with
  | unnamed named => exact .unnamed named
  | nothing named found balance portion =>
    exact .nothing named ((same _).trans found) balance portion
  | something named found balance portion move limit =>
    exact .something named ((same _).trans found) balance portion move limit

/-! ## Prices -/

/-- The line of a receipt for a line of the cart and a product of the catalog. -/
def itemOf (request : CommitRequest) (stamp : Stamp) (position : Nat) (line : CartLine)
    (card : ProductCard) : SaleItem where
  id := stamp.itemId position
  receiptId := stamp.id
  productId := card.id
  staffId := request.staffId
  name := card.name
  quantity := line.quantity
  unitPrice := line.unitPrice.getD (card.priceFor line.quantity)
  isReturn := request.isReturn
  returnReason := line.returnReason
  createdAt := stamp.now

/-- Each line of a receipt comes from the line of the cart at its place and from the
product that this names. -/
inductive Priced (request : CommitRequest) (stamp : Stamp) (s : Store) :
    Nat → List CartLine → List SaleItem → Prop
  | nil {position : Nat} : Priced request stamp s position [] []
  | cons {position : Nat} {line : CartLine} {lines : List CartLine} {items : List SaleItem}
      {row : ProductRow} {w : Int64} (found : s.product? line.productId = some row)
      (stock : row.stock = .exact w) (rest : Priced request stamp s (position + 1) lines items) :
      Priced request stamp s position (line :: lines)
        (itemOf request stamp position line row.toProductCard :: items)

theorem run_price_eq_ok_iff {request : CommitRequest} {stamp : Stamp} {position : Nat}
    {line : CartLine} {item : SaleItem} :
    (price request stamp position line).run acc s = (.ok item, s') ↔
      acc.Readable ∧ s = s' ∧ ∃ row w, s.product? line.productId = some row ∧
        row.stock = .exact w ∧ item = itemOf request stamp position line row.toProductCard := by
  simp only [price, Action.run_bind_eq_ok_iff, Catalog.run_find_eq_ok_iff]
  constructor
  · rintro ⟨found, _, ⟨readable, read, rfl⟩, h⟩
    cases found with
    | none => simp at h
    | some product =>
      obtain ⟨row, hrow, hread⟩ := mapM_eq_ok_some_iff.1 read
      obtain ⟨w, stock, rfl⟩ := ProductRow.read_eq_ok_iff.1 hread
      obtain ⟨rfl, rfl⟩ := Action.run_pure_eq_ok_iff.1 h
      exact ⟨readable, rfl, row, w, hrow, stock, rfl⟩
  · rintro ⟨readable, rfl, row, w, hrow, stock, rfl⟩
    have read : row.read = .ok { row.toProductCard with stock := w } :=
      ProductRow.read_eq_ok_iff.2 ⟨w, stock, rfl⟩
    exact ⟨some { row.toProductCard with stock := w }, s,
      ⟨readable, mapM_eq_ok_some_iff.2 ⟨row, hrow, read⟩, rfl⟩, rfl⟩

theorem priced_of_run_priceAll {request : CommitRequest} {stamp : Stamp} {position : Nat}
    {lines : List CartLine} {items : List SaleItem}
    (h : (priceAll request stamp position lines).run acc s = (.ok items, s')) :
    s = s' ∧ Priced request stamp s position lines items := by
  induction lines generalizing position items s with
  | nil =>
    obtain ⟨rfl, rfl⟩ := Action.run_pure_eq_ok_iff.1 h
    exact ⟨rfl, .nil⟩
  | cons line rest ih =>
    simp only [priceAll, Action.run_bind_eq_ok_iff, run_price_eq_ok_iff,
      Action.run_pure_eq_ok_iff] at h
    obtain ⟨item, _, ⟨-, rfl, row, w, found, stock, rfl⟩, later, _, hlater, rfl, rfl⟩ := h
    obtain ⟨rfl, priced⟩ := ih hlater
    exact ⟨rfl, .cons found stock priced⟩

theorem Priced.of_product? {request : CommitRequest} {stamp : Stamp} {position : Nat}
    {lines : List CartLine} {items : List SaleItem} {t : Store}
    (h : Priced request stamp s position lines items)
    (same : ∀ id, t.product? id = s.product? id) : Priced request stamp t position lines items := by
  induction h with
  | nil => exact .nil
  | cons found stock _ ih => exact .cons ((same _).trans found) stock ih

/-- What the lines of a receipt take over from the request and the stamp. -/
theorem Priced.of_mem {request : CommitRequest} {stamp : Stamp} {position : Nat}
    {lines : List CartLine} {items : List SaleItem}
    (h : Priced request stamp s position lines items) {i : SaleItem} (hi : i ∈ items) :
    i.receiptId = stamp.id ∧ i.isReturn = request.isReturn ∧ i.staffId = request.staffId ∧
      ∃ row w, s.product? i.productId = some row ∧ row.stock = .exact w := by
  induction h with
  | nil => cases hi
  | cons found stock rest ih =>
    rcases List.mem_cons.1 hi with rfl | later
    · have own := Store.id_of_product? found
      exact ⟨rfl, rfl, rfl, _, _, by simpa [itemOf, own] using found, stock⟩
    · exact ih later

/-- Each line of a receipt is of a product in the cart. -/
theorem Priced.exists_line {request : CommitRequest} {stamp : Stamp} {position : Nat}
    {lines : List CartLine} {items : List SaleItem}
    (h : Priced request stamp s position lines items) {i : SaleItem} (hi : i ∈ items) :
    ∃ line ∈ lines, line.productId = i.productId := by
  induction h with
  | nil => cases hi
  | cons found stock rest ih =>
    rcases List.mem_cons.1 hi with rfl | later
    · exact ⟨_, List.mem_cons_self, (Store.id_of_product? found).symm⟩
    · obtain ⟨line, hline, same⟩ := ih later
      exact ⟨line, List.mem_cons_of_mem _ hline, same⟩

/-- The lines of a receipt sell what is in the cart, line by line. -/
theorem Priced.cart_eq {request : CommitRequest} {stamp : Stamp} {position : Nat}
    {lines : List CartLine} {items : List SaleItem}
    (h : Priced request stamp s position lines items) :
    items.map (fun i => (i.productId, i.quantity, i.isReturn)) =
      lines.map fun line => (line.productId, line.quantity, request.isReturn) := by
  induction h with
  | nil => rfl
  | @cons position line lines items row w found stock rest ih =>
    have own : row.id = line.productId := Store.id_of_product? found
    simp [itemOf, own, ih]

theorem Priced.length_eq {request : CommitRequest} {stamp : Stamp} {position : Nat}
    {lines : List CartLine} {items : List SaleItem}
    (h : Priced request stamp s position lines items) : items.length = lines.length := by
  simpa using congrArg List.length h.cart_eq

/-! ## Lines and stock -/

/-- Each line is written in its turn and moves the stock of its product, which stays
a word; a stock below zero is reported. -/
inductive Written (now : Timestamp) : Store → List OversoldProduct → List SaleItem → Store →
    List OversoldProduct → Prop
  | nil {s : Store} {report : List OversoldProduct} : Written now s report [] s report
  | cons {s s' : Store} {report report' : List OversoldProduct} {i : SaleItem}
      {items : List SaleItem} {row : ProductRow} {sum : Int64} (fits : i.Fits s)
      (found : s.product? i.productId = some row)
      (stock : row.stock.add (Int64.ofInt i.units) = .exact sum)
      (rest : Written now
        (Catalog.moveStock now i.productId (Int64.ofInt i.units) { s with items := s.items ++ [i] })
        (noteOversold report i.productId sum) items s' report') :
      Written now s report (i :: items) s' report'

theorem written_of_run_writeItems {now : Timestamp} {report report' : List OversoldProduct}
    {items : List SaleItem} (h : (writeItems now report items).run acc s = (.ok report', s')) :
    Written now s report items s' report' := by
  induction items generalizing report s with
  | nil =>
    obtain ⟨rfl, rfl⟩ := Action.run_pure_eq_ok_iff.1 h
    exact .nil
  | cons i rest ih =>
    simp only [writeItems, Action.run_bind_eq_ok_iff, Receipts.run_insertItem_eq_ok_iff,
      Action.run_ofOverflow_eq_ok_iff, Catalog.run_adjust_eq_ok_iff] at h
    obtain ⟨_, _, ⟨-, fits, rfl⟩, delta, _, ⟨hdelta, rfl⟩, sum, _, ⟨-, row, found, stock, rfl⟩,
      h⟩ := h
    have units : delta = Int64.ofInt i.units := by
      rw [← SaleItem.stockDelta_eq_ok_iff.1 hdelta, Int64.ofInt_toInt]
    subst units
    exact .cons fits found stock (ih h)

namespace Written

variable {now : Timestamp} {report report' : List OversoldProduct} {items : List SaleItem}

/-- Only the lines and the products change. -/
theorem store_eq (h : Written now s report items s' report') :
    s' = { s with
      items := s.items ++ items, products := s.products.map (·.sold now items) } := by
  induction h with
  | nil => simp [ProductRow.sold]
  | cons fits found stock rest ih =>
    rw [ih]
    simp [Catalog.moveStock_eq, ProductRow.sold_cons, Function.comp_def]

/-- The table takes each of the lines that are written. -/
theorem of_mem (h : Written now s report items s' report') {i : SaleItem} (hi : i ∈ items) :
    0 < i.quantity ∧ 0 ≤ i.unitPrice := by
  induction h with
  | nil => cases hi
  | cons fits found stock rest ih =>
    rcases List.mem_cons.1 hi with rfl | later
    · exact ⟨fits.quantity, fits.unitPrice⟩
    · exact ih later

/-- Each stock moves by the units of its lines, exactly. -/
theorem stock (h : Written now s report items s' report') {id : String} {row : ProductRow}
    {w : Int64} (found : s.product? id = some row) (exact : row.stock = .exact w) :
    ∃ w', (row.sold now items).stock = .exact w' ∧
      w'.toInt = w.toInt + SaleItem.unitsOf items id := by
  induction h generalizing row w with
  | nil => exact ⟨w, exact, (Int.add_zero _).symm⟩
  | @cons s s' report report' i rest row' sum fits hrow hsum _ ih =>
    have own : row.id = id := Store.id_of_product? found
    have later : (Catalog.moveStock now i.productId (Int64.ofInt i.units)
        { s with items := s.items ++ [i] }).product? id =
          some (row.moved now i.productId (Int64.ofInt i.units)) := by
      rw [Catalog.product?_moveStock]
      exact congrArg (Option.map _) found
    rw [ProductRow.sold_cons, SaleItem.unitsOf_cons]
    by_cases mine : i.productId = id
    · subst mine
      obtain rfl : row = row' := Option.some.inj (found.symm.trans hrow)
      rw [exact] at hsum
      have moved : (row.moved now i.productId (Int64.ofInt i.units)).stock = .exact sum := by
        simp [ProductRow.moved, own, exact, hsum]
      obtain ⟨w', hw', total⟩ := ih later moved
      refine ⟨w', hw', ?_⟩
      rw [total, Tally.add_exact_eq_exact_iff.1 hsum, fits.toInt_units, if_pos rfl]
      omega
    · have kept : row.moved now i.productId (Int64.ofInt i.units) = row :=
        ProductRow.moved_of_ne (by rwa [own, ne_comm])
      rw [kept] at later
      obtain ⟨w', hw', total⟩ := ih later exact
      rw [kept]
      refine ⟨w', hw', ?_⟩
      rw [total, if_neg mine]
      omega

end Written

/-! ## The balance -/

/-- What becomes of the customers: nothing is billed to anyone, or what is billed moves
the balance of the customer who is named, and does not raise it above the limit. -/
inductive Credited (request : CommitRequest) (now : Timestamp) (s : Store) :
    List CustomerRow → Prop
  | kept (portion : request.customerId = none ∨
        ¬0 < request.payment.creditPortion request.total) : Credited request now s s.customers
  | moved {id : String} {row : CustomerRow} {w w' : Money} (named : request.customerId = some id)
      (found : s.customer? id = some row) (balance : row.balance = .exact w)
      (portion : 0 < request.payment.creditPortion request.total)
      (sum : w'.toInt = w.toInt + request.billed)
      (limit : w.toInt < w'.toInt → w'.toInt ≤ row.debtLimit.toInt) :
      Credited request now s
        (Accounts.change id
          (fun row => { row with balance := .exact w', updatedAt := now }) s).customers

theorem credited_of_run_applyCredit {request : CommitRequest} {now : Timestamp}
    {move : Option CreditMove} {t : Store} {u : Unit} (billed : Billed request s move)
    (h : (applyCreditOr overLimit now move).run acc t = (.ok u, s'))
    (same : t.customers = s.customers) :
    ∃ customers, Credited request now s customers ∧ s' = { t with customers := customers } := by
  cases billed with
  | unnamed named =>
    obtain ⟨-, rfl⟩ := Action.run_pure_eq_ok_iff.1 h
    exact ⟨_, .kept (.inl named), by rw [← same]⟩
  | nothing named found balance portion =>
    obtain ⟨-, rfl⟩ := Action.run_pure_eq_ok_iff.1 h
    exact ⟨_, .kept (.inr portion), by rw [← same]⟩
  | @something id row w delta sum named found balance portion move limit =>
    have own : row.id = id := Store.id_of_customer? found
    simp only [applyCreditOr, overLimit, Action.run_bind_eq_ok_iff] at h
    obtain ⟨told, _, moved, h⟩ := h
    cases told with
    | none => simp at h
    | some w' =>
      obtain ⟨-, rfl⟩ := Action.run_pure_eq_ok_iff.1 h
      obtain ⟨-, row', found', total, within, rfl⟩ := Accounts.run_moveBalance_eq_ok_iff.1 moved
      rw [own, Store.customer?, same] at found'
      obtain rfl : row = row' := Option.some.inj (found.symm.trans found')
      rw [balance] at total
      have exact := Tally.add_exact_eq_exact_iff.1 total
      have signed := CommitRequest.toInt_of_delta move
      have sum : w'.toInt = w.toInt + request.billed := by omega
      have limit : w.toInt < w'.toInt → w'.toInt ≤ row.debtLimit.toInt := by
        intro rises
        by_contra beyond
        have raised : 0 < delta := by
          rw [Int64.lt_iff_toInt_lt, Int64.toInt_zero]
          omega
        exact within ⟨raised, by omega⟩
      refine ⟨_, .moved named found balance portion sum limit, ?_⟩
      rw [own, Accounts.change, same]
      rfl

/-! ## The whole commit -/

/-- The store with a receipt and its tenders, and the number of the receipt given out. -/
def withReceipt (station : String) (tenderId : Nat → String) (r : Receipt) (s : Store) : Store :=
  { s with
    receipts := s.receipts ++ [r.row]
    tenders := s.tenders ++ r.tenderRows tenderId
    counters := (Counters.issued station s).counters }

/-- The store with a receipt and all that belongs to it, and the stocks after it: what a commit
leaves, but for the customers. -/
def withSale (station : String) (stamp : Stamp) (c : Committed) (s : Store) : Store :=
  { withReceipt station stamp.tenderId c.receipt s with
    items := s.items ++ c.items
    products := s.products.map (·.sold stamp.now c.items) }

/-- What a commit that succeeds has found in the store, what it tells, and the store
that it leaves. -/
structure Booked (station : String) (stamp : Stamp) (request : CommitRequest) (s : Store)
    (c : Committed) (s' : Store) : Prop where
  form : Validation.commit request = .ok ()
  staff : ∃ member, s.staffMember? request.staffId = some member ∧ member.isActive = true
  shift : ∀ id, request.shiftId = some id → ∃ shift, s.shift? id = some shift ∧ shift.isOpen = true
  number : ∃ n, (s.lastNumber station).add 1 = .exact n ∧
    c.receipt = receiptOf request stamp station (ReceiptNumber.format station n)
  lines : Priced request stamp s 0 request.items c.items
  fits : c.receipt.Fits s
  tenders : TenderRow.AllFit (c.receipt.tenderRows stamp.tenderId)
    { s with receipts := s.receipts ++ [c.receipt.row] }
  written : ∃ t, Written stamp.now (withReceipt station stamp.tenderId c.receipt s) [] c.items t
    c.oversold
  left : ∃ customers, Credited request stamp.now s customers ∧
    s' = { withSale station stamp c s with customers := customers }

/-- A commit that succeeds is booked, at the station that the request names. -/
theorem booked_of_run {station : String} {stamp : Stamp} {request : CommitRequest} {c : Committed}
    (h : (run station stamp request).run acc s = (.ok c, s')) :
    Booked (request.originStation.getD station) stamp request s c s' := by
  generalize hname : request.originStation.getD station = name
  simp only [run, Action.run_bind_eq_ok_iff, Action.run_ofRefusal_eq_ok_iff,
    Action.run_atomically_eq_ok_iff, hname] at h
  obtain ⟨_, _, ⟨form, rfl⟩, h⟩ := h
  simp only [body, bodyOr, recordOr, Counters.ensure, Action.run_bind_eq_ok_iff,
    Action.run_put_eq_ok_iff, run_checkStaff_eq_ok_iff, Counters.run_nextReceiptNumber_eq_ok_iff,
    Receipts.run_insert_eq_ok_iff, Action.run_pure_eq_ok_iff] at h
  obtain ⟨_, _, ⟨-, ensured⟩, _, _, ⟨-, rfl, staff⟩, _, _, checked, move, _, computed, items, _,
    priced, number, _, ⟨-, n, next, rfl, rfl⟩, _, _, ⟨-, fits, tenders, rfl⟩, oversold, t, written,
    _, _, applied, rfl, rfl⟩ := h
  cases ensured
  obtain ⟨rfl, shift⟩ := shift_of_run_checkShift checked
  obtain ⟨rfl, billed⟩ := billed_of_run_checkCredit computed
  obtain ⟨rfl, lines⟩ := priced_of_run_priceAll priced
  -- The counter that is made first is seen by none of the other statements.
  rw [Counters.issued_ensured, Counters.issued_eq] at fits tenders written
  rw [Counters.lastNumber_ensured] at next
  rw [Counters.ensured_eq] at staff shift billed lines
  replace written : Written stamp.now
      (withReceipt name stamp.tenderId
        (receiptOf request stamp name (ReceiptNumber.format name n)) s) [] items t oversold :=
    written_of_run_writeItems written
  obtain rfl := written.store_eq
  replace billed : Billed request s move := billed.of_customer? fun _ => rfl
  obtain ⟨customers, credited, rfl⟩ := credited_of_run_applyCredit billed applied rfl
  exact {
    form := form
    staff := staff
    shift := shift
    number := ⟨n, next, rfl⟩
    lines := lines.of_product? fun _ => rfl
    fits := fits.of_counters s.counters
    tenders := tenders.of_counters s.counters
    written := ⟨_, written⟩
    left := ⟨customers, credited, rfl⟩ }

namespace Booked

variable {station : String} {stamp : Stamp} {request : CommitRequest} {c : Committed}

theorem receipts_eq (h : Booked station stamp request s c s') :
    s'.receipts = s.receipts ++ [c.receipt.row] := by
  obtain ⟨customers, -, rfl⟩ := h.left
  rfl

theorem tenders_eq (h : Booked station stamp request s c s') :
    s'.tenders = s.tenders ++ c.receipt.tenderRows stamp.tenderId := by
  obtain ⟨customers, -, rfl⟩ := h.left
  rfl

theorem items_eq (h : Booked station stamp request s c s') : s'.items = s.items ++ c.items := by
  obtain ⟨customers, -, rfl⟩ := h.left
  rfl

theorem lastNumber_eq (h : Booked station stamp request s c s') (k : String) :
    s'.lastNumber k = (Counters.issued station s).lastNumber k := by
  obtain ⟨customers, -, rfl⟩ := h.left
  rfl

theorem product?_eq (h : Booked station stamp request s c s') (id : String) :
    s'.product? id = (s.product? id).map (·.sold stamp.now c.items) := by
  obtain ⟨customers, -, rfl⟩ := h.left
  exact Table.find?_map (fun row : ProductRow => row.id) (ProductRow.id_sold stamp.now c.items)
    s.products id

/-- Each stock moves by the units of its lines, exactly. -/
theorem stock (h : Booked station stamp request s c s') {id : String} {row : ProductRow} {w : Int64}
    (found : s.product? id = some row) (exact : row.stock = .exact w) :
    ∃ w', (row.sold stamp.now c.items).stock = .exact w' ∧
      w'.toInt = w.toInt + SaleItem.unitsOf c.items id := by
  obtain ⟨t, written⟩ := h.written
  have same : (withReceipt station stamp.tenderId c.receipt s).product? id = some row := found
  exact written.stock same exact

end Booked

end Commit

end Tillbook
