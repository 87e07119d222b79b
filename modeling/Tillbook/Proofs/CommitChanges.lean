import Mathlib.Data.List.Forall2
import Tillbook.Proofs.Independence
import Tillbook.Proofs.WellFormedReceipts

/-!
# What changes with a commit

A commit writes to six tables.  Here each table is compared with what it was, row by row: three of
them only grow, the rows of the products and of the customers move by what the request says of
them, and only one counter moves.  All that a request does not name stays as it is.

## Main definitions

* `CommitRequest.onCredit` — what the legs on credit come to, with their sign.
* `ProductRow.ChangedBy`, `CustomerRow.ChangedBy` — a row before and after a request.
* `Commit.Changes` — the tables before and after a request.

## Main statements

* `Commit.Booked.changes` — a commit that is booked changes the tables so.
* `History.commit_changes` — the commits of every run.
-/

namespace Tillbook

variable {station : String} {stamp : Stamp} {request : CommitRequest} {s s' : Store}
  {c : Committed}

theorem exists_ok_of_isOk {ε α : Type} {x : Except ε α} (h : x.isOk = true) : ∃ a, x = .ok a := by
  cases x with
  | ok a => exact ⟨a, rfl⟩
  | error e => nomatch h

/-! ## Rows before and after -/

/-- The sum of the legs on credit: a return takes it off the balance. -/
def CommitRequest.onCredit (request : CommitRequest) : Int :=
  let legs := Tender.creditSum (request.payment.tenders request.total)
  if request.isReturn then -legs else legs

/-- The row of a product before and after a request.  The stock of a product in the cart moves by
the units of all of its lines; the row of any other product stays as it is. -/
structure ProductRow.ChangedBy (request : CommitRequest) (before after : ProductRow) : Prop where
  kept : (∀ line ∈ request.items, line.productId ≠ before.id) → after = before
  moved : (∃ line ∈ request.items, line.productId = before.id) → ∃ w w' moment,
    before.stock = .exact w ∧ after = { before with stock := .exact w', updatedAt := moment } ∧
      w'.toInt = w.toInt + request.unitsOf before.id

/-- The row of a customer before and after a request.  The balance of the customer who is named
moves by the legs on credit; the row of any other customer stays as it is. -/
structure CustomerRow.ChangedBy (request : CommitRequest) (before after : CustomerRow) : Prop where
  kept : request.customerId ≠ some before.id → after = before
  moved : request.customerId = some before.id → ∃ w w' moment,
    before.balance = .exact w ∧ after = { before with balance := .exact w', updatedAt := moment } ∧
      w'.toInt = w.toInt + request.onCredit

namespace Commit

/-- The tables before and after a request that was numbered by a station. -/
structure Changes (station : String) (stamp : Stamp) (request : CommitRequest) (s : Store)
    (c : Committed) (s' : Store) : Prop where
  number : ∃ last next, s.lastNumber station = .exact last ∧ next.toInt = last.toInt + 1 ∧
    s'.counter? station = some ⟨station, .exact next⟩ ∧
    c.receipt = receiptOf request stamp station (ReceiptNumber.format station next)
  counters : s'.counters.filter (·.station != station) = s.counters.filter (·.station != station)
  stations : (s'.counters.map (·.station)).Nodup
  receipts : s'.receipts = s.receipts ++ [c.receipt.row]
  tenders : s'.tenders =
    s.tenders ++ tenderRows stamp.id stamp.tenderId 0 (request.payment.tenders request.total)
  items : s'.items = s.items ++ c.items
  length : c.items.length = request.items.length
  lines : ∀ n line, request.items[n]? = some line → ∃ row, s.product? line.productId = some row ∧
    c.items[n]? = some (itemOf request stamp n line row.toProductCard)
  products : s.products.Forall₂ (ProductRow.ChangedBy request) s'.products
  customers : s.customers.Forall₂ (CustomerRow.ChangedBy request) s'.customers
  staff : s'.staff = s.staff
  shifts : s'.shifts = s.shifts

end Commit

/-! ## Counters -/

namespace Counters

theorem filter_ensured (station : String) (s : Store) :
    (ensured station s).counters.filter (·.station != station) =
      s.counters.filter (·.station != station) := by
  unfold ensured
  split
  · rfl
  · simp

theorem filter_advance (station : String) (s : Store) :
    (advance station s).counters.filter (·.station != station) =
      s.counters.filter (·.station != station) := by
  have same (c : Counter) : ((if c.station == station then { c with last := c.last.add 1 }
      else c).station != station) = (c.station != station) := by
    split <;> rfl
  simp only [advance, List.filter_map, Function.comp_def, same]
  refine (List.map_congr_left fun c hc => ?_).trans (List.map_id _)
  have other := List.of_mem_filter hc
  rw [bne_iff_ne] at other
  simp [other]

/-- The counters of the other stations stand still. -/
theorem filter_issued (station : String) (s : Store) :
    (issued station s).counters.filter (·.station != station) =
      s.counters.filter (·.station != station) :=
  (filter_advance station (ensured station s)).trans (filter_ensured station s)

end Counters

/-! ## Lines -/

namespace Commit.Priced

variable {position : Nat} {lines : List CartLine} {items : List SaleItem}

/-- The line of a receipt at a place comes from that of the cart. -/
theorem getElem?_eq (h : Priced request stamp s position lines items) {n : Nat} {line : CartLine}
    (there : lines[n]? = some line) :
    ∃ row w, s.product? line.productId = some row ∧ row.stock = .exact w ∧
      items[n]? = some (itemOf request stamp (position + n) line row.toProductCard) := by
  induction h generalizing n with
  | nil => simp at there
  | @cons position first lines items row w found stock rest ih =>
    cases n with
    | zero =>
      obtain rfl : first = line := by simpa using there
      exact ⟨row, w, found, stock, rfl⟩
    | succ n =>
      obtain ⟨row', w', found', stock', at_place⟩ := ih (n := n) (by simpa using there)
      refine ⟨row', w', found', stock', ?_⟩
      rw [List.getElem?_cons_succ, at_place, Nat.add_right_comm, Nat.add_assoc]

/-- A receipt has lines of the products in the cart only. -/
theorem productId_ne (h : Priced request stamp s position lines items) {id : String}
    (absent : ∀ line ∈ lines, line.productId ≠ id) : ∀ i ∈ items, i.productId ≠ id := by
  intro i hi same
  obtain ⟨line, hline, own⟩ := h.exists_line hi
  exact absent line hline (own.trans same)

end Commit.Priced

/-- A product without lines is not moved. -/
theorem ProductRow.sold_of_forall_ne {now : Timestamp} {items : List SaleItem} {row : ProductRow}
    (h : ∀ i ∈ items, i.productId ≠ row.id) : row.sold now items = row := by
  induction items with
  | nil => rfl
  | cons i rest ih =>
    rw [List.forall_mem_cons] at h
    rw [sold_cons, moved_of_ne h.1.symm, ih h.2]

/-! ## The whole commit -/

theorem CommitRequest.billed_eq (form : Validation.commit request = .ok ()) :
    request.billed = request.onCredit := by
  have payment := (Validation.commit_eq_ok_iff.1 form).2.2.2.1
  rw [billed, onCredit, Payment.toInt_creditPortion payment]

namespace Commit.Booked

/-- The rows of the products move by the lines of the cart. -/
theorem products_changedBy (h : Booked station stamp request s c s') (sound : s.Sound) :
    s.products.Forall₂ (ProductRow.ChangedBy request) s'.products := by
  have sold : s'.products = s.products.map (·.sold stamp.now c.items) := by
    obtain ⟨customers, -, rfl⟩ := h.left
    rfl
  rw [sold, List.forall₂_map_right_iff, List.forall₂_same]
  intro row hrow
  have found : s.product? row.id = some row :=
    Table.find?_of_mem (fun row : ProductRow => row.id) sound.products hrow
  constructor
  · intro absent
    exact ProductRow.sold_of_forall_ne (h.lines.productId_ne absent)
  · rintro ⟨line, hline, own⟩
    obtain ⟨n, there⟩ := List.mem_iff_getElem?.1 hline
    obtain ⟨row', w, found', stock, -⟩ := h.lines.getElem?_eq there
    rw [own] at found'
    obtain rfl : row = row' := Option.some.inj (found.symm.trans found')
    obtain ⟨w', moved, sum⟩ := h.stock found stock
    obtain ⟨moment, same⟩ := row.sold_eq stamp.now c.items
    refine ⟨w, w', moment, stock, by rw [same, moved], ?_⟩
    rw [sum, h.lines.unitsOf_eq]
    rfl

/-- The row of the customer who is named moves by the legs on credit. -/
theorem customers_changedBy (h : Booked station stamp request s c s') (sound : s.Sound) :
    s.customers.Forall₂ (CustomerRow.ChangedBy request) s'.customers := by
  have billed := CommitRequest.billed_eq h.form
  obtain ⟨customers, credited, left⟩ := h.left
  rw [show s'.customers = customers by rw [left]]
  cases credited with
  | kept portion =>
    rw [List.forall₂_same]
    intro row hrow
    refine ⟨fun _ => rfl, fun named => ?_⟩
    obtain ⟨w, balance⟩ := (sound.accounts row hrow).balance
    have nothing : request.onCredit = 0 := by
      rw [← billed]
      apply h.billed_eq_zero
      rcases portion with unnamed | nothing
      · rw [unnamed] at named
        nomatch named
      · exact nothing
    exact ⟨w, w, row.updatedAt, balance, by rw [← balance], by omega⟩
  | @moved id row₀ w w' named found balance portion sum limit =>
    rw [Accounts.change, List.forall₂_map_right_iff, List.forall₂_same]
    intro row hrow
    have there : s.customer? row.id = some row :=
      Table.find?_of_mem (fun row : CustomerRow => row.id) sound.customers hrow
    by_cases own : row.id = id
    · subst own
      obtain rfl : row₀ = row := Option.some.inj (found.symm.trans there)
      rw [if_pos (beq_self_eq_true _)]
      refine ⟨fun other => absurd named other, fun _ => ?_⟩
      exact ⟨w, w', stamp.now, balance, rfl, by rw [sum, billed]⟩
    · rw [if_neg (by simpa using own)]
      refine ⟨fun _ => rfl, fun same => ?_⟩
      rw [named] at same
      exact absurd (Option.some.inj same).symm own

/-- A commit that is booked changes the tables as the request says. -/
theorem changes (h : Booked station stamp request s c s') (sound : s.Sound) (numbered : s.Numbered)
    (unique : (s'.counters.map (·.station)).Nodup) : Changes station stamp request s c s' where
  number := by
    obtain ⟨n, next, receipt⟩ := h.number
    obtain ⟨last, hlast, nonnegative⟩ := numbered.counters station
    have moved : s'.lastNumber station = .exact n := by
      rw [h.lastNumber_eq, Counters.lastNumber_issued, if_pos rfl, next]
    rw [hlast, Tally.add_exact_eq_exact_iff, Int64.toInt_one] at next
    exact ⟨last, n, hlast, next, Store.counter?_of_lastNumber moved (by omega), receipt⟩
  counters := by
    obtain ⟨customers, -, rfl⟩ := h.left
    exact Counters.filter_issued station s
  stations := unique
  receipts := h.receipts_eq
  tenders := by
    obtain ⟨n, -, receipt⟩ := h.number
    rw [h.tenders_eq, receipt]
    rfl
  items := h.items_eq
  length := h.lines.length_eq
  lines := by
    intro n line there
    obtain ⟨row, -, found, -, at_place⟩ := h.lines.getElem?_eq there
    rw [Nat.zero_add] at at_place
    exact ⟨row, found, at_place⟩
  products := h.products_changedBy sound
  customers := h.customers_changedBy sound
  staff := h.staff_eq
  shifts := h.shifts_eq

end Commit.Booked

namespace History

/-- A commit that succeeds changes the tables as its request says, and nothing else.  The counter
of its station goes up by one; one receipt, its tenders and its lines are added, the lines in the
order of the cart; each product of the cart and the customer who is named move by what the request
says; every other row is what it was. -/
theorem commit_changes (calls : List Call) (call : Call) (request : CommitRequest)
    (op : call.operation = .commit request) (reply : Reply)
    (done : (call.run (of calls).store).1 = .ok reply) :
    ∃ c, reply = .committed c (call.ledger.tell c) ∧
      Commit.Changes (request.originStation.getD call.ledger.station) call.stamp request
        (of calls).store c (call.run (of calls).store).2 := by
  have effect := call.effect (of calls).store
  have unique := effect.keeps_counters (counters_nodup calls)
  rw [done] at effect
  obtain ⟨c, told, booked⟩ := effect.booked_of_commit_ok op
  exact ⟨c, told, booked.changes (sound calls) (numbered calls) unique⟩

end History

namespace Day

/-- Three bags in two lines, one of them at an agreed price, paid in cash and on the tab. -/
def mixed : CommitRequest :=
  { purchase (.split [.plain .cash 250, .plain .credit 250]) 2 500 with
    items := [.plain "sugar" 2, (CartLine.plain "sugar" 1).atPrice 100] }

end Day

namespace History

theorem commit_changes_of_mixed :
    let request := { Day.mixed with isReturn := true }
    let call := Day.ask "r1" (.commit request)
    let s := (of Day.opening).store
    (∃ reply, (call.run s).1 = .ok reply) ∧
      (∃ c, Commit.Changes "POS-01" call.stamp request s c (call.run s).2) ∧
      request.unitsOf "sugar" = 3 ∧ request.onCredit = -250 := by
  intro request call s
  obtain ⟨reply, done⟩ : ∃ reply, (call.run s).1 = .ok reply :=
    exists_ok_of_isOk (by decide +kernel)
  obtain ⟨c, -, changes⟩ := commit_changes Day.opening call request rfl reply done
  exact ⟨⟨reply, done⟩, ⟨c, changes⟩, by decide +kernel, by decide +kernel⟩

end History

end Tillbook
