import Tillbook.Proofs.Actions
import Tillbook.Proofs.Outcomes
import Tillbook.Proofs.Tables
import Tillbook.Store.Receipts
import Tillbook.Store.Roster

/-!
# Single writes

For each statement on a table: when it succeeds, what it tells, and the store it
leaves.  A store is given as the old one with the changed table.

## Main statements

* `Accounts.run_moveBalance_eq_ok_iff` — a balance moves within the limit.
* `Catalog.run_adjust_eq_ok_iff` — a stock moves as long as it can be read.
* `Catalog.store_of_adjust_error` — the one statement that may fail and leave a trace.
* `Counters.run_nextReceiptNumber_eq_ok_iff` — a station gives out its next number.
-/

namespace Tillbook

variable {acc : Access} {s s' : Store}

/-! ## Staff -/

namespace Roster

theorem run_engage_eq_ok_iff {member answer : Staff} :
    (engage member).run acc s = (.ok answer, s') ↔
      acc.Writable ∧ member = answer ∧ (∀ m ∈ s.staff, m.username ≠ member.username) ∧
        s.staffMember? member.id = none ∧ s' = { s with staff := s.staff ++ [member] } := by
  rw [engage, Action.run_put_eq_ok_iff, pair_eq_ok_iff, add, Store.staffMember?]
  split
  · next taken =>
    simp only [List.any_eq_true, beq_iff_eq] at taken
    simp only [reduceCtorEq]
    grind
  · next free =>
    split
    · next taken =>
      simp only [List.any_eq_true, beq_iff_eq] at taken
      simp only [List.find?_eq_none, beq_iff_eq, reduceCtorEq]
      grind
    · next new =>
      simp only [List.any_eq_true, beq_iff_eq] at free new
      simp only [List.find?_eq_none, beq_iff_eq, Except.ok.injEq]
      grind

theorem run_setActive_eq_ok_iff {id : String} {isActive : Bool} {u : Unit} :
    (setActive id isActive).run acc s = (.ok u, s') ↔
      acc.Writable ∧ (s.staffMember? id).isSome ∧
        s' = { s with
          staff := s.staff.map fun m =>
            if m.id == id then { m with isActive := isActive } else m } := by
  rw [setActive, Action.run_put_eq_ok_iff, Store.staffMember?, List.find?_isSome]
  simp only [← List.any_eq_true]
  cases s.staff.any (·.id == id)
  · simp
  · simp [@eq_comm _ s']

end Roster

/-! ## Customers -/

/-- A customer can be read if the balance is a word. -/
theorem CustomerRow.read_eq_ok_iff {row : CustomerRow} {c : Customer} :
    row.read = .ok c ↔
      ∃ w, row.balance = .exact w ∧ c = { row.toCustomerCard with balance := w } := by
  unfold CustomerRow.read
  cases row.balance <;> simp [eq_comm]

namespace Accounts

theorem run_find_eq_ok_iff {id : String} {answer : Option Customer} :
    (find id).run acc s = (.ok answer, s') ↔
      acc.Readable ∧ (s.customer? id).mapM (·.read) = .ok answer ∧ s = s' :=
  Action.run_read_eq_ok_iff

/-- A customer whose row can be read is found. -/
theorem run_find_of_read {id : String} {row : CustomerRow} {c : Customer}
    (readable : acc.Readable) (found : s.customer? id = some row) (read : row.read = .ok c) :
    (find id).run acc s = (.ok (some c), s) :=
  run_find_eq_ok_iff.2 ⟨readable, mapM_eq_ok_some_iff.2 ⟨row, found, read⟩, rfl⟩

theorem run_insert_eq_ok_iff {c answer : Customer} :
    (insert c).run acc s = (.ok answer, s') ↔
      acc.Writable ∧ c = answer ∧ 0 ≤ c.debtLimit ∧ s.customer? c.id = none ∧
        s' = { s with customers := s.customers ++ [c.row] } := by
  rw [insert, Action.run_put_eq_ok_iff, pair_eq_ok_iff]
  simp only [add, ite_error_eq_ok_iff, Int64.not_lt, List.any_eq_true, not_exists, not_and,
    Store.customer?, List.find?_eq_none, Except.ok.injEq, @eq_comm _ _ s']
  rfl

theorem run_setLimit_eq_ok_iff {now : Timestamp} {id : String} {limit : Money} {u : Unit} :
    (setLimit now id limit).run acc s = (.ok u, s') ↔
      acc.Writable ∧ (s.customer? id).isSome ∧ 0 ≤ limit ∧
        s' = change id (fun row => { row with debtLimit := limit, updatedAt := now }) s := by
  rw [setLimit, Action.run_put_eq_ok_iff]
  cases s.customer? id with
  | none => simp
  | some row =>
    by_cases negative : limit < 0
    · simp [negative, Int64.not_le.2 negative]
    · simp [negative, Int64.not_lt.1 negative, eq_comm]

/-- A balance moves if the new one is a word, and at most the limit if it rises. -/
theorem run_moveBalance_eq_ok_iff {now : Timestamp} {id : String} {delta w : Money} :
    (moveBalance now id delta).run acc s = (.ok (some w), s') ↔
      acc.Writable ∧ ∃ row, s.customer? id = some row ∧ row.balance.add delta = .exact w ∧
        ¬(0 < delta ∧ row.debtLimit.toInt < w.toInt) ∧
        s' = change id (fun row => { row with balance := .exact w, updatedAt := now }) s := by
  rw [moveBalance, Action.run_write_eq_ok_iff]
  cases hrow : s.customer? id with
  | none => simp
  | some row =>
    cases hsum : row.balance.add delta with
    | inexact n => by_cases beyond : 0 < delta ∧ row.debtLimit.toInt < n <;> simp [beyond, hsum]
    | exact v =>
      by_cases beyond : 0 < delta ∧ row.debtLimit.toInt < v.toInt
      · simp only [Tally.value_exact, hsum, if_pos beyond]
        grind
      · simp only [Tally.value_exact, hsum, if_neg beyond, Tally.word?_exact]
        grind

theorem run_setBalance_eq_ok_iff {now : Timestamp} {id : String} {balance : Money} {u : Unit} :
    (setBalance now id balance).run acc s = (.ok u, s') ↔
      acc.Writable ∧ (s.customer? id).isSome ∧
        s' = change id (fun row => { row with balance := .exact balance, updatedAt := now }) s := by
  rw [setBalance, Action.run_put_eq_ok_iff]
  cases s.customer? id <;> simp [eq_comm]

theorem run_touch_eq_ok_iff {now : Timestamp} {id : String} {known : Bool} :
    (touch now id).run acc s = (.ok known, s') ↔
      acc.Writable ∧ (s.customer? id).isSome = known ∧
        s' = change id (fun row => { row with updatedAt := now }) s := by
  rw [touch, Action.run_put_eq_ok_iff]
  simp [eq_comm]

end Accounts

/-! ## Products -/

/-- A product can be read if the stock is a word. -/
theorem ProductRow.read_eq_ok_iff {row : ProductRow} {p : Product} :
    row.read = .ok p ↔ ∃ w, row.stock = .exact w ∧ p = { row.toProductCard with stock := w } := by
  unfold ProductRow.read
  cases row.stock <;> simp [eq_comm]

namespace Catalog

theorem run_find_eq_ok_iff {id : String} {answer : Option Product} :
    (find id).run acc s = (.ok answer, s') ↔
      acc.Readable ∧ (s.product? id).mapM (·.read) = .ok answer ∧ s = s' :=
  Action.run_read_eq_ok_iff

theorem run_insert_eq_ok_iff {p answer : Product} :
    (insert p).run acc s = (.ok answer, s') ↔
      acc.Writable ∧ p = answer ∧ brokenRule? p = none ∧
        (∀ row ∈ s.products, row.barcode ≠ p.barcode) ∧ s.product? p.id = none ∧
        s' = { s with products := s.products ++ [p.row] } := by
  rw [insert, Action.run_put_eq_ok_iff, pair_eq_ok_iff, add]
  cases brokenRule? p with
  | some rule => simp
  | none =>
    simp only [ite_error_eq_ok_iff, List.any_eq_true, not_exists, not_and, beq_iff_eq,
      Store.product?, List.find?_eq_none, Except.ok.injEq, true_and, @eq_comm _ _ s']
    rfl

/-- The row of a product that is moved by its own name. -/
theorem moved_eq {now : Timestamp} {id : String} {delta : Int64} {row : ProductRow}
    (h : s.product? id = some row) :
    row.moved now id delta = { row with stock := row.stock.add delta, updatedAt := now } := by
  have own : row.id = id := Store.id_of_product? h
  simp [ProductRow.moved, own]

/-- A stock moves if the new one is a word. -/
theorem run_adjust_eq_ok_iff {now : Timestamp} {id : String} {delta w : Int64} :
    (adjust now id delta).run acc s = (.ok w, s') ↔
      acc.Writable ∧ ∃ row, s.product? id = some row ∧ row.stock.add delta = .exact w ∧
        s' = moveStock now id delta s := by
  rw [adjust, Action.run_write_eq_ok_iff]
  simp only [product?_moveStock]
  cases hrow : s.product? id with
  | none => simp
  | some row =>
    simp only [Option.map_some, moved_eq hrow, ProductRow.read]
    cases hsum : row.stock.add delta <;> simp [hsum, Functor.map, Except.map, eq_comm]

/-- A failed move leaves the store as it was, or with a stock that cannot be read. -/
theorem store_of_adjust_error {now : Timestamp} {id : String} {delta : Int64} {e : LedgerError}
    (h : (adjust now id delta).run acc s = (.error e, s')) :
    s' = s ∨ ∃ row, s.product? id = some row ∧ (row.stock.add delta).word? = none ∧
      s' = moveStock now id delta s := by
  simp only [adjust, Action.write, product?_moveStock] at h
  split at h
  · exact .inl (Prod.mk.inj h).2.symm
  · split at h
    · exact .inl (Prod.mk.inj h).2.symm
    · cases hrow : s.product? id with
      | none =>
        rw [hrow] at h
        exact .inl (Prod.mk.inj h).2.symm
      | some row =>
        rw [hrow] at h
        simp only [Option.map_some, moved_eq hrow, ProductRow.read] at h
        cases hsum : row.stock.add delta with
        | exact w => simp [hsum, Functor.map, Except.map] at h
        | inexact n => exact .inr ⟨row, rfl, by rw [hsum]; rfl, (Prod.mk.inj h).2.symm⟩

end Catalog

/-! ## Counters -/

/-- The last number of a station as it is stored; zero before the first. -/
def Store.lastNumber (s : Store) (station : String) : Tally :=
  ((s.counter? station).map (·.last)).getD (.exact 0)

namespace Counters

/-- The store after a station has given out a number. -/
def issued (station : String) (s : Store) : Store := advance station (ensured station s)

theorem ensured_eq (station : String) (s : Store) :
    ensured station s = { s with counters := (ensured station s).counters } := by
  unfold ensured
  split <;> rfl

/-- Only the table of the counters changes. -/
theorem issued_eq (station : String) (s : Store) :
    issued station s = { s with counters := (issued station s).counters } := by
  unfold issued
  rw [ensured_eq]
  rfl

theorem counter?_ensured (station k : String) (s : Store) :
    (ensured station s).counter? k =
      (s.counter? k).or (if station = k then some ⟨station, .exact 0⟩ else none) := by
  unfold ensured
  split
  · next known =>
    by_cases own : station = k
    · subst own
      rw [Option.or_eq_left_of_isSome known]
    · simp [own]
  · exact Table.find?_append_singleton Counter.station ..

theorem lastNumber_ensured (station k : String) (s : Store) :
    (ensured station s).lastNumber k = s.lastNumber k := by
  unfold Store.lastNumber
  rw [counter?_ensured]
  cases s.counter? k with
  | some c => rfl
  | none => by_cases own : station = k <;> simp [own]

/-- Only the counter of the station moves. -/
theorem lastNumber_issued (station k : String) (s : Store) :
    (issued station s).lastNumber k =
      if k = station then (s.lastNumber station).add 1 else s.lastNumber k := by
  rw [← lastNumber_ensured station station s, ← lastNumber_ensured station k s]
  unfold Store.lastNumber issued
  rw [counter?_advance]
  cases hk : (ensured station s).counter? k with
  | none =>
    have other : k ≠ station := by
      rintro rfl
      rw [counter?_ensured] at hk
      simp at hk
    simp [other]
  | some c =>
    have own : c.station = k := Table.key_of_find? Counter.station hk
    by_cases same : k = station
    · subst same
      simp [own, hk]
    · simp [own, same]

theorem issued_ensured (station : String) (s : Store) :
    issued station (ensured station s) = issued station s := by
  have known : ((ensured station s).counter? station).isSome := by
    rw [counter?_ensured]
    simp
  rw [issued, issued, ensured, if_pos known]

theorem run_last_eq_ok_iff {station : String} {n : Int64} :
    (last station).run acc s = (.ok n, s') ↔
      acc.Readable ∧ s.lastNumber station = .exact n ∧ s = s' := by
  rw [last, Action.run_read_eq_ok_iff, Store.lastNumber]
  cases s.counter? station with
  | none => simp
  | some c =>
    simp only [Counter.read, Option.map_some, Option.getD_some]
    cases c.last <;> simp

/-- A station gives out its next number as long as that is a word. -/
theorem run_nextReceiptNumber_eq_ok_iff {station number : String} :
    (nextReceiptNumber station).run acc s = (.ok number, s') ↔
      acc.Writable ∧ ∃ n, (s.lastNumber station).add 1 = .exact n ∧
        number = ReceiptNumber.format station n ∧ s' = issued station s := by
  have moved : (issued station s).lastNumber station = (s.lastNumber station).add 1 := by
    rw [lastNumber_issued, if_pos rfl]
  simp only [nextReceiptNumber, ensure, allocate, Action.run_bind_eq_ok_iff,
    Action.run_put_eq_ok_iff, Action.run_write_eq_ok_iff, Action.run_pure_eq_ok_iff]
  rw [← moved, issued, Store.lastNumber]
  cases hc : (advance station (ensured station s)).counter? station with
  | none =>
    rw [counter?_advance, counter?_ensured] at hc
    simp at hc
  | some c =>
    simp only [Option.map_some, Option.getD_some, Counter.read]
    constructor
    · rintro ⟨⟨⟩, _, ⟨w, ⟨⟩⟩, n, _, ⟨-, h⟩, rfl, rfl⟩
      simp only [hc, Prod.mk.injEq] at h
      obtain ⟨h, rfl⟩ := h
      refine ⟨w, n, ?_, rfl, rfl⟩
      cases hlast : c.last <;> simp_all
    · rintro ⟨w, n, hlast, rfl, rfl⟩
      refine ⟨(), _, ⟨w, rfl⟩, n, _, ⟨w, ?_⟩, rfl, rfl⟩
      simp [hc, hlast]

end Counters

end Tillbook
