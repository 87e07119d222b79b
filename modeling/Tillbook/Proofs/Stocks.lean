import Mathlib.Data.List.Infix
import Tillbook.Proofs.Histories

/-!
# Stocks

The stock of a product is what the product was added with, moved by hand, less the units of
the lines that were sold and with the units of the lines that came back.  It holds as long
as the stock stays a word; a stock that leaves the words is rounded.

## Main definitions

* `Entry.adjustment?` — a move of a stock by hand.
* `SaleItem.quantityOf` — the units of the lines of a product, sold or returned.

## Main statements

* `Effect.stock` — every effect moves a stock by hand or by lines that are written with it.
* `History.stock_conserved` — the stock after every run.
-/

namespace Tillbook

namespace SaleItem

/-- The units of the lines of a product that are returns, or that are sales. -/
def quantityOf (items : List SaleItem) (productId : String) (isReturn : Bool) : Int :=
  ((items.filter fun i => i.productId == productId && i.isReturn == isReturn).map
    (·.quantity.toInt)).sum

/-- Returns put units back and sales take them. -/
theorem unitsOf_eq (items : List SaleItem) (productId : String) :
    unitsOf items productId =
      quantityOf items productId true - quantityOf items productId false := by
  induction items with
  | nil => rfl
  | cons i rest ih =>
    rw [unitsOf_cons, ih]
    unfold quantityOf units
    by_cases own : i.productId = productId
    · cases back : i.isReturn <;> simp [own, back] <;> omega
    · simp [own]

theorem unitsOf_eq_zero {items : List SaleItem} {productId : String}
    (h : ∀ i ∈ items, i.productId ≠ productId) : unitsOf items productId = 0 := by
  unfold unitsOf
  rw [List.filter_eq_nil_iff.2 (by simpa using h)]
  rfl

end SaleItem

namespace Entry

/-- The units by which an entry has moved the stock of a product by hand. -/
def adjustment? (e : Entry) (id : String) : Option Int :=
  match e.answer with
  | .error _ => none
  | .ok _ =>
    match e.call.operation with
    | .adjustStock other delta => if other = id then some delta.toInt else none
    | _ => none

theorem adjustment?_of_isPlain {e : Entry} (h : e.call.operation.isPlain = true) (id : String) :
    e.adjustment? id = none := by
  unfold adjustment?
  cases e.answer with
  | error _ => rfl
  | ok reply => cases op : e.call.operation <;> simp_all [Operation.isPlain, Operation.asks]

end Entry

/-! ## Effects on stocks -/

namespace Effect

variable {call : Call} {s s' : Store} {answer : Except LedgerError Reply} {id : String}

/-- What is not in the catalog is not moved. -/
theorem untouched (h : Effect call s answer s') (absent : s.product? id = none) :
    Entry.adjustment? ⟨call, answer⟩ id = none ∧
      SaleItem.unitsOf s'.items id = SaleItem.unitsOf s.items id := by
  cases h with
  | failed | stockLost => exact ⟨rfl, rfl⟩
  | told op => exact ⟨Entry.adjustment?_of_isPlain (Call.isPlain_of_asks op) id, rfl⟩
  | customerAdded op => exact ⟨Entry.adjustment?_of_isPlain (Call.isPlain_of_customer? op) id, rfl⟩
  | @stockMoved other delta w row op found sum =>
    refine ⟨?_, rfl⟩
    have off : other ≠ id := by
      rintro rfl
      rw [absent] at found
      nomatch found
    simp [Entry.adjustment?, op, off]
  | @committed request c _ op booked =>
    refine ⟨by simp [Entry.adjustment?, op], ?_⟩
    have off : ∀ i ∈ c.items, i.productId ≠ id := by
      rintro i hi rfl
      obtain ⟨-, -, -, row, w, found, -⟩ := booked.lines.of_mem hi
      rw [absent] at found
      nomatch found
    rw [booked.items_eq, SaleItem.unitsOf_append, SaleItem.unitsOf_eq_zero off, Int.add_zero]
  | numbered op next =>
    rw [Counters.issued_eq]
    exact ⟨by simp [Entry.adjustment?, op], rfl⟩
  | staffEngaged op | staffSet op | productAdded op | limitSet op | repaid op | settled op
  | shiftKept op | shiftBegun op | shiftEnded op => exact ⟨by simp [Entry.adjustment?, op], rfl⟩

/-- A stock that stays a word moves by hand or by the lines that are written with it. -/
theorem stock (h : Effect call s answer s') {row : ProductRow} {w : Int64}
    (found : s.product? id = some row) (before : row.stock = .exact w)
    (after : ∀ row', s'.product? id = some row' → row'.stock.word?.isSome) :
    ∃ row' w', s'.product? id = some row' ∧ row'.stock = .exact w' ∧
      w'.toInt - SaleItem.unitsOf s'.items id = w.toInt - SaleItem.unitsOf s.items id
        + (Entry.adjustment? ⟨call, answer⟩ id).getD 0 := by
  have own : row.id = id := Store.id_of_product? found
  cases h with
  | failed => exact ⟨row, w, found, before, by simp [Entry.adjustment?]⟩
  | @told reply op =>
    have plain := Call.isPlain_of_asks op
    have none := Entry.adjustment?_of_isPlain (e := ⟨call, .ok reply⟩) plain id
    exact ⟨row, w, found, before, by simp [none]⟩
  | @customerAdded c reply op =>
    have plain := Call.isPlain_of_customer? op
    have none := Entry.adjustment?_of_isPlain (e := ⟨call, .ok reply⟩) plain id
    exact ⟨row, w, found, before, by simp [none]⟩
  | productAdded op rules barcode new =>
    refine ⟨row, w, ?_, before, by simp [Entry.adjustment?, op]⟩
    rw [Store.product?, List.find?_append, ← Store.product?, found]
    rfl
  | @stockLost other delta moved e op found' lost =>
    have later := Catalog.product?_moveStock_of_eq_some call.stamp.now other delta found
    by_cases mine : other = id
    · subst mine
      obtain rfl : row = moved := Option.some.inj (found.symm.trans found')
      have read := after _ later
      simp [Catalog.moved_eq found, lost] at read
    · rw [ProductRow.moved_of_ne (by rwa [own, ne_comm])] at later
      exact ⟨row, w, later, before, by simp [Entry.adjustment?, Catalog.moveStock_eq]⟩
  | @stockMoved other delta sum moved op found' total =>
    have later := Catalog.product?_moveStock_of_eq_some call.stamp.now other delta found
    by_cases mine : other = id
    · subst mine
      obtain rfl : row = moved := Option.some.inj (found.symm.trans found')
      refine ⟨_, sum, later, by rw [Catalog.moved_eq found, total], ?_⟩
      rw [before] at total
      have exact := Tally.add_exact_eq_exact_iff.1 total
      simp only [Entry.adjustment?, op, if_true, Option.getD_some, Catalog.moveStock_eq, exact]
      omega
    · rw [ProductRow.moved_of_ne (by rwa [own, ne_comm])] at later
      exact ⟨row, w, later, before, by simp [Entry.adjustment?, op, mine, Catalog.moveStock_eq]⟩
  | @committed request c _ op booked =>
    obtain ⟨w', hw', total⟩ := booked.stock found before
    refine ⟨row.sold call.stamp.now c.items, w', ?_, hw', ?_⟩
    · rw [booked.product?_eq, found]
      rfl
    · rw [booked.items_eq, SaleItem.unitsOf_append]
      simp only [Entry.adjustment?, op, Option.getD_none]
      omega
  | numbered op next =>
    rw [Counters.issued_eq]
    exact ⟨row, w, found, before, by simp [Entry.adjustment?, op]⟩
  | staffEngaged op | staffSet op | limitSet op | repaid op | settled op | shiftKept op
  | shiftBegun op | shiftEnded op =>
    exact ⟨row, w, found, before,
      by simp [Entry.adjustment?, op, Accounts.change, Shifts.change]⟩

/-- A product that appears has the stock that it is added with. -/
theorem stocked (h : Effect call s answer s') (absent : s.product? id = none) {row' : ProductRow}
    (found : s'.product? id = some row') :
    ∃ p, Entry.product? ⟨call, answer⟩ = some p ∧ p.id = id ∧ row' = p.row := by
  cases added : Entry.product? ⟨call, answer⟩ with
  | none =>
    -- Without a new row the identities are the old ones.
    have ids := h.ids_of_products
    rw [added, Option.toList_none, List.map_nil, List.append_nil] at ids
    have gone : s'.product? id = none := by
      rw [Store.product?_eq_none_iff, ids]
      exact Store.product?_eq_none_iff.1 absent
    rw [gone] at found
    nomatch found
  | some p =>
    obtain ⟨-, rfl⟩ := h.store_of_product? added
    obtain ⟨own, rfl⟩ :=
      Table.of_find?_append_singleton (fun row : ProductRow => row.id) absent found
    exact ⟨p, rfl, own, rfl⟩

end Effect

/-! ## Stocks over whole runs -/

namespace History

/-- The moves of the stock of a product by hand, in their order. -/
def adjustments (h : History) (id : String) : List Int := h.entries.filterMap (·.adjustment? id)

/-- The stock of the product has been a word all the time. -/
def StockStays (id : String) (calls : List Call) : Prop :=
  ∀ before, before <+: calls → ∀ row, (of before).store.product? id = some row →
    row.stock.word?.isSome

theorem sum_adjustments_append (h : History) (e : Entry) (s : Store) (id : String) :
    (adjustments ⟨h.entries ++ [e], s⟩ id).sum =
      (h.adjustments id).sum + (e.adjustment? id).getD 0 := by
  unfold adjustments
  rw [filterMap_append_singleton, List.sum_append]
  cases e.adjustment? id <;> simp

/-- Nothing has happened to a product that is not there. -/
theorem untouched (id : String) (calls : List Call)
    (absent : (of calls).store.product? id = none) :
    ((of calls).adjustments id).sum = 0 ∧ SaleItem.unitsOf (of calls).store.items id = 0 := by
  revert absent
  apply induction (P := fun h => h.store.product? id = none →
    (h.adjustments id).sum = 0 ∧ SaleItem.unitsOf h.store.items id = 0)
  · exact fun _ => ⟨rfl, rfl⟩
  · intro h call answer s' ih effect absent'
    have absent := effect.product?_eq_none absent'
    obtain ⟨unmoved, unsold⟩ := effect.untouched absent
    obtain ⟨sum, units⟩ := ih absent
    rw [sum_adjustments_append, sum, unmoved, unsold, units]
    exact ⟨rfl, rfl⟩

/-- The stock without the lines is what the product was added with, moved by hand. -/
theorem stock_of_stockStays {id : String} {calls : List Call} (stays : StockStays id calls)
    {row : ProductRow} (found : (of calls).store.product? id = some row) :
    ∃ p ∈ (of calls).products, p.id = id ∧
      row.stock.value - SaleItem.unitsOf (of calls).store.items id =
        p.stock.toInt + ((of calls).adjustments id).sum := by
  induction calls using List.reverseRecOn generalizing row with
  | nil => nomatch found
  | append_singleton calls call ih =>
    have effect := call.effect (of calls).store
    have last := stays (calls ++ [call]) List.prefix_rfl
    rw [of_append_singleton] at found last ⊢
    cases before : (of calls).store.product? id with
    | none =>
      obtain ⟨p, added, own, rfl⟩ := effect.stocked before found
      obtain ⟨unmoved, unsold⟩ := effect.untouched before
      obtain ⟨sum, units⟩ := untouched id calls before
      refine ⟨p, by simp [products_add, added], own, ?_⟩
      rw [add, sum_adjustments_append]
      dsimp only
      rw [sum, unmoved, unsold, units]
      simp [Product.row]
    | some old =>
      have earlier : StockStays id calls := fun some part =>
        stays some (part.trans (List.prefix_append ..))
      obtain ⟨p, hp, own, stock⟩ := ih earlier before
      obtain ⟨w, word⟩ := Option.isSome_iff_exists.1 (earlier calls List.prefix_rfl old before)
      rw [Tally.word?_eq_some_iff] at word
      obtain ⟨row', w', found', hw', moved⟩ := effect.stock before word last
      obtain rfl : row' = row := Option.some.inj (found'.symm.trans found)
      refine ⟨p, by simp [products_add, hp], own, ?_⟩
      rw [word, Tally.value_exact] at stock
      rw [add, sum_adjustments_append, hw', Tally.value_exact]
      dsimp only
      omega

/-- As long as it is a word, the stock of a product is what it was added with and moved by
hand, less the units of the lines that were sold, and with those of the lines that came
back.  A commit writes all its lines, or it fails and leaves everything as it was. -/
theorem stock_conserved (calls : List Call) :
    (∀ row ∈ (of calls).store.products, StockStays row.id calls →
      ∃ p, (of calls).products.filter (·.id == row.id) = [p] ∧
        row.stock.value = p.stock.toInt + ((of calls).adjustments row.id).sum
          - SaleItem.quantityOf (of calls).store.items row.id false
          + SaleItem.quantityOf (of calls).store.items row.id true) ∧
    ∀ (call : Call) request, call.operation = .commit request →
      (∀ e, (call.run (of calls).store).1 = .error e →
        (call.run (of calls).store).2 = (of calls).store) ∧
      ∀ reply, (call.run (of calls).store).1 = .ok reply →
        ∃ items, (call.run (of calls).store).2.items = (of calls).store.items ++ items ∧
          items.map (fun i => (i.productId, i.quantity, i.isReturn)) =
            request.items.map fun line => (line.productId, line.quantity, request.isReturn) := by
  refine ⟨fun row hrow stays => ?_, fun call request op => ?_⟩
  · have found : (of calls).store.product? row.id = some row :=
      Table.find?_of_mem (fun row : ProductRow => row.id) (sound calls).products hrow
    obtain ⟨p, hp, own, stock⟩ := stock_of_stockStays stays found
    have unique : ((of calls).products.map (·.id)).Nodup :=
      ids_of_products calls ▸ (sound calls).products
    refine ⟨p, own ▸ Table.filter_of_mem (fun p : Product => p.id) unique hp, ?_⟩
    rw [SaleItem.unitsOf_eq] at stock
    omega
  · have effect := call.effect (of calls).store
    refine ⟨fun e failed => ?_, fun reply done => ?_⟩
    · rw [failed] at effect
      exact effect.store_of_commit_error op
    · rw [done] at effect
      obtain ⟨c, -, booked⟩ := effect.booked_of_commit_ok op
      exact ⟨c.items, booked.items_eq, booked.lines.cart_eq⟩

/-- A sale, a return and a delivery. -/
def delivery : List Call :=
  Day.opening ++ [Day.ask "r1" (.commit (Day.purchase .cash 3 600)),
    Day.ask "delivery" (.adjustStock "sugar" 24),
    Day.ask "r2" (.commit { Day.purchase .cash 1 200 with isReturn := true })]

theorem stock_conserved_of_delivery :
    let row := { Day.sugar.row with stock := .exact 62 }
    let lost := Day.ask "r3"
      (.commit { Day.purchase .cash 1 200 with customerId := some "wanjiru" })
    row ∈ (of delivery).store.products ∧ (of delivery).adjustments row.id = [24] ∧
      (∃ p, (of delivery).products.filter (·.id == row.id) = [p] ∧
        row.stock.value = p.stock.toInt + ((of delivery).adjustments row.id).sum
          - SaleItem.quantityOf (of delivery).store.items row.id false
          + SaleItem.quantityOf (of delivery).store.items row.id true) ∧
      (lost.run (of delivery).store).2 = (of delivery).store := by
  intro row lost
  have there : row ∈ (of delivery).store.products := by decide +kernel
  have words : ∀ before ∈ delivery.inits, ∀ row ∈ (of before).store.products,
      row.stock.word?.isSome := by
    decide +kernel
  have stays : StockStays row.id delivery := fun before part old found =>
    words before ((List.mem_inits _ _).2 part) old (List.mem_of_find?_eq_some found)
  have failed : (lost.run (of delivery).store).1 =
      .error (.refused (.customerNotFound "wanjiru")) := by
    decide +kernel
  have conserved := stock_conserved delivery
  exact ⟨there, by decide +kernel, conserved.1 row there stays, (conserved.2 lost _ rfl).1 _ failed⟩

end History

end Tillbook
