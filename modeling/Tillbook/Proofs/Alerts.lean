import Mathlib.Data.List.Nodup
import Tillbook.Proofs.Oversold

/-!
# The reorder list

The reorder list has the active products at or below their reorder level, the lowest stock
first.  What a commit reports as sold beyond the stock is decided by the sign of the stock
alone, so the report and the list agree on the products that are active and low; a product
that was taken off the shelves is not reordered, however much of it is missing.

The list is all or nothing: one stock that cannot be told, and no line is.

## Main definitions

* `ProductRow.ToReorder` — the product is active and at or below its level.
* `Catalog.toReorder` — the rows of the list in their order.

## Main statements

* `Catalog.exists_run_alerts_iff` — when there is a list.
* `Catalog.split_alerts` — where a product stands on it.
* `History.oversold_on_list` — what a sale reports is on the list.
-/

namespace Tillbook

/-- The product is active, and its stock has come down to the level at which to reorder. -/
def ProductRow.ToReorder (row : ProductRow) : Prop :=
  row.isActive = true ∧ row.stock.value ≤ row.minStock.toInt

/-- The line of a product with so many units on hand. -/
def ProductRow.alertAt (row : ProductRow) (stock : Int64) : StockAlert :=
  ⟨row.id, row.barcode, row.name, stock, row.minStock⟩

/-- A product can be listed if its stock is a word. -/
theorem ProductRow.alert_eq_ok_iff {row : ProductRow} {a : StockAlert} :
    row.alert = .ok a ↔ ∃ w, row.stock = .exact w ∧ a = row.alertAt w := by
  simp only [alert, bind_eq_ok_iff, ProductRow.read_eq_ok_iff]
  constructor
  · rintro ⟨_, ⟨w, stock, rfl⟩, ⟨⟩⟩
    exact ⟨w, stock, rfl⟩
  · rintro ⟨w, stock, rfl⟩
    exact ⟨_, ⟨w, stock, rfl⟩, rfl⟩

namespace Catalog

variable {acc : Access} {s s' : Store} {alerts : List StockAlert} {row : ProductRow}

/-! ## The rows of the list -/

/-- The rows of the list, the lowest stock first and then by name. -/
def toReorder (s : Store) : List ProductRow :=
  let rows := s.products.filter fun row =>
    row.isActive && decide (row.stock.value ≤ row.minStock.toInt)
  (rows.mergeSort fun a b => a.name ≤ b.name).mergeSort fun a b => a.stock.value ≤ b.stock.value

theorem mem_toReorder_iff : row ∈ toReorder s ↔ row ∈ s.products ∧ row.ToReorder := by
  simp [toReorder, ProductRow.ToReorder]

/-- The lower stock comes first. -/
theorem toReorder_pairwise : (toReorder s).Pairwise fun a b => a.stock.value ≤ b.stock.value := by
  have sorted : (toReorder s).Pairwise fun a b => decide (a.stock.value ≤ b.stock.value) = true :=
    List.pairwise_mergeSort
      (by intro a b c; simp only [decide_eq_true_eq]; omega)
      (by intro a b; simp only [Bool.or_eq_true, decide_eq_true_eq]; omega) _
  simpa only [decide_eq_true_eq] using sorted

/-- No product is listed twice. -/
theorem nodup_toReorder (unique : (s.products.map (·.id)).Nodup) :
    ((toReorder s).map (·.id)).Nodup := by
  have perm := (List.mergeSort_perm _ fun a b : ProductRow =>
    decide (a.stock.value ≤ b.stock.value)).trans
      (List.mergeSort_perm (s.products.filter fun row =>
        row.isActive && decide (row.stock.value ≤ row.minStock.toInt)) fun a b => a.name ≤ b.name)
  exact (perm.map (·.id)).nodup_iff.2 (unique.sublist (List.filter_sublist.map _))

/-! ## The list -/

theorem run_alerts_eq_ok_iff :
    Catalog.alerts.run acc s = (.ok alerts, s') ↔
      acc.Readable ∧ (toReorder s).mapM (·.alert) = .ok alerts ∧ s = s' :=
  Action.run_read_eq_ok_iff

/-- There is a list if the stock of each product on it can be told. -/
theorem exists_run_alerts_iff (readable : acc.Readable) :
    (∃ alerts, (Catalog.alerts.run acc s).1 = .ok alerts) ↔
      ∀ row ∈ s.products, row.ToReorder → ∃ w, row.stock = .exact w := by
  have answered : (∃ alerts, (Catalog.alerts.run acc s).1 = .ok alerts) ↔
      ∃ alerts, (toReorder s).mapM (·.alert) = .ok alerts := by
    simp only [Action.fst_eq_ok_iff, run_alerts_eq_ok_iff, readable, true_and, exists_and_left,
      exists_eq', and_true]
  rw [answered, exists_mapM_eq_ok_iff]
  simp only [mem_toReorder_iff, ProductRow.alert_eq_ok_iff, and_imp]
  refine forall₃_congr fun row _ _ => ⟨?_, ?_⟩
  · rintro ⟨_, w, stock, -⟩
    exact ⟨w, stock⟩
  · rintro ⟨w, stock⟩
    exact ⟨_, w, stock, rfl⟩

/-- Each line of the list is that of a product to reorder. -/
theorem product?_of_mem_alerts (unique : (s.products.map (·.id)).Nodup)
    (told : (toReorder s).mapM (·.alert) = .ok alerts) {a : StockAlert} (ha : a ∈ alerts) :
    ∃ row, s.product? a.productId = some row ∧ row.ToReorder ∧ row.stock = .exact a.stock := by
  obtain ⟨row, hrow, alert⟩ := exists_of_mem_mapM told ha
  obtain ⟨w, stock, rfl⟩ := ProductRow.alert_eq_ok_iff.1 alert
  obtain ⟨listed, low⟩ := mem_toReorder_iff.1 hrow
  exact ⟨row, Table.find?_of_mem (fun row : ProductRow => row.id) unique listed, low, stock⟩

/-- A product to reorder has one line, and no higher stock stands before it. -/
theorem split_alerts (unique : (s.products.map (·.id)).Nodup)
    (told : (toReorder s).mapM (·.alert) = .ok alerts) {w : Int64} (listed : row ∈ s.products)
    (low : row.ToReorder) (stock : row.stock = .exact w) :
    ∃ before after, alerts = before ++ row.alertAt w :: after ∧
      (∀ a ∈ before, a.stock.toInt ≤ w.toInt) ∧ ∀ a ∈ before ++ after, a.productId ≠ row.id := by
  obtain ⟨front, back, split⟩ := List.append_of_mem (mem_toReorder_iff.2 ⟨listed, low⟩)
  have sorted := @toReorder_pairwise s
  have once := nodup_toReorder unique
  rw [split, List.pairwise_append] at sorted
  rw [split, List.map_append, List.map_cons, List.nodup_middle, List.nodup_cons,
    ← List.map_append] at once
  simp only [split, List.mapM_append, List.mapM_cons, bind_eq_ok_iff] at told
  obtain ⟨before, hbefore, _, ⟨alert, own, after, hafter, ⟨⟩⟩, ⟨⟩⟩ := told
  obtain ⟨w', stock', rfl⟩ := ProductRow.alert_eq_ok_iff.1 own
  obtain rfl : w' = w := Tally.exact.inj (stock'.symm.trans stock)
  refine ⟨before, after, rfl, ?_, ?_⟩
  · intro a ha
    obtain ⟨other, hother, alert⟩ := exists_of_mem_mapM hbefore ha
    obtain ⟨v, value, rfl⟩ := ProductRow.alert_eq_ok_iff.1 alert
    have lower := sorted.2.2 other hother row List.mem_cons_self
    rwa [value, stock] at lower
  · intro a ha same
    have part : ∃ other ∈ front ++ back, other.alert = .ok a := by
      rcases List.mem_append.1 ha with first | later
      · obtain ⟨other, hother, alert⟩ := exists_of_mem_mapM hbefore first
        exact ⟨other, List.mem_append_left _ hother, alert⟩
      · obtain ⟨other, hother, alert⟩ := exists_of_mem_mapM hafter later
        exact ⟨other, List.mem_append_right _ hother, alert⟩
    obtain ⟨other, hother, alert⟩ := part
    obtain ⟨v, -, rfl⟩ := ProductRow.alert_eq_ok_iff.1 alert
    exact once.1 (List.mem_map.2 ⟨other, hother, same⟩)

end Catalog

/-- The answer to a question for the list is the list. -/
theorem Call.run_stockAlerts_eq_ok_iff {call : Call} {s s' : Store} {reply : Reply}
    (op : call.operation = .stockAlerts) :
    call.run s = (.ok reply, s') ↔ ∃ alerts, reply = .alerts alerts ∧
      Catalog.alerts.run call.access s = (.ok alerts, s') :=
  run_eq_ok_iff_of_action (by rw [op]; rfl)

/-- Forty-five units of sugar are sold, and there were forty. -/
def Day.oversale : Committed where
  receipt := ⟨⟨"r1", "POS-01-00001", moment, none, "amina", some "otieno", 9000, .completed, none,
    none, false, "POS-01"⟩, .cash⟩
  items := [⟨"r1", "r1", "sugar", "amina", "Sugar 1kg", 45, 200, false, none, moment⟩]
  oversold := [⟨"sugar", -5⟩]

namespace History

/-- No product is there twice after one more call. -/
theorem nodup_products_run (calls : List Call) (call : Call) :
    ((call.run (of calls).store).2.products.map (·.id)).Nodup := by
  have sound := (sound (calls ++ [call])).products
  rwa [of_append_singleton] at sound

/-- The list that is asked for right after a sale tells the stocks that are left.  There is one
if the stock of each product on it can be told.  A product that the sale reports has one line
there if it is active and at or below its level, with the stock of the report, and only stocks
below zero stand before that line.  It has none if it is not active. -/
theorem oversold_on_list (calls : List Call) (call : Call) (request : CommitRequest)
    (c : Committed) (deliveries : List Delivery) (op : call.operation = .commit request)
    (sale : request.isReturn = false)
    (done : (call.run (of calls).store).1 = .ok (.committed c deliveries)) (list : Call)
    (asks : list.operation = .stockAlerts) (readable : list.access.Readable) :
    let left := (call.run (of calls).store).2
    ((∀ row ∈ left.products, row.ToReorder → ∃ w, row.stock = .exact w) →
      ∃ reply, (list.run left).1 = .ok reply) ∧
    ∀ reply, (list.run left).1 = .ok reply → ∃ alerts, reply = .alerts alerts ∧
      (∀ a ∈ alerts, ∃ row, left.product? a.productId = some row ∧ row.stock = .exact a.stock) ∧
      ∀ o ∈ c.oversold, ∃ row, left.product? o.productId = some row ∧ row.stock = .exact o.stock ∧
        (row.isActive = true → o.stock.toInt ≤ row.minStock.toInt →
          ∃ before after, alerts = before ++ row.alertAt o.stock :: after ∧
            (∀ a ∈ before, a.stock.toInt < 0) ∧
            ∀ a ∈ before ++ after, a.productId ≠ o.productId) ∧
        (row.isActive = false → ∀ a ∈ alerts, a.productId ≠ o.productId) := by
  intro left
  have booked := Call.booked_of_committed op done
  have unique := nodup_products_run calls call
  refine ⟨fun exact => ?_, fun reply answered => ?_⟩
  · obtain ⟨alerts, told⟩ := (Catalog.exists_run_alerts_iff readable).2 exact
    exact ⟨_, congrArg Prod.fst
      ((Call.run_stockAlerts_eq_ok_iff asks).2 ⟨alerts, rfl, Prod.ext told rfl⟩)⟩
  · obtain ⟨alerts, rfl, run⟩ := (Call.run_stockAlerts_eq_ok_iff asks).1 (Prod.ext answered rfl)
    have told := (Catalog.run_alerts_eq_ok_iff.1 run).2.1
    have backed {a : StockAlert} (ha : a ∈ alerts) :=
      Catalog.product?_of_mem_alerts unique told ha
    refine ⟨alerts, rfl, fun a ha => ?_, fun o ho => ?_⟩
    · obtain ⟨row, found, -, stock⟩ := backed ha
      exact ⟨row, found, stock⟩
    · obtain ⟨below, row, found, stock⟩ := booked.left_of_oversold sale ho
      have listed : row ∈ left.products := List.mem_of_find?_eq_some found
      have own : row.id = o.productId := Store.id_of_product? found
      refine ⟨row, found, stock, fun active low => ?_, fun inactive a ha named => ?_⟩
      · have reorder : row.ToReorder := ⟨active, by rwa [stock]⟩
        obtain ⟨before, after, split, lower, once⟩ :=
          Catalog.split_alerts unique told listed reorder stock
        refine ⟨before, after, split, fun a ha => ?_, own ▸ once⟩
        have most := lower a ha
        omega
      · obtain ⟨other, there, ⟨active, -⟩, -⟩ := backed ha
        obtain rfl : other = row := Option.some.inj ((named ▸ there).symm.trans found)
        rw [inactive] at active
        nomatch active

/-- Forty-five units are sold of forty.  The list that is asked for then has the sugar. -/
theorem oversold_on_list_of_sugar :
    let call := Day.ask "r1" (.commit (Day.purchase .cash 45 9000))
    let list := Day.ask "list" .stockAlerts
    let left := (call.run (of Day.opening).store).2
    (call.run (of Day.opening).store).1 = .ok (.committed Day.oversale []) ∧
    ∃ alerts before after, (list.run left).1 = .ok (.alerts alerts) ∧
      alerts = before ++ ⟨"sugar", "6001", "Sugar 1kg", -5, 5⟩ :: after ∧
      ∀ a ∈ before, a.stock.toInt < 0 := by
  intro call list left
  have done : (call.run (of Day.opening).store).1 = .ok (.committed Day.oversale []) := by
    decide +kernel
  have products : left.products = [{ Day.sugar.row with stock := .exact (-5) }] := by
    decide +kernel
  have found : left.product? "sugar" = some { Day.sugar.row with stock := .exact (-5) } := by
    rw [Store.product?, products]
    rfl
  obtain ⟨answers, tells⟩ := oversold_on_list Day.opening call _ _ [] rfl rfl done list rfl
    (by decide)
  have exact : ∀ row ∈ left.products, row.ToReorder → ∃ w, row.stock = .exact w := by
    rw [products, List.forall_mem_singleton]
    exact fun _ => ⟨-5, rfl⟩
  obtain ⟨reply, answered⟩ := answers exact
  obtain ⟨alerts, rfl, -, reported⟩ := tells reply answered
  obtain ⟨row, there, -, listed, -⟩ := reported ⟨"sugar", -5⟩ (List.mem_singleton.2 rfl)
  obtain rfl := Option.some.inj (found.symm.trans there)
  obtain ⟨before, after, split, lower, -⟩ := listed rfl (by decide)
  exact ⟨done, alerts, before, after, answered, split, lower⟩

/-- The sugar is not active, or it is reordered only at ten below zero, or there is flour of
which the stock cannot be told.  A sale of forty-five units of forty reports that five are
missing each time, and no list that is asked for then has the sugar. -/
theorem oversold_unlisted :
    let opening (sugar : Product) := Day.opening.set 1 (Day.ask "sugar" (.addProduct sugar))
    let inactive := opening { Day.sugar with isActive := false }
    let late := opening { Day.sugar with minStock := -10 }
    let flour := { Day.sugar with id := "flour", barcode := "6002", stock := Int64.minValue }
    let lost := Day.opening ++
      [Day.ask "flour" (.addProduct flour), Day.ask "waste" (.adjustStock "flour" (-1))]
    let call := Day.ask "r1" (.commit (Day.purchase .cash 45 9000))
    let list := Day.ask "list" .stockAlerts
    ∀ calls ∈ [inactive, late, lost],
      (call.run (of calls).store).1 = .ok (.committed Day.oversale []) ∧
      ¬∃ alerts, (list.run (call.run (of calls).store).2).1 = .ok (.alerts alerts) ∧
        ∃ a ∈ alerts, a.productId = "sugar" := by
  intro opening inactive late flour lost call list calls hcalls
  have done : ∀ calls ∈ [inactive, late, lost], (call.run (of calls).store).1 =
      .ok (.committed Day.oversale []) := by
    decide +kernel
  refine ⟨done calls hcalls, ?_⟩
  rintro ⟨alerts, answered, a, ha, named⟩
  obtain ⟨_, ⟨⟩, run⟩ := (Call.run_stockAlerts_eq_ok_iff rfl).1 (Prod.ext answered rfl)
  obtain ⟨row, found, ⟨active, low⟩, -⟩ := Catalog.product?_of_mem_alerts
    (nodup_products_run calls call) (Catalog.run_alerts_eq_ok_iff.1 run).2.1 ha
  rw [named] at found
  have cases : calls = inactive ∨ calls = late ∨ calls = lost := by simpa using hcalls
  rcases cases with rfl | rfl | rfl
  · have left : (call.run (of inactive).store).2.product? "sugar" =
        some { Day.sugar.row with isActive := false, stock := .exact (-5) } := by
      decide +kernel
    obtain rfl := Option.some.inj (left.symm.trans found)
    nomatch active
  · have left : (call.run (of late).store).2.product? "sugar" =
        some { Day.sugar.row with minStock := -10, stock := .exact (-5) } := by
      decide +kernel
    obtain rfl := Option.some.inj (left.symm.trans found)
    exact absurd low (by decide)
  · have left : ∃ row ∈ (call.run (of lost).store).2.products,
        (row.isActive = true ∧ row.stock.value ≤ row.minStock.toInt) ∧ row.stock.word? = none := by
      decide +kernel
    obtain ⟨other, hother, reorder, unread⟩ := left
    have readable : list.access.Readable := by decide
    obtain ⟨w, stock⟩ := (Catalog.exists_run_alerts_iff readable).1
      ⟨alerts, congrArg Prod.fst run⟩ other hother reorder
    rw [stock] at unread
    nomatch unread

end History

end Tillbook
