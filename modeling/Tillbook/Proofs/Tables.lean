import Tillbook.Store.Accounts
import Tillbook.Store.Catalog
import Tillbook.Store.Counters
import Tillbook.Store.Shifts

/-!
# Tables with keys

Rows that are looked up by a key: what is found after a row was added or changed,
and that no two rows have the same key.

## Main statements

* `Table.find?_map`, `Table.map_key_map` — a change that keeps the keys.
* `Table.find?_of_mem`, `Table.find?_eq_some_iff`, `Table.filter_of_mem` — with unique keys
  every row is found by its own, and is the only one.
* `Table.nodup_append_singleton` — a row with a new key keeps them unique.
* `Table.filter_mergeSort` — rows may be left out before they are sorted or after.
* `Table.perm_flatMap_filter` — parts fall apart into those of each row.
-/

namespace Tillbook

namespace Table

variable {α : Type} {rows : List α} {row : α}

/-- A change that keeps the keys of the rows is seen through a look-up. -/
theorem find?_map (key : α → String) {f : α → α} (hf : ∀ row, key (f row) = key row)
    (rows : List α) (k : String) :
    (rows.map f).find? (key · == k) = (rows.find? (key · == k)).map f := by
  rw [List.find?_map]
  congr 2
  funext row
  simp only [Function.comp_apply, hf]

theorem map_key_map (key : α → String) {f : α → α} (hf : ∀ row, key (f row) = key row)
    (rows : List α) : (rows.map f).map key = rows.map key := by
  rw [List.map_map]
  congr 1
  funext row
  exact hf row

theorem key_of_find? (key : α → String) {k : String} (h : rows.find? (key · == k) = some row) :
    key row = k := by
  simpa using List.find?_some h

theorem find?_eq_none_iff {key : α → String} {k : String} :
    rows.find? (key · == k) = none ↔ k ∉ rows.map key := by
  simp only [List.find?_eq_none, List.mem_map, beq_iff_eq]
  grind

theorem isSome_find?_iff {key : α → String} {k : String} :
    (rows.find? (key · == k)).isSome ↔ k ∈ rows.map key := by
  rw [Option.isSome_iff_ne_none, ne_eq, find?_eq_none_iff, Decidable.not_not]

/-- With unique keys every row is found by its own. -/
theorem find?_of_mem (key : α → String) (unique : (rows.map key).Nodup) (h : row ∈ rows) :
    rows.find? (key · == key row) = some row := by
  induction rows with
  | nil => cases h
  | cons first rest ih =>
    simp only [List.map_cons, List.nodup_cons] at unique
    rcases List.mem_cons.1 h with rfl | later
    · simp
    · have other : key first ≠ key row := fun same =>
        unique.1 (same ▸ List.mem_map_of_mem later)
      rw [List.find?_cons_of_neg (by simpa using other)]
      exact ih unique.2 later

/-- With unique keys a row is found if it is there and has the key. -/
theorem find?_eq_some_iff (key : α → String) (unique : (rows.map key).Nodup) {k : String} :
    rows.find? (key · == k) = some row ↔ row ∈ rows ∧ key row = k := by
  constructor
  · exact fun h => ⟨List.mem_of_find?_eq_some h, key_of_find? key h⟩
  · rintro ⟨h, rfl⟩
    exact find?_of_mem key unique h

/-- With unique keys a row is the only one with its own. -/
theorem filter_of_mem (key : α → String) (unique : (rows.map key).Nodup) (h : row ∈ rows) :
    rows.filter (key · == key row) = [row] := by
  induction rows with
  | nil => cases h
  | cons first rest ih =>
    simp only [List.map_cons, List.nodup_cons] at unique
    rcases List.mem_cons.1 h with rfl | later
    · have others : rest.filter (key · == key row) = [] := by
        rw [List.filter_eq_nil_iff]
        intro other hother
        have apart : key other ≠ key row := fun same =>
          unique.1 (same ▸ List.mem_map_of_mem hother)
        simpa using apart
      rw [List.filter_cons_of_pos (by simp), others]
    · have other : key first ≠ key row := fun same =>
        unique.1 (same ▸ List.mem_map_of_mem later)
      rw [List.filter_cons_of_neg (by simpa using other)]
      exact ih unique.2 later

/-- A row with a new key keeps the keys unique. -/
theorem nodup_append_singleton {key : α → String} :
    ((rows ++ [row]).map key).Nodup ↔ (rows.map key).Nodup ∧ key row ∉ rows.map key := by
  simp only [List.map_append, List.map_cons, List.map_nil, List.nodup_append]
  grind

theorem find?_append_singleton (key : α → String) (rows : List α) (row : α) (k : String) :
    (rows ++ [row]).find? (key · == k) =
      (rows.find? (key · == k)).or (if key row = k then some row else none) := by
  simp

/-- What is found only after a row was added is that row. -/
theorem of_find?_append_singleton (key : α → String) {added : α} {k : String}
    (absent : rows.find? (key · == k) = none)
    (found : (rows ++ [added]).find? (key · == k) = some row) : key added = k ∧ row = added := by
  rw [find?_append_singleton, absent, Option.none_or] at found
  split at found
  · next own => exact ⟨own, (Option.some.inj found).symm⟩
  · nomatch found

/-- A split of a list by a property of its parts is determined by the list. -/
theorem append_inj_of_forall {q : α → Bool} {front front' back back' : List α}
    (h : front ++ back = front' ++ back') (first : ∀ a ∈ front, q a = true)
    (first' : ∀ a ∈ front', q a = true) (last : ∀ a ∈ back, ¬q a = true)
    (last' : ∀ a ∈ back', ¬q a = true) : front = front' ∧ back = back' := by
  have fronts := congrArg (List.filter q) h
  rw [List.filter_append, List.filter_append, List.filter_eq_self.2 first,
    List.filter_eq_self.2 first', List.filter_eq_nil_iff.2 last, List.filter_eq_nil_iff.2 last',
    List.append_nil, List.append_nil] at fronts
  subst fronts
  exact ⟨rfl, List.append_cancel_left h⟩

/-- Sorting keeps equal rows in their order, so it does not matter whether rows are left out
before or after. -/
theorem filter_mergeSort (p : α → Bool) {le : α → α → Bool}
    (trans : ∀ a b c, le a b = true → le b c = true → le a c = true)
    (total : ∀ a b, (le a b || le b a) = true) (rows : List α) :
    (rows.mergeSort le).filter p = (rows.filter p).mergeSort le := by
  induction rows with
  | nil => simp
  | cons row rest ih =>
    obtain ⟨front, back, whole, parts, before⟩ := List.mergeSort_cons trans total row rest
    have sorted := List.pairwise_mergeSort trans total (row :: rest)
    have kept : front.filter p ++ back.filter p = (rest.filter p).mergeSort le := by
      rw [← ih, parts, List.filter_append]
    rw [whole, List.filter_append]
    by_cases own : p row = true
    · obtain ⟨front', back', whole', parts', before'⟩ :=
        List.mergeSort_cons trans total row (rest.filter p)
      have sorted' := List.pairwise_mergeSort trans total (row :: rest.filter p)
      rw [whole, List.pairwise_append, List.pairwise_cons] at sorted
      rw [whole', List.pairwise_append, List.pairwise_cons] at sorted'
      rw [List.filter_cons_of_pos own, List.filter_cons_of_pos own, whole']
      obtain ⟨rfl, rfl⟩ := append_inj_of_forall (q := fun other => !le row other)
        (kept.trans parts') (fun a ha => before a (List.mem_filter.1 ha).1) before'
        (fun a ha => by simpa using sorted.2.1.1 a (List.mem_filter.1 ha).1)
        (fun a ha => by simpa using sorted'.2.1.1 a ha)
      rfl
    · rw [List.filter_cons_of_neg own, List.filter_cons_of_neg own, kept]

/-- With unique keys, parts that belong to the rows fall apart into those of each row. -/
theorem perm_flatMap_filter {α β : Type} {rows : List α} {parts : List β} (key : α → String)
    (own : β → String) (unique : (rows.map key).Nodup)
    (all : ∀ part ∈ parts, own part ∈ rows.map key) :
    parts.Perm (rows.flatMap fun row => parts.filter (own · == key row)) := by
  induction rows generalizing parts with
  | nil =>
    cases parts with
    | nil => exact .nil
    | cons part rest => exact absurd (all part List.mem_cons_self) List.not_mem_nil
  | cons row rest ih =>
    rw [List.map_cons, List.nodup_cons] at unique
    have rest_all : ∀ part ∈ parts.filter (fun part => !(own part == key row)),
        own part ∈ rest.map key := by
      intro part hpart
      obtain ⟨listed, other⟩ := List.mem_filter.1 hpart
      rw [Bool.not_eq_true', beq_eq_false_iff_ne] at other
      exact (List.mem_cons.1 (all part listed)).resolve_left other
    have others := ih unique.2 rest_all
    have same : (rest.flatMap fun r =>
        (parts.filter fun part => !(own part == key row)).filter (own · == key r)) =
          rest.flatMap fun r => parts.filter (own · == key r) := by
      rw [List.flatMap_def, List.flatMap_def]
      congr 1
      apply List.map_congr_left
      intro r hr
      have apart : key r ≠ key row := fun h => unique.1 (h ▸ List.mem_map_of_mem hr)
      rw [List.filter_filter]
      apply List.filter_congr
      intro part _
      by_cases mine : own part = key r <;> simp [mine, apart]
    rw [same] at others
    rw [List.flatMap_cons]
    exact (List.filter_append_perm _ parts).symm.trans (others.append_left _)

end Table

variable {s : Store}

/-! ## Customers -/

theorem Store.id_of_customer? {id : String} {row : CustomerRow} (h : s.customer? id = some row) :
    row.id = id :=
  Table.key_of_find? (fun row : CustomerRow => row.id) h

theorem Store.customer?_eq_none_iff {id : String} :
    s.customer? id = none ↔ id ∉ s.customers.map (·.id) :=
  Table.find?_eq_none_iff

/-- The row of a new customer. -/
def Customer.row (c : Customer) : CustomerRow :=
  { c.toCustomerCard with balance := .exact c.balance }

theorem Accounts.customer?_change {f : CustomerRow → CustomerRow}
    (hf : ∀ row, (f row).id = row.id) (id k : String) :
    (Accounts.change id f s).customer? k =
      (s.customer? k).map fun row => if row.id == id then f row else row :=
  Table.find?_map (fun row : CustomerRow => row.id) (fun row => by split <;> simp [hf])
    s.customers k

theorem Accounts.ids_change {f : CustomerRow → CustomerRow} (hf : ∀ row, (f row).id = row.id)
    (id : String) :
    (Accounts.change id f s).customers.map (·.id) = s.customers.map (·.id) :=
  Table.map_key_map (fun row : CustomerRow => row.id) (fun row => by split <;> simp [hf])
    s.customers

theorem Accounts.change_change {f g : CustomerRow → CustomerRow} (hf : ∀ row, (f row).id = row.id)
    (id : String) :
    Accounts.change id g (Accounts.change id f s) =
      Accounts.change id (fun row => g (f row)) s := by
  simp only [Accounts.change, List.map_map]
  congr 2
  funext row
  by_cases h : row.id = id <;> simp [h, hf]

/-! ## Products -/

theorem Store.id_of_product? {id : String} {row : ProductRow} (h : s.product? id = some row) :
    row.id = id :=
  Table.key_of_find? (fun row : ProductRow => row.id) h

theorem Store.product?_eq_none_iff {id : String} :
    s.product? id = none ↔ id ∉ s.products.map (·.id) :=
  Table.find?_eq_none_iff

/-- The row of a new product. -/
def Product.row (p : Product) : ProductRow := { p.toProductCard with stock := .exact p.stock }

/-- The row of a product after its stock has moved. -/
def ProductRow.moved (now : Timestamp) (id : String) (delta : Int64) (row : ProductRow) :
    ProductRow :=
  if row.id == id then { row with stock := row.stock.add delta, updatedAt := now } else row

@[simp] theorem ProductRow.id_moved (now : Timestamp) (id : String) (delta : Int64)
    (row : ProductRow) : (row.moved now id delta).id = row.id := by
  unfold ProductRow.moved
  split <;> rfl

theorem ProductRow.moved_of_ne {now : Timestamp} {id : String} {delta : Int64} {row : ProductRow}
    (h : row.id ≠ id) : row.moved now id delta = row := by
  simp [moved, h]

theorem Catalog.moveStock_eq (now : Timestamp) (id : String) (delta : Int64) (s : Store) :
    Catalog.moveStock now id delta s =
      { s with products := s.products.map (·.moved now id delta) } := rfl

theorem Catalog.product?_moveStock (now : Timestamp) (id : String) (delta : Int64) (k : String) :
    (Catalog.moveStock now id delta s).product? k =
      (s.product? k).map (·.moved now id delta) :=
  Table.find?_map (fun row : ProductRow => row.id) (ProductRow.id_moved now id delta) s.products k

theorem Catalog.product?_moveStock_of_eq_some {k : String} {row : ProductRow} (now : Timestamp)
    (id : String) (delta : Int64) (h : s.product? k = some row) :
    (Catalog.moveStock now id delta s).product? k = some (row.moved now id delta) := by
  rw [product?_moveStock, h, Option.map_some]

/-! ## Shifts -/

theorem Shifts.shift?_change {f : Shift → Shift} (hf : ∀ shift, (f shift).id = shift.id)
    (id k : String) :
    (Shifts.change id f s).shift? k =
      (s.shift? k).map fun shift => if shift.id == id then f shift else shift :=
  Table.find?_map (fun shift : Shift => shift.id) (fun shift => by split <;> simp [hf]) s.shifts k

theorem Shifts.change_change {f g : Shift → Shift} (hf : ∀ shift, (f shift).id = shift.id)
    (id : String) :
    Shifts.change id g (Shifts.change id f s) = Shifts.change id (fun shift => g (f shift)) s := by
  simp only [Shifts.change, List.map_map]
  congr 2
  funext shift
  by_cases h : shift.id = id <;> simp [h, hf]

/-! ## Counters -/

theorem Counters.counter?_advance (station k : String) :
    (Counters.advance station s).counter? k =
      (s.counter? k).map fun c =>
        if c.station == station then { c with last := c.last.add 1 } else c :=
  Table.find?_map Counter.station (fun c => by split <;> rfl) s.counters k

end Tillbook
