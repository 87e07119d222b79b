import Mathlib.Data.List.Induction
import Tillbook.Proofs.Effects

/-!
# Histories

A history is a run of calls from the empty store on: the calls in their order with their
answers, and the store that they left.  The calls may come from any stations, and each may
succeed or fail.

## Main definitions

* `History.of` — the history of some calls.
* `History.since` — what has happened after the first calls.
* `Store.Sound` — what holds of every store that calls have left.

## Main statements

* `History.induction` — what every effect keeps holds of every history.
* `History.sound` — every history leaves a sound store.
-/

namespace Tillbook

/-- A call with its answer. -/
structure Entry where
  call : Call
  answer : Except LedgerError Reply

/-- What has happened so far, and the store as it is now. -/
structure History where
  entries : List Entry := []
  store : Store := {}

namespace History

/-- One more call. -/
def add (h : History) (call : Call) : History :=
  ⟨h.entries ++ [⟨call, (call.run h.store).1⟩], (call.run h.store).2⟩

/-- The history of some calls. -/
def of (calls : List Call) : History := calls.foldl add {}

theorem of_append_singleton (calls : List Call) (call : Call) :
    of (calls ++ [call]) = (of calls).add call := by
  simp [of]

@[simp] theorem length_entries (calls : List Call) : (of calls).entries.length = calls.length := by
  induction calls using List.reverseRecOn with
  | nil => rfl
  | append_singleton calls call ih => simp [of_append_singleton, add, ih]

/-- What has happened after the first `n` calls. -/
def since (h : History) (n : Nat) : List Entry := h.entries.drop n

@[simp] theorem since_length (calls : List Call) : (of calls).since calls.length = [] := by
  simp [since]

/-- One more call is the last thing that has happened since. -/
theorem since_append_singleton (calls more : List Call) (call : Call) :
    (of (calls ++ more ++ [call])).since calls.length =
      (of (calls ++ more)).since calls.length ++
        [⟨call, (call.run (of (calls ++ more)).store).1⟩] := by
  rw [of_append_singleton]
  exact List.drop_append_of_le_length (by simp)

/-- What holds at first and is kept by every effect holds of every history. -/
theorem induction {P : History → Prop} (start : P {})
    (step : ∀ (h : History) (call : Call) (answer : Except LedgerError Reply) (s' : Store),
      P h → Effect call h.store answer s' → P ⟨h.entries ++ [⟨call, answer⟩], s'⟩)
    (calls : List Call) : P (of calls) := by
  induction calls using List.reverseRecOn with
  | nil => exact start
  | append_singleton calls call ih =>
    rw [of_append_singleton]
    exact step (of calls) call _ _ ih (call.effect (of calls).store)

end History

/-! ## What was added -/

theorem Call.customer?_of_asks {call : Call} (h : call.operation.asks = true) :
    call.customer? = none := by
  unfold customer?
  cases op : call.operation <;> simp_all [Operation.asks]

theorem Call.product?_of_isPlain {call : Call} (h : call.operation.isPlain = true) :
    call.product? = none := by
  unfold product?
  cases op : call.operation <;> simp_all [Operation.isPlain, Operation.asks]

/-- The customer that a call has added. -/
def Entry.customer? (e : Entry) : Option Customer :=
  match e.answer with
  | .ok _ => e.call.customer?
  | .error _ => none

/-- The product that a call has added. -/
def Entry.product? (e : Entry) : Option Product :=
  match e.answer with
  | .ok _ => e.call.product?
  | .error _ => none

/-- The customers that were added, in their order. -/
def History.customers (h : History) : List Customer := h.entries.filterMap (·.customer?)

/-- The products that were added, in their order. -/
def History.products (h : History) : List Product := h.entries.filterMap (·.product?)

/-- What is read off the entries grows by what is read off the last one. -/
theorem filterMap_append_singleton {α β : Type} (f : α → Option β) (as : List α) (a : α) :
    (as ++ [a]).filterMap f = as.filterMap f ++ (f a).toList := by
  cases h : f a <;> simp [h]

theorem History.customers_add (h : History) (call : Call) :
    (h.add call).customers =
      h.customers ++ (Entry.customer? ⟨call, (call.run h.store).1⟩).toList :=
  filterMap_append_singleton ..

theorem History.products_add (h : History) (call : Call) :
    (h.add call).products = h.products ++ (Entry.product? ⟨call, (call.run h.store).1⟩).toList :=
  filterMap_append_singleton ..

/-! ## Sound stores -/

/-- The balance can be read, and the limit is not below zero. -/
structure CustomerRow.Sound (row : CustomerRow) : Prop where
  balance : ∃ w, row.balance = .exact w
  limit : 0 ≤ row.debtLimit

/-- What holds of every store that calls have left. -/
structure Store.Sound (s : Store) : Prop where
  customers : (s.customers.map (·.id)).Nodup
  products : (s.products.map (·.id)).Nodup
  receipts : (s.receipts.map (·.id)).Nodup
  numbers : (s.receipts.map (·.number)).Nodup
  accounts : ∀ row ∈ s.customers, row.Sound
  tenders : ∀ t ∈ s.tenders, t.receiptId ∈ s.receipts.map (·.id)
  named : ∀ r ∈ s.receipts, ∀ id, r.customerId = some id → id ∈ s.customers.map (·.id)

/-- A change of a customer that leaves the row sound leaves all of them sound. -/
theorem Accounts.sound_change {s : Store} {f : CustomerRow → CustomerRow} {id : String}
    (hf : ∀ row : CustomerRow, row.Sound → (f row).Sound)
    (hs : ∀ row ∈ s.customers, row.Sound) :
    ∀ row ∈ (Accounts.change id f s).customers, row.Sound := by
  intro row hrow
  obtain ⟨old, hold, rfl⟩ := List.mem_map.1 hrow
  split
  · exact hf old (hs old hold)
  · exact hs old hold

theorem Store.Sound.change {s : Store} {f : CustomerRow → CustomerRow} {id : String}
    (hs : s.Sound) (hid : ∀ row, (f row).id = row.id)
    (hf : ∀ row : CustomerRow, row.Sound → (f row).Sound) : (Accounts.change id f s).Sound := by
  have ids := Accounts.ids_change (s := s) hid id
  exact { hs with
    customers := ids ▸ hs.customers
    accounts := Accounts.sound_change hf hs.accounts
    named := fun r hr id hid => ids ▸ hs.named r hr id hid }

namespace Commit.Credited

variable {request : CommitRequest} {now : Timestamp} {s : Store} {customers : List CustomerRow}

theorem ids_eq (h : Credited request now s customers) :
    customers.map (·.id) = s.customers.map (·.id) := by
  cases h with
  | kept => rfl
  | moved =>
    apply Accounts.ids_change
    intro row
    rfl

theorem sound (h : Credited request now s customers) (hs : ∀ row ∈ s.customers, row.Sound) :
    ∀ row ∈ customers, row.Sound := by
  cases h with
  | kept => exact hs
  | moved => exact Accounts.sound_change (fun _ sound => ⟨⟨_, rfl⟩, sound.limit⟩) hs

end Commit.Credited

namespace ReceiptRow

variable {checkoutId : String} {status : PaymentStatus} {reference : Option String}

/-- The end of a payment changes the status and the confirmation code alone. -/
theorem settled_eq (row : ReceiptRow) :
    ∃ status' reference', row.settled checkoutId status reference =
      { row with status := status', reference := reference' } := by
  unfold settled
  split
  · exact ⟨_, _, rfl⟩
  · exact ⟨_, _, rfl⟩

@[simp] theorem id_settled (row : ReceiptRow) :
    (row.settled checkoutId status reference).id = row.id := by
  obtain ⟨_, _, h⟩ := settled_eq row
  rw [h]

@[simp] theorem number_settled (row : ReceiptRow) :
    (row.settled checkoutId status reference).number = row.number := by
  obtain ⟨_, _, h⟩ := settled_eq row
  rw [h]

@[simp] theorem customerId_settled (row : ReceiptRow) :
    (row.settled checkoutId status reference).customerId = row.customerId := by
  obtain ⟨_, _, h⟩ := settled_eq row
  rw [h]

end ReceiptRow

namespace Effect

variable {call : Call} {s s' : Store} {answer : Except LedgerError Reply}

/-- A sound store stays sound. -/
theorem sound (h : Effect call s answer s') (hs : s.Sound) : s'.Sound := by
  cases h with
  | failed | told | staffEngaged | staffSet | shiftKept | shiftBegun | shiftEnded =>
    exact { hs with }
  | numbered op next =>
    rw [Counters.issued_eq]
    exact { hs with }
  | stockLost | stockMoved =>
    refine { hs with products := ?_ }
    rw [Catalog.moveStock_eq, Table.map_key_map (fun row : ProductRow => row.id)]
    · exact hs.products
    · exact ProductRow.id_moved _ _ _
  | productAdded op rules barcode new =>
    exact { hs with
      products := Table.nodup_append_singleton.2 ⟨hs.products, Store.product?_eq_none_iff.1 new⟩ }
  | customerAdded op limit new =>
    refine { hs with customers := ?_, accounts := ?_, named := ?_ }
    · exact Table.nodup_append_singleton.2 ⟨hs.customers, Store.customer?_eq_none_iff.1 new⟩
    · intro row hrow
      rcases List.mem_append.1 hrow with old | added
      · exact hs.accounts row old
      · rw [List.mem_singleton.1 added]
        exact ⟨⟨_, rfl⟩, limit⟩
    · intro r hr id hid
      rw [List.map_append]
      exact List.mem_append_left _ (hs.named r hr id hid)
  | limitSet op known nonnegative =>
    exact hs.change (fun _ => rfl) fun _ sound => ⟨sound.balance, nonnegative⟩
  | repaid op positive found balance told =>
    exact hs.change (fun _ => rfl) fun _ sound => ⟨⟨_, rfl⟩, sound.limit⟩
  | @committed request c _ op booked =>
    obtain ⟨customers, credited, rfl⟩ := booked.left
    have kept : customers.map (·.id) = s.customers.map (·.id) := credited.ids_eq
    refine {
      customers := kept ▸ hs.customers
      products := ?_
      receipts := Table.nodup_append_singleton.2 ⟨hs.receipts, booked.fits.id_notMem⟩
      numbers := Table.nodup_append_singleton.2 ⟨hs.numbers, booked.fits.number_notMem⟩
      accounts := credited.sound hs.accounts
      tenders := ?_
      named := ?_ }
    · exact (Table.map_key_map (fun row : ProductRow => row.id)
        (fun row => ProductRow.id_sold call.stamp.now c.items row) s.products) ▸ hs.products
    · intro t ht
      change t.receiptId ∈ (s.receipts ++ [c.receipt.row]).map (·.id)
      rw [List.map_append, List.mem_append]
      rcases List.mem_append.1 ht with old | own
      · exact .inl (hs.tenders t old)
      · rw [(of_mem_tenderRows own).1]
        exact .inr (List.mem_singleton.2 rfl)
    · intro r hr id hid
      change id ∈ customers.map (·.id)
      rw [kept]
      rcases List.mem_append.1 hr with old | own
      · exact hs.named r old id hid
      · rw [List.mem_singleton.1 own] at hid
        obtain ⟨row, found⟩ := Option.isSome_iff_exists.1 (booked.fits.customer id hid)
        exact List.mem_map.2 ⟨row, List.mem_of_find?_eq_some found,
          Store.id_of_customer? found⟩
  | @settled checkoutId status reference r op ends waiting =>
    have ids : (s.receipts.map (·.settled checkoutId status reference)).map (·.id) =
        s.receipts.map (·.id) :=
      Table.map_key_map (fun row : ReceiptRow => row.id) (fun row => row.id_settled) s.receipts
    have numbers : (s.receipts.map (·.settled checkoutId status reference)).map (·.number) =
        s.receipts.map (·.number) :=
      Table.map_key_map (fun row : ReceiptRow => row.number) (fun row => row.number_settled)
        s.receipts
    refine { hs with
      receipts := ids ▸ hs.receipts
      numbers := numbers ▸ hs.numbers
      tenders := fun t ht => ids ▸ hs.tenders t ht
      named := ?_ }
    intro r hr id hid
    obtain ⟨old, hold, rfl⟩ := List.mem_map.1 hr
    rw [ReceiptRow.customerId_settled] at hid
    exact hs.named old hold id hid

/-- The table of the customers grows by the customer that is added, and no row leaves it. -/
theorem ids_of_customers (h : Effect call s answer s') :
    s'.customers.map (·.id) =
      s.customers.map (·.id) ++ (Entry.customer? ⟨call, answer⟩).toList.map (·.id) := by
  cases h with
  | failed | stockLost => simp [Entry.customer?, Catalog.moveStock_eq]
  | told op => simp [Entry.customer?, Call.customer?_of_asks op]
  | customerAdded op => simp [Entry.customer?, op, Customer.row]
  | limitSet op | repaid op =>
    rw [Accounts.ids_change]
    · simp [Entry.customer?, Call.customer?, op]
    · intro row
      rfl
  | committed op booked =>
    obtain ⟨customers, credited, rfl⟩ := booked.left
    simpa [Entry.customer?, Call.customer?, op] using credited.ids_eq
  | numbered op =>
    rw [Counters.issued_eq]
    simp [Entry.customer?, Call.customer?, op]
  | stockMoved op => simp [Entry.customer?, Call.customer?, op, Catalog.moveStock_eq]
  | staffEngaged op | staffSet op | productAdded op | settled op | shiftKept op | shiftBegun op
  | shiftEnded op => simp [Entry.customer?, Call.customer?, op, Shifts.change]

/-- The table of the products grows by the product that is added, and no row leaves it. -/
theorem ids_of_products (h : Effect call s answer s') :
    s'.products.map (·.id) =
      s.products.map (·.id) ++ (Entry.product? ⟨call, answer⟩).toList.map (·.id) := by
  cases h with
  | failed => simp [Entry.product?]
  | stockLost =>
    rw [Catalog.moveStock_eq, Table.map_key_map (fun row : ProductRow => row.id)]
    · simp [Entry.product?]
    · exact ProductRow.id_moved _ _ _
  | stockMoved op =>
    rw [Catalog.moveStock_eq, Table.map_key_map (fun row : ProductRow => row.id)]
    · simp [Entry.product?, Call.product?, op]
    · exact ProductRow.id_moved _ _ _
  | told op =>
    have none := Call.product?_of_isPlain (Call.isPlain_of_asks op)
    simp [Entry.product?, none]
  | productAdded op => simp [Entry.product?, Call.product?, op, Product.row]
  | customerAdded op =>
    have none := Call.product?_of_isPlain (Call.isPlain_of_customer? op)
    simp [Entry.product?, none]
  | committed op booked =>
    obtain ⟨customers, -, rfl⟩ := booked.left
    simp [Entry.product?, Call.product?, op, Commit.withSale, Function.comp_def]
  | numbered op =>
    rw [Counters.issued_eq]
    simp [Entry.product?, Call.product?, op]
  | staffEngaged op | staffSet op | limitSet op | repaid op | settled op | shiftKept op
  | shiftBegun op | shiftEnded op =>
    simp [Entry.product?, Call.product?, op, Shifts.change, Accounts.change]

/-- The table of the staff grows by the one that is engaged, and no row leaves it. -/
theorem ids_of_staff (h : Effect call s answer s') :
    ∃ engaged, s'.staff.map (·.id) = s.staff.map (·.id) ++ engaged ∧
      ∀ id ∈ engaged, id = call.stamp.id := by
  have same (kept : s'.staff.map (·.id) = s.staff.map (·.id)) :
      ∃ engaged, s'.staff.map (·.id) = s.staff.map (·.id) ++ engaged ∧
        ∀ id ∈ engaged, id = call.stamp.id :=
    ⟨[], kept.trans (List.append_nil _).symm, List.forall_mem_nil _⟩
  cases h with
  | @staffEngaged _ _ _ m op member username new =>
    refine ⟨[m.id], List.map_append, fun id hid => ?_⟩
    rw [List.mem_singleton.1 hid, member]
  | staffSet op =>
    apply same
    rw [Table.map_key_map (fun m : Staff => m.id)]
    intro m
    split <;> rfl
  | numbered op next =>
    rw [Counters.issued_eq] at same ⊢
    exact same rfl
  | committed op booked =>
    obtain ⟨customers, -, rfl⟩ := booked.left
    exact same rfl
  | _ => exact same rfl

theorem customer?_eq_none (h : Effect call s answer s') {id : String}
    (absent : s'.customer? id = none) : s.customer? id = none := by
  rw [Store.customer?_eq_none_iff] at absent ⊢
  rw [h.ids_of_customers] at absent
  exact fun known => absent (List.mem_append_left _ known)

theorem product?_eq_none (h : Effect call s answer s') {id : String}
    (absent : s'.product? id = none) : s.product? id = none := by
  rw [Store.product?_eq_none_iff] at absent ⊢
  rw [h.ids_of_products] at absent
  exact fun known => absent (List.mem_append_left _ known)

/-- An entry that has added a customer has done nothing else. -/
theorem store_of_customer? (h : Effect call s answer s') {c : Customer}
    (added : Entry.customer? ⟨call, answer⟩ = some c) :
    s.customer? c.id = none ∧ s' = { s with customers := s.customers ++ [c.row] } := by
  cases h with
  | failed | stockLost => nomatch added
  | told op => simp [Entry.customer?, Call.customer?_of_asks op] at added
  | customerAdded op limit new =>
    obtain rfl := Option.some.inj (op.symm.trans added)
    exact ⟨new, rfl⟩
  | staffEngaged op | staffSet op | productAdded op | stockMoved op | limitSet op | committed op
  | numbered op | repaid op | settled op | shiftKept op | shiftBegun op | shiftEnded op =>
    simp [Entry.customer?, Call.customer?, op] at added

/-- An entry that has added a product has done nothing else. -/
theorem store_of_product? (h : Effect call s answer s') {p : Product}
    (added : Entry.product? ⟨call, answer⟩ = some p) :
    s.product? p.id = none ∧ s' = { s with products := s.products ++ [p.row] } := by
  cases h with
  | failed | stockLost => nomatch added
  | told op =>
    have none := Call.product?_of_isPlain (Call.isPlain_of_asks op)
    simp [Entry.product?, none] at added
  | customerAdded op =>
    have none := Call.product?_of_isPlain (Call.isPlain_of_customer? op)
    simp [Entry.product?, none] at added
  | productAdded op rules barcode new =>
    simp only [Entry.product?, Call.product?, op, Option.some.injEq] at added
    subst added
    exact ⟨new, rfl⟩
  | staffEngaged op | staffSet op | stockMoved op | limitSet op | committed op | numbered op
  | repaid op | settled op | shiftKept op | shiftBegun op | shiftEnded op =>
    simp [Entry.product?, Call.product?, op] at added

end Effect

/-- Every history leaves a sound store. -/
theorem History.sound (calls : List Call) : (of calls).store.Sound := by
  refine induction ?_ (fun h call answer s' hs effect => effect.sound hs) calls
  exact ⟨List.nodup_nil, List.nodup_nil, List.nodup_nil, List.nodup_nil, List.forall_mem_nil _,
    List.forall_mem_nil _, List.forall_mem_nil _⟩

/-- The customers in the store are those that were added. -/
theorem History.ids_of_customers (calls : List Call) :
    (of calls).store.customers.map (·.id) = (of calls).customers.map (·.id) := by
  apply induction (P := fun h => h.store.customers.map (·.id) = h.customers.map (·.id)) rfl
  intro h call answer s' ih effect
  rw [effect.ids_of_customers, ih, customers, customers, filterMap_append_singleton,
    List.map_append]

/-- The products in the store are those that were added. -/
theorem History.ids_of_products (calls : List Call) :
    (of calls).store.products.map (·.id) = (of calls).products.map (·.id) := by
  apply induction (P := fun h => h.store.products.map (·.id) = h.products.map (·.id)) rfl
  intro h call answer s' ih effect
  rw [effect.ids_of_products, ih, products, products, filterMap_append_singleton, List.map_append]

/-! ## A short day -/

namespace Day

/-- The moment of all that happens on this day. -/
def moment : Timestamp := ⟨2026, 3, 2, 9, 30, 0, 0⟩

/-- A name with marks after it, to tell apart what belongs to it. -/
def marked (name : String) (mark : Char) (n : Nat) : String :=
  String.ofList (name.toList ++ List.replicate n mark)

/-- An operation at the till, with nothing in its way. -/
def ask (id : String) (operation : Operation) : Call where
  ledger := ⟨"POS-01", []⟩
  stamp :=
    { now := moment
      later := moment
      id := id
      itemId := marked id '+'
      tenderId := marked id '#' }
  operation := operation
  access := {}
  ordinary := nofun

/-- The one product of the shop. -/
def sugar : Product where
  id := "sugar"
  barcode := "6001"
  name := "Sugar 1kg"
  buyingPrice := 150
  sellingPrice := 200
  wholesalePrice := none
  wholesaleThreshold := none
  taxRate := .standard
  minStock := defaultMinStock
  isActive := true
  createdAt := moment
  updatedAt := moment
  stock := 40

/-- A customer buys sugar. -/
def purchase (payment : Payment) (quantity : Int64) (total : Money) : CommitRequest where
  staffId := "amina"
  shiftId := none
  customerId := some "otieno"
  payment := payment
  items := [.plain "sugar" quantity]
  total := total
  isReturn := false
  reference := none
  checkoutId := none
  originStation := none

/-- The row of the one customer. -/
def otieno (limit balance : Money) : CustomerRow :=
  ⟨⟨"otieno", "Otieno", none, none, none, limit, moment, moment⟩, .exact balance⟩

/-- The shop opens. -/
def opening : List Call :=
  [ask "amina" (.engageStaff "amina" none .cashier), ask "sugar" (.addProduct sugar),
    ask "otieno" (.openAccount "Otieno" none 1000)]

end Day

end Tillbook
