import Tillbook.Ledger.Stamp
import Tillbook.Proofs.Writes

/-!
# Writes of receipts and shifts

The statements that add a receipt with its tenders and lines, settle one, and open
and close a shift.  Whether the tables take a receipt or a line is a condition on
the store of its own.

## Main definitions

* `Receipt.Fits`, `TenderRow.Fits`, `SaleItem.Fits` — the tables take the row.
* `TenderRow.AllFit` — the table takes several rows, one after another.
* `Receipt.row` — the row of a receipt.

## Main statements

* `allFit_tenderRows` — the table takes the tenders of a new receipt.
* `Receipts.run_insert_eq_ok_iff` — a receipt is added with all of its tenders.
* `Receipts.run_insertItem_eq_ok_iff` — a line is added.
-/

namespace Tillbook

variable {acc : Access} {s s' : Store}

/-! ## Receipts -/

/-- The row of a receipt, without its tenders. -/
def Receipt.row (r : Receipt) : ReceiptRow :=
  { r.toReceiptHead with kind := r.payment.kind, subtype := r.payment.subtype }

/-- The receipt waits for the gateway to confirm it under this name. -/
def ReceiptRow.awaits (row : ReceiptRow) (checkoutId : String) : Bool :=
  row.checkoutId == some checkoutId && row.status == .pending

/-- The receipt after the gateway has brought the payment of this name to its end. -/
def ReceiptRow.settled (checkoutId : String) (status : PaymentStatus) (reference : Option String)
    (row : ReceiptRow) : ReceiptRow :=
  if row.awaits checkoutId then
    { row with status := status, reference := reference.or row.reference }
  else row

/-- The table of receipts takes the receipt. -/
structure Receipt.Fits (r : Receipt) (s : Store) : Prop where
  total : 0 ≤ r.total
  checkout : ∀ id, r.checkoutId = some id → ∀ row ∈ s.receipts, row.checkoutId ≠ some id
  number : ∀ row ∈ s.receipts, row.number ≠ r.number
  id : ∀ row ∈ s.receipts, row.id ≠ r.id
  shift : ∀ id, r.shiftId = some id → (s.shift? id).isSome
  staff : (s.staffMember? r.staffId).isSome
  customer : ∀ id, r.customerId = some id → (s.customer? id).isSome

theorem Receipt.Fits.id_notMem {r : Receipt} (h : r.Fits s) : r.id ∉ s.receipts.map (·.id) := by
  intro taken
  obtain ⟨row, hrow, same⟩ := List.mem_map.1 taken
  exact h.id row hrow same

theorem Receipt.Fits.number_notMem {r : Receipt} (h : r.Fits s) :
    r.number ∉ s.receipts.map (·.number) := by
  intro taken
  obtain ⟨row, hrow, same⟩ := List.mem_map.1 taken
  exact h.number row hrow same

/-- The counters are not looked at. -/
theorem Receipt.Fits.of_counters {r : Receipt} (h : r.Fits s) (counters : List Counter) :
    r.Fits { s with counters := counters } :=
  ⟨h.total, h.checkout, h.number, h.id, h.shift, h.staff, h.customer⟩

/-- The table of tenders takes the row. -/
structure TenderRow.Fits (t : TenderRow) (s : Store) : Prop where
  amount : 0 ≤ t.amount
  place : ∀ row ∈ s.tenders, row.receiptId = t.receiptId → row.position ≠ t.position
  id : ∀ row ∈ s.tenders, row.id ≠ t.id
  receipt : ∃ row ∈ s.receipts, row.id = t.receiptId

/-- The table of tenders takes the rows, one after another. -/
structure TenderRow.AllFit (ts : List TenderRow) (s : Store) : Prop where
  each : ∀ t ∈ ts, t.Fits s
  places : ts.Pairwise fun a b => a.receiptId = b.receiptId → a.position ≠ b.position
  ids : ts.Pairwise fun a b => a.id ≠ b.id

namespace TenderRow

/-- A row that is in the table already takes its place and its identity. -/
theorem fits_append_iff {t u : TenderRow} :
    t.Fits { s with tenders := s.tenders ++ [u] } ↔
      t.Fits s ∧ (u.receiptId = t.receiptId → u.position ≠ t.position) ∧ u.id ≠ t.id := by
  constructor
  · intro h
    have last : u ∈ s.tenders ++ [u] := List.mem_append_right _ List.mem_cons_self
    exact ⟨⟨h.amount, fun row hrow => h.place row (List.mem_append_left _ hrow),
      fun row hrow => h.id row (List.mem_append_left _ hrow), h.receipt⟩, h.place u last,
      h.id u last⟩
  · rintro ⟨h, place, id⟩
    refine ⟨h.amount, ?_, ?_, h.receipt⟩
    · exact List.forall_mem_append.2 ⟨h.place, List.forall_mem_singleton.2 place⟩
    · exact List.forall_mem_append.2 ⟨h.id, List.forall_mem_singleton.2 id⟩

theorem AllFit.of_counters {ts : List TenderRow} (h : AllFit ts s) (counters : List Counter) :
    AllFit ts { s with counters := counters } where
  each := fun t ht =>
    have fits := h.each t ht
    ⟨fits.amount, fits.place, fits.id, fits.receipt⟩
  places := h.places
  ids := h.ids

theorem allFit_nil : AllFit [] s := ⟨List.forall_mem_nil _, .nil, .nil⟩

theorem allFit_cons {t : TenderRow} {rest : List TenderRow} :
    AllFit (t :: rest) s ↔ t.Fits s ∧ AllFit rest { s with tenders := s.tenders ++ [t] } := by
  constructor
  · intro h
    obtain ⟨first, others⟩ := List.forall_mem_cons.1 h.each
    obtain ⟨place, places⟩ := List.pairwise_cons.1 h.places
    obtain ⟨id, ids⟩ := List.pairwise_cons.1 h.ids
    exact ⟨first, fun u hu => fits_append_iff.2 ⟨others u hu, place u hu, id u hu⟩, places, ids⟩
  · rintro ⟨first, others⟩
    have each {u : TenderRow} (hu : u ∈ rest) := fits_append_iff.1 (others.each u hu)
    exact ⟨List.forall_mem_cons.2 ⟨first, fun u hu => (each hu).1⟩,
      .cons (fun u hu => (each hu).2.1) others.places, .cons (fun u hu => (each hu).2.2) others.ids⟩

end TenderRow

/-! ## The tenders of a receipt -/

section TenderRows

variable {receiptId : String} {tenderId : Nat → String} {position : Nat} {ts : List Tender}
  {t : TenderRow}

theorem of_mem_tenderRows (h : t ∈ tenderRows receiptId tenderId position ts) :
    t.receiptId = receiptId ∧ t.toTender ∈ ts := by
  induction ts generalizing position with
  | nil => cases h
  | cons first rest ih =>
    rcases List.mem_cons.1 h with rfl | later
    · exact ⟨rfl, List.mem_cons_self⟩
    · obtain ⟨own, listed⟩ := ih later
      exact ⟨own, List.mem_cons_of_mem _ listed⟩

/-- The tenders of a receipt are at places from the first one on, and have the identities for
them. -/
theorem place_of_mem_tenderRows (h : t ∈ tenderRows receiptId tenderId position ts) :
    position ≤ t.position ∧ t.id = tenderId t.position := by
  induction ts generalizing position with
  | nil => cases h
  | cons first rest ih =>
    rcases List.mem_cons.1 h with rfl | later
    · exact ⟨Nat.le_refl _, rfl⟩
    · obtain ⟨after, own⟩ := ih later
      exact ⟨by omega, own⟩

/-- Each tender comes after those before it. -/
theorem tenderRows_pairwise (receiptId : String) (tenderId : Nat → String) (position : Nat)
    (ts : List Tender) :
    (tenderRows receiptId tenderId position ts).Pairwise fun a b => a.position < b.position := by
  induction ts generalizing position with
  | nil => exact .nil
  | cons first rest ih =>
    exact .cons (fun t ht => (place_of_mem_tenderRows ht).1) (ih (position + 1))

/-- With new identities the table takes the tenders of a receipt that has none yet. -/
theorem allFit_tenderRows (amounts : ∀ t ∈ ts, 0 ≤ t.amount)
    (receipt : ∃ row ∈ s.receipts, row.id = receiptId)
    (unpaid : ∀ row ∈ s.tenders, row.receiptId ≠ receiptId)
    (fresh : ∀ row ∈ s.tenders, ∀ place, row.id ≠ tenderId place)
    (apart : Function.Injective tenderId) :
    TenderRow.AllFit (tenderRows receiptId tenderId position ts) s := by
  have ordered := tenderRows_pairwise receiptId tenderId position ts
  refine ⟨fun t ht => ?_, ?_, ?_⟩
  · obtain ⟨own, listed⟩ := of_mem_tenderRows ht
    obtain ⟨-, id⟩ := place_of_mem_tenderRows ht
    exact ⟨amounts _ listed, fun row hrow same => absurd (same.trans own) (unpaid row hrow),
      fun row hrow => id ▸ fresh row hrow t.position, own ▸ receipt⟩
  · refine ordered.imp ?_
    intro a b before _
    exact Nat.ne_of_lt before
  · refine ordered.imp_of_mem fun {a b} ha hb before same => ?_
    obtain ⟨-, ida⟩ := place_of_mem_tenderRows ha
    obtain ⟨-, idb⟩ := place_of_mem_tenderRows hb
    exact Nat.ne_of_lt before (apart (ida.symm.trans (same.trans idb)))

end TenderRows

/-! ## Lines -/

/-- The table of lines takes the line. -/
structure SaleItem.Fits (i : SaleItem) (s : Store) : Prop where
  quantity : 0 < i.quantity
  unitPrice : 0 ≤ i.unitPrice
  id : ∀ row ∈ s.items, row.id ≠ i.id
  receipt : ∃ row ∈ s.receipts, row.id = i.receiptId
  product : (s.product? i.productId).isSome
  staff : (s.staffMember? i.staffId).isSome

namespace Receipts

theorem addHead_eq_ok_iff {r : Receipt} :
    addHead r s = .ok s' ↔ r.Fits s ∧ s' = { s with receipts := s.receipts ++ [r.row] } := by
  simp only [addHead, ite_error_eq_ok_iff, Int64.not_lt, List.any_eq_true, Option.any_eq_true,
    beq_iff_eq, not_exists, not_and, not_or, Bool.not_eq_true, Option.isNone_eq_false_iff,
    Except.ok.injEq, @eq_comm _ _ s']
  constructor
  · rintro ⟨total, checkout, number, id, ⟨shift, staff, customer⟩, rfl⟩
    refine ⟨⟨total, ?_, number, id, shift, staff, customer⟩, rfl⟩
    intro name named row hrow same
    exact checkout (Option.isSome_of_mem named) row hrow (same.trans named.symm)
  · rintro ⟨fits, rfl⟩
    refine ⟨fits.total, ?_, fits.number, fits.id, ⟨fits.shift, fits.staff, fits.customer⟩, rfl⟩
    intro given row hrow same
    obtain ⟨name, named⟩ := Option.isSome_iff_exists.1 given
    exact fits.checkout name named row hrow (same.trans named)

theorem addTender_eq_ok_iff {t : TenderRow} :
    addTender t s = .ok s' ↔ t.Fits s ∧ s' = { s with tenders := s.tenders ++ [t] } := by
  simp only [addTender, ite_error_eq_ok_iff, Int64.not_lt, List.any_eq_true, Bool.and_eq_true,
    beq_iff_eq, not_exists, not_and, List.all_eq_true, bne_iff_ne, Classical.not_forall,
    Classical.not_not, exists_prop, Except.ok.injEq, @eq_comm _ _ s']
  constructor
  · rintro ⟨amount, place, id, receipt, rfl⟩
    exact ⟨⟨amount, place, id, receipt⟩, rfl⟩
  · rintro ⟨fits, rfl⟩
    exact ⟨fits.amount, fits.place, fits.id, fits.receipt, rfl⟩

/-- Tenders are added, all of them, if the table takes each after those before it. -/
theorem run_insertTenders_eq_ok_iff (writable : acc.Writable) {ts : List TenderRow} :
    (insertTenders ts).run acc s = (.ok (), s') ↔
      TenderRow.AllFit ts s ∧ s' = { s with tenders := s.tenders ++ ts } := by
  induction ts generalizing s with
  | nil => simp [insertTenders, TenderRow.allFit_nil, @eq_comm _ _ s']
  | cons t rest ih =>
    simp only [insertTenders, Action.run_bind_eq_ok_iff, Action.run_put_eq_ok_iff,
      pair_eq_ok_iff, addTender_eq_ok_iff, TenderRow.allFit_cons]
    constructor
    · rintro ⟨⟨⟩, _, ⟨-, -, fits, rfl⟩, later⟩
      obtain ⟨others, rfl⟩ := ih.1 later
      exact ⟨⟨fits, others⟩, by simp⟩
    · rintro ⟨⟨fits, others⟩, rfl⟩
      exact ⟨(), _, ⟨writable, trivial, fits, rfl⟩, ih.2 ⟨others, by simp⟩⟩

/-- A receipt is added with all of its tenders. -/
theorem run_insert_eq_ok_iff {r : Receipt} {tenderId : Nat → String} {u : Unit} :
    (insert r tenderId).run acc s = (.ok u, s') ↔
      acc.Writable ∧ r.Fits s ∧
        TenderRow.AllFit (r.tenderRows tenderId) { s with receipts := s.receipts ++ [r.row] } ∧
        s' = { s with
          receipts := s.receipts ++ [r.row], tenders := s.tenders ++ r.tenderRows tenderId } := by
  simp only [insert, Action.run_bind_eq_ok_iff, Action.run_put_eq_ok_iff, pair_eq_ok_iff,
    addHead_eq_ok_iff]
  constructor
  · rintro ⟨⟨⟩, _, ⟨writable, -, fits, rfl⟩, h⟩
    obtain ⟨all, rfl⟩ := (run_insertTenders_eq_ok_iff writable).1 h
    exact ⟨writable, fits, all, rfl⟩
  · rintro ⟨writable, fits, all, rfl⟩
    exact ⟨(), _, ⟨writable, trivial, fits, rfl⟩,
      (run_insertTenders_eq_ok_iff writable).2 ⟨all, rfl⟩⟩

theorem addItem_eq_ok_iff {i : SaleItem} :
    addItem i s = .ok s' ↔ i.Fits s ∧ s' = { s with items := s.items ++ [i] } := by
  simp only [addItem, ite_error_eq_ok_iff, Int64.not_lt, Int64.not_le, List.any_eq_true,
    beq_iff_eq, not_exists, not_or, List.all_eq_true, bne_iff_ne, Classical.not_forall,
    Classical.not_not, exists_prop, Bool.not_eq_true, Option.isNone_eq_false_iff, not_and,
    Except.ok.injEq, @eq_comm _ _ s']
  constructor
  · rintro ⟨quantity, unitPrice, id, ⟨receipt, product, staff⟩, rfl⟩
    exact ⟨⟨quantity, unitPrice, id, receipt, product, staff⟩, rfl⟩
  · rintro ⟨fits, rfl⟩
    exact ⟨fits.quantity, fits.unitPrice, fits.id, ⟨fits.receipt, fits.product, fits.staff⟩, rfl⟩

theorem run_insertItem_eq_ok_iff {i : SaleItem} {u : Unit} :
    (insertItem i).run acc s = (.ok u, s') ↔
      acc.Writable ∧ i.Fits s ∧ s' = { s with items := s.items ++ [i] } := by
  rw [insertItem, Action.run_put_eq_ok_iff, pair_eq_ok_iff, addItem_eq_ok_iff]
  simp

theorem run_settle_eq_ok_iff {checkoutId : String} {status : PaymentStatus}
    {reference : Option String} {moved : Bool} :
    (settle checkoutId status reference).run acc s = (.ok moved, s') ↔
      acc.Writable ∧ s.receipts.any (·.awaits checkoutId) = moved ∧
        s' = { s with receipts := s.receipts.map (·.settled checkoutId status reference) } := by
  rw [settle, Action.run_put_eq_ok_iff]
  simp only [Except.ok.injEq, Prod.mk.injEq, @eq_comm _ _ s']
  rfl

end Receipts

/-! ## Shifts -/

namespace Shifts

/-- A shift that starts now. -/
def begun (stamp : Stamp) (staffId : String) (openingFloat : Money) : Shift :=
  ⟨stamp.id, staffId, stamp.now, openingFloat, none, none, none⟩

/-- A new shift is added, or the row is passed over. -/
theorem run_insertOpen_eq_ok_iff {stamp : Stamp} {staffId : String} {openingFloat : Money}
    {added : Bool} :
    (insertOpen (begun stamp staffId openingFloat)).run acc s = (.ok added, s') ↔
      acc.Writable ∧
        if openingFloat < 0 ∨ (s.shift? stamp.id).isSome ∨ (s.openShift? staffId).isSome then
          added = false ∧ s' = s
        else
          (s.staffMember? staffId).isSome ∧ added = true ∧
            s' = { s with shifts := s.shifts ++ [begun stamp staffId openingFloat] } := by
  rw [insertOpen, Action.run_put_eq_ok_iff]
  apply and_congr_right
  intro _
  by_cases passed : openingFloat < 0 ∨ (s.shift? stamp.id).isSome ∨ (s.openShift? staffId).isSome
  · have kept : add (begun stamp staffId openingFloat) s = .ok none := if_pos passed
    rw [kept, if_pos passed]
    exact ⟨by rintro ⟨⟩; exact ⟨rfl, rfl⟩, by rintro ⟨rfl, rfl⟩; rfl⟩
  · rw [if_neg passed]
    by_cases known : (s.staffMember? staffId).isNone
    · have dangling : add (begun stamp staffId openingFloat) s = .error .danglingReference :=
        (if_neg passed).trans (if_pos known)
      rw [dangling]
      exact ⟨nofun, fun h => by simp_all⟩
    · have new : add (begun stamp staffId openingFloat) s =
          .ok (some { s with shifts := s.shifts ++ [begun stamp staffId openingFloat] }) :=
        (if_neg passed).trans (if_neg known)
      rw [new]
      refine ⟨?_, by rintro ⟨-, rfl, rfl⟩; rfl⟩
      rintro ⟨⟩
      exact ⟨Option.isSome_iff_ne_none.2 (by simpa using known), rfl, rfl⟩

theorem run_markClosed_eq_ok_iff {now : Timestamp} {id : String} {closed : Bool} :
    (markClosed now id).run acc s = (.ok closed, s') ↔
      acc.Writable ∧ (s.shift? id).any (·.isOpen) = closed ∧
        s' = if closed then change id (fun shift => { shift with closedAt := some now }) s
          else s := by
  rw [markClosed, Action.run_put_eq_ok_iff]
  cases (s.shift? id).any (·.isOpen) <;> cases closed <;> simp [@eq_comm _ s']

theorem run_recordClose_eq_ok_iff {id : String} {actual expected : Money} {u : Unit} :
    (recordClose id actual expected).run acc s = (.ok u, s') ↔
      acc.Writable ∧
        s' = change id (fun shift =>
          { shift with closingActual := some actual, closingExpected := some expected }) s := by
  rw [recordClose, Action.run_put_eq_ok_iff]
  simp [@eq_comm _ s']

end Shifts

end Tillbook
