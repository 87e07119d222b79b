import Mathlib.Data.List.Nodup
import Tillbook.Proofs.Histories

/-!
# Tender lines

The lines of a shift are read from two tables: the tenders of all receipts, those of one
receipt together and in their places, and of these the ones whose receipt names the shift.

## Main definitions

* `ReceiptRow.line` — the line of a tender of a receipt.
* `Shifts.placed` — tenders in the order in which they are read.
* `Shifts.line?` — the line of a tender, if its receipt names the shift.

## Main statements

* `Shifts.filterMap_placed_append` — tenders of other receipts do not show.
* `Effect.linesOf_eq` — the lines of a shift that has ended never change.
-/

namespace Tillbook

@[simp] theorem ReceiptRow.shiftId_settled {checkoutId : String} {status : PaymentStatus}
    {reference : Option String} (row : ReceiptRow) :
    (row.settled checkoutId status reference).shiftId = row.shiftId := by
  obtain ⟨_, _, h⟩ := @settled_eq checkoutId status reference row
  rw [h]

@[simp] theorem ReceiptRow.isReturn_settled {checkoutId : String} {status : PaymentStatus}
    {reference : Option String} (row : ReceiptRow) :
    (row.settled checkoutId status reference).isReturn = row.isReturn := by
  obtain ⟨_, _, h⟩ := @settled_eq checkoutId status reference row
  rw [h]

/-- The line of a tender of a receipt. -/
def ReceiptRow.line (row : ReceiptRow) (t : Tender) : TenderLine :=
  ⟨row.id, t.method, t.amount, row.isReturn⟩

namespace Shifts

/-- Tenders in the order in which they are read. -/
def placed (ts : List TenderRow) : List TenderRow :=
  (ts.mergeSort fun a b => a.position ≤ b.position).mergeSort fun a b => a.receiptId ≤ b.receiptId

/-- The line of a tender, if its receipt names the shift. -/
def line? (shiftId : String) (receipts : List ReceiptRow) (t : TenderRow) : Option TenderLine :=
  (receipts.find? fun r => r.id == t.receiptId && r.shiftId == some shiftId).map fun r =>
    ⟨t.receiptId, t.method, t.amount, r.isReturn⟩

theorem linesOf_eq (shiftId : String) (s : Store) :
    linesOf shiftId s = (placed s.tenders).filterMap (line? shiftId s.receipts) := rfl

theorem placed_perm (ts : List TenderRow) : (placed ts).Perm ts :=
  (List.mergeSort_perm ..).trans (List.mergeSort_perm ..)

/-- The tenders of one receipt are together. -/
theorem placed_pairwise (ts : List TenderRow) :
    (placed ts).Pairwise fun a b => a.receiptId ≤ b.receiptId := by
  have sorted : (placed ts).Pairwise fun a b => decide (a.receiptId ≤ b.receiptId) = true :=
    List.pairwise_mergeSort (by simpa using fun a b c => String.le_trans)
      (by simpa using fun a b => String.le_total _ _) _
  simpa using sorted

/-- The lines of one receipt stand together. -/
theorem linesOf_pairwise (shiftId : String) (s : Store) :
    (linesOf shiftId s).Pairwise fun a b => a.receiptId ≤ b.receiptId := by
  refine (placed_pairwise s.tenders).filterMap _ fun t t' before l hl l' hl' => ?_
  obtain ⟨_, -, rfl⟩ := Option.map_eq_some_iff.1 hl
  obtain ⟨_, -, rfl⟩ := Option.map_eq_some_iff.1 hl'
  exact before

/-- Tenders may be left out before they are put in order or after. -/
theorem filter_placed (p : TenderRow → Bool) (ts : List TenderRow) :
    (placed ts).filter p = placed (ts.filter p) := by
  unfold placed
  rw [Table.filter_mergeSort p, Table.filter_mergeSort p]
  · simpa using fun a b c => Nat.le_trans
  · simpa using fun a b => Nat.le_total _ _
  · simpa using fun a b c => String.le_trans
  · simpa using fun a b => String.le_total _ _

theorem filterMap_filter_isSome {α β : Type} (f : α → Option β) (as : List α) :
    (as.filter fun a => (f a).isSome).filterMap f = as.filterMap f := by
  rw [List.filterMap_filter]
  congr 1
  funext a
  cases f a <;> rfl

/-- Tenders without a line do not show. -/
theorem filterMap_placed_append {f : TenderRow → Option TenderLine} {ts rest : List TenderRow}
    (h : ∀ t ∈ rest, f t = none) :
    (placed (ts ++ rest)).filterMap f = (placed ts).filterMap f := by
  have none : rest.filter (fun t => (f t).isSome) = [] := by
    rw [List.filter_eq_nil_iff]
    intro t ht
    simp [h t ht]
  rw [← filterMap_filter_isSome, filter_placed, List.filter_append, none, List.append_nil,
    ← filter_placed, filterMap_filter_isSome]

/-- A receipt that does not name the shift gives no line. -/
theorem line?_append {shiftId : String} {row : ReceiptRow} (other : row.shiftId ≠ some shiftId)
    (receipts : List ReceiptRow) : line? shiftId (receipts ++ [row]) = line? shiftId receipts := by
  funext t
  have none : [row].find? (fun r => r.id == t.receiptId && r.shiftId == some shiftId) = none := by
    simp [other]
  rw [line?, List.find?_append, none, Option.or_none]
  rfl

theorem line?_eq_none {shiftId : String} {receipts : List ReceiptRow} {t : TenderRow}
    (h : t.receiptId ∉ receipts.map (·.id)) : line? shiftId receipts t = none := by
  rw [line?, Option.map_eq_none_iff, List.find?_eq_none]
  intro r hr named
  simp only [Bool.and_eq_true, beq_iff_eq] at named
  exact h (List.mem_map.2 ⟨r, hr, named.1⟩)

/-- With unique identities a tender has the line of its receipt, if that belongs to the
shift. -/
theorem line?_of_mem {receipts : List ReceiptRow} (unique : (receipts.map (·.id)).Nodup)
    {row : ReceiptRow} (hrow : row ∈ receipts) {t : TenderRow} (own : t.receiptId = row.id)
    (shiftId : String) :
    line? shiftId receipts t =
      if row.shiftId == some shiftId then some (row.line t.toTender) else none := by
  have found : receipts.find? (fun r => r.id == t.receiptId && r.shiftId == some shiftId) =
      if row.shiftId == some shiftId then some row else none := by
    have each : ∀ r ∈ receipts, r.id = row.id → r = row := fun r hr same =>
      List.inj_on_of_nodup_map unique hr hrow same
    by_cases tied : row.shiftId = some shiftId
    · have hit : (receipts.find? fun r =>
          r.id == t.receiptId && r.shiftId == some shiftId).isSome :=
        List.find?_isSome.2 ⟨row, hrow, by simp [own, tied]⟩
      obtain ⟨r, hr⟩ := Option.isSome_iff_exists.1 hit
      have named := List.find?_some hr
      simp only [own, Bool.and_eq_true, beq_iff_eq] at named
      rw [hr, if_pos (beq_iff_eq.2 tied), each r (List.mem_of_find?_eq_some hr) named.1]
    · rw [if_neg (by simpa using tied), List.find?_eq_none]
      intro r hr named
      simp only [own, Bool.and_eq_true, beq_iff_eq] at named
      exact tied (each r hr named.1 ▸ named.2)
  rw [line?, found]
  by_cases tied : row.shiftId = some shiftId <;> simp [tied, ReceiptRow.line, own]

/-- The end of a payment changes no line. -/
theorem line?_settled (shiftId checkoutId : String) (status : PaymentStatus)
    (reference : Option String) (receipts : List ReceiptRow) :
    line? shiftId (receipts.map (·.settled checkoutId status reference)) =
      line? shiftId receipts := by
  funext t
  have named : (fun r : ReceiptRow => r.id == t.receiptId && r.shiftId == some shiftId) ∘
      ReceiptRow.settled checkoutId status reference =
        fun r : ReceiptRow => r.id == t.receiptId && r.shiftId == some shiftId := by
    funext r
    simp
  rw [line?, List.find?_map, named, Option.map_map]
  unfold line?
  congr 1
  funext r
  simp

theorem linesOf_settled (shiftId checkoutId : String) (status : PaymentStatus)
    (reference : Option String) (s : Store) :
    linesOf shiftId { s with receipts := s.receipts.map (·.settled checkoutId status reference) } =
      linesOf shiftId s := by
  rw [linesOf_eq, linesOf_eq, line?_settled]

end Shifts

namespace Effect

variable {call : Call} {s s' : Store} {answer : Except LedgerError Reply} {id : String}

/-- The lines of a shift that has ended never change. -/
theorem linesOf_eq (h : Effect call s answer s')
    (ended : ∀ shift, s.shift? id = some shift → shift.isOpen = false) :
    Shifts.linesOf id s' = Shifts.linesOf id s := by
  cases h with
  | @committed request c _ op booked =>
    obtain ⟨n, -, receipt⟩ := booked.number
    have other : c.receipt.row.shiftId ≠ some id := by
      intro named
      rw [receipt] at named
      obtain ⟨shift, found, running⟩ := booked.shift id named
      rw [ended shift found] at running
      nomatch running
    rw [Shifts.linesOf_eq, Shifts.linesOf_eq, booked.receipts_eq, booked.tenders_eq,
      Shifts.line?_append other]
    apply Shifts.filterMap_placed_append
    intro t ht
    apply Shifts.line?_eq_none
    rw [(of_mem_tenderRows ht).1]
    exact booked.fits.id_notMem
  | settled op ends waiting => exact Shifts.linesOf_settled ..
  | numbered op next =>
    rw [Counters.issued_eq]
    rfl
  | _ => rfl

end Effect

end Tillbook
