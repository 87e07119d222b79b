import Tillbook.Proofs.ShiftTotals
import Tillbook.Proofs.StoredPayments
import Tillbook.Proofs.TenderLines

/-!
# Takings

The lines of a shift are the tenders of its receipts with the signs of these.  So a receipt
brings its total into the shift, whatever the ways in which it was paid, and each receipt
of the shift starts once in the lines.

## Main definitions

* `Store.receiptsOf` — the receipts of a shift.
* `Store.taken`, `Store.takings` — what a receipt and what a shift takes by a method.

## Main statements

* `Store.Carried.linesOf_perm` — the lines of a shift are those of its receipts.
* `Store.Carried.takings_linesOf` — they take by method what the receipts take.
* `Store.Carried.sum_signed_linesOf` — together they take the totals of the receipts.
* `Store.Carried.starts_linesOf` — as many receipts start as there are.
-/

namespace Tillbook

namespace Store

/-- The receipts of a shift, whatever has become of their payments. -/
def receiptsOf (s : Store) (shiftId : String) : List ReceiptRow :=
  s.receipts.filter (·.shiftId == some shiftId)

/-- What a receipt takes by a method, backwards for a return. -/
def taken (s : Store) (m : TenderMethod) (row : ReceiptRow) : Int :=
  let amount := (((s.tendersOf row.id).filter (·.method == m)).map (·.amount.toInt)).sum
  if row.isReturn then -amount else amount

/-- What the receipts of a shift take by a method. -/
def takings (s : Store) (shiftId : String) (m : TenderMethod) : Int :=
  ((s.receiptsOf shiftId).map (s.taken m)).sum

end Store

/-! ## Sums over receipts -/

theorem sum_map_flatMap {α β : Type} (f : α → List β) (g : β → Int) (as : List α) :
    ((as.flatMap f).map g).sum = (as.map fun a => ((f a).map g).sum).sum := by
  rw [List.flatMap_def, List.map_flatten, List.sum_flatten, List.map_map, List.map_map]
  rfl

/-- A sign may be given to each of the amounts or to their sum. -/
theorem sum_movement (ts : List Tender) (isReturn : Bool) :
    (ts.map fun t => t.amount.movement isReturn).sum =
      if isReturn then -(ts.map (·.amount.toInt)).sum else (ts.map (·.amount.toInt)).sum := by
  cases isReturn with
  | true =>
    rw [if_pos rfl, List.sum_neg, List.map_map]
    rfl
  | false => rfl

namespace Store

theorem takings_line (s : Store) (m : TenderMethod) (row : ReceiptRow) :
    TenderLine.takings ((s.tendersOf row.id).map row.line) m = s.taken m row := by
  have method : (fun l : TenderLine => l.method == m) ∘ row.line = fun t => t.method == m := rfl
  have signed : TenderLine.signed ∘ row.line = fun t => t.amount.movement row.isReturn := rfl
  rw [TenderLine.takings, List.filter_map, List.map_map, method, signed, sum_movement]
  rfl

end Store

namespace ReceiptRow.Carries

variable {row : ReceiptRow} {s : Store} {p : Payment}

/-- The tenders of a receipt carry its total. -/
theorem sum_tendersOf (h : row.Carries s p) :
    ((s.tendersOf row.id).map (·.amount.toInt)).sum = row.total.toInt := by
  rw [h.tendersOf_eq, Payment.sum_tenders h.form]

theorem sum_signed (h : row.Carries s p) :
    (((s.tendersOf row.id).map row.line).map TenderLine.signed).sum =
      row.total.movement row.isReturn := by
  have signed : TenderLine.signed ∘ row.line = fun t => t.amount.movement row.isReturn := rfl
  rw [List.map_map, signed, sum_movement, h.sum_tendersOf]
  rfl

theorem volume_line (h : row.Carries s p) :
    TenderLine.volume ((s.tendersOf row.id).map row.line) = row.total.toInt := by
  rw [TenderLine.volume, List.map_map, ← h.sum_tendersOf]
  rfl

/-- The lines of the tenders of a receipt, if it belongs to the shift. -/
theorem filterMap_line? (h : row.Carries s p) (unique : (s.receipts.map (·.id)).Nodup)
    (hrow : row ∈ s.receipts) (shiftId : String) :
    (s.tenders.filter (·.receiptId == row.id)).filterMap (Shifts.line? shiftId s.receipts) =
      if row.shiftId == some shiftId then (s.tendersOf row.id).map row.line else [] := by
  obtain ⟨tenderId, written⟩ := h.tenders
  have each : ∀ t ∈ tenderRows row.id tenderId 0 (p.tenders row.total),
      Shifts.line? shiftId s.receipts t =
        if row.shiftId == some shiftId then some (row.line t.toTender) else none := by
    intro t ht
    exact Shifts.line?_of_mem unique hrow (of_mem_tenderRows ht).1 shiftId
  rw [written, h.tendersOf_eq, List.filterMap_congr each]
  by_cases tied : row.shiftId = some shiftId
  · have tenders := congrArg (List.map row.line)
      (map_toTender_tenderRows row.id tenderId 0 (p.tenders row.total))
    rw [List.map_map, ← List.filterMap_eq_map] at tenders
    simp only [tied, beq_self_eq_true, if_true]
    exact tenders
  · simp [tied]

end ReceiptRow.Carries

/-! ## The lines of a shift -/

/-- Of receipts only those of the shift give lines. -/
theorem flatMap_ite_nil {α β : Type} (c : α → Bool) (f : α → List β) (as : List α) :
    (as.flatMap fun a => if c a then f a else []) = (as.filter c).flatMap f := by
  induction as with
  | nil => rfl
  | cons a rest ih =>
    rw [List.flatMap_cons, ih]
    by_cases own : c a = true
    · rw [if_pos own, List.filter_cons_of_pos own, List.flatMap_cons]
    · rw [if_neg own, List.filter_cons_of_neg own, List.nil_append]

namespace Store.Carried

variable {s : Store}

/-- The lines of a shift are those of its receipts. -/
theorem linesOf_perm (carried : s.Carried) (sound : s.Sound) (shiftId : String) :
    (Shifts.linesOf shiftId s).Perm
      ((s.receiptsOf shiftId).flatMap fun row => (s.tendersOf row.id).map row.line) := by
  have parts := Table.perm_flatMap_filter (fun row : ReceiptRow => row.id)
    (fun t : TenderRow => t.receiptId) sound.receipts sound.tenders
  calc Shifts.linesOf shiftId s
      = (Shifts.placed s.tenders).filterMap (Shifts.line? shiftId s.receipts) := rfl
    List.Perm _ (s.tenders.filterMap (Shifts.line? shiftId s.receipts)) :=
      (Shifts.placed_perm s.tenders).filterMap _
    List.Perm _ ((s.receipts.flatMap fun row =>
        s.tenders.filter (·.receiptId == row.id)).filterMap (Shifts.line? shiftId s.receipts)) :=
      parts.filterMap _
    _ = s.receipts.flatMap fun row =>
        if row.shiftId == some shiftId then (s.tendersOf row.id).map row.line else [] := by
      rw [List.filterMap_flatMap]
      apply List.flatMap_congr
      intro row hrow
      obtain ⟨p, hp⟩ := carried row hrow
      exact hp.filterMap_line? sound.receipts hrow shiftId
    _ = (s.receiptsOf shiftId).flatMap fun row => (s.tendersOf row.id).map row.line :=
      flatMap_ite_nil _ _ _

/-- The lines of a shift take by method what its receipts take. -/
theorem takings_linesOf (carried : s.Carried) (sound : s.Sound) (shiftId : String)
    (m : TenderMethod) :
    TenderLine.takings (Shifts.linesOf shiftId s) m = s.takings shiftId m := by
  rw [TenderLine.takings_perm (carried.linesOf_perm sound shiftId), TenderLine.takings,
    List.filter_flatMap, sum_map_flatMap, Store.takings]
  congr 1
  apply List.map_congr_left
  intro row _
  exact s.takings_line m row

/-- What is summed over the lines of a shift may be summed receipt by receipt. -/
theorem sum_linesOf (carried : s.Carried) (sound : s.Sound) (shiftId : String)
    {f : TenderLine → Int} {g : ReceiptRow → Int}
    (each : ∀ row p, row.Carries s p →
      (((s.tendersOf row.id).map row.line).map f).sum = g row) :
    ((Shifts.linesOf shiftId s).map f).sum = ((s.receiptsOf shiftId).map g).sum := by
  rw [((carried.linesOf_perm sound shiftId).map f).sum_eq, sum_map_flatMap]
  congr 1
  apply List.map_congr_left
  intro row hrow
  obtain ⟨p, hp⟩ := carried row (List.mem_of_mem_filter hrow)
  exact each row p hp

/-- Together the lines of a shift take the totals of its receipts. -/
theorem sum_signed_linesOf (carried : s.Carried) (sound : s.Sound) (shiftId : String) :
    ((Shifts.linesOf shiftId s).map TenderLine.signed).sum =
      ((s.receiptsOf shiftId).map fun row => row.total.movement row.isReturn).sum :=
  carried.sum_linesOf sound shiftId fun _ _ hp => hp.sum_signed

theorem volume_linesOf (carried : s.Carried) (sound : s.Sound) (shiftId : String) :
    TenderLine.volume (Shifts.linesOf shiftId s) =
      ((s.receiptsOf shiftId).map (·.total.toInt)).sum :=
  carried.sum_linesOf sound shiftId fun _ _ hp => hp.volume_line

/-- No receipt brings more than the largest amount into the lines. -/
theorem volume_linesOf_le (carried : s.Carried) (sound : s.Sound) (shiftId : String) :
    TenderLine.volume (Shifts.linesOf shiftId s) ≤
      (s.receiptsOf shiftId).length * Validation.maxAmount.toInt := by
  have each : ∀ n ∈ (s.receiptsOf shiftId).map (·.total.toInt),
      n ≤ Validation.maxAmount.toInt := by
    intro n hn
    obtain ⟨row, hrow, rfl⟩ := List.mem_map.1 hn
    obtain ⟨p, hp⟩ := carried row (List.mem_of_mem_filter hrow)
    exact hp.total.2
  have most := List.sum_le_card_nsmul _ _ each
  rwa [← carried.volume_linesOf sound, List.length_map, nsmul_eq_mul] at most

theorem amount_nonneg (carried : s.Carried) (sound : s.Sound) (shiftId : String) :
    ∀ l ∈ Shifts.linesOf shiftId s, 0 ≤ l.amount.toInt := by
  intro l hl
  obtain ⟨row, hrow, listed⟩ :=
    List.mem_flatMap.1 ((carried.linesOf_perm sound shiftId).mem_iff.1 hl)
  obtain ⟨p, hp⟩ := carried row (List.mem_of_mem_filter hrow)
  obtain ⟨t, ht, rfl⟩ := List.mem_map.1 listed
  rw [hp.tendersOf_eq] at ht
  exact Payment.tenders_nonneg hp.form hp.total.1 t ht

/-- The receipts of the lines of a shift are its receipts, since each has a tender. -/
theorem receiptIds_linesOf (carried : s.Carried) (sound : s.Sound) (shiftId : String) :
    TenderLine.receiptIds (Shifts.linesOf shiftId s) =
      ((s.receiptsOf shiftId).map (·.id)).toFinset := by
  rw [TenderLine.receiptIds_perm (carried.linesOf_perm sound shiftId)]
  ext id
  simp only [TenderLine.receiptIds, List.mem_toFinset, List.mem_map, List.mem_flatMap]
  constructor
  · rintro ⟨_, ⟨row, hrow, t, -, rfl⟩, rfl⟩
    exact ⟨row, hrow, rfl⟩
  · rintro ⟨row, hrow, rfl⟩
    obtain ⟨p, hp⟩ := carried row (List.mem_of_mem_filter hrow)
    obtain ⟨t, ht⟩ := List.exists_mem_of_ne_nil _ (Payment.tenders_ne_nil hp.form)
    rw [← hp.tendersOf_eq] at ht
    exact ⟨row.line t, ⟨row, hrow, t, ht, rfl⟩, rfl⟩

/-- As many receipts start in the lines of a shift as it has. -/
theorem starts_linesOf (carried : s.Carried) (sound : s.Sound) (shiftId : String) :
    TenderLine.starts none (Shifts.linesOf shiftId s) = (s.receiptsOf shiftId).length := by
  have unique : ((s.receiptsOf shiftId).map (·.id)).Nodup :=
    sound.receipts.sublist (List.filter_sublist.map _)
  have together := TenderLine.together_of_pairwise (Shifts.linesOf_pairwise shiftId s)
  rw [TenderLine.starts_eq_card together, carried.receiptIds_linesOf sound,
    List.toFinset_card_of_nodup unique, List.length_map]

end Store.Carried

end Tillbook
