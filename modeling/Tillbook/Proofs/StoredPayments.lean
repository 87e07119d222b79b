import Tillbook.Proofs.Histories

/-!
# Stored payments

A receipt is stored as a head and one row for each tender.  Together they keep the payment
that the receipt was committed with, whose tenders carry the total.

## Main definitions

* `ReceiptRow.Carries` — the row and its tenders are those of a payment in form.

## Main statements

* `ReceiptRow.Carries.tendersOf_eq` — the tenders that are read back are those of the payment.
* `History.carried` — every stored receipt carries a payment.
-/

namespace Tillbook

/-! ## Tenders in their places -/

theorem map_toTender_tenderRows (receiptId : String) (tenderId : Nat → String) (position : Nat)
    (ts : List Tender) : (tenderRows receiptId tenderId position ts).map (·.toTender) = ts := by
  induction ts generalizing position with
  | nil => rfl
  | cons first rest ih => rw [tenderRows, List.map_cons, ih]

theorem filter_tenderRows_of_ne {receiptId k : String} (h : receiptId ≠ k)
    (tenderId : Nat → String) (position : Nat) (ts : List Tender) :
    (tenderRows receiptId tenderId position ts).filter (·.receiptId == k) = [] := by
  rw [List.filter_eq_nil_iff]
  intro t ht
  simpa [(of_mem_tenderRows ht).1] using h

theorem filter_tenderRows_self (receiptId : String) (tenderId : Nat → String) (position : Nat)
    (ts : List Tender) :
    (tenderRows receiptId tenderId position ts).filter (·.receiptId == receiptId) =
      tenderRows receiptId tenderId position ts := by
  rw [List.filter_eq_self]
  intro t ht
  simp [(of_mem_tenderRows ht).1]

/-- The tenders of a receipt that is committed are those that the commit writes. -/
theorem Commit.Booked.filter_tenders {station : String} {stamp : Stamp} {request : CommitRequest}
    {c : Committed} {s s' : Store} (h : Booked station stamp request s c s') (sound : s.Sound) :
    s'.tenders.filter (·.receiptId == c.receipt.id) = c.receipt.tenderRows stamp.tenderId := by
  have none : s.tenders.filter (·.receiptId == c.receipt.id) = [] := by
    rw [List.filter_eq_nil_iff]
    intro t ht own
    exact h.fits.id_notMem (beq_iff_eq.1 own ▸ sound.tenders t ht)
  rw [h.tenders_eq, List.filter_append, none, List.nil_append]
  exact filter_tenderRows_self ..

/-! ## Receipts and their payments -/

/-- The row of a receipt and its tenders are those of a payment in form. -/
structure ReceiptRow.Carries (row : ReceiptRow) (s : Store) (p : Payment) : Prop where
  kind : row.kind = p.kind
  subtype : row.subtype = p.subtype
  total : 0 ≤ row.total.toInt ∧ row.total.toInt ≤ Validation.maxAmount.toInt
  form : Validation.payment p row.total = .ok ()
  tenders : ∃ tenderId, s.tenders.filter (·.receiptId == row.id) =
    tenderRows row.id tenderId 0 (p.tenders row.total)

/-- The tenders that are read back are those that were written. -/
theorem Store.tendersOf_eq {s : Store} {id : String} {tenderId : Nat → String} {ts : List Tender}
    (written : s.tenders.filter (·.receiptId == id) = tenderRows id tenderId 0 ts) :
    s.tendersOf id = ts := by
  have placed := (tenderRows_pairwise id tenderId 0 ts).imp Nat.le_of_lt
  rw [tendersOf, written, List.mergeSort_of_pairwise (by simpa using placed),
    map_toTender_tenderRows]

/-- The tenders that are read back are those of the payment. -/
theorem ReceiptRow.Carries.tendersOf_eq {row : ReceiptRow} {s : Store} {p : Payment}
    (h : row.Carries s p) : s.tendersOf row.id = p.tenders row.total := by
  obtain ⟨_, written⟩ := h.tenders
  exact Store.tendersOf_eq written

/-- Every stored receipt carries a payment. -/
def Store.Carried (s : Store) : Prop := ∀ row ∈ s.receipts, ∃ p, row.Carries s p

namespace Effect

variable {call : Call} {s s' : Store} {answer : Except LedgerError Reply}

/-- A new receipt carries its payment, and the others keep theirs. -/
theorem keeps_carried (h : Effect call s answer s') (hs : s.Sound) (carried : s.Carried) :
    s'.Carried := by
  intro row hrow
  cases h with
  | @committed request c _ op booked =>
    rw [booked.receipts_eq] at hrow
    have fresh := booked.fits.id_notMem
    rcases List.mem_append.1 hrow with before | added
    · obtain ⟨p, hp⟩ := carried row before
      have other : c.receipt.id ≠ row.id := fun same => fresh (same ▸ List.mem_map_of_mem before)
      obtain ⟨tenderId, written⟩ := hp.tenders
      refine ⟨p, { hp with tenders := ⟨tenderId, ?_⟩ }⟩
      rw [booked.tenders_eq, List.filter_append, Receipt.tenderRows, filter_tenderRows_of_ne other,
        List.append_nil]
      exact written
    · obtain ⟨n, -, receipt⟩ := booked.number
      have form := Validation.commit_eq_ok_iff.1 booked.form
      rw [List.mem_singleton.1 added]
      refine ⟨c.receipt.payment, rfl, rfl, ?_, ?_, call.stamp.tenderId, booked.filter_tenders hs⟩
      · rw [receipt]
        exact Validation.amount_eq_ok_iff.1 form.2.2.1
      · rw [receipt]
        exact form.2.2.2.1
  | settled op ends waiting =>
    obtain ⟨before, hbefore, rfl⟩ := List.mem_map.1 hrow
    obtain ⟨p, hp⟩ := carried before hbefore
    obtain ⟨_, _, same⟩ := before.settled_eq
    rw [same]
    exact ⟨p, hp.kind, hp.subtype, hp.total, hp.form, hp.tenders⟩
  | numbered op next =>
    rw [Counters.issued_eq] at hrow ⊢
    obtain ⟨p, hp⟩ := carried row hrow
    exact ⟨p, hp.kind, hp.subtype, hp.total, hp.form, hp.tenders⟩
  | _ =>
    obtain ⟨p, hp⟩ := carried row hrow
    exact ⟨p, hp.kind, hp.subtype, hp.total, hp.form, hp.tenders⟩

end Effect

/-- Every stored receipt carries a payment. -/
theorem History.carried (calls : List Call) : (of calls).store.Carried := by
  induction calls using List.reverseRecOn with
  | nil => exact List.forall_mem_nil _
  | append_singleton calls call ih =>
    rw [of_append_singleton]
    exact (call.effect (of calls).store).keeps_carried (sound calls) ih

end Tillbook
