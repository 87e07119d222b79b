import Mathlib.Data.List.Nodup
import Mathlib.Data.List.Pairwise
import Tillbook.Proofs.StoredPayments

/-!
# The tables of receipts

A receipt has a row, rows for its tenders and rows for its lines.  Whatever a call does, it
does one of three things to these tables: nothing, it adds the rows of a receipt that is
committed, or it brings the payment of one receipt to its end.

## Main definitions

* `Entry.committed?`, `Entry.settlement?` — what a call has committed, and what it has settled.
* `ReceiptHead.ended`, `ReceiptHead.after` — a receipt after the end of its payment, and after
  any call.
* `ReceiptEffect` — the three ways.
* `Store.SoundReceipts` — what holds of the tables of receipts in every store.

## Main statements

* `Effect.on_receipts` — there is no fourth way.
* `Effect.receipts_eq`, `Effect.tenders_eq`, `Effect.items_eq` — the tables after a call.
* `Effect.pending_of_settlement?` — only a pending payment comes to an end.
* `Effect.tenderRows_of_mem`, `Effect.itemsOf_of_mem` — a receipt keeps its tenders and lines.
* `History.soundReceipts` — every history leaves sound tables.
-/

namespace Tillbook

/-! ## What a call has done to receipts -/

namespace Entry

/-- What a call has committed. -/
def committed? (e : Entry) : Option Committed :=
  match e.call.operation, e.answer with
  | .commit _, .ok (.committed c _) => some c
  | _, _ => none

/-- The end that a call has brought to the payment of a name: the status, and the
confirmation code if one was given. -/
def settlement? (e : Entry) (checkoutId : Option String) :
    Option (PaymentStatus × Option String) :=
  match e.call.operation, e.answer with
  | .settle id status reference, .ok _ =>
    if checkoutId = some id then some (status, reference) else none
  | _, _ => none

variable {call : Call} {answer : Except LedgerError Reply}

theorem committed?_eq_none (h : ∀ request, call.operation ≠ .commit request) :
    committed? ⟨call, answer⟩ = none := by
  unfold committed?
  split
  · next request _ _ op _ => exact absurd op (h request)
  · rfl

theorem settlement?_eq_none
    (h : ∀ id status reference, call.operation ≠ .settle id status reference)
    (checkoutId : Option String) : settlement? ⟨call, answer⟩ checkoutId = none := by
  unfold settlement?
  split
  · next id status reference _ op _ => exact absurd op (h id status reference)
  · rfl

/-- Only what has a name at the gateway is settled. -/
theorem isSome_of_settlement? {e : Entry} {checkoutId : Option String}
    {settlement : PaymentStatus × Option String}
    (h : e.settlement? checkoutId = some settlement) : checkoutId.isSome := by
  cases checkoutId with
  | some id => rfl
  | none =>
    unfold settlement? at h
    split at h <;> simp at h

end Entry

/-- A receipt after the end of its payment.  A confirmation code that is given takes the place
of the old one. -/
def ReceiptHead.ended (status : PaymentStatus) (reference : Option String) (head : ReceiptHead) :
    ReceiptHead :=
  { head with status := status, reference := reference.or head.reference }

/-- The head of a receipt after a call. -/
def ReceiptHead.after (e : Entry) (head : ReceiptHead) : ReceiptHead :=
  match e.settlement? head.checkoutId with
  | some (status, reference) => head.ended status reference
  | none => head

/-- A receipt after the end of its payment. -/
def Receipt.ended (status : PaymentStatus) (reference : Option String) (r : Receipt) : Receipt :=
  { r with toReceiptHead := r.toReceiptHead.ended status reference }

/-- A receipt after a call. -/
def Receipt.after (e : Entry) (r : Receipt) : Receipt :=
  { r with toReceiptHead := r.toReceiptHead.after e }

/-- The row of a receipt after the end of its payment. -/
def ReceiptRow.ended (status : PaymentStatus) (reference : Option String) (row : ReceiptRow) :
    ReceiptRow :=
  { row with toReceiptHead := row.toReceiptHead.ended status reference }

/-- The row of a receipt after a call. -/
def ReceiptRow.after (e : Entry) (row : ReceiptRow) : ReceiptRow :=
  { row with toReceiptHead := row.toReceiptHead.after e }

variable {e : Entry} {status : PaymentStatus} {reference : Option String}

theorem ReceiptHead.after_of_none {head : ReceiptHead}
    (h : e.settlement? head.checkoutId = none) : head.after e = head := by
  rw [after, h]

theorem ReceiptHead.after_of_some {head : ReceiptHead}
    (h : e.settlement? head.checkoutId = some (status, reference)) :
    head.after e = head.ended status reference := by
  rw [after, h]

namespace Receipt

variable {r : Receipt}

theorem after_of_none (h : e.settlement? r.checkoutId = none) : r.after e = r := by
  rw [after, ReceiptHead.after_of_none h]

theorem after_of_some (h : e.settlement? r.checkoutId = some (status, reference)) :
    r.after e = r.ended status reference := by
  rw [after, ReceiptHead.after_of_some h, ended]

/-- A receipt has the same row whether it is looked at before it is written or after. -/
theorem row_after (r : Receipt) : (r.after e).row = r.row.after e := rfl

end Receipt

namespace ReceiptRow

variable {row : ReceiptRow}

theorem after_of_none (h : e.settlement? row.checkoutId = none) : row.after e = row := by
  rw [after, ReceiptHead.after_of_none h]

theorem after_of_some (h : e.settlement? row.checkoutId = some (status, reference)) :
    row.after e = row.ended status reference := by
  rw [after, ReceiptHead.after_of_some h, ended]

/-- A call changes the status and the confirmation code alone. -/
theorem after_eq (row : ReceiptRow) :
    ∃ status reference, row.after e = { row with status := status, reference := reference } := by
  cases h : e.settlement? row.checkoutId with
  | none => exact ⟨row.status, row.reference, after_of_none h⟩
  | some settlement => exact ⟨_, _, after_of_some h⟩

@[simp] theorem id_after (row : ReceiptRow) : (row.after e).id = row.id := by
  obtain ⟨_, _, h⟩ := row.after_eq (e := e)
  rw [h]

@[simp] theorem checkoutId_settled {checkoutId : String} (row : ReceiptRow) :
    (row.settled checkoutId status reference).checkoutId = row.checkoutId := by
  obtain ⟨_, _, h⟩ := @settled_eq checkoutId status reference row
  rw [h]

/-- A pending payment of the name comes to its end. -/
theorem settled_of_awaits {checkoutId : String} (h : row.awaits checkoutId = true) :
    row.settled checkoutId status reference = row.ended status reference := by
  rw [settled, if_pos h]
  rfl

theorem settled_of_ne {checkoutId : String} (h : row.checkoutId ≠ some checkoutId) :
    row.settled checkoutId status reference = row := by
  simp [settled, awaits, h]

end ReceiptRow

/-- What a call does to the receipts, their tenders and their lines. -/
inductive ReceiptEffect (e : Entry) (s s' : Store) : Prop
  | kept (uncommitted : e.committed? = none) (unsettled : ∀ id, e.settlement? id = none)
      (receipts : s'.receipts = s.receipts) (tenders : s'.tenders = s.tenders)
      (items : s'.items = s.items)
  | committed {request : CommitRequest} {c : Committed} (op : e.call.operation = .commit request)
      (made : e.committed? = some c) (unsettled : ∀ id, e.settlement? id = none)
      (booked : Commit.Booked (request.originStation.getD e.call.ledger.station) e.call.stamp
        request s c s')
  | settled {id : String} {status : PaymentStatus} {reference : Option String}
      (op : e.call.operation = .settle id status reference) (uncommitted : e.committed? = none)
      (settled : ∀ k, e.settlement? k = if k = some id then some (status, reference) else none)
      (ends : status ≠ .pending) (waiting : s.receipts.any (·.awaits id) = true)
      (left : s' = { s with receipts := s.receipts.map (·.settled id status reference) })

/-- There is no fourth way. -/
theorem Effect.on_receipts {call : Call} {s s' : Store} {answer : Except LedgerError Reply}
    (h : Effect call s answer s') : ReceiptEffect ⟨call, answer⟩ s s' := by
  cases h with
  | failed | stockLost =>
    refine .kept ?_ (fun id => ?_) rfl rfl rfl
    · unfold Entry.committed?
      split <;> simp_all
    · unfold Entry.settlement?
      split <;> simp_all
  | told asks =>
    exact .kept
      (Entry.committed?_eq_none fun _ op => by simp [op, Operation.asks] at asks)
      (Entry.settlement?_eq_none fun _ _ _ op => by simp [op, Operation.asks] at asks) rfl rfl rfl
  | customerAdded added =>
    exact .kept
      (Entry.committed?_eq_none fun _ op => by simp [op, Call.customer?] at added)
      (Entry.settlement?_eq_none fun _ _ _ op => by simp [op, Call.customer?] at added) rfl rfl rfl
  | committed op booked =>
    exact .committed op (by simp [Entry.committed?, op])
      (Entry.settlement?_eq_none (by simp [op])) booked
  | settled op ends waiting =>
    exact .settled op (Entry.committed?_eq_none (by simp [op]))
      (fun k => by simp [Entry.settlement?, op]) ends waiting rfl
  | numbered op next =>
    rw [Counters.issued_eq]
    exact .kept (Entry.committed?_eq_none (by simp [op]))
      (Entry.settlement?_eq_none (by simp [op])) rfl rfl rfl
  | staffEngaged op | staffSet op | productAdded op | stockMoved op | limitSet op | repaid op
  | shiftKept op | shiftBegun op | shiftEnded op =>
    exact .kept (Entry.committed?_eq_none (by simp [op]))
      (Entry.settlement?_eq_none (by simp [op])) rfl rfl rfl

/-- The lines of a receipt that is committed belong to it. -/
theorem Commit.Booked.receiptId_of_mem {station : String} {stamp : Stamp}
    {request : CommitRequest} {c : Committed} {s s' : Store}
    (h : Booked station stamp request s c s') {i : SaleItem} (hi : i ∈ c.items) :
    i.receiptId = c.receipt.id := by
  obtain ⟨n, -, receipt⟩ := h.number
  rw [(h.lines.of_mem hi).1, receipt]
  rfl

/-! ## Sound tables -/

/-- No two receipts have the same name at the gateway, and every line belongs to a receipt. -/
structure Store.SoundReceipts (s : Store) : Prop where
  checkouts : (s.receipts.filterMap (·.checkoutId)).Nodup
  items : ∀ i ∈ s.items, i.receiptId ∈ s.receipts.map (·.id)

/-- The name at the gateway names one receipt. -/
theorem Store.SoundReceipts.eq_of_checkoutId {s : Store} (hs : s.SoundReceipts)
    {row row' : ReceiptRow} (hrow : row ∈ s.receipts) (hrow' : row' ∈ s.receipts) {id : String}
    (named : row.checkoutId = some id) (named' : row'.checkoutId = some id) : row = row' := by
  let Apart (a b : ReceiptRow) : Prop :=
    ∀ id, a.checkoutId = some id → ∀ id', b.checkoutId = some id' → id ≠ id'
  have apart : s.receipts.Pairwise Apart := List.pairwise_filterMap.1 hs.checkouts
  have symm : Std.Symm Apart := ⟨fun _ _ h id hid id' hid' => (h id' hid' id hid).symm⟩
  by_contra other
  exact apart.forall hrow hrow' other id named id named' rfl

/-- With unique names at the gateway a receipt is found by its own. -/
theorem Store.SoundReceipts.find?_checkoutId {s : Store} (hs : s.SoundReceipts) {row : ReceiptRow}
    (hrow : row ∈ s.receipts) {id : String} (named : row.checkoutId = some id) :
    s.receipts.find? (·.checkoutId == some id) = some row := by
  have hit : (s.receipts.find? (·.checkoutId == some id)).isSome :=
    List.find?_isSome.2 ⟨row, hrow, beq_iff_eq.2 named⟩
  obtain ⟨found, hfound⟩ := Option.isSome_iff_exists.1 hit
  have own : found.checkoutId = some id := by simpa using List.find?_some hfound
  rw [hfound, hs.eq_of_checkoutId (List.mem_of_find?_eq_some hfound) hrow own named]

namespace Effect

variable {call : Call} {s s' : Store} {answer : Except LedgerError Reply}

/-- Sound tables stay sound. -/
theorem keeps_receipts (h : Effect call s answer s') (hs : s.SoundReceipts) :
    s'.SoundReceipts := by
  cases h.on_receipts with
  | kept _ _ receipts _ items => exact ⟨receipts ▸ hs.checkouts, receipts ▸ items ▸ hs.items⟩
  | committed op made unsettled booked =>
    constructor
    · rw [booked.receipts_eq, filterMap_append_singleton, List.nodup_append]
      refine ⟨hs.checkouts, Option.toList_nodup _, fun id taken id' own => ?_⟩
      obtain ⟨row, hrow, named⟩ := List.mem_filterMap.1 taken
      rintro rfl
      exact booked.fits.checkout id (Option.mem_toList.1 own) row hrow named
    · intro i hi
      rw [booked.receipts_eq, List.map_append, List.mem_append]
      rw [booked.items_eq] at hi
      rcases List.mem_append.1 hi with before | added
      · exact .inl (hs.items i before)
      · exact .inr (List.mem_singleton.2 (booked.receiptId_of_mem added))
  | settled op uncommitted settled ends waiting left =>
    subst left
    constructor
    · simpa [List.filterMap_map, Function.comp_def] using hs.checkouts
    · simpa [Function.comp_def] using hs.items

/-- Only a pending payment comes to an end, and only to one. -/
theorem pending_of_settlement? (h : Effect call s answer s') (hs : s.SoundReceipts)
    {row : ReceiptRow} (hrow : row ∈ s.receipts) {status : PaymentStatus}
    {reference : Option String}
    (settled : Entry.settlement? ⟨call, answer⟩ row.checkoutId = some (status, reference)) :
    row.status = .pending ∧ status ≠ .pending := by
  cases h.on_receipts with
  | kept _ unsettled | committed _ _ unsettled => simp [unsettled] at settled
  | @settled id _ _ op uncommitted each ends waiting left =>
    obtain ⟨waits, hwaits, awaits⟩ := List.any_eq_true.1 waiting
    simp only [ReceiptRow.awaits, Bool.and_eq_true, beq_iff_eq] at awaits
    rw [each] at settled
    split at settled
    · next named =>
      obtain ⟨rfl, rfl⟩ := settled
      rw [hs.eq_of_checkoutId hrow hwaits named awaits.1]
      exact ⟨awaits.2, ends⟩
    · nomatch settled

/-- A payment that has come to its end stays there. -/
theorem after_of_ended (h : Effect call s answer s') (hs : s.SoundReceipts) {row : ReceiptRow}
    (hrow : row ∈ s.receipts) (ended : row.status ≠ .pending) :
    row.after ⟨call, answer⟩ = row := by
  cases settled : Entry.settlement? ⟨call, answer⟩ row.checkoutId with
  | none => exact ReceiptRow.after_of_none settled
  | some settlement => exact absurd (h.pending_of_settlement? hs hrow settled).1 ended

/-- The receipts after a call: those that there were, and what it has committed. -/
theorem receipts_eq (h : Effect call s answer s') (hs : s.SoundReceipts) :
    s'.receipts = s.receipts.map (·.after ⟨call, answer⟩) ++
      (Entry.committed? ⟨call, answer⟩).toList.map (·.receipt.row) := by
  have same (unsettled : ∀ id, Entry.settlement? ⟨call, answer⟩ id = none) :
      s.receipts.map (·.after ⟨call, answer⟩) = s.receipts :=
    List.map_id'' (fun row => ReceiptRow.after_of_none (unsettled row.checkoutId)) _
  cases h.on_receipts with
  | kept uncommitted unsettled receipts => simp [same unsettled, uncommitted, receipts]
  | committed op made unsettled booked => simp [same unsettled, made, booked.receipts_eq]
  | @settled id status reference op uncommitted each ends waiting left =>
    rw [uncommitted, left]
    simp only [Option.toList_none, List.map_nil, List.append_nil]
    apply List.map_congr_left
    intro row hrow
    by_cases named : row.checkoutId = some id
    · have settled : Entry.settlement? ⟨call, answer⟩ row.checkoutId =
          some (status, reference) := by
        rw [each, if_pos named]
      have pending := (h.pending_of_settlement? hs hrow settled).1
      rw [ReceiptRow.after_of_some settled, ReceiptRow.settled_of_awaits]
      simp [ReceiptRow.awaits, named, pending]
    · have unsettled : Entry.settlement? ⟨call, answer⟩ row.checkoutId = none := by
        rw [each, if_neg named]
      rw [ReceiptRow.after_of_none unsettled, ReceiptRow.settled_of_ne named]

theorem tenders_eq (h : Effect call s answer s') :
    s'.tenders = s.tenders ++ (Entry.committed? ⟨call, answer⟩).toList.flatMap
      (·.receipt.tenderRows call.stamp.tenderId) := by
  cases h.on_receipts with
  | kept uncommitted unsettled receipts tenders => simp [uncommitted, tenders]
  | committed op made unsettled booked => simp [made, booked.tenders_eq]
  | settled op uncommitted each ends waiting left => simp [uncommitted, left]

theorem items_eq (h : Effect call s answer s') :
    s'.items = s.items ++ (Entry.committed? ⟨call, answer⟩).toList.flatMap (·.items) := by
  cases h.on_receipts with
  | kept uncommitted unsettled receipts tenders items => simp [uncommitted, items]
  | committed op made unsettled booked => simp [made, booked.items_eq]
  | settled op uncommitted each ends waiting left => simp [uncommitted, left]

/-- What is committed is booked. -/
theorem booked_of_committed? (h : Effect call s answer s') {c : Committed}
    (made : Entry.committed? ⟨call, answer⟩ = some c) :
    ∃ request, call.operation = .commit request ∧
      Commit.Booked (request.originStation.getD call.ledger.station) call.stamp request s c s' := by
  cases h.on_receipts with
  | kept uncommitted | settled _ uncommitted => simp [uncommitted] at made
  | @committed request c' op made' unsettled booked =>
    obtain rfl : c' = c := Option.some.inj (made'.symm.trans made)
    exact ⟨request, op, booked⟩

/-- A receipt keeps its tenders. -/
theorem tenderRows_of_mem (h : Effect call s answer s') {row : ReceiptRow}
    (hrow : row ∈ s.receipts) :
    s'.tenders.filter (·.receiptId == row.id) = s.tenders.filter (·.receiptId == row.id) := by
  rw [h.tenders_eq]
  cases made : Entry.committed? ⟨call, answer⟩ with
  | none => simp
  | some c =>
    obtain ⟨request, -, booked⟩ := h.booked_of_committed? made
    have other : c.receipt.id ≠ row.id := (booked.fits.id row hrow).symm
    simp [Receipt.tenderRows, filter_tenderRows_of_ne other]

/-- A receipt keeps its lines. -/
theorem itemsOf_of_mem (h : Effect call s answer s') {row : ReceiptRow}
    (hrow : row ∈ s.receipts) : s'.itemsOf row.id = s.itemsOf row.id := by
  rw [Store.itemsOf, h.items_eq]
  cases made : Entry.committed? ⟨call, answer⟩ with
  | none => simp [Store.itemsOf]
  | some c =>
    obtain ⟨request, -, booked⟩ := h.booked_of_committed? made
    have others : c.items.filter (·.receiptId == row.id) = [] := by
      rw [List.filter_eq_nil_iff]
      intro i hi
      simpa [booked.receiptId_of_mem hi] using (booked.fits.id row hrow).symm
    simp [Store.itemsOf, others]

end Effect

/-- Every history leaves sound tables of receipts. -/
theorem History.soundReceipts (calls : List Call) : (of calls).store.SoundReceipts := by
  apply induction (P := fun h => h.store.SoundReceipts)
  · exact ⟨List.nodup_nil, List.forall_mem_nil _⟩
  · exact fun h call answer s' hs effect => effect.keeps_receipts hs

end Tillbook
