import Tillbook.Proofs.ReceiptTables

/-!
# Stored receipts

A receipt that is committed is told again by each of its names: with the payment as it was
agreed and its lines in the order of the cart.  Nothing changes it any more but the one
call that brings its payment to an end.

## Main definitions

* `Store.Keeps` — the tables have all rows of a receipt.
* `Store.Tells` — the receipt and its lines are read back by each name.

## Main statements

* `Store.Keeps.tells` — a receipt whose rows are there is told.
* `Effect.keeps_receipt` — a call changes a receipt by the end of its payment alone.
* `History.receipts_immutable` — the receipts of every run.
-/

namespace Tillbook

/-- The tables have all rows of a receipt. -/
structure Store.Keeps (s : Store) (r : Receipt) (items : List SaleItem) : Prop where
  row : r.row ∈ s.receipts
  tenders : ∃ tenderId, s.tenders.filter (·.receiptId == r.id) = r.tenderRows tenderId
  items : s.itemsOf r.id = items

/-- A receipt and its lines are read back by each name of the receipt. -/
structure Store.Tells (s : Store) (r : Receipt) (items : List SaleItem) : Prop where
  byId : ∀ acc : Access, acc.Readable → (Receipts.find r.id).run acc s = (.ok (some r), s)
  byNumber : ∀ acc : Access, acc.Readable →
    (Receipts.findByNumber r.number).run acc s = (.ok (some r), s)
  byCheckout : ∀ acc : Access, acc.Readable → ∀ id, r.checkoutId = some id →
    (Receipts.findByCheckout id).run acc s = (.ok (some r), s)
  items : ∀ acc : Access, acc.Readable → (Receipts.items r.id).run acc s = (.ok items, s)

variable {s s' : Store} {r : Receipt} {items : List SaleItem}

namespace Store

/-- Nothing is lost in the tables. -/
theorem Keeps.receipt_eq (h : s.Keeps r items) : s.receipt r.row = r := by
  obtain ⟨_, written⟩ := h.tenders
  have tenders : s.tendersOf r.id = r.payment.tenders r.total := tendersOf_eq written
  change ({ r.toReceiptHead with
    payment := .ofStored r.payment.kind r.payment.subtype (s.tendersOf r.id) } : Receipt) = r
  rw [tenders, Payment.ofStored_tenders]

/-- A receipt whose rows are there is told. -/
theorem Keeps.tells (h : s.Keeps r items) (sound : s.Sound) (receipts : s.SoundReceipts) :
    s.Tells r items := by
  have told {found : Option ReceiptRow} (same : found = some r.row) :
      found.map s.receipt = some r := by
    rw [same, Option.map_some, h.receipt_eq]
  have byId := Table.find?_of_mem (fun row : ReceiptRow => row.id) sound.receipts h.row
  have byNumber := Table.find?_of_mem (fun row : ReceiptRow => row.number) sound.numbers h.row
  constructor
  · exact fun acc readable =>
      Action.run_read_eq_ok_iff.2 ⟨readable, congrArg Except.ok (told byId), rfl⟩
  · exact fun acc readable =>
      Action.run_read_eq_ok_iff.2 ⟨readable, congrArg Except.ok (told byNumber), rfl⟩
  · intro acc readable id named
    have byCheckout := receipts.find?_checkoutId h.row named
    exact Action.run_read_eq_ok_iff.2 ⟨readable, congrArg Except.ok (told byCheckout), rfl⟩
  · exact fun acc readable =>
      Action.run_read_eq_ok_iff.2 ⟨readable, congrArg Except.ok h.items, rfl⟩

end Store

/-- What is committed has all of its rows. -/
theorem Commit.Booked.keeps {station : String} {stamp : Stamp} {request : CommitRequest}
    {c : Committed} (h : Booked station stamp request s c s') (sound : s.Sound)
    (receipts : s.SoundReceipts) : s'.Keeps c.receipt c.items := by
  have fresh := h.fits.id_notMem
  constructor
  · rw [h.receipts_eq]
    exact List.mem_append_right _ (List.mem_singleton.2 rfl)
  · exact ⟨stamp.tenderId, h.filter_tenders sound⟩
  · have others : s.items.filter (·.receiptId == c.receipt.id) = [] := by
      rw [List.filter_eq_nil_iff]
      intro i hi own
      exact fresh (beq_iff_eq.1 own ▸ receipts.items i hi)
    have own : c.items.filter (·.receiptId == c.receipt.id) = c.items := by
      rw [List.filter_eq_self]
      intro i hi
      exact beq_iff_eq.2 (h.receiptId_of_mem hi)
    rw [Store.itemsOf, h.items_eq, List.filter_append, others, own, List.nil_append]

namespace Effect

variable {call : Call} {answer : Except LedgerError Reply}

/-- All rows of a receipt stay. -/
theorem keeps_after (h : Effect call s answer s') (receipts : s.SoundReceipts)
    (keeps : s.Keeps r items) : s'.Keeps (r.after ⟨call, answer⟩) items := by
  have kept_id : (r.after ⟨call, answer⟩).id = r.row.id := r.row.id_after
  constructor
  · rw [h.receipts_eq receipts, Receipt.row_after]
    exact List.mem_append_left _ (List.mem_map_of_mem keeps.row)
  · obtain ⟨tenderId, written⟩ := keeps.tenders
    have same : (r.after ⟨call, answer⟩).tenderRows tenderId = r.tenderRows tenderId := by
      obtain ⟨_, _, row⟩ := r.row.after_eq (e := ⟨call, answer⟩)
      have total := congrArg (·.total) row
      exact congrArg₂ (fun id total => tenderRows id tenderId 0 (r.payment.tenders total))
        kept_id total
    refine ⟨tenderId, ?_⟩
    rw [kept_id, h.tenderRows_of_mem keeps.row, same]
    exact written
  · rw [kept_id, h.itemsOf_of_mem keeps.row]
    exact keeps.items

/-- A call leaves a receipt as it is, or it brings its pending payment to an end. -/
theorem keeps_receipt (h : Effect call s answer s') (receipts : s.SoundReceipts)
    (keeps : s.Keeps r items) :
    Entry.settlement? ⟨call, answer⟩ r.checkoutId = none ∧ s'.Keeps r items ∨
      ∃ status reference,
        Entry.settlement? ⟨call, answer⟩ r.checkoutId = some (status, reference) ∧
          r.status = .pending ∧ status ≠ .pending ∧ s'.Keeps (r.ended status reference) items := by
  have next := h.keeps_after receipts keeps
  cases settled : Entry.settlement? ⟨call, answer⟩ r.checkoutId with
  | none =>
    rw [Receipt.after_of_none settled] at next
    exact .inl ⟨rfl, next⟩
  | some settlement =>
    obtain ⟨pending, ends⟩ := h.pending_of_settlement? receipts keeps.row settled
    rw [Receipt.after_of_some settled] at next
    exact .inr ⟨_, _, rfl, pending, ends, next⟩

end Effect

namespace History

/-- After the calls that were there when a receipt was, its payment comes to an end once at
most, and nothing else about it changes. -/
theorem keeps_receipt {calls : List Call} (keeps : (of calls).store.Keeps r items)
    (more : List Call) :
    let ends := ((of (calls ++ more)).since calls.length).filterMap
      (·.settlement? r.checkoutId)
    ends = [] ∧ (of (calls ++ more)).store.Keeps r items ∨
      ∃ status reference, ends = [(status, reference)] ∧ r.status = .pending ∧
        status ≠ .pending ∧ (of (calls ++ more)).store.Keeps (r.ended status reference) items := by
  induction more using List.reverseRecOn with
  | nil => simpa using keeps
  | append_singleton more call ih =>
    have receipts := soundReceipts (calls ++ more)
    have effect := call.effect (of (calls ++ more)).store
    rw [← List.append_assoc, since_append_singleton]
    dsimp only
    rw [filterMap_append_singleton, of_append_singleton]
    generalize (call.run (of (calls ++ more)).store).1 = answer at effect
    rcases ih with ⟨none, now⟩ | ⟨status, reference, one, pending, ends, now⟩
    · rw [none, List.nil_append]
      rcases effect.keeps_receipt receipts now with
        ⟨unsettled, next⟩ | ⟨status, reference, settled, pending, ends, next⟩
      · exact .inl ⟨by rw [unsettled]; rfl, next⟩
      · exact .inr ⟨status, reference, by rw [settled]; rfl, pending, ends, next⟩
    · rw [one]
      rcases effect.keeps_receipt receipts now with
        ⟨unsettled, next⟩ | ⟨_, _, -, again, -, -⟩
      · have unsettled : Entry.settlement? ⟨call, answer⟩ r.checkoutId = none := unsettled
        exact .inr ⟨status, reference, by rw [unsettled]; rfl, pending, ends, next⟩
      · -- The payment has come to its end already, so it does not do so again.
        exact absurd again ends

/-- A receipt that is committed carries the payment as it was agreed and its lines in the
order of the cart.  From then on the store tells it by each of its names, together with
those lines.  Whatever calls follow, at most one of them brings its payment to an end, and
nothing but the status and the confirmation code changes with that. -/
theorem receipts_immutable (calls : List Call) (call : Call) (request : CommitRequest)
    (c : Committed) (deliveries : List Delivery) (op : call.operation = .commit request)
    (done : (call.run (of calls).store).1 = .ok (.committed c deliveries)) :
    c.receipt.payment = request.payment ∧
    c.items.map (fun i => (i.productId, i.quantity, i.isReturn)) =
      request.items.map (fun line => (line.productId, line.quantity, request.isReturn)) ∧
    (of (calls ++ [call])).store.Tells c.receipt c.items ∧
    ∀ more : List Call,
      let now := of (calls ++ [call] ++ more)
      let ends := (now.since (calls ++ [call]).length).filterMap
        (·.settlement? c.receipt.checkoutId)
      ends = [] ∧ now.store.Tells c.receipt c.items ∨
        ∃ status reference, ends = [(status, reference)] ∧ c.receipt.status = .pending ∧
          status ≠ .pending ∧ now.store.Tells (c.receipt.ended status reference) c.items := by
  have effect := call.effect (of calls).store
  rw [done] at effect
  obtain ⟨c', same, booked⟩ := effect.booked_of_commit_ok op
  obtain ⟨rfl, -⟩ := Reply.committed.inj same
  have keeps := booked.keeps (sound calls) (soundReceipts calls)
  rw [show (call.run (of calls).store).2 = (of (calls ++ [call])).store by
    rw [of_append_singleton]; rfl] at keeps
  have told (more : List Call) {r : Receipt}
      (there : (of (calls ++ [call] ++ more)).store.Keeps r c.items) :
      (of (calls ++ [call] ++ more)).store.Tells r c.items :=
    there.tells (sound _) (soundReceipts _)
  obtain ⟨n, -, receipt⟩ := booked.number
  refine ⟨by rw [receipt]; rfl, booked.lines.cart_eq, keeps.tells (sound _) (soundReceipts _),
    fun more => ?_⟩
  rcases keeps_receipt keeps more with
    ⟨none, now⟩ | ⟨status, reference, one, pending, ends, now⟩
  · exact .inl ⟨none, told more now⟩
  · exact .inr ⟨status, reference, one, pending, ends, told more now⟩

/-- A sale on two tenders waits for the gateway, which confirms it and then takes that back in
vain. -/
theorem receipts_immutable_of_split :
    let tenders := [.plain .cash 100, Tender.withSubtype (.plain .mobile 300) "MPESA"]
    let sale := Day.ask "r1"
      (.commit { Day.purchase (.split tenders) 2 400 with checkoutId := some "ws-1" })
    let receipt : Receipt :=
      ⟨⟨"r1", "POS-01-00001", Day.moment, none, "amina", some "otieno", 400, .pending, none,
        some "ws-1", false, "POS-01"⟩, .split tenders⟩
    let line : SaleItem :=
      ⟨"r1", "r1", "sugar", "amina", "Sugar 1kg", 2, 200, false, none, Day.moment⟩
    let more := [Day.ask "r2" (.commit (Day.purchase .cash 1 200)),
      Day.ask "ws" (.settle "ws-1" .completed (some "QX71")),
      Day.ask "again" (.settle "ws-1" .failed none)]
    (sale.run (of Day.opening).store).1 = .ok (.committed ⟨receipt, [line], []⟩ []) ∧
      (of (Day.opening ++ [sale])).store.Tells receipt [line] ∧
      (of (Day.opening ++ [sale] ++ more)).store.Tells
        { receipt with status := .completed, reference := some "QX71" } [line] := by
  intro tenders sale receipt line more
  have done : (sale.run (of Day.opening).store).1 = .ok (.committed ⟨receipt, [line], []⟩ []) := by
    decide +kernel
  obtain ⟨-, -, told, later⟩ := receipts_immutable Day.opening sale _ _ _ rfl done
  have ends : ((of (Day.opening ++ [sale] ++ more)).since (Day.opening ++ [sale]).length).filterMap
      (·.settlement? (some "ws-1")) = [(.completed, some "QX71")] := by
    decide +kernel
  refine ⟨done, told, ?_⟩
  rcases later more with ⟨none, -⟩ | ⟨status, reference, one, -, -, now⟩
  · nomatch ends.symm.trans none
  · cases List.singleton_inj.1 (one.symm.trans ends)
    exact now

end History

end Tillbook
