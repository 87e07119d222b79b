import Tillbook.Proofs.Balances

/-!
# Replays

The account of a customer can be replayed from the store: each stored receipt in its turn
bills its stored tenders on credit, and each repayment takes the balance down to zero at
most.  Later calls change nothing of what a receipt has billed, so the last store is enough
for the whole replay.

## Main definitions

* `Store.share` — what a stored receipt moves on an account.
* `History.movements` — the receipts and repayments of a run, in their order.
* `Store.replay` — a balance after some movements.

## Main statements

* `Effect.share_eq` — the share of a stored receipt never changes.
* `History.balance_replays` — every balance is the replay of its movements.
-/

namespace Tillbook

/-! ## Stored tenders -/

namespace Store

/-- The amount of the stored tenders of a receipt that are on credit. -/
def creditOf (s : Store) (receiptId : String) : Int :=
  Tender.creditSum ((s.tenders.filter (·.receiptId == receiptId)).map (·.toTender))

/-- What the row of a receipt moves on the account of a customer. -/
def shareOf (s : Store) (id : String) (row : ReceiptRow) : Int :=
  if row.customerId = some id then
    if row.isReturn then -s.creditOf row.id else s.creditOf row.id
  else 0

/-- What a stored receipt moves on the account of a customer. -/
def share (s : Store) (id receiptId : String) : Int :=
  ((s.receipts.find? (·.id == receiptId)).map (s.shareOf id)).getD 0

end Store

theorem Tender.creditSum_append (ts rest : List Tender) :
    creditSum (ts ++ rest) = creditSum ts + creditSum rest := by
  simp [creditSum]

/-- The rows of the tenders of a receipt hold these tenders, and none of another. -/
theorem tenders_of_tenderRows (receiptId k : String) (tenderId : Nat → String) (position : Nat)
    (ts : List Tender) :
    ((tenderRows receiptId tenderId position ts).filter (·.receiptId == k)).map (·.toTender) =
      if receiptId = k then ts else [] := by
  induction ts generalizing position with
  | nil => simp [tenderRows]
  | cons t rest ih =>
    have later := ih (position + 1)
    by_cases own : receiptId = k
    · rw [if_pos own] at later ⊢
      rw [tenderRows, List.filter_cons_of_pos (by simpa using own), List.map_cons, later]
    · rw [if_neg own] at later ⊢
      rw [tenderRows, List.filter_cons_of_neg (by simpa using own), later]

namespace Store

/-- New tenders add to their own receipt alone. -/
theorem creditOf_append {s s' : Store} {receiptId : String} {tenderId : Nat → String}
    {position : Nat} {ts : List Tender}
    (h : s'.tenders = s.tenders ++ tenderRows receiptId tenderId position ts) (k : String) :
    s'.creditOf k = s.creditOf k + if receiptId = k then Tender.creditSum ts else 0 := by
  unfold creditOf
  rw [h, List.filter_append, List.map_append, Tender.creditSum_append, tenders_of_tenderRows]
  split <;> rfl

/-- A receipt that is not stored has no tenders. -/
theorem Sound.creditOf_eq_zero {s : Store} (hs : s.Sound) {receiptId : String}
    (new : receiptId ∉ s.receipts.map (·.id)) : s.creditOf receiptId = 0 := by
  have none : s.tenders.filter (·.receiptId == receiptId) = [] := by
    rw [List.filter_eq_nil_iff]
    intro t ht own
    exact new (beq_iff_eq.1 own ▸ hs.tenders t ht)
  rw [creditOf, none]
  rfl

theorem shareOf_settled (s : Store) (id checkoutId : String) (status : PaymentStatus)
    (reference : Option String) (row : ReceiptRow) :
    s.shareOf id (row.settled checkoutId status reference) = s.shareOf id row := by
  obtain ⟨_, _, same⟩ := @ReceiptRow.settled_eq checkoutId status reference row
  rw [same]
  rfl

end Store

/-! ## Movements -/

/-- What moves an account: a receipt by its share, or a repayment. -/
inductive Movement
  | receipt (receiptId : String)
  | repayment (customerId : String) (amount : Money)

namespace Movement

/-- The receipt that a movement is about. -/
def receiptId? : Movement → Option String
  | receipt receiptId => some receiptId
  | repayment .. => none

end Movement

/-- What an entry has moved on some account. -/
def Entry.movement? (e : Entry) : Option Movement :=
  match e.answer with
  | .error _ => none
  | .ok reply =>
    match e.call.operation, reply with
    | .commit _, .committed c _ => some (.receipt c.receipt.id)
    | .repay id amount, _ => some (.repayment id amount)
    | _, _ => none

namespace Entry

theorem movement?_of_isPlain {e : Entry} (h : e.call.operation.isPlain = true) :
    e.movement? = none := by
  unfold movement?
  cases e.answer with
  | error _ => rfl
  | ok reply => cases op : e.call.operation <;> simp_all [Operation.isPlain, Operation.asks]

/-- An entry without a movement moves no account. -/
theorem balance_of_movement? {e : Entry} (h : e.movement? = none) (id : String) (before : Int) :
    e.balance id before = before := by
  unfold balance
  split
  · rfl
  · split
    · simp_all [movement?]
    · simp_all [movement?]
    · rfl

end Entry

/-- The movements of a run, in their order. -/
def History.movements (h : History) : List Movement := h.entries.filterMap (·.movement?)

namespace Store

/-- A balance after a movement, with what is stored now. -/
def after (s : Store) (id : String) (balance : Int) : Movement → Int
  | .receipt receiptId => balance + s.share id receiptId
  | .repayment other amount => if other = id then max 0 (balance - amount.toInt) else balance

/-- A balance after some movements. -/
def replay (s : Store) (id : String) (balance : Int) (ms : List Movement) : Int :=
  ms.foldl (s.after id) balance

theorem replay_append (s : Store) (id : String) (balance : Int) (ms rest : List Movement) :
    s.replay id balance (ms ++ rest) = s.replay id (s.replay id balance ms) rest :=
  List.foldl_append

/-- Two stores with the same shares replay the same. -/
theorem replay_congr {s s' : Store} {id : String} {ms : List Movement}
    (same : ∀ receiptId ∈ ms.filterMap (·.receiptId?), s'.share id receiptId = s.share id receiptId)
    (balance : Int) : s'.replay id balance ms = s.replay id balance ms := by
  induction ms generalizing balance with
  | nil => rfl
  | cons m rest ih =>
    have later := ih fun receiptId h => same receiptId (by
      rw [List.filterMap_cons]
      split
      · exact h
      · exact List.mem_cons_of_mem _ h)
    have first : s'.after id balance m = s.after id balance m := by
      cases m with
      | receipt receiptId => simp [after, same receiptId (by simp [Movement.receiptId?])]
      | repayment other amount => rfl
    exact (congrArg (s'.replay id · rest) first).trans (later _)

end Store

/-! ## Effects on shares -/

/-- A commit stores what its receipt bills, and leaves the share of every other receipt. -/
theorem Commit.Booked.share_eq {station : String} {stamp : Stamp} {request : CommitRequest}
    {s s' : Store} {c : Committed} (h : Booked station stamp request s c s') (hs : s.Sound)
    (id receiptId : String) :
    s'.share id receiptId =
      if receiptId = c.receipt.id then c.receipt.billedTo id else s.share id receiptId := by
  have credit := Store.creditOf_append h.tenders_eq
  have found : s'.receipts.find? (·.id == receiptId) = (s.receipts.find? (·.id == receiptId)).or
      (if c.receipt.id = receiptId then some c.receipt.row else none) := by
    rw [h.receipts_eq]
    exact Table.find?_append_singleton (fun row : ReceiptRow => row.id) ..
  have new := h.fits.id_notMem
  unfold Store.share
  by_cases own : receiptId = c.receipt.id
  · subst own
    have absent : s.receipts.find? (·.id == c.receipt.id) = none :=
      Table.find?_eq_none_iff.2 new
    rw [found, absent, if_pos rfl, if_pos rfl]
    have stored := credit c.receipt.id
    rw [hs.creditOf_eq_zero new, if_pos rfl, Int.zero_add] at stored
    simp only [Option.none_or, Option.map_some, Option.getD_some, Store.shareOf, Receipt.row,
      stored]
    rfl
  · rw [found, if_neg (Ne.symm own), if_neg own, Option.or_none]
    cases hrow : s.receipts.find? (·.id == receiptId) with
    | none => rfl
    | some row =>
      have known : row.id = receiptId := Table.key_of_find? (fun row : ReceiptRow => row.id) hrow
      have kept := credit row.id
      rw [known, if_neg (Ne.symm own), Int.add_zero, ← known] at kept
      simp only [Option.map_some, Option.getD_some, Store.shareOf, kept]

namespace Effect

variable {call : Call} {s s' : Store} {answer : Except LedgerError Reply} {id : String}

/-- The table of the receipts grows by the receipt of the movement, and no row leaves it. -/
theorem ids_of_receipts (h : Effect call s answer s') :
    s'.receipts.map (·.id) = s.receipts.map (·.id) ++
      (Entry.movement? ⟨call, answer⟩).toList.filterMap (·.receiptId?) := by
  cases h with
  | failed | stockLost => simp [Entry.movement?, Catalog.moveStock_eq]
  | @told reply op =>
    have none := Entry.movement?_of_isPlain (e := ⟨call, .ok reply⟩) (Call.isPlain_of_asks op)
    simp [none]
  | @customerAdded c reply op =>
    have none := Entry.movement?_of_isPlain (e := ⟨call, .ok reply⟩) (Call.isPlain_of_customer? op)
    simp [none]
  | committed op booked =>
    obtain ⟨customers, -, rfl⟩ := booked.left
    simp [Entry.movement?, op, Movement.receiptId?, Commit.withSale, Commit.withReceipt,
      Receipt.row]
  | repaid op =>
    simp [Entry.movement?, op, Movement.receiptId?, Accounts.change]
  | settled op ends waiting =>
    simp [Entry.movement?, op, Function.comp_def]
  | numbered op next =>
    rw [Counters.issued_eq]
    simp [Entry.movement?, op]
  | stockMoved op | staffEngaged op | staffSet op | productAdded op | limitSet op | shiftKept op
  | shiftBegun op | shiftEnded op =>
    simp [Entry.movement?, op, Catalog.moveStock_eq, Accounts.change, Shifts.change]

/-- The share of a stored receipt never changes. -/
theorem share_eq (h : Effect call s answer s') (hs : s.Sound) {receiptId : String}
    (stored : receiptId ∈ s.receipts.map (·.id)) (id : String) :
    s'.share id receiptId = s.share id receiptId := by
  cases h with
  | @committed request c _ op booked =>
    rw [booked.share_eq hs, if_neg]
    rintro rfl
    exact booked.fits.id_notMem stored
  | @settled checkoutId status reference r op ends waiting =>
    have kept := Table.find?_map (f := (·.settled checkoutId status reference))
      (fun row : ReceiptRow => row.id) (fun row => row.id_settled) s.receipts receiptId
    unfold Store.share
    rw [kept, Option.map_map]
    congr 2
    funext row
    exact Store.shareOf_settled ..
  | numbered op next =>
    rw [Counters.issued_eq]
    rfl
  | _ => rfl

/-- An entry with a movement has committed a receipt, or taken a repayment of a customer. -/
theorem movement?_cases (h : Effect call s answer s') :
    Entry.movement? ⟨call, answer⟩ = none ∨
      (∃ station request c told, call.operation = .commit request ∧
        answer = .ok (.committed c told) ∧ Commit.Booked station call.stamp request s c s') ∨
      ∃ other amount reply, call.operation = .repay other amount ∧ answer = .ok reply ∧
        (s.customer? other).isSome := by
  cases h with
  | failed | stockLost => exact .inl rfl
  | told op => exact .inl (Entry.movement?_of_isPlain (Call.isPlain_of_asks op))
  | customerAdded op => exact .inl (Entry.movement?_of_isPlain (Call.isPlain_of_customer? op))
  | committed op booked => exact .inr (.inl ⟨_, _, _, _, op, rfl, booked⟩)
  | repaid op positive found => exact .inr (.inr ⟨_, _, _, op, rfl, by rw [found]; rfl⟩)
  | stockMoved op | staffEngaged op | staffSet op | productAdded op | limitSet op | numbered op
  | settled op | shiftKept op | shiftBegun op | shiftEnded op =>
    exact .inl (by simp [Entry.movement?, op])

/-- The movement of an entry, replayed from what is stored, is what the entry has moved. -/
theorem replay_movement (h : Effect call s answer s') (hs : s.Sound) (id : String) (before : Int) :
    s'.replay id before (Entry.movement? ⟨call, answer⟩).toList =
      Entry.balance ⟨call, answer⟩ id before := by
  rcases h.movement?_cases with none | ⟨_, _, c, _, op, rfl, booked⟩ | ⟨_, _, _, op, rfl, -⟩
  · rw [none, Entry.balance_of_movement? none]
    rfl
  · have stored := booked.share_eq hs id c.receipt.id
    simp [Entry.movement?, Entry.balance, op, Store.replay, Store.after, stored]
  · simp [Entry.movement?, Entry.balance, op, Store.replay, Store.after]

/-- No entry moves an account that is not there. -/
theorem balance_of_absent (h : Effect call s answer s') (absent : s.customer? id = none)
    (before : Int) : Entry.balance ⟨call, answer⟩ id before = before := by
  rcases h.movement?_cases with none | ⟨_, _, c, _, op, rfl, booked⟩ | ⟨other, _, _, op, rfl, known⟩
  · exact Entry.balance_of_movement? none id before
  · have other : c.receipt.customerId ≠ some id := by
      intro named
      have known := booked.fits.customer id named
      rw [absent] at known
      nomatch known
    simp [Entry.balance, op, Receipt.billedTo, other]
  · have other : other ≠ id := by
      rintro rfl
      rw [absent] at known
      nomatch known
    simp [Entry.balance, op, other]

/-- A new tender on credit belongs to a receipt that names a customer. -/
theorem keeps_credit_named (h : Effect call s answer s')
    (named : ∀ t ∈ s.tenders, t.method = .credit →
      ∃ r ∈ s.receipts, r.id = t.receiptId ∧ r.customerId.isSome) :
    ∀ t ∈ s'.tenders, t.method = .credit →
      ∃ r ∈ s'.receipts, r.id = t.receiptId ∧ r.customerId.isSome := by
  intro t ht credit
  cases h with
  | @committed request c _ op booked =>
    rw [booked.receipts_eq]
    rw [booked.tenders_eq] at ht
    rcases List.mem_append.1 ht with old | new
    · obtain ⟨r, hr, own, some⟩ := named t old credit
      exact ⟨r, List.mem_append_left _ hr, own, some⟩
    · refine ⟨c.receipt.row, List.mem_append_right _ (List.mem_singleton.2 rfl), ?_, ?_⟩
      · exact (of_mem_tenderRows new).1.symm
      · obtain ⟨n, -, receipt⟩ := booked.number
        have listed := (of_mem_tenderRows new).2
        rw [receipt] at listed ⊢
        have involved : request.payment.involvesCredit = true := by
          rw [Payment.involvesCredit_eq_any _ request.total, List.any_eq_true]
          exact ⟨t.toTender, listed, beq_iff_eq.2 credit⟩
        have named := (Validation.commit_eq_ok_iff.1 booked.form).2.2.2.2.1
        exact Option.isSome_iff_ne_none.2 fun unnamed => named ⟨involved, unnamed⟩
  | @settled checkoutId status reference r op ends waiting =>
    obtain ⟨r, hr, own, some⟩ := named t ht credit
    exact ⟨_, List.mem_map_of_mem hr, by simpa using own, by simpa using some⟩
  | numbered op next =>
    rw [Counters.issued_eq] at ht ⊢
    exact named t ht credit
  | _ => exact named t ht credit

end Effect

/-! ## Accounts over whole runs -/

namespace History

theorem movements_append (h : History) (e : Entry) (s : Store) :
    movements ⟨h.entries ++ [e], s⟩ = h.movements ++ e.movement?.toList :=
  filterMap_append_singleton ..

/-- The receipts of the movements are those in the store. -/
theorem receipts_of_movements (calls : List Call) :
    (of calls).movements.filterMap (·.receiptId?) = (of calls).store.receipts.map (·.id) := by
  apply induction (P := fun h =>
    h.movements.filterMap (·.receiptId?) = h.store.receipts.map (·.id)) rfl
  intro h call answer s' ih effect
  rw [movements_append, List.filterMap_append, ih, effect.ids_of_receipts]

/-- One more call replays as its entry says. -/
theorem replay_add (calls : List Call) (call : Call) (id : String) (start : Int) :
    ((of calls).add call).store.replay id start ((of calls).add call).movements =
      Entry.balance ⟨call, (call.run (of calls).store).1⟩ id
        ((of calls).store.replay id start (of calls).movements) := by
  have effect := call.effect (of calls).store
  rw [add, movements_append, Store.replay_append, effect.replay_movement (sound calls)]
  congr 1
  apply Store.replay_congr
  intro receiptId h
  rw [receipts_of_movements] at h
  exact effect.share_eq (sound calls) h id

/-- Nothing has happened to an account that is not there. -/
theorem replay_of_absent (calls : List Call) {id : String}
    (absent : (of calls).store.customer? id = none) (start : Int) :
    (of calls).store.replay id start (of calls).movements = start := by
  induction calls using List.reverseRecOn with
  | nil => rfl
  | append_singleton calls call ih =>
    have effect := call.effect (of calls).store
    rw [of_append_singleton] at absent ⊢
    have before := effect.customer?_eq_none absent
    rw [replay_add, ih before, effect.balance_of_absent before]

theorem replay_of_customer? {calls : List Call} {id : String} {row : CustomerRow}
    (found : (of calls).store.customer? id = some row) :
    ∃ c ∈ (of calls).customers, c.id = id ∧ row.balance.value =
      (of calls).store.replay id c.balance.toInt (of calls).movements := by
  induction calls using List.reverseRecOn generalizing row with
  | nil => nomatch found
  | append_singleton calls call ih =>
    have effect := call.effect (of calls).store
    rw [of_append_singleton] at found ⊢
    cases before : (of calls).store.customer? id with
    | none =>
      obtain ⟨c, added, own, rfl⟩ := effect.added before found
      refine ⟨c, by simp [customers_add, added], own, ?_⟩
      rw [replay_add, replay_of_absent calls before, effect.balance_of_absent before]
      rfl
    | some old =>
      obtain ⟨c, hc, own, balance⟩ := ih before
      obtain ⟨row', found', moves⟩ := effect.moves (sound calls) before
      obtain rfl : row' = row := Option.some.inj (found'.symm.trans found)
      obtain ⟨w, hw, exact⟩ := moves.balance
      refine ⟨c, by simp [customers_add, hc], own, ?_⟩
      rw [replay_add, hw, Tally.value_exact, exact, balance]

/-- Every stored tender on credit belongs to a receipt that names a customer. -/
theorem credit_named (calls : List Call) : ∀ t ∈ (of calls).store.tenders, t.method = .credit →
    ∃ r ∈ (of calls).store.receipts, r.id = t.receiptId ∧ r.customerId.isSome := by
  apply induction (P := fun h => ∀ t ∈ h.store.tenders, t.method = .credit →
    ∃ r ∈ h.store.receipts, r.id = t.receiptId ∧ r.customerId.isSome)
  · nofun
  · exact fun h call answer s' named effect => effect.keeps_credit_named named

/-- Every balance is what the customer was added with, moved by the stored tenders on
credit of the receipts and by the repayments in their order; and every stored tender on
credit belongs to one receipt, which names one of the customers. -/
theorem balance_replays (calls : List Call) :
    (of calls).movements.filterMap (·.receiptId?) = (of calls).store.receipts.map (·.id) ∧
    (∀ row ∈ (of calls).store.customers,
      ∃ c w, (of calls).customers.filter (·.id == row.id) = [c] ∧ row.balance = .exact w ∧
        w.toInt = (of calls).store.replay row.id c.balance.toInt (of calls).movements) ∧
    ∀ t ∈ (of calls).store.tenders, t.method = .credit →
      ∃ r id, (of calls).store.receipts.filter (·.id == t.receiptId) = [r] ∧
        r.customerId = some id ∧ id ∈ (of calls).customers.map (·.id) := by
  have sound := sound calls
  refine ⟨receipts_of_movements calls, fun row hrow => ?_, fun t ht credit => ?_⟩
  · have found : (of calls).store.customer? row.id = some row :=
      Table.find?_of_mem (fun row : CustomerRow => row.id) sound.customers hrow
    obtain ⟨c, hc, own, balance⟩ := replay_of_customer? found
    obtain ⟨w, hw⟩ := (sound.accounts row hrow).balance
    have unique : ((of calls).customers.map (·.id)).Nodup :=
      ids_of_customers calls ▸ sound.customers
    refine ⟨c, w, own ▸ Table.filter_of_mem (fun c : Customer => c.id) unique hc, hw, ?_⟩
    rw [← balance, hw, Tally.value_exact]
  · obtain ⟨r, hr, own, named⟩ := credit_named calls t ht credit
    obtain ⟨id, hid⟩ := Option.isSome_iff_exists.1 named
    refine ⟨r, id, ?_, hid, ids_of_customers calls ▸ sound.named r hr id hid⟩
    exact own ▸ Table.filter_of_mem (fun r : ReceiptRow => r.id) sound.receipts hr

/-- A customer buys partly on credit, pays back too little, brings half of it back and buys
again. -/
def tab : List Call :=
  Day.opening ++
    [Day.ask "r1" (.commit (Day.purchase (.split [.plain .cash 100, .plain .credit 500]) 3 600)),
      Day.ask "p1" (.repay "otieno" 450),
      Day.ask "r2" (.commit { Day.purchase .credit 1 200 with isReturn := true }),
      Day.ask "p2" (.repay "otieno" 30),
      Day.ask "r3" (.commit (Day.purchase .credit 1 200))]

theorem balance_replays_of_tab :
    let row := Day.otieno 1000 200
    let tender : TenderRow := ⟨.plain .credit 500, "r1#", "r1", 1⟩
    (∃ c w, (of tab).customers.filter (·.id == row.id) = [c] ∧ row.balance = .exact w ∧
      w.toInt = (of tab).store.replay row.id c.balance.toInt (of tab).movements) ∧
    (of tab).store.replay row.id 0 (of tab).movements = 200 ∧
    ∃ r id, (of tab).store.receipts.filter (·.id == tender.receiptId) = [r] ∧
      r.customerId = some id ∧ id ∈ (of tab).customers.map (·.id) := by
  intro row tender
  have there : row ∈ (of tab).store.customers := by decide +kernel
  have stored : tender ∈ (of tab).store.tenders := by decide +kernel
  have replays := balance_replays tab
  exact ⟨replays.2.1 row there, by decide +kernel, replays.2.2 tender stored rfl⟩

end History

end Tillbook
